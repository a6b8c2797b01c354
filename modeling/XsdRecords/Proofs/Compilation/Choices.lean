import XsdRecords.Proofs.Compilation.Records
import XsdRecords.Proofs.Compilation.Enumerations
import XsdRecords.Proofs.Session.Choices

/-! # The kinds of the records that a compile delivers

A record is a choice if its type, or a type that this derives from, was last laid out by a choice.
A complex type that holds a choice and then a sequence, both laying out the type itself, becomes a
sequence, fields of the choice and all. -/

namespace XsdRecords.Compilation

open XsdRecords.Generation (DeclaredBy)
open XsdRecords.Markup (Source)
open XsdRecords.Session (isChoiceBy)

/-- A record of a type is a choice exactly if among the type that it is declared by and the bases of
this there is one of which the last group that laid it out was a choice.  A group lays out the complex
type that it stands in, or is a field of its own. -/
theorem kind_delivered (resolve : Resolver) (limit : Nat) (allowUnsupported : Bool)
    (source : Source) (location : String) (compiled : Compiled)
    (h : (run resolve limit (start allowUnsupported source location)).finish.result =
      .ok compiled) :
    let read := (run resolve limit (start allowUnsupported source location)).session
    let generated := Generation.run read.generation
    let visits := (Session.start location allowUnsupported).visits source ++
      visited resolve limit (start allowUnsupported source location)
    (∀ type record, (generated.declarations.type type).record = some record →
      ∃ original, DeclaredBy read.declarations generated.declarations type original ∧
        ((compiled.schema.record record).kind = .choice ↔
          ∃ base ∈ read.declarations.baseChain original, isChoiceBy visits base = true)) ∧
      ∀ v ∈ visits, ∀ type, v.laysOut type = true → v.StandsIn type := by
  intro read generated visits
  obtain ⟨ok, schema⟩ := finish_eq_ok h
  have asRead := asRead_run resolve limit allowUnsupported source location
  have has := Session.carried_hasChoices.compile
    (Session.hasChoices_start location allowUnsupported) resolve limit source
    (hasFailed_of_finish_eq_ok h)
  refine ⟨fun type record marked => ?_, fun v member type lays => has.stands member lays⟩
  obtain ⟨original, declared, kind⟩ :=
    Generation.run_kind asRead.pristine asRead.inRange asRead.rooted ok marked
  refine ⟨original, declared, ?_⟩
  have byNodes : read.declarations.isChoice original =
      (read.declarations.baseChain original).any (isChoiceBy visits) :=
    congrArg (read.declarations.baseChain original).any (funext has.isChoice)
  rw [schema, kind, Generation.recordKind, ← List.any_eq_true, ← byNodes]
  change (if read.declarations.isChoice original = true then _ else _) = _ ↔ _
  split <;> simp_all

/-- A complex type that is laid out by a choice, and by a sequence after it. -/
def choiceThenSequence : Source :=
  .bytes (["<x:schema xmlns:x='http://www.w3.org/2001/XMLSchema'>", "<x:complexType name='T'>",
    "<x:choice>", "<x:element name='a' type='x:int'/>", "</x:choice>", "<x:sequence>",
    "<x:element name='b' type='x:int'/>", "</x:sequence>", "</x:complexType>",
    "<x:element name='R' type='T'/>", "</x:schema>"].flatMap Text.Utf8.encodeText)

set_option maxRecDepth 100000 in
/-- The sequence comes last, so that the record is no choice. -/
theorem kind_delivered_choiceThenSequence : ∃ compiled,
    (runAlone choiceThenSequence).finish.result = .ok compiled ∧
      ((Generation.run (runAlone choiceThenSequence).session.generation).declarations.type
        ⟨46⟩).record = some ⟨0⟩ ∧
      (∃ v ∈ visitsAlone choiceThenSequence, v.laysOut ⟨46⟩ = true ∧ v.isChoice = true ∧
        v.StandsIn ⟨46⟩) ∧
      (compiled.schema.record ⟨0⟩).kind ≠ .choice := by
  have shape : (runAlone choiceThenSequence).finish.result.isOk = true ∧
      ((Generation.run (runAlone choiceThenSequence).session.generation).declarations.type
        ⟨46⟩).record = some ⟨0⟩ ∧
      46 < (runAlone choiceThenSequence).session.declarations.types.size ∧
      (visitsAlone choiceThenSequence).any (fun v => v.laysOut ⟨46⟩ && v.isChoice) = true ∧
      ((runAlone choiceThenSequence).session.declarations.baseChain ⟨46⟩).any
        (isChoiceBy (visitsAlone choiceThenSequence)) = false := by decide +kernel
  obtain ⟨isOk, marked, bound, laid, last⟩ := shape
  obtain ⟨compiled, delivers⟩ := exists_eq_ok_of_isOk isOk
  obtain ⟨kinds, stands⟩ := kind_delivered _ _ _ _ _ compiled delivers
  obtain ⟨v, member, lays⟩ := List.any_eq_true.1 laid
  rw [Bool.and_eq_true] at lays
  refine ⟨compiled, delivers, marked, ⟨v, member, lays.1, lays.2, stands v member _ lays.1⟩,
    fun isChoice => ?_⟩
  obtain ⟨original, declared, kind⟩ := kinds ⟨46⟩ ⟨0⟩ marked
  cases declared with
  | itself =>
    rw [← Bool.not_eq_true, List.any_eq_true] at last
    exact last (kind.1 isChoice)
  | original new => exact absurd bound (Nat.not_lt.2 new)

end XsdRecords.Compilation
