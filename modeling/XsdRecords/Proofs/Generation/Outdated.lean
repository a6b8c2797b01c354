import XsdRecords.Proofs.Generation.Again
import XsdRecords.Proofs.Generation.Reach

/-! # Outdated handles

A second generation starts from declarations in which every type that the first one emitted keeps its
record or enumeration.  What it reaches corresponds to what the first one has reached, so that it emits
no such type again: only the copies that it makes for top-level elements become records. -/

namespace XsdRecords.Generation

open XsdRecords.Declaration (Declarations ElementId TypeId Symbol SymbolTable)
open XsdRecords.Declaration.Declarations
open XsdRecords.Layout

/-- What a generation `h` makes of declarations that an earlier one has left. -/
structure EmitsCopiesOnly (d : Declarations) (h : Generation) : Prop where
  kept {type : TypeId} : type.index < d.types.size →
    (h.declarations.type type).record = (d.type type).record
  keptEnumeration (type : TypeId) :
    (h.declarations.type type).enumeration = (d.type type).enumeration
  /-- A record is that of a new type that a top-level element has got, or wraps an item. -/
  record {record : RecordId} : record.index < h.schema.records.size →
    (∃ copy symbol id, d.types.size ≤ copy.index ∧ d.roots.find? symbol = some id ∧
        h.declarations.elementType id = some copy ∧
          (h.declarations.type copy).record = some record) ∨
      IsItemRecord (h.schema.record record)
  enumerations : h.schema.enumerations.size = 0

/-! ## What a second generation reaches -/

/-- A type that the first generation has reached, or the copy that took the place of one. -/
def ReachedAgain (d again : Declarations) (type : TypeId) : Prop :=
  ∃ original, Reached d original ∧ Corresponds d again original type

section Reach

variable {d again : Declarations} {done : List (Symbol × ElementId)}
  (renewed : Renewed d done again) (placed : d.Placed)

include renewed placed

theorem Renewed.exists_elementType {id : ElementId} {type : TypeId}
    (typed : again.elementType id = some type) :
    ∃ original, d.elementType id = some original ∧ Corresponds d again original type := by
  have types := renewed.elementType placed id
  rw [typed] at types
  generalize d.elementType id = before at types
  cases types with
  | some corresponds => exact ⟨_, rfl, corresponds⟩

theorem Renewed.reachedAgain_root {symbol : Symbol} {id : ElementId} {type : TypeId}
    (found : d.roots.find? symbol = some id) (typed : again.elementType id = some type)
    (complex : again.isComplex type = true) : ReachedAgain d again type := by
  obtain ⟨original, typed', corresponds⟩ := renewed.exists_elementType placed typed
  rw [corresponds.isComplex renewed placed] at complex
  exact ⟨original, .root found typed' complex, corresponds⟩

theorem Renewed.reachedAgain_field {owner type : TypeId} {entry : String × ElementId}
    (reached : ReachedAgain d again owner) (member : entry ∈ (again.type owner).fields)
    (typed : again.elementType entry.2 = some type) : ReachedAgain d again type := by
  obtain ⟨original, before, corresponds⟩ := reached
  have fields : (again.type owner).fields = (d.type original).fields := by
    cases corresponds with
    | same bound => rw [renewed.old bound]
    | copy isCopy =>
      obtain ⟨minted, copied⟩ := isCopy.copied
      rw [copied]
  obtain ⟨field, typed', same⟩ := renewed.exists_elementType placed typed
  rw [fields] at member
  exact ⟨field, .field before member typed', same⟩

end Reach

theorem Steps.marksReached {start : Declarations} {reach : TypeId → Prop} {g g' : Generation}
    (steps : Steps start reach g g') (marked : MarksReached reach g) : MarksReached reach g' := by
  induction steps with
  | refl => exact marked
  | tail _ step ih => exact step.marksReached ih

/-! ## What is emitted already -/

section Emitted

variable {done : Generation} (emits : EmitsReached done) {again : Declarations} {type : TypeId}

include emits

/-- What the first generation has emitted is reached again in its place. -/
theorem EmitsReached.reachedAgain (marked : (done.declarations.type type).record.isSome = true ∨
    (done.declarations.type type).enumeration.isSome = true) :
    ReachedAgain done.declarations again type := by
  have bound : type.index < done.declarations.types.size :=
    lt_size_of_ne_blank fun blank => by simp [blank] at marked
  refine ⟨type, ?_, .same bound⟩
  rcases marked with record | enumeration
  · exact ((emits.record type).1 record).2
  · obtain ⟨-, -, owner, entry, reached, -, member, typed⟩ := (emits.enumeration type).1 enumeration
    exact .field reached member typed

/-- A complex type that is reached again and has no record yet is a copy. -/
theorem EmitsReached.isCopy_of_complex (reached : ReachedAgain done.declarations again type)
    (complex : ∀ original, Corresponds done.declarations again original type →
      done.declarations.isComplex original = true)
    (unmarked : (done.declarations.type type).record = none) :
    ∃ original symbol id, IsCopy done.declarations again original type symbol id := by
  obtain ⟨original, before, corresponds⟩ := reached
  have own := complex original corresponds
  cases corresponds with
  | copy isCopy => exact ⟨_, _, _, isCopy⟩
  | same bound =>
    have marked := (emits.record type).2 ⟨own, before⟩
    rw [unmarked] at marked
    cases marked

/-- A simple type with enumerators that is reached again has become an enumeration. -/
theorem EmitsReached.enumerated (fields : done.declarations.HasComplexFields)
    (reached : ReachedAgain done.declarations again type)
    (simple : ∀ original, Corresponds done.declarations again original type →
      done.declarations.isComplex original = false)
    (enumerators : type.index < done.declarations.types.size →
      (done.declarations.type type).enumerators ≠ []) :
    (done.declarations.type type).enumeration.isSome = true := by
  obtain ⟨original, before, corresponds⟩ := reached
  have own := simple original corresponds
  cases corresponds with
  | copy isCopy =>
    rw [isCopy.complex] at own
    cases own
  | same bound =>
    cases before with
    | root _ _ complex =>
      rw [own] at complex
      cases complex
    | field owner member typed =>
      exact (emits.enumeration type).2
        ⟨own, enumerators bound, _, _, owner, fields.isComplex member, member, typed⟩

end Emitted

/-! ## Runs -/

/-- A second generation when everything is named, and at its end. -/
structure Resumes (done left last : Generation) : Prop where
  placed : done.declarations.Placed
  renewed : Renewed done.declarations done.declarations.roots.toSorted left.declarations
  record (type : TypeId) :
    (left.declarations.type type).record = (done.declarations.type type).record
  enumeration (type : TypeId) :
    (left.declarations.type type).enumeration = (done.declarations.type type).enumeration
  steps : Steps left.declarations (ReachedAgain done.declarations left.declarations) left last

theorem NamedTwice.resumes {g h start : Generation} (both : NamedTwice g h start)
    (declarations : h.declarations = (run g).declarations) :
    ∃ left, Resumes (run g) left (run h) := by
  have finished := both.finished
  have renewed := both.renewed
  have marks := nameRoots_marks h.declarations.roots.toSorted { h with schema := {} }
  rw [run.eq_def h]
  generalize nameRoots { h with schema := {} } h.declarations.roots.toSorted = again
    at finished renewed marks ⊢
  obtain ⟨left, going⟩ := again
  obtain rfl : going = true := finished
  obtain ⟨kept, -, -⟩ := noteTypes_keeps left
  dsimp only at marks renewed ⊢
  rw [declarations] at marks
  rw [← kept] at renewed marks
  refine ⟨left.noteTypes, both.placed, renewed, fun type => (marks type).1,
    fun type => (marks type).2.1, ?_⟩
  -- Each step is for a type that a top-level element reaches through fields.
  refine foldl_emitRoot_steps _ ⟨renewed.reachedAgain_field both.placed, fun unmarked => unmarked⟩ ?_
  intro id member type typed complex
  obtain ⟨⟨symbol, _⟩, listed, rfl⟩ := List.mem_map.1 member
  rw [renewed.roots] at listed
  exact renewed.reachedAgain_root both.placed (SymbolTable.mem_toSorted.1 listed) typed complex

section Resumed

variable {done left last : Generation} (resumes : Resumes done left last)
  (emits : EmitsReached done)

include resumes emits

/-- All types with an output are reached again, those of the first generation included. -/
theorem Resumes.marksReached :
    MarksReached (ReachedAgain done.declarations left.declarations) last := by
  apply resumes.steps.marksReached
  constructor
  · intro type record marked
    rw [resumes.record] at marked
    exact emits.reachedAgain (.inl (by rw [marked]; rfl))
  · intro type enumeration marked
    rw [resumes.enumeration] at marked
    exact emits.reachedAgain (.inr (by rw [marked]; rfl))

/-- A type that gets a record is the copy that a top-level element has got. -/
theorem Resumes.isCopy_of_gets {type : TypeId} {record : RecordId}
    (gets : Gets done.declarations last type record) :
    ∃ original symbol id,
      IsCopy done.declarations left.declarations original type symbol id := by
  have reached := (resumes.marksReached emits).record gets.marked
  refine emits.isCopy_of_complex reached (fun original corresponds => ?_) gets.fresh
  rw [← corresponds.isComplex resumes.renewed resumes.placed]
  rcases resumes.steps.grows.newRecord gets.marked with old | ⟨complex, -⟩
  · rw [resumes.record, gets.fresh] at old
    cases old
  · exact complex

theorem Resumes.not_getsEnumeration (fields : done.declarations.HasComplexFields) {type : TypeId}
    {enumeration : EnumerationId} : ¬GetsEnumeration done.declarations last type enumeration := by
  intro gets
  have reached := (resumes.marksReached emits).enumeration gets.marked
  rcases resumes.steps.grows.newEnumeration gets.marked with old | ⟨simple, enumerators⟩
  · rw [resumes.enumeration, gets.fresh] at old
    cases old
  · have marked := emits.enumerated fields reached
      (fun original corresponds => by
        rw [← corresponds.isComplex resumes.renewed resumes.placed, simple])
      fun bound => by rwa [← resumes.renewed.old bound]
    rw [gets.fresh] at marked
    cases marked

end Resumed

/-- A second generation that starts from the declarations of one that has not failed emits copies
only. -/
theorem run_emitsCopiesOnly {g h : Generation} (pristine : g.declarations.Pristine)
    (inRange : g.declarations.InRange) (rooted : g.declarations.Rooted)
    (complexFields : g.declarations.HasComplexFields) (ok : (run g).hasFailed = false)
    (declarations : h.declarations = (run g).declarations) :
    EmitsCopiesOnly (run g).declarations (run h) := by
  obtain ⟨start, both⟩ :=
    namedTwice pristine inRange rooted declarations (nameRoots_finished_of_run ok)
  obtain ⟨left, resumes⟩ := both.resumes declarations
  have emits := run_emitsReached pristine inRange rooted complexFields ok
  have fields : (run g).declarations.HasComplexFields :=
    both.grows.hasComplexFields (both.named.renamed.hasComplexFields complexFields)
  have once : GivesOnce (run g).declarations (run h) := declarations ▸ run_givesOnce h
  constructor
  · intro type bound
    cases found : ((run g).declarations.type type).record with
    | some record => exact once.kept found
    | none =>
      rw [Option.eq_none_iff_forall_not_mem]
      intro record marked
      obtain ⟨original, symbol, id, isCopy⟩ := resumes.isCopy_of_gets emits ⟨found, marked⟩
      exact Nat.not_lt.2 isCopy.new bound
  · intro type
    cases found : ((run g).declarations.type type).enumeration with
    | some enumeration => exact once.keptEnumeration found
    | none =>
      rw [Option.eq_none_iff_forall_not_mem]
      intro enumeration marked
      exact resumes.not_getsEnumeration emits fields ⟨found, marked⟩
  · intro record inside
    rcases once.record inside with ⟨copy, gets⟩ | item
    · obtain ⟨original, symbol, id, isCopy⟩ := resumes.isCopy_of_gets emits gets
      have typed := isCopy.elementType resumes.renewed resumes.placed
      rw [← resumes.steps.grows.shape.elementType] at typed
      exact .inl ⟨copy, symbol, id, isCopy.new, isCopy.root, typed, gets.marked⟩
    · exact .inr item
  · apply Nat.eq_zero_of_not_pos
    intro inside
    have made : ∃ type, GetsEnumeration (run g).declarations (run h) type ⟨0⟩ :=
      once.enumeration inside
    obtain ⟨type, gets⟩ := made
    exact resumes.not_getsEnumeration emits fields gets

end XsdRecords.Generation
