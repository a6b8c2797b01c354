import XsdRecords.Proofs.Compilation.Visited
import XsdRecords.Proofs.Generation.Occurrences
import XsdRecords.Proofs.Session.DefaultValues

/-! # Fields with default values in the records that a compile delivers

A field whose tag gives a default or fixed value need not occur, and the value is what keeps it from
being null.  A value that is not attached does not: an empty text is taken for none, and no value is
attached to records. -/

namespace XsdRecords.Compilation

open XsdRecords.Declaration (ElementId TypeId)
open XsdRecords.Layout (Field)
open XsdRecords.Markup (Source)
open XsdRecords.Session (Guarded HasValues Visit declaring?)

/-! ## The values that a compile has read -/

/-- A compilation whose elements have the values that the nodes read so far gave them, unless it has
failed. -/
structure Assigned (visits : List Visit) (c : Compilation) : Prop where
  guarded : Guarded c.session
  hasValues : c.session.hasFailed = false → HasValues c.session visits

theorem Assigned.run {visits : List Visit} {c : Compilation} (assigned : Assigned visits c)
    (resolve : Resolver) (limit : Nat) :
    Assigned (visits ++ visited resolve limit c) (c.run resolve limit) :=
  ⟨guarded_run resolve limit assigned.guarded,
    Session.carried_hasValues.run assigned.guarded assigned.hasValues resolve limit⟩

theorem assigned_start (allowUnsupported : Bool) (source : Source) (location : String) :
    Assigned ((Session.start location allowUnsupported).visits source)
      (start allowUnsupported source location) := by
  have none : (Session.start location allowUnsupported).HasValues [] :=
    fun _ _ declared => by cases declared
  exact ⟨guarded_start allowUnsupported source location,
    Session.carried_hasValues.readDocument (Session.grounded_start location allowUnsupported) none⟩

/-! ## The fields of a compile -/

/-- What becomes of a field of `owner` whose tag gives a value: it need not occur, and may be null
only if it is not repeated and the value is not attached. -/
structure Defaulted (g : Generation) (owner : TypeId) (id : ElementId) (field : Field)
    (value : String) : Prop where
  defaultValue : (g.declarations.element id).defaultValue = value
  minOccurs : (g.declarations.element id).minOccurs ≤ 0
  /-- The occurrences of a field of the type that it is in are not checked. -/
  optional : g.declarations.elementType id ≠ some owner → (g.declarations.element id).minOccurs = 0
  nullable_iff : field.nullable = true ↔ (g.declarations.element id).minOccurs = 0 ∧
    (g.declarations.element id).maxOccurs ≤ 1 ∧ (value = "" ∨ field.elemType.isAggregate = true)

/-- A field whose tag gives a default or fixed value may be null only if that is the empty text or the
field is one of records. -/
theorem defaulted_delivered (resolve : Resolver) (limit : Nat) (allowUnsupported : Bool)
    (source : Source) (location : String) (compiled : Compiled)
    (h : (run resolve limit (start allowUnsupported source location)).finish.result =
      .ok compiled) :
    let generated := Generation.run
      (run resolve limit (start allowUnsupported source location)).session.generation
    let visits := (Session.start location allowUnsupported).visits source ++
      visited resolve limit (start allowUnsupported source location)
    ∀ type record, (generated.declarations.type type).record = some record →
      List.Forall₂
        (fun entry field => ∀ v value, declaring? visits entry.2 = some v → v.value? = some value →
          Defaulted generated type entry.2 field value)
        (generated.declarations.attributesFirst (generated.declarations.type type).fields)
        (compiled.schema.record record).fields := by
  intro generated visits type record marked
  obtain ⟨ok, schema⟩ := finish_eq_ok h
  have read := asRead_run resolve limit allowUnsupported source location
  have values := ((assigned_start allowUnsupported source location).run resolve limit).hasValues
    (hasFailed_of_finish_eq_ok h)
  obtain ⟨-, fields⟩ :=
    Generation.run_vettedFields read.pristine read.inRange read.rooted ok marked
  rw [schema]
  refine fields.imp ?_
  rintro entry field ⟨vetted, own⟩ v value declared given
  obtain ⟨directType, same⟩ :=
    Generation.element_run read.pristine read.inRange read.rooted ok entry.2
  obtain ⟨defaultValue, minOccurs⟩ := values entry.2 v declared value given
  have attached : (generated.declarations.element entry.2).defaultValue = value := by
    rw [same]
    exact defaultValue
  have absent : (generated.declarations.element entry.2).minOccurs ≤ 0 := by
    rw [same]
    exact minOccurs
  refine ⟨attached, absent, fun other => ?_, ?_⟩
  · obtain ⟨_, _, occurs⟩ := (vetted.checked.resolve_left other).wellOccurring
    exact Int.le_antisymm absent occurs.nonneg
  · rw [own.nullable_iff vetted.readsDefault, attached]

/-- A field whose default value is the empty text. -/
def emptyDefault : Source :=
  .bytes (["<x:schema xmlns:x='http://www.w3.org/2001/XMLSchema'>",
    "<x:element name='R'>", "<x:complexType>", "<x:sequence>",
    "<x:element name='f' type='x:string' default=''/>",
    "</x:sequence>", "</x:complexType>", "</x:element>",
    "</x:schema>"].flatMap Text.Utf8.encodeText)

set_option maxRecDepth 100000 in
/-- The field may be null. -/
theorem defaulted_delivered_emptyDefault : ∃ compiled,
    (run (Library.resolver []) 1 (start false emptyDefault "")).finish.result = .ok compiled ∧
      let generated := Generation.run
        (run (Library.resolver []) 1 (start false emptyDefault "")).session.generation
      let visits := (Session.start "" false).visits emptyDefault ++
        visited (Library.resolver []) 1 (start false emptyDefault "")
      ∃ type field v, (generated.declarations.type type).record = some ⟨0⟩ ∧
        (compiled.schema.record ⟨0⟩).fields = [field] ∧
        declaring? visits ⟨1⟩ = some v ∧ v.value? = some "" ∧
        Defaulted generated type ⟨1⟩ field "" ∧ field.nullable = true := by
  obtain ⟨compiled, delivers⟩ := exists_eq_ok_of_isOk
    (c := run (Library.resolver []) 1 (start false emptyDefault "")) (by decide +kernel)
  refine ⟨compiled, delivers, ?_⟩
  intro generated visits
  obtain ⟨marked, entries, absent, single, declared⟩ :
      (generated.declarations.type ⟨46⟩).record = some ⟨0⟩ ∧
        generated.declarations.attributesFirst (generated.declarations.type ⟨46⟩).fields =
          [("f", ⟨1⟩)] ∧
        (generated.declarations.element ⟨1⟩).minOccurs = 0 ∧
        (generated.declarations.element ⟨1⟩).maxOccurs ≤ 1 ∧
        (declaring? visits ⟨1⟩).any (·.value? = some "") = true := by
    decide +kernel
  obtain ⟨v, declared, given⟩ := (Option.any_eq_true _ _).1 declared
  have fields := defaulted_delivered _ _ _ _ _ compiled delivers ⟨46⟩ ⟨0⟩ marked
  change List.Forall₂ _ (generated.declarations.attributesFirst
    (generated.declarations.type ⟨46⟩).fields) _ at fields
  rw [entries] at fields
  cases delivered : (compiled.schema.record ⟨0⟩).fields with
  | nil =>
    rw [delivered] at fields
    cases fields
  | cons field rest =>
    rw [delivered] at fields
    obtain ⟨defaulted, none⟩ := List.forall₂_cons.1 fields
    obtain rfl := List.forall₂_nil_left_iff.1 none
    have here := defaulted v "" declared (of_decide_eq_true given)
    exact ⟨⟨46⟩, field, v, marked, rfl, declared, of_decide_eq_true given, here,
      here.nullable_iff.2 ⟨absent, single, .inl rfl⟩⟩

end XsdRecords.Compilation
