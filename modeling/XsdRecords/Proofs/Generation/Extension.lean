import Mathlib.Data.List.Forall2
import XsdRecords.Generation.Emission
import XsdRecords.Proofs.Declaration.Shape
import XsdRecords.Proofs.Layout.Store

/-! # How a generation grows

Emission only ever adds: marks stay, records keep their place, name and kind, and the record of no
type, a wrapper, never changes again.  `Extends` says so for two states of a generation.  `FieldOf`
relates an entry of a type to the field that it becomes; it persists as the generation grows. -/

namespace XsdRecords.Generation

open XsdRecords.Declaration (Declarations ElementId TypeId TypeDef)
open XsdRecords.Layout
open XsdRecords.Vocabulary (Builtin)

/-! ## Failure -/

/-- Whether a generation has failed. -/
def hasFailed (g : Generation) : Bool :=
  g.journal.hasFailed

@[simp] theorem hasFailed_note (g : Generation) (e : Event) : (g.note e).hasFailed = g.hasFailed :=
  rfl

@[simp] theorem hasFailed_modifyType (g : Generation) (id : TypeId) (f : TypeDef → TypeDef) :
    (g.modifyType id f).hasFailed = g.hasFailed := rfl

@[simp] theorem hasFailed_withSchema (g : Generation) (schema : RecordSchema) :
    hasFailed { g with schema } = g.hasFailed := rfl

@[simp] theorem hasFailed_withDeclarations (g : Generation) (declarations : Declarations) :
    hasFailed { g with declarations } = g.hasFailed := rfl

/-- A generation that has failed stays so. -/
theorem hasFailed_report {g : Generation} (h : g.hasFailed = true) (p : Problem) :
    (g.report p).hasFailed = true :=
  Journal.hasFailed_report h _

/-- A problem that is no warning fails the generation. -/
theorem hasFailed_report_of_isFailure (g : Generation) {p : Problem}
    (h : p.severity.isFailure = true) : (g.report p).hasFailed = true :=
  Journal.hasFailed_report_of_isFailure _ h

/-- What has not failed had not failed before. -/
theorem unfailed_before {g g' : Generation} (keeps : g.hasFailed = true → g'.hasFailed = true)
    (ok : g'.hasFailed = false) : g.hasFailed = false :=
  Bool.eq_false_iff.2 fun failed => Bool.eq_false_iff.1 ok (keeps failed)

/-! ## Entries and their fields -/

/-- The kind of the record of a type. -/
def recordKind (d : Declarations) (type : TypeId) : RecordKind :=
  if d.isChoice type then .choice else .sequence

/-- A type that needs no further emission. -/
structure Emitted (g : Generation) (type : TypeId) : Prop where
  complex : g.declarations.isComplex type = true →
    ∃ record, (g.declarations.type type).record = some record ∧
      record.index < g.schema.records.size ∧
      (g.schema.record record).kind = recordKind g.declarations type
  scalar : g.declarations.isComplex type = false → (g.declarations.type type).record = none
  enumerated : g.declarations.isComplex type = false →
    (g.declarations.type type).enumerators ≠ [] →
      ∃ enumeration, (g.declarations.type type).enumeration = some enumeration ∧
        enumeration.index < g.schema.enumerations.size

/-- The default value of a field, if its element has a text that can be read. -/
def defaultOf (g : Generation) (id : ElementId) (type : TypeId) : Option DefaultValue :=
  let text := (g.declarations.element id).defaultValue
  let elemType := (g.fieldShape id type).1
  if text = "" || elemType.isAggregate then none else DefaultValue.read? elemType text

/-- A record that no type has and that holds one field. -/
structure IsWrapper (g : Generation) (wrapper : RecordId) (item : Field) : Prop where
  inRange : wrapper.index < g.schema.records.size
  unmarked (type : TypeId) : (g.declarations.type type).record ≠ some wrapper
  eq : g.schema.record wrapper = { fields := [item] }

/-- The field of an entry before its items are wrapped. -/
def plainField (g : Generation) (entry : String × ElementId) (type : TypeId) (builtin : Builtin) :
    Field :=
  g.typedField entry.1 entry.2 type (g.fieldMode entry.2 type builtin) (g.defaultOf entry.2 type)

/-- A field is that of an entry of a type. -/
def FieldOf (g : Generation) (entry : String × ElementId) (field : Field) : Prop :=
  ∃ type builtin,
    g.declarations.elementType entry.2 = some type ∧
    g.declarations.builtin type = some builtin ∧
    g.declarations.elementElemType entry.2 ≠ .void ∧
    Emitted g type ∧
    let plain := g.plainField entry type builtin
    if wrapsItems plain (g.declarations.element entry.2).defaultValue then
      ∃ wrapper, field = wrappedField plain wrapper ∧
        IsWrapper g wrapper
          (itemField plain.elemType (g.declarations.type type).enumeration)
    else field = plain

/-- The record of a type, if it has one, holds the fields of its entries, attributes first. -/
def Filled (g : Generation) (type : TypeId) : Prop :=
  ∀ record, (g.declarations.type type).record = some record →
    List.Forall₂ (FieldOf g)
      (g.declarations.attributesFirst (g.declarations.type type).fields)
      (g.schema.record record).fields

/-! ## Extension -/

/-- A later state of a generation against an earlier one. -/
structure Extends (g g' : Generation) : Prop where
  shape : g.declarations.SameShape g'.declarations
  fields (type : TypeId) :
    g.declarations.attributesFirst (g'.declarations.type type).fields =
      g.declarations.attributesFirst (g.declarations.type type).fields
  record {type : TypeId} {record : RecordId} :
    (g.declarations.type type).record = some record →
      (g'.declarations.type type).record = some record
  newRecord {type : TypeId} {record : RecordId} :
    (g'.declarations.type type).record = some record →
      (g.declarations.type type).record = some record ∨
        g.declarations.isComplex type = true ∧ g.schema.records.size ≤ record.index
  enumeration {type : TypeId} {enumeration : EnumerationId} :
    (g.declarations.type type).enumeration = some enumeration →
      (g'.declarations.type type).enumeration = some enumeration
  newEnumeration {type : TypeId} {enumeration : EnumerationId} :
    (g'.declarations.type type).enumeration = some enumeration →
      (g.declarations.type type).enumeration = some enumeration ∨
        g.declarations.isComplex type = false ∧ (g.declarations.type type).enumerators ≠ []
  records : g.schema.records.size ≤ g'.schema.records.size
  enumerations : g.schema.enumerations.size ≤ g'.schema.enumerations.size
  name {record : RecordId} : record.index < g.schema.records.size →
    (g'.schema.record record).name = (g.schema.record record).name
  kind {record : RecordId} : record.index < g.schema.records.size →
    (g'.schema.record record).kind = (g.schema.record record).kind
  unmarked {record : RecordId} : record.index < g.schema.records.size →
    (∀ type, (g.declarations.type type).record ≠ some record) →
      g'.schema.record record = g.schema.record record

namespace Extends

theorem refl (g : Generation) : Extends g g where
  shape := .refl _
  fields _ := rfl
  record h := h
  newRecord h := .inl h
  enumeration h := h
  newEnumeration h := .inl h
  records := Nat.le_refl _
  enumerations := Nat.le_refl _
  name _ := rfl
  kind _ := rfl
  unmarked _ _ := rfl

/-- A record in range that no type has is not taken by a type later. -/
theorem notMarked {g g' : Generation} (grows : Extends g g') {record : RecordId}
    (inRange : record.index < g.schema.records.size)
    (unmarked : ∀ type, (g.declarations.type type).record ≠ some record) (type : TypeId) :
    (g'.declarations.type type).record ≠ some record := by
  intro marked
  rcases grows.newRecord marked with old | ⟨-, new⟩
  · exact unmarked type old
  · omega

theorem trans {a b c : Generation} (ab : Extends a b) (bc : Extends b c) : Extends a c where
  shape := ab.shape.trans bc.shape
  fields type := by
    rw [← ab.shape.attributesFirst, bc.fields, ab.shape.attributesFirst, ab.fields]
  record h := bc.record (ab.record h)
  newRecord h := by
    rcases bc.newRecord h with old | ⟨complex, new⟩
    · exact ab.newRecord old
    · rw [ab.shape.isComplex] at complex
      exact .inr ⟨complex, Nat.le_trans ab.records new⟩
  enumeration h := bc.enumeration (ab.enumeration h)
  newEnumeration h := by
    rcases bc.newEnumeration h with old | ⟨scalar, some⟩
    · exact ab.newEnumeration old
    · rw [ab.shape.isComplex] at scalar
      rw [ab.shape.enumerators] at some
      exact .inr ⟨scalar, some⟩
  records := Nat.le_trans ab.records bc.records
  enumerations := Nat.le_trans ab.enumerations bc.enumerations
  name h := (bc.name (Nat.lt_of_lt_of_le h ab.records)).trans (ab.name h)
  kind h := (bc.kind (Nat.lt_of_lt_of_le h ab.records)).trans (ab.kind h)
  unmarked h free :=
    (bc.unmarked (Nat.lt_of_lt_of_le h ab.records) (ab.notMarked h free)).trans
      (ab.unmarked h free)

variable {g g' : Generation} (grows : Extends g g')

include grows

/-- A type without a record has had none. -/
theorem record_eq_none {type : TypeId} (unmarked : (g'.declarations.type type).record = none) :
    (g.declarations.type type).record = none := by
  cases marked : (g.declarations.type type).record with
  | none => rfl
  | some record =>
    rw [grows.record marked] at unmarked
    cases unmarked

theorem enumeration_eq_none {type : TypeId}
    (unmarked : (g'.declarations.type type).enumeration = none) :
    (g.declarations.type type).enumeration = none := by
  cases marked : (g.declarations.type type).enumeration with
  | none => rfl
  | some enumeration =>
    rw [grows.enumeration marked] at unmarked
    cases unmarked

theorem recordKind (type : TypeId) :
    Generation.recordKind g'.declarations type = Generation.recordKind g.declarations type := by
  simp only [Generation.recordKind, grows.shape.isChoice]

theorem emitted {type : TypeId} (emitted : Emitted g type) : Emitted g' type where
  complex complex := by
    rw [grows.shape.isComplex] at complex
    obtain ⟨record, marked, inRange, kind⟩ := emitted.complex complex
    exact ⟨record, grows.record marked, Nat.lt_of_lt_of_le inRange grows.records,
      by rw [grows.kind inRange, kind, grows.recordKind]⟩
  scalar scalar := by
    rw [grows.shape.isComplex] at scalar
    cases marked : (g'.declarations.type type).record with
    | none => rfl
    | some record =>
      rcases grows.newRecord marked with old | ⟨complex, -⟩
      · rw [emitted.scalar scalar] at old
        cases old
      · rw [scalar] at complex
        cases complex
  enumerated scalar enumerators := by
    rw [grows.shape.isComplex] at scalar
    rw [grows.shape.enumerators] at enumerators
    obtain ⟨enumeration, marked, inRange⟩ := emitted.enumerated scalar enumerators
    exact ⟨enumeration, grows.enumeration marked, Nat.lt_of_lt_of_le inRange grows.enumerations⟩

/-- The record of an emitted type is settled. -/
theorem record_eq {type : TypeId} (emitted : Emitted g type) :
    (g'.declarations.type type).record = (g.declarations.type type).record := by
  cases complex : g.declarations.isComplex type with
  | true =>
    obtain ⟨record, marked, -⟩ := emitted.complex complex
    rw [marked, grows.record marked]
  | false =>
    have later := (grows.emitted emitted).scalar
    rw [grows.shape.isComplex] at later
    rw [later complex, emitted.scalar complex]

/-- The enumeration of an emitted type is settled. -/
theorem enumeration_eq {type : TypeId} (emitted : Emitted g type) :
    (g'.declarations.type type).enumeration = (g.declarations.type type).enumeration := by
  cases marked : (g.declarations.type type).enumeration with
  | some enumeration => exact grows.enumeration marked
  | none =>
    cases later : (g'.declarations.type type).enumeration with
    | none => rfl
    | some enumeration =>
      rcases grows.newEnumeration later with old | ⟨scalar, enumerators⟩
      · rw [marked] at old
        cases old
      · obtain ⟨own, found, -⟩ := emitted.enumerated scalar enumerators
        rw [marked] at found
        cases found

theorem fieldShape {type : TypeId} (emitted : Emitted g type) (id : ElementId) :
    g'.fieldShape id type = g.fieldShape id type := by
  unfold Generation.fieldShape
  rw [grows.record_eq emitted, grows.shape.element, grows.shape.elementElemType]
  cases complex : g.declarations.isComplex type with
  | true =>
    obtain ⟨record, marked, inRange, -⟩ := emitted.complex complex
    simp only [marked, grows.kind inRange]
  | false => simp only [emitted.scalar complex]

theorem plainField {type : TypeId} (emitted : Emitted g type) (entry : String × ElementId)
    (builtin : Builtin) : g'.plainField entry type builtin = g.plainField entry type builtin := by
  have value : g'.defaultOf entry.2 type = g.defaultOf entry.2 type := by
    simp only [defaultOf, grows.shape.element, grows.fieldShape emitted]
  have mode : g'.fieldMode entry.2 type builtin = g.fieldMode entry.2 type builtin := by
    simp only [fieldMode, grows.shape.element, grows.shape.isList]
  simp only [Generation.plainField, typedField, value, mode, grows.shape.element,
    grows.fieldShape emitted, grows.enumeration_eq emitted]

theorem isWrapper {wrapper : RecordId} {item : Field} (wraps : IsWrapper g wrapper item) :
    IsWrapper g' wrapper item where
  inRange := Nat.lt_of_lt_of_le wraps.inRange grows.records
  unmarked := grows.notMarked wraps.inRange wraps.unmarked
  eq := by rw [grows.unmarked wraps.inRange wraps.unmarked, wraps.eq]

/-- The field of an entry remains the field of that entry. -/
theorem fieldOf {entry : String × ElementId} {field : Field} (own : FieldOf g entry field) :
    FieldOf g' entry field := by
  obtain ⟨type, builtin, typed, built, notVoid, emitted, shape⟩ := own
  refine ⟨type, builtin, ?_, ?_, ?_, grows.emitted emitted, ?_⟩
  · rw [grows.shape.elementType, typed]
  · rw [grows.shape.builtin, built]
  · rwa [grows.shape.elementElemType]
  · rw [grows.plainField emitted, grows.shape.element, grows.enumeration_eq emitted]
    dsimp only at shape ⊢
    split at shape
    · obtain ⟨wrapper, eq, wraps⟩ := shape
      rw [if_pos ‹_›]
      exact ⟨wrapper, eq, grows.isWrapper wraps⟩
    · rw [if_neg ‹_›]
      exact shape

/-- A record that is filled stays so while it is not touched. -/
theorem filled {type : TypeId} {record : RecordId} (filled : Filled g type)
    (marked : (g.declarations.type type).record = some record)
    (untouched : g'.schema.record record = g.schema.record record) : Filled g' type := by
  intro other found
  rw [grows.record marked] at found
  obtain rfl := Option.some.inj found
  rw [untouched, grows.shape.attributesFirst, grows.fields]
  exact (filled record marked).imp fun _ _ own => grows.fieldOf own

end Extends

end XsdRecords.Generation
