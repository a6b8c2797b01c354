import XsdRecords.Proofs.Generation.Once

/-! # Each wrapper is that of one field

A record that no type has wraps the items of one field: while an emission does not fail, exactly one
field of the records of types refers to it. -/

namespace XsdRecords.Generation

open XsdRecords.Declaration (Declarations TypeId)
open XsdRecords.Layout

/-- A field of the record of a type, told by its place in it, refers to a record. -/
def RefersTo (g : Generation) (place : TypeId × Nat) (id : RecordId) : Prop :=
  ∃ record field, (g.declarations.type place.1).record = some record ∧
    (g.schema.record record).fields[place.2]? = some field ∧
    field.constraint = some (.record id)

/-- Fields refer to records that there are, and to each that no type has from one place. -/
structure WrapsOnce (g : Generation) : Prop where
  inRange {place : TypeId × Nat} {id : RecordId} : RefersTo g place id →
    id.index < g.schema.records.size
  once {id : RecordId} : id.index < g.schema.records.size →
    (∀ type, (g.declarations.type type).record ≠ some id) → ∃! place, RefersTo g place id

/-- Without records and marks there is nothing to refer to. -/
theorem WrapsOnce.begun {g : Generation}
    (unmarked : ∀ type, (g.declarations.type type).record = none) (schema : g.schema = {}) :
    WrapsOnce g := by
  constructor
  · rintro place id ⟨record, -, marked, -⟩
    rw [unmarked] at marked
    cases marked
  · intro id inside
    rw [schema] at inside
    exact absurd inside (Nat.not_lt_zero _)

section Step

variable {start : Declarations} {reach : TypeId → Prop} {g g' : Generation}

/-- Where marks and records stay, so does what refers to them. -/
theorem WrapsOnce.congr (wraps : WrapsOnce g)
    (marks : ∀ type, (g'.declarations.type type).record = (g.declarations.type type).record)
    (records : g'.schema.records = g.schema.records) : WrapsOnce g' := by
  have rows (id : RecordId) : g'.schema.record id = g.schema.record id := by
    simp only [RecordSchema.record, records]
  have refers (place : TypeId × Nat) (id : RecordId) :
      RefersTo g' place id ↔ RefersTo g place id := by
    simp only [RefersTo, marks, rows]
  constructor
  · intro place id h
    rw [records]
    exact wraps.inRange ((refers place id).1 h)
  · intro id inside unmarked
    rw [records] at inside
    simp only [refers]
    exact wraps.once inside fun type => by
      rw [← marks]
      exact unmarked type

/-- A record that is opened has no fields, and no field refers to it. -/
theorem WrapsOnce.marksRecord (wraps : WrapsOnce g) (record_lt : ∀ type record,
      (g.declarations.type type).record = some record → record.index < g.schema.records.size)
    {type : TypeId} {record : RecordId} (marks : MarksRecord g g' type record) : WrapsOnce g' := by
  have size := marks.size
  have refers {spot : TypeId × Nat} {id : RecordId} : RefersTo g' spot id ↔ RefersTo g spot id := by
    constructor
    · rintro ⟨own, field, marked, member, constraint⟩
      rcases marks.marks_cases marked with ⟨-, rfl⟩ | old
      · rw [marks.rows, if_pos rfl] at member
        cases member
      · rw [marks.old (record_lt _ _ old)] at member
        exact ⟨own, field, old, member, constraint⟩
    · rintro ⟨own, field, marked, member, constraint⟩
      refine ⟨own, field, marks.grows.record marked, ?_, constraint⟩
      rw [marks.old (record_lt _ _ marked)]
      exact member
  constructor
  · intro spot id h
    exact Nat.lt_of_lt_of_le (wraps.inRange (refers.1 h)) marks.grows.records
  · intro id inside unmarked
    simp only [refers]
    refine wraps.once ?_ fun other marked => unmarked other (marks.grows.record marked)
    have ne : id ≠ record := fun same => unmarked type (same ▸ marks.marked)
    have other : id.index ≠ g.schema.records.size := fun same =>
      ne ((congrArg RecordId.mk same).trans marks.place.symm)
    omega

/-- The fields of records after one is appended. -/
theorem getElem?_fields_push {schema : RecordSchema} {record : RecordId}
    (inside : record.index < schema.records.size) (field : Field) (own : RecordId) (index : Nat)
    (found : Field) :
    ((push schema record field).record own).fields[index]? = some found ↔
      (schema.record own).fields[index]? = some found ∨
        own = record ∧ index = (schema.record record).fields.length ∧ field = found := by
  have rows : (push schema record field).record own = if own = record then
      { schema.record record with fields := (schema.record record).fields ++ [field] }
      else schema.record own := RecordSchema.record_modifyRecord_eq _ _ _ _ inside
  rw [rows]
  split
  · rename_i same
    subst same
    rcases Nat.lt_trichotomy index (schema.record own).fields.length with before | here | after
    · simp [List.getElem?_append_left before, Nat.ne_of_lt before]
    · subst here
      simp
    · have beyond : ((schema.record own).fields ++ [field])[index]? = none :=
        List.getElem?_eq_none (List.length_append.trans_le after)
      simp [beyond, List.getElem?_eq_none (Nat.le_of_lt after), Nat.ne_of_gt after]
  · rename_i other
    simp [other]

/-- A field that is appended to a record of a type. -/
theorem refersTo_push (injective : ∀ type other record,
      (g.declarations.type type).record = some record →
        (g.declarations.type other).record = some record → type = other)
    {owner : TypeId} {record : RecordId} (owns : Owns start g owner record) (field : Field)
    (place : TypeId × Nat) (id : RecordId) :
    RefersTo { g with schema := push g.schema record field } place id ↔
      RefersTo g place id ∨ place = (owner, (g.schema.record record).fields.length) ∧
        field.constraint = some (.record id) := by
  have fields (own : RecordId) (index : Nat) (found : Field) :=
    getElem?_fields_push owns.inRange field own index found
  obtain ⟨type, index⟩ := place
  constructor
  · rintro ⟨own, found, marked, member, constraint⟩
    rcases (fields own index found).1 member with old | ⟨rfl, rfl, rfl⟩
    · exact .inl ⟨own, found, marked, old, constraint⟩
    · obtain rfl := injective _ _ _ marked owns.marked
      exact .inr ⟨rfl, constraint⟩
  · rintro (⟨own, found, marked, old, constraint⟩ | ⟨same, constraint⟩)
    · exact ⟨own, found, marked, (fields own index found).2 (.inl old), constraint⟩
    · obtain ⟨rfl, rfl⟩ := Prod.mk.inj same
      exact ⟨record, field, owns.marked, (fields record _ field).2 (.inr ⟨rfl, rfl, rfl⟩),
        constraint⟩

/-- A field of a type with a record, or of none. -/
theorem WrapsOnce.push (wraps : WrapsOnce g) (record_lt : ∀ type record,
      (g.declarations.type type).record = some record → record.index < g.schema.records.size)
    (injective : ∀ type other record, (g.declarations.type type).record = some record →
      (g.declarations.type other).record = some record → type = other)
    {owner : TypeId} {record : RecordId} (owns : Owns start g owner record) {field : Field}
    (constraint : ∀ id, field.constraint = some (.record id) →
      ∃ type, (g.declarations.type type).record = some id) :
    WrapsOnce { g with schema := push g.schema record field } := by
  have refers := refersTo_push injective owns field
  have size : (Generation.push g.schema record field).records.size = g.schema.records.size :=
    RecordSchema.size_modifyRecord ..
  constructor
  · intro place id h
    change id.index < (Generation.push g.schema record field).records.size
    rw [size]
    rcases (refers place id).1 h with old | ⟨-, new⟩
    · exact wraps.inRange old
    · obtain ⟨type, marked⟩ := constraint id new
      exact record_lt type id marked
  · intro id inside unmarked
    change id.index < (Generation.push g.schema record field).records.size at inside
    rw [size] at inside
    have same (place : TypeId × Nat) :
        RefersTo { g with schema := Generation.push g.schema record field } place id ↔
          RefersTo g place id := by
      refine (refers place id).trans ⟨fun h => h.resolve_right fun ⟨_, new⟩ => ?_, .inl⟩
      obtain ⟨type, marked⟩ := constraint id new
      exact unmarked type marked
    simp only [same]
    exact wraps.once inside unmarked

/-- A table of wrapped items is the only field that refers to the wrapper. -/
theorem WrapsOnce.table (wraps : WrapsOnce g) (record_lt : ∀ type record,
      (g.declarations.type type).record = some record → record.index < g.schema.records.size)
    (injective : ∀ type other record, (g.declarations.type type).record = some record →
      (g.declarations.type other).record = some record → type = other)
    {owner : TypeId} {record : RecordId} (owns : Owns start g owner record)
    {elemType : ElemType} {enumeration : Option EnumerationId} {schema : RecordSchema}
    {wrapper : RecordId} (items : g.wrapItems elemType enumeration = .ok (schema, wrapper))
    {field : Field} (constraint : field.constraint = some (.record wrapper)) :
    WrapsOnce { g with schema := Generation.push schema record field } := by
  obtain ⟨grows, old⟩ := extends_wrapItems items
  obtain ⟨rfl, size, -, -, -⟩ := wrapItems_eq_ok items
  have refers := refersTo_push (g := { g with schema }) injective (grows.owns owns) field
  have before (place : TypeId × Nat) (id : RecordId) :
      RefersTo { g with schema } place id ↔ RefersTo g place id := by
    refine exists_congr fun own => exists_congr fun found => and_congr_right fun marked => ?_
    change (schema.record own).fields[place.2]? = some found ∧ _ ↔ _
    rw [old (record_lt _ _ marked)]
  have count : (Generation.push schema record field).records.size = g.schema.records.size + 1 :=
    (RecordSchema.size_modifyRecord ..).trans size
  constructor
  · intro place id h
    change id.index < (Generation.push schema record field).records.size
    rw [count]
    rcases (refers place id).1 h with earlier | ⟨-, new⟩
    · exact Nat.lt_succ_of_lt (wraps.inRange ((before place id).1 earlier))
    · rw [constraint] at new
      cases new
      exact Nat.lt_succ_self _
  · intro id inside unmarked
    change id.index < (Generation.push schema record field).records.size at inside
    rw [count] at inside
    simp only [refers, before, constraint]
    by_cases new : id = ⟨g.schema.records.size⟩
    · subst new
      refine ⟨_, .inr ⟨rfl, rfl⟩, fun place h => ?_⟩
      rcases h with earlier | ⟨here, -⟩
      · exact absurd (wraps.inRange earlier) (Nat.lt_irrefl _)
      · exact here
    · have other : ¬(some (Constraint.record ⟨g.schema.records.size⟩) = some (.record id)) := by
        rintro ⟨⟩
        exact new rfl
      simp only [other, and_false, or_false]
      have ne : id.index ≠ g.schema.records.size := fun h => new (congrArg RecordId.mk h)
      exact wraps.once (by omega) unmarked

/-- Each step of an emission that does not fail refers to its wrapper from one place. -/
theorem Step.wrapsOnce (step : Step start reach g g') (ok : g'.hasFailed = false)
    (pristine : ∀ type, (start.type type).record = none) (once : GivesOnce start g)
    (wraps : WrapsOnce g) : WrapsOnce g' := by
  have record_lt (type : TypeId) (record : RecordId)
      (marked : (g.declarations.type type).record = some record) :
      record.index < g.schema.records.size := once.record_lt ⟨pristine type, marked⟩
  have injective (type other : TypeId) (record : RecordId)
      (marked : (g.declarations.type type).record = some record)
      (marked' : (g.declarations.type other).record = some record) : type = other :=
    once.injective ⟨pristine type, marked⟩ ⟨pristine other, marked'⟩
  cases step with
  | journal => exact wraps.congr (fun _ => rfl) rfl
  | sort type => exact wraps.congr (fun _ => (marks_sortFields _ _ _).1) rfl
  | record reached fresh marks => exact wraps.marksRecord record_lt marks
  | enumeration reached marks => exact wraps.congr marks.record marks.records
  | field owns field constraint => exact wraps.push record_lt injective owns constraint
  | table owns items field constraint => exact wraps.table record_lt injective owns items constraint
  | orphan items journal failed =>
    change journal.hasFailed = false at ok
    rw [failed] at ok
    cases ok

end Step

end XsdRecords.Generation
