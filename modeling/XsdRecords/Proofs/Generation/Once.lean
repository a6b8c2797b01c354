import XsdRecords.Proofs.Generation.Naming
import XsdRecords.Proofs.Generation.Steps

/-! # Every type becomes at most one record and one enumeration

Whatever a run starts from, and whether it fails or not: a mark that is there stays, a type that gets
one keeps it, and each record and enumeration of the schema is that of one type, but for the records
that wrap the items of an array. -/

namespace XsdRecords.Generation

open XsdRecords.Declaration (Declarations ElementId TypeId Symbol)
open XsdRecords.Layout

/-! ## What a type gets -/

/-- A type without a record at the start has got one. -/
structure Gets (start : Declarations) (g : Generation) (type : TypeId) (record : RecordId) :
    Prop where
  fresh : (start.type type).record = none
  marked : (g.declarations.type type).record = some record

/-- A type without an enumeration at the start has got one. -/
structure GetsEnumeration (start : Declarations) (g : Generation) (type : TypeId)
    (enumeration : EnumerationId) : Prop where
  fresh : (start.type type).enumeration = none
  marked : (g.declarations.type type).enumeration = some enumeration

/-- A record without a name that holds one item of an array. -/
def IsItemRecord (record : Record) : Prop :=
  ∃ elemType enumeration, record = { fields := [itemField elemType enumeration] }

/-- No type has got two records or two enumerations since the start. -/
structure GivesOnce (start : Declarations) (g : Generation) : Prop where
  kept {type : TypeId} {record : RecordId} : (start.type type).record = some record →
    (g.declarations.type type).record = some record
  keptEnumeration {type : TypeId} {enumeration : EnumerationId} :
    (start.type type).enumeration = some enumeration →
      (g.declarations.type type).enumeration = some enumeration
  record_lt {type : TypeId} {record : RecordId} : Gets start g type record →
    record.index < g.schema.records.size
  enumeration_lt {type : TypeId} {enumeration : EnumerationId} :
    GetsEnumeration start g type enumeration →
      enumeration.index < g.schema.enumerations.size
  injective {type other : TypeId} {record : RecordId} : Gets start g type record →
    Gets start g other record → type = other
  enumeration_injective {type other : TypeId} {enumeration : EnumerationId} :
    GetsEnumeration start g type enumeration → GetsEnumeration start g other enumeration →
      type = other
  /-- A record that no type has got wraps an item. -/
  record {record : RecordId} : record.index < g.schema.records.size →
    (∃ type, Gets start g type record) ∨ IsItemRecord (g.schema.record record)
  enumeration {enumeration : EnumerationId} :
    enumeration.index < g.schema.enumerations.size →
      ∃ type, GetsEnumeration start g type enumeration

/-! ## Steps -/

section Step

variable {start : Declarations} {reach : TypeId → Prop} {g g' : Generation}

/-- Where marks and the numbers of records and enumerations stay, it is enough to look at records. -/
theorem GivesOnce.of_marks (once : GivesOnce start g)
    (records : ∀ type, (g'.declarations.type type).record = (g.declarations.type type).record)
    (enumerations : ∀ type,
      (g'.declarations.type type).enumeration = (g.declarations.type type).enumeration)
    (size : g.schema.records.size ≤ g'.schema.records.size)
    (enumerationSize : g'.schema.enumerations.size = g.schema.enumerations.size)
    (rows : ∀ {record : RecordId}, record.index < g'.schema.records.size →
      (∃ type, Gets start g type record) ∨ IsItemRecord (g'.schema.record record)) :
    GivesOnce start g' := by
  have gets {type : TypeId} {record : RecordId} :
      Gets start g' type record ↔ Gets start g type record :=
    ⟨fun h => ⟨h.fresh, (records type).symm.trans h.marked⟩,
      fun h => ⟨h.fresh, (records type).trans h.marked⟩⟩
  have getsEnumeration {type : TypeId} {enumeration : EnumerationId} :
      GetsEnumeration start g' type enumeration ↔ GetsEnumeration start g type enumeration :=
    ⟨fun h => ⟨h.fresh, (enumerations type).symm.trans h.marked⟩,
      fun h => ⟨h.fresh, (enumerations type).trans h.marked⟩⟩
  refine ⟨fun h => (records _).trans (once.kept h),
    fun h => (enumerations _).trans (once.keptEnumeration h),
    fun h => Nat.lt_of_lt_of_le (once.record_lt (gets.1 h)) size, fun h => ?_,
    fun h h' => once.injective (gets.1 h) (gets.1 h'),
    fun h h' => once.enumeration_injective (getsEnumeration.1 h) (getsEnumeration.1 h'),
    fun inside => ?_, fun inside => ?_⟩
  · rw [enumerationSize]
    exact once.enumeration_lt (getsEnumeration.1 h)
  · exact (rows inside).imp (fun ⟨type, h⟩ => ⟨type, gets.2 h⟩) id
  · rw [enumerationSize] at inside
    obtain ⟨type, h⟩ := once.enumeration inside
    exact ⟨type, getsEnumeration.2 h⟩

/-- A field that is appended to the record of a type. -/
theorem GivesOnce.push (once : GivesOnce start g) {owner : TypeId} {record : RecordId}
    (owns : Owns start g owner record) (field : Field) :
    GivesOnce start { g with schema := push g.schema record field } := by
  refine once.of_marks (fun _ => rfl) (fun _ => rfl)
    (Nat.le_of_eq (RecordSchema.size_modifyRecord ..).symm) rfl fun {id} inside => ?_
  rw [Generation.push, RecordSchema.size_modifyRecord] at inside
  by_cases same : id = record
  · exact .inl ⟨owner, owns.fresh, same ▸ owns.marked⟩
  · rw [Generation.push, RecordSchema.record_modifyRecord_eq _ _ _ _ owns.inRange, if_neg same]
    exact once.record inside

/-- A new wrapper. -/
theorem GivesOnce.wrapItems (once : GivesOnce start g) {elemType : ElemType}
    {enumeration : Option EnumerationId} {schema : RecordSchema} {wrapper : RecordId}
    (wraps : g.wrapItems elemType enumeration = .ok (schema, wrapper)) :
    GivesOnce start { g with schema } := by
  obtain ⟨rfl, size, enumerations, rows, -⟩ := wrapItems_eq_ok wraps
  refine once.of_marks (fun _ => rfl) (fun _ => rfl) ?_ ?_ fun {id} inside => ?_
  · exact Nat.le_of_lt (size ▸ Nat.lt_succ_self _)
  · exact congrArg Array.size enumerations
  · change id.index < schema.records.size at inside
    rw [size] at inside
    change _ ∨ IsItemRecord (schema.record id)
    rw [rows]
    split
    · exact .inr ⟨elemType, enumeration, rfl⟩
    · rename_i other
      have ne : id.index ≠ g.schema.records.size := fun h => other (congrArg RecordId.mk h)
      exact once.record (by omega)

/-- One more pair, with a value that nothing had, leaves each value with one key. -/
theorem eq_of_insert {α β : Type} {R R' : α → β → Prop} {a : α} {b : β}
    (cases : ∀ {x y}, R' x y → (x = a ∧ y = b) ∨ R x y) (new : ∀ {x}, ¬R x b)
    (injective : ∀ {x x' y}, R x y → R x' y → x = x') {x x' : α} {y : β} (h : R' x y)
    (h' : R' x' y) : x = x' := by
  rcases cases h with ⟨rfl, rfl⟩ | old <;> rcases cases h' with ⟨rfl, same⟩ | old'
  · rfl
  · exact absurd old' new
  · exact absurd (same ▸ old) new
  · exact injective old old'

/-- A type that gets a record had none. -/
theorem GivesOnce.marksRecord (once : GivesOnce start g) {type : TypeId} {record : RecordId}
    (fresh : (start.type type).record = none) (marks : MarksRecord g g' type record) :
    GivesOnce start g' := by
  have grows := marks.grows
  have size := marks.size
  have place := congrArg RecordId.index marks.place
  have cases {other : TypeId} {id : RecordId} (gets : Gets start g' other id) :
      (other = type ∧ id = ⟨g.schema.records.size⟩) ∨ Gets start g other id :=
    (marks.marks_cases gets.marked).imp (fun new => new) fun old => ⟨gets.fresh, old⟩
  have new {other : TypeId} : ¬Gets start g other ⟨g.schema.records.size⟩ :=
    fun old => Nat.lt_irrefl _ (once.record_lt old)
  refine ⟨fun h => grows.record (once.kept h), fun h => grows.enumeration (once.keptEnumeration h),
    fun gets => ?_, fun gets => ?_, fun gets gets' => ?_, fun gets gets' => ?_, fun {id} inside => ?_,
    fun inside => ?_⟩
  · rcases cases gets with ⟨-, rfl⟩ | old
    · exact size ▸ Nat.lt_succ_self _
    · exact Nat.lt_of_lt_of_le (once.record_lt old) grows.records
  · rw [marks.enumerations]
    exact once.enumeration_lt ⟨gets.fresh, (marks.enumeration _).symm.trans gets.marked⟩
  · exact eq_of_insert cases new once.injective gets gets'
  · exact once.enumeration_injective ⟨gets.fresh, (marks.enumeration _).symm.trans gets.marked⟩
      ⟨gets'.fresh, (marks.enumeration _).symm.trans gets'.marked⟩
  · by_cases last : id.index = g.schema.records.size
    · have same : id = record := congrArg RecordId.mk (last.trans place.symm)
      exact .inl ⟨type, fresh, same ▸ marks.marked⟩
    · have old : id.index < g.schema.records.size := by omega
      rw [marks.old old]
      exact (once.record old).imp
        (fun ⟨other, gets⟩ => ⟨other, gets.fresh, grows.record gets.marked⟩) fun h => h
  · rw [marks.enumerations] at inside
    obtain ⟨other, gets⟩ := once.enumeration inside
    exact ⟨other, gets.fresh, (marks.enumeration _).trans gets.marked⟩

/-- A type that gets an enumeration had none. -/
theorem GivesOnce.marksEnumeration (once : GivesOnce start g) {type : TypeId}
    (marks : MarksEnumeration g g' type) : GivesOnce start g' := by
  have grows := marks.grows
  have size := marks.size
  have fresh : (start.type type).enumeration = none := by
    cases found : (start.type type).enumeration with
    | none => rfl
    | some enumeration =>
      have still := once.keptEnumeration found
      rw [marks.unmarked] at still
      cases still
  have cases {other : TypeId} {id : EnumerationId} (gets : GetsEnumeration start g' other id) :
      (other = type ∧ id = ⟨g.schema.enumerations.size⟩) ∨ GetsEnumeration start g other id := by
    have marked := gets.marked
    rw [marks.types] at marked
    split at marked
    · rename_i same
      exact .inl ⟨same, (Option.some.inj marked).symm⟩
    · exact .inr ⟨gets.fresh, marked⟩
  have new {other : TypeId} : ¬GetsEnumeration start g other ⟨g.schema.enumerations.size⟩ :=
    fun old => Nat.lt_irrefl _ (once.enumeration_lt old)
  refine ⟨fun h => grows.record (once.kept h), fun h => grows.enumeration (once.keptEnumeration h),
    fun gets => ?_, fun gets => ?_, fun gets gets' => ?_, fun gets gets' => ?_, fun {id} inside => ?_,
    fun {id} inside => ?_⟩
  · rw [marks.records]
    exact once.record_lt ⟨gets.fresh, (marks.record _).symm.trans gets.marked⟩
  · rcases cases gets with ⟨-, rfl⟩ | old
    · exact size ▸ Nat.lt_succ_self _
    · exact Nat.lt_of_lt_of_le (once.enumeration_lt old) grows.enumerations
  · exact once.injective ⟨gets.fresh, (marks.record _).symm.trans gets.marked⟩
      ⟨gets'.fresh, (marks.record _).symm.trans gets'.marked⟩
  · exact eq_of_insert cases new once.enumeration_injective gets gets'
  · rw [marks.records] at inside
    rw [marks.rows]
    exact (once.record inside).imp
      (fun ⟨other, gets⟩ => ⟨other, gets.fresh, (marks.record _).trans gets.marked⟩) fun h => h
  · by_cases last : id.index = g.schema.enumerations.size
    · have same : id = ⟨g.schema.enumerations.size⟩ := congrArg EnumerationId.mk last
      exact ⟨type, fresh, by rw [marks.types, if_pos rfl, same]⟩
    · have old : id.index < g.schema.enumerations.size := by omega
      obtain ⟨other, gets⟩ := once.enumeration old
      exact ⟨other, gets.fresh, grows.enumeration gets.marked⟩

/-- No step gives a type a second record or enumeration. -/
theorem Step.givesOnce (step : Step start reach g g') (once : GivesOnce start g) :
    GivesOnce start g' := by
  cases step with
  | journal =>
    exact once.of_marks (fun _ => rfl) (fun _ => rfl) (Nat.le_refl _) rfl once.record
  | sort type =>
    exact once.of_marks (fun _ => (marks_sortFields _ _ _).1) (fun _ => (marks_sortFields _ _ _).2)
      (Nat.le_refl _) rfl once.record
  | record reached fresh marks => exact once.marksRecord fresh marks
  | enumeration reached marks => exact once.marksEnumeration marks
  | field owns field => exact once.push owns field
  | @table owner record owns elemType enumeration schema wrapper wraps field =>
    have grows := (extends_wrapItems wraps).1
    exact (once.wrapItems wraps).push (grows.owns owns) field
  | orphan wraps =>
    have wrapped := once.wrapItems wraps
    exact wrapped.of_marks (fun _ => rfl) (fun _ => rfl) (Nat.le_refl _) rfl wrapped.record

theorem Steps.givesOnce (steps : Steps start reach g g') (once : GivesOnce start g) :
    GivesOnce start g' := by
  induction steps with
  | refl => exact once
  | tail _ step ih => exact step.givesOnce ih

end Step

/-! ## Runs -/

/-- Naming changes no mark; a copy has none. -/
theorem nameRoot_marks (g : Generation) (symbol : Symbol) (id : ElementId) (type : TypeId) :
    ((g.nameRoot symbol id).declarations.type type).record = (g.declarations.type type).record ∧
      ((g.nameRoot symbol id).declarations.type type).enumeration =
        (g.declarations.type type).enumeration := by
  have named (d : Declarations) (own other : TypeId) (overrideSymbol : Option Symbol) :
      ((d.modifyType own fun t => { t with overrideSymbol }).type other).record =
          (d.type other).record ∧
        ((d.modifyType own fun t => { t with overrideSymbol }).type other).enumeration =
          (d.type other).enumeration :=
    Declarations.type_modifyType_of (P := fun t => t.record = (d.type other).record ∧
      t.enumeration = (d.type other).enumeration) ⟨rfl, rfl⟩ fun same => same ▸ ⟨rfl, rfl⟩
  unfold nameRoot
  split
  · exact ⟨rfl, rfl⟩
  · rename_i original typed
    split
    · exact ⟨rfl, rfl⟩
    · split
      · obtain ⟨copySymbol, -, -, -, types⟩ := Declarations.cloneType_eq g.declarations original
        obtain ⟨record, enumeration⟩ := named ((g.declarations.cloneType original).1.modifyElement id
          fun e => { e with directType := some (g.declarations.cloneType original).2 })
          (g.declarations.cloneType original).2 type (some symbol)
        have same : ((g.declarations.cloneType original).1.type type).record =
            (g.declarations.type type).record ∧
              ((g.declarations.cloneType original).1.type type).enumeration =
                (g.declarations.type type).enumeration := by
          rw [types]
          split
          · rename_i last
            rw [Declarations.type_of_size_le (Nat.le_of_eq last.symm)]
            exact ⟨rfl, rfl⟩
          · exact ⟨rfl, rfl⟩
        exact ⟨record.trans same.1, enumeration.trans same.2⟩
      · exact named g.declarations original type (some symbol)

theorem nameRoots_marks (roots : List (Symbol × ElementId)) (g : Generation) (type : TypeId) :
    ((nameRoots g roots).1.declarations.type type).record = (g.declarations.type type).record ∧
      ((nameRoots g roots).1.declarations.type type).enumeration =
        (g.declarations.type type).enumeration ∧ (nameRoots g roots).1.schema = g.schema := by
  induction roots generalizing g with
  | nil => exact ⟨rfl, rfl, rfl⟩
  | cons root rest ih =>
    unfold nameRoots
    split
    · exact ⟨rfl, rfl, rfl⟩
    · obtain ⟨record, enumeration⟩ := nameRoot_marks g root.1 root.2 type
      obtain ⟨records, enumerations, schema⟩ := ih (g.nameRoot root.1 root.2)
      exact ⟨records.trans record, enumerations.trans enumeration,
        schema.trans (schema_nameRoot g root.1 root.2)⟩

/-- Before anything is emitted no type has got anything. -/
theorem GivesOnce.begun {d : Declarations} {g : Generation}
    (records : ∀ type, (g.declarations.type type).record = (d.type type).record)
    (enumerations : ∀ type, (g.declarations.type type).enumeration = (d.type type).enumeration)
    (schema : g.schema = {}) : GivesOnce d g := by
  have none {type : TypeId} {record : RecordId} : ¬Gets d g type record := by
    rintro ⟨fresh, marked⟩
    rw [records, fresh] at marked
    cases marked
  have noEnumeration {type : TypeId} {enumeration : EnumerationId} :
      ¬GetsEnumeration d g type enumeration := by
    rintro ⟨fresh, marked⟩
    rw [enumerations, fresh] at marked
    cases marked
  refine ⟨fun h => (records _).trans h, fun h => (enumerations _).trans h,
    fun gets => absurd gets none, fun gets => absurd gets noEnumeration,
    fun gets => absurd gets none, fun gets => absurd gets noEnumeration,
    fun inside => ?_, fun inside => ?_⟩
  · rw [schema] at inside
    exact absurd inside (Nat.not_lt_zero _)
  · rw [schema] at inside
    exact absurd inside (Nat.not_lt_zero _)

/-- A run, whatever it starts from, gives each type at most one record and one enumeration. -/
theorem run_givesOnce (g : Generation) : GivesOnce g.declarations (run g) := by
  have marks := nameRoots_marks g.declarations.roots.toSorted { g with schema := {} }
  unfold run
  rcases named : nameRoots { g with schema := {} } g.declarations.roots.toSorted with ⟨m, going⟩
  rw [named] at marks
  dsimp only at marks ⊢
  have records (type : TypeId) := (marks type).1
  have enumerations (type : TypeId) := (marks type).2.1
  have schema := (marks ⟨0⟩).2.2
  split
  · obtain ⟨declarations, schema', -⟩ := noteTypes_keeps m
    rw [← declarations] at records enumerations
    have allows : Allows g.declarations (fun _ => True) m.noteTypes :=
      ⟨fun _ _ _ => trivial, fun {type} unmarked => (records type).symm.trans unmarked⟩
    exact (foldl_emitRoot_steps _ allows fun _ _ _ _ _ => trivial).givesOnce
      (.begun records enumerations (schema'.trans schema))
  · exact .begun records enumerations schema

end XsdRecords.Generation
