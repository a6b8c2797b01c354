import XsdRecords.Proofs.Layout.Store

/-! # Well-formed record schemas

What every finished record schema promises to its readers: names lead to the definitions that bear
them, and the constraint and the default value of a field fit its element type. -/

namespace XsdRecords.Layout

/-- A field whose constraint and default value fit its element type. -/
structure FieldWellFormed (s : RecordSchema) (field : Field) : Prop where
  record_lt {id : RecordId} : field.constraint = some (.record id) → id.index < s.records.size
  enumeration_lt {id : EnumerationId} :
    field.constraint = some (.enumeration id) → id.index < s.enumerations.size
  aggregate_iff :
    field.elemType.isAggregate = true ↔ ∃ id, field.constraint = some (.record id)
  sequence_iff {id : RecordId} : field.constraint = some (.record id) →
    ((s.record id).kind = .sequence ↔ field.elemType = .list ∨ field.elemType = .table)
  choice_iff {id : RecordId} : field.constraint = some (.record id) →
    ((s.record id).kind = .choice ↔ field.elemType = .choice ∨ field.elemType = .choiceArray)
  notVoid : field.elemType ≠ .void
  default {value : DefaultValue} : field.defaultValue = some value →
    value.elemType = field.elemType ∧ field.nullable = false

namespace RecordSchema

/-- A schema whose names are distinct and lead to their definitions, and whose records hold
well-formed fields with distinct names and ids. -/
structure WellFormed (s : RecordSchema) : Prop where
  names : (s.records.toList.filterMap (·.name) ++ s.enumerations.toList.filterMap (·.name)).Nodup
  findRecord? (name : String) (record : Record) :
    s.findRecord? name = some record ↔ record ∈ s.records ∧ record.name = some name
  findEnumeration? (name : String) (enumeration : Enumeration) :
    s.findEnumeration? name = some enumeration ↔
      enumeration ∈ s.enumerations ∧ enumeration.name = some name
  fieldNames {record : Record} : record ∈ s.records → (record.fields.filterMap (·.name)).Nodup
  fieldIds {record : Record} : record ∈ s.records → (record.fields.filterMap (·.id)).Nodup
  fields {record : Record} {field : Field} :
    record ∈ s.records → field ∈ record.fields → FieldWellFormed s field

theorem mem_records_iff {s : RecordSchema} {record : Record} :
    record ∈ s.records ↔ ∃ id : RecordId, id.index < s.records.size ∧ s.record id = record := by
  rw [Array.mem_iff_getElem]
  constructor
  · rintro ⟨i, bound, rfl⟩
    exact ⟨⟨i⟩, bound, by simp [RecordSchema.record, bound]⟩
  · rintro ⟨id, bound, rfl⟩
    exact ⟨id.index, bound, by simp [RecordSchema.record, bound]⟩

theorem mem_enumerations_iff {s : RecordSchema} {enumeration : Enumeration} :
    enumeration ∈ s.enumerations ↔
      ∃ id : EnumerationId, id.index < s.enumerations.size ∧ s.enumeration id = enumeration := by
  rw [Array.mem_iff_getElem]
  constructor
  · rintro ⟨i, bound, rfl⟩
    exact ⟨⟨i⟩, bound, by simp [RecordSchema.enumeration, bound]⟩
  · rintro ⟨id, bound, rfl⟩
    exact ⟨id.index, bound, by simp [RecordSchema.enumeration, bound]⟩

namespace NamesAgree

variable {s : RecordSchema} (agree : s.NamesAgree)

include agree

theorem findRecordId?_eq_some_iff (name : String) (id : RecordId) :
    s.findRecordId? name = some id ↔
      id.index < s.records.size ∧ (s.record id).name = some name := by
  rw [← agree.record_iff, RecordSchema.findRecordId?]
  split
  · rename_i found
    simp [found]
  · rename_i none
    simp only [reduceCtorEq, false_iff]
    exact none id

theorem findRecord?_eq_some_iff (name : String) (record : Record) :
    s.findRecord? name = some record ↔ record ∈ s.records ∧ record.name = some name := by
  rw [RecordSchema.findRecord?, Option.map_eq_some_iff, mem_records_iff]
  constructor
  · rintro ⟨id, found, rfl⟩
    obtain ⟨bound, named⟩ := (agree.findRecordId?_eq_some_iff name id).1 found
    exact ⟨⟨id, bound, rfl⟩, named⟩
  · rintro ⟨⟨id, bound, rfl⟩, named⟩
    exact ⟨id, (agree.findRecordId?_eq_some_iff name id).2 ⟨bound, named⟩, rfl⟩

theorem findEnumeration?_eq_some_iff (name : String) (enumeration : Enumeration) :
    s.findEnumeration? name = some enumeration ↔
      enumeration ∈ s.enumerations ∧ enumeration.name = some name := by
  rw [RecordSchema.findEnumeration?, mem_enumerations_iff]
  constructor
  · intro found
    split at found
    · rename_i id defined
      obtain ⟨bound, named⟩ := (agree.enumeration_iff name id).1 defined
      obtain rfl := Option.some.inj found
      exact ⟨⟨id, bound, rfl⟩, named⟩
    · cases found
  · rintro ⟨⟨id, bound, rfl⟩, named⟩
    rw [(agree.enumeration_iff name id).2 ⟨bound, named⟩]

/-- The names of records and enumerations are distinct. -/
theorem nodup_names :
    (s.records.toList.filterMap (·.name) ++ s.enumerations.toList.filterMap (·.name)).Nodup := by
  have recordAt (i : Nat) (h : i < s.records.toList.length) :
      s.records.toList[i] = s.record ⟨i⟩ := by
    have bound : i < s.records.size := h
    simp [RecordSchema.record, bound]
  have enumerationAt (i : Nat) (h : i < s.enumerations.toList.length) :
      s.enumerations.toList[i] = s.enumeration ⟨i⟩ := by
    have bound : i < s.enumerations.size := h
    simp [RecordSchema.enumeration, bound]
  rw [List.nodup_append]
  refine ⟨?_, ?_, ?_⟩
  · rw [List.Nodup, List.pairwise_filterMap, List.pairwise_iff_getElem]
    intro i j hi hj less name first other second same
    rw [recordAt] at first second
    have one := (agree.record_iff name ⟨i⟩).2 ⟨hi, first⟩
    have two := (agree.record_iff name ⟨j⟩).2 ⟨hj, same ▸ second⟩
    rw [one] at two
    simp only [Option.some.injEq, Definition.record.injEq, RecordId.mk.injEq] at two
    omega
  · rw [List.Nodup, List.pairwise_filterMap, List.pairwise_iff_getElem]
    intro i j hi hj less name first other second same
    rw [enumerationAt] at first second
    have one := (agree.enumeration_iff name ⟨i⟩).2 ⟨hi, first⟩
    have two := (agree.enumeration_iff name ⟨j⟩).2 ⟨hj, same ▸ second⟩
    rw [one] at two
    simp only [Option.some.injEq, Definition.enumeration.injEq, EnumerationId.mk.injEq] at two
    omega
  · intro name first other second same
    subst same
    obtain ⟨record, member, named⟩ := List.mem_filterMap.1 first
    obtain ⟨enumeration, member', named'⟩ := List.mem_filterMap.1 second
    obtain ⟨i, hi, rfl⟩ := List.mem_iff_getElem.1 member
    obtain ⟨j, hj, rfl⟩ := List.mem_iff_getElem.1 member'
    rw [recordAt] at named
    rw [enumerationAt] at named'
    have one := (agree.record_iff name ⟨i⟩).2 ⟨hi, named⟩
    have two := (agree.enumeration_iff name ⟨j⟩).2 ⟨hj, named'⟩
    rw [one] at two
    cases two

end NamesAgree

/-- A consistent schema of well-formed fields is well formed. -/
theorem Consistent.wellFormed {s : RecordSchema} (consistent : s.Consistent)
    (fields : ∀ id, ∀ field ∈ (s.record id).fields, FieldWellFormed s field) : s.WellFormed where
  names := consistent.names.nodup_names
  findRecord? := consistent.names.findRecord?_eq_some_iff
  findEnumeration? := consistent.names.findEnumeration?_eq_some_iff
  fieldNames member := by
    obtain ⟨id, -, rfl⟩ := mem_records_iff.1 member
    exact (consistent.fields id).names
  fieldIds member := by
    obtain ⟨id, -, rfl⟩ := mem_records_iff.1 member
    exact (consistent.fields id).ids
  fields member inside := by
    obtain ⟨id, -, rfl⟩ := mem_records_iff.1 member
    exact fields id _ inside

end RecordSchema

end XsdRecords.Layout
