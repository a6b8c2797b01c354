import XsdRecords.Layout.RecordSchema

/-! # What the operations of a record schema do

One inversion lemma for each operation that may fail, and the invariant that they keep: the name
table holds exactly the names of the records and enumerations, and within a record neither a field
name nor a field id occurs twice. -/

namespace XsdRecords.Layout.RecordSchema

/-! ## Records and enumerations by place -/

theorem record_push (s : RecordSchema) (r : Record) (names : List (String × Definition))
    (id : RecordId) :
    record { s with records := s.records.push r, names } id =
      if id.index = s.records.size then r else s.record id := by
  simp only [record, Array.getD_eq_getD_getElem?, Array.getElem?_push]
  split <;> rfl

theorem enumeration_push (s : RecordSchema) (e : Enumeration) (names : List (String × Definition))
    (id : EnumerationId) :
    enumeration { s with enumerations := s.enumerations.push e, names } id =
      if id.index = s.enumerations.size then e else s.enumeration id := by
  simp only [enumeration, Array.getD_eq_getD_getElem?, Array.getElem?_push]
  split <;> rfl

@[simp] theorem size_modifyRecord (s : RecordSchema) (id : RecordId) (f : Record → Record) :
    (s.modifyRecord id f).records.size = s.records.size :=
  Array.size_modify

@[simp] theorem size_modifyEnumeration (s : RecordSchema) (id : EnumerationId)
    (f : Enumeration → Enumeration) :
    (s.modifyEnumeration id f).enumerations.size = s.enumerations.size :=
  Array.size_modify

@[simp] theorem record_modifyEnumeration (s : RecordSchema) (id : EnumerationId)
    (f : Enumeration → Enumeration) (other : RecordId) :
    (s.modifyEnumeration id f).record other = s.record other := rfl

@[simp] theorem enumeration_modifyRecord (s : RecordSchema) (id : RecordId)
    (f : Record → Record) (other : EnumerationId) :
    (s.modifyRecord id f).enumeration other = s.enumeration other := rfl

theorem record_modifyRecord_eq (s : RecordSchema) (id other : RecordId) (f : Record → Record)
    (h : id.index < s.records.size) :
    (s.modifyRecord id f).record other =
      if other = id then f (s.record id) else s.record other := by
  by_cases same : other = id
  · rw [if_pos same, same, record_modifyRecord h]
  · rw [if_neg same, record_modifyRecord_of_ne (Ne.symm same)]

theorem enumeration_modifyEnumeration_eq (s : RecordSchema) (id other : EnumerationId)
    (f : Enumeration → Enumeration) (h : id.index < s.enumerations.size) :
    (s.modifyEnumeration id f).enumeration other =
      if other = id then f (s.enumeration id) else s.enumeration other := by
  by_cases same : other = id
  · rw [if_pos same, same, enumeration_modifyEnumeration h]
  · have places : id.index ≠ other.index := fun places => same (congrArg EnumerationId.mk places.symm)
    rw [if_neg same]
    simp [enumeration, modifyEnumeration, Array.getD_eq_getD_getElem?, Array.getElem?_modify, places]

theorem modifyRecord_of_size_le {s : RecordSchema} {id : RecordId}
    (h : ¬id.index < s.records.size) (f : Record → Record) : s.modifyRecord id f = s := by
  simp only [modifyRecord, Array.modify, Array.modifyM, h, dite_false]
  rfl

/-- What a change keeps of every record, it keeps of the records of a schema. -/
theorem get_record_modifyRecord {α : Type} (get : Record → α) (s : RecordSchema)
    (id other : RecordId) {f : Record → Record} (keeps : ∀ r, get (f r) = get r) :
    get ((s.modifyRecord id f).record other) = get (s.record other) := by
  by_cases bound : id.index < s.records.size
  · rw [record_modifyRecord_eq _ _ _ _ bound]
    split
    · rename_i same
      rw [same, keeps]
    · rfl
  · rw [modifyRecord_of_size_le bound]

theorem name_enumeration_modifyEnumeration (s : RecordSchema) (id other : EnumerationId)
    (f : Enumeration → Enumeration)
    (keeps : (f (s.enumeration id)).name = (s.enumeration id).name) :
    ((s.modifyEnumeration id f).enumeration other).name = (s.enumeration other).name := by
  simp only [enumeration, modifyEnumeration, Array.getD_eq_getD_getElem?,
    Array.getElem?_modify] at *
  split
  · rename_i same
    rw [← same]
    cases found : s.enumerations[id.index]? <;> simp_all
  · rfl

/-! ## What an operation that succeeds did -/

theorem reserve_eq_ok {s : RecordSchema} {name : Option String} {d : Definition}
    {names : List (String × Definition)} (h : s.reserve name d = .ok names) (other : String) :
    names.lookup other = if name = some other then some d else s.definition? other := by
  unfold reserve at h
  split at h
  · cases h
    simp [definition?]
  · rename_i name
    split at h
    · cases h
    · cases h
      by_cases same : other = name
      · simp [same]
      · simp [List.lookup_cons, beq_false_of_ne same, Ne.symm same, definition?]

theorem definition?_eq_none_of_reserve {s : RecordSchema} {name : String} {d : Definition}
    {names : List (String × Definition)} (h : s.reserve (some name) d = .ok names) :
    s.definition? name = none := by
  simp only [reserve] at h
  split at h
  · cases h
  · rename_i free
    simpa using free

/-- Under a name that was reserved there is the new definition, and nothing was before. -/
theorem lookup_reserve_iff {s : RecordSchema} {name : Option String} {d : Definition}
    {names : List (String × Definition)} (h : s.reserve name d = .ok names) (other : String)
    (found : Definition) :
    names.lookup other = some found ↔
      (name = some other ∧ found = d) ∨ s.definition? other = some found := by
  rw [reserve_eq_ok h]
  by_cases own : name = some other
  · subst own
    simp [definition?_eq_none_of_reserve h, eq_comm]
  · simp [own]

/-- A record that was created: its place, its name is new, and what the schema is now. -/
theorem createRecord_eq_ok {s changed : RecordSchema} {name : Option String} {kind : RecordKind}
    {id : RecordId} (h : s.createRecord name kind = .ok (changed, id)) :
    ∃ names, s.reserve name (.record id) = .ok names ∧ id = ⟨s.records.size⟩ ∧
      changed = { s with records := s.records.push { name, kind }, names } := by
  unfold createRecord at h
  cases taken : s.reserve name (.record ⟨s.records.size⟩) with
  | error fault => simp [taken, bind, Except.bind] at h
  | ok names =>
    simp only [taken, bind, Except.bind, pure, Except.pure, Except.ok.injEq, Prod.mk.injEq] at h
    obtain ⟨rfl, rfl⟩ := h
    exact ⟨names, taken, rfl, rfl⟩

/-- An unnamed record can always be created. -/
theorem createRecord_none (s : RecordSchema) (kind : RecordKind) :
    s.createRecord none kind =
      .ok ({ s with records := s.records.push { kind } }, ⟨s.records.size⟩) := rfl

theorem createEnumeration_eq_ok {s changed : RecordSchema} {name : Option String}
    {id : EnumerationId} (h : s.createEnumeration name = .ok (changed, id)) :
    ∃ names, s.reserve name (.enumeration id) = .ok names ∧ id = ⟨s.enumerations.size⟩ ∧
      changed = { s with enumerations := s.enumerations.push { name }, names } := by
  unfold createEnumeration at h
  cases taken : s.reserve name (.enumeration ⟨s.enumerations.size⟩) with
  | error fault => simp [taken, bind, Except.bind] at h
  | ok names =>
    simp only [taken, bind, Except.bind, pure, Except.pure, Except.ok.injEq, Prod.mk.injEq] at h
    obtain ⟨rfl, rfl⟩ := h
    exact ⟨names, taken, rfl, rfl⟩

/-- Whether a field could be appended to a record. -/
def Record.Admits (r : Record) (field : Field) : Prop :=
  (∀ name, field.name = some name → r.field? name = none) ∧
    ∀ id, field.id = some id → r.fieldById? id = none

theorem appendField_eq_ok {s changed : RecordSchema} {id : RecordId} {field : Field}
    (h : s.appendField id field = .ok changed) :
    Record.Admits (s.record id) field ∧
      changed = s.modifyRecord id fun r => { r with fields := r.fields ++ [field] } := by
  unfold appendField at h
  unfold Record.Admits
  cases nameCase : field.name <;> cases idCase : field.id <;>
    simp only [nameCase, idCase, bind, Except.bind, pure, Except.pure] at h <;>
    (try split at h) <;> (try split at h) <;> simp_all [throw, throwThe, MonadExceptOf.throw]

/-- A field without a name and an id can always be appended. -/
theorem appendField_anonymous (s : RecordSchema) (id : RecordId) (field : Field)
    (name : field.name = none) (number : field.id = none) :
    s.appendField id field =
      .ok (s.modifyRecord id fun r => { r with fields := r.fields ++ [field] }) := by
  simp [appendField, name, number, pure, Except.pure]

theorem addEnumerator_eq_ok {s changed : RecordSchema} {id : EnumerationId} {name : String}
    {number : Int} (h : s.addEnumerator id name number = .ok changed) :
    ∃ e, (s.enumeration id).add name number = .ok e ∧
      changed = s.modifyEnumeration id fun _ => e := by
  unfold addEnumerator at h
  cases added : (s.enumeration id).add name number with
  | error fault => simp [added, bind, Except.bind] at h
  | ok e =>
    simp only [added, bind, Except.bind, pure, Except.pure, Except.ok.injEq] at h
    exact ⟨e, rfl, h.symm⟩

theorem addEnumerator_eq_error {s : RecordSchema} {id : EnumerationId} {name : String}
    {number : Int} {fault : SchemaFault} (h : s.addEnumerator id name number = .error fault) :
    (s.enumeration id).add name number = .error fault := by
  unfold addEnumerator at h
  cases added : (s.enumeration id).add name number with
  | error other =>
    simp only [added, bind, Except.bind, Except.error.injEq] at h
    rw [h]
  | ok e => simp [added, bind, Except.bind, pure, Except.pure] at h

/-! ## The invariant of a record schema -/

/-- The name table holds exactly the names of the records and enumerations. -/
structure NamesAgree (s : RecordSchema) : Prop where
  record_iff (name : String) (id : RecordId) :
    s.definition? name = some (.record id) ↔
      id.index < s.records.size ∧ (s.record id).name = some name
  enumeration_iff (name : String) (id : EnumerationId) :
    s.definition? name = some (.enumeration id) ↔
      id.index < s.enumerations.size ∧ (s.enumeration id).name = some name

/-- No name and no id occurs twice among the fields of a record. -/
structure FieldsDistinct (r : Record) : Prop where
  names : (r.fields.filterMap (·.name)).Nodup
  ids : (r.fields.filterMap (·.id)).Nodup

/-- The invariant of a record schema. -/
structure Consistent (s : RecordSchema) : Prop where
  names : s.NamesAgree
  fields (id : RecordId) : FieldsDistinct (s.record id)

theorem consistent_empty : Consistent {} where
  names := ⟨fun _ _ => by simp [definition?], fun _ _ => by simp [definition?]⟩
  fields _ := ⟨.nil, .nil⟩

theorem NamesAgree.createRecord {s changed : RecordSchema} {name : Option String}
    {kind : RecordKind} {id : RecordId} (agree : s.NamesAgree)
    (h : s.createRecord name kind = .ok (changed, id)) : changed.NamesAgree := by
  obtain ⟨names, reserved, rfl, rfl⟩ := createRecord_eq_ok h
  constructor
  · intro other id
    rw [definition?, lookup_reserve_iff reserved, agree.record_iff, record_push, Array.size_push]
    by_cases new : id.index = s.records.size
    · have place : id = ⟨s.records.size⟩ := congrArg RecordId.mk new
      simp [place]
    · have notNew : id ≠ ⟨s.records.size⟩ := fun same => new (congrArg RecordId.index same)
      simp only [Definition.record.injEq, notNew, and_false, false_or, new, if_false,
        and_congr_left_iff]
      omega
  · intro other id
    have found : names.lookup other = some (.enumeration id) ↔
        s.definition? other = some (.enumeration id) := by
      simp [lookup_reserve_iff reserved]
    exact found.trans (agree.enumeration_iff other id)

theorem NamesAgree.createEnumeration {s changed : RecordSchema} {name : Option String}
    {id : EnumerationId} (agree : s.NamesAgree)
    (h : s.createEnumeration name = .ok (changed, id)) : changed.NamesAgree := by
  obtain ⟨names, reserved, rfl, rfl⟩ := createEnumeration_eq_ok h
  constructor
  · intro other id
    have found : names.lookup other = some (.record id) ↔
        s.definition? other = some (.record id) := by
      simp [lookup_reserve_iff reserved]
    exact found.trans (agree.record_iff other id)
  · intro other id
    rw [definition?, lookup_reserve_iff reserved, agree.enumeration_iff, enumeration_push,
      Array.size_push]
    by_cases new : id.index = s.enumerations.size
    · have place : id = ⟨s.enumerations.size⟩ := congrArg EnumerationId.mk new
      simp [place]
    · have notNew : id ≠ ⟨s.enumerations.size⟩ :=
        fun same => new (congrArg EnumerationId.index same)
      simp only [Definition.enumeration.injEq, notNew, and_false, false_or, new, if_false,
        and_congr_left_iff]
      omega

theorem NamesAgree.appendField {s changed : RecordSchema} {id : RecordId} {field : Field}
    (agree : s.NamesAgree) (h : s.appendField id field = .ok changed) : changed.NamesAgree := by
  obtain ⟨-, rfl⟩ := appendField_eq_ok h
  constructor
  · intro name other
    rw [size_modifyRecord]
    change s.definition? name = _ ↔ _
    rw [agree.record_iff, get_record_modifyRecord Record.name]
    exact fun _ => rfl
  · exact agree.enumeration_iff

theorem NamesAgree.modifyEnumeration {s : RecordSchema} (agree : s.NamesAgree)
    (id : EnumerationId) (f : Enumeration → Enumeration)
    (keeps : (f (s.enumeration id)).name = (s.enumeration id).name) :
    (s.modifyEnumeration id f).NamesAgree := by
  constructor
  · exact agree.record_iff
  · intro name other
    rw [size_modifyEnumeration, name_enumeration_modifyEnumeration _ _ _ _ keeps]
    exact agree.enumeration_iff name other

theorem FieldsDistinct.append {r : Record} {field : Field} (distinct : FieldsDistinct r)
    (admits : Record.Admits r field) :
    FieldsDistinct { r with fields := r.fields ++ [field] } := by
  constructor
  · rw [List.filterMap_append, List.nodup_append]
    refine ⟨distinct.names, ?_, ?_⟩
    · cases h : field.name <;> simp [h]
    · intro name known other added same
      subst same
      obtain ⟨old, member, named⟩ := List.mem_filterMap.1 known
      have new : field.name = some name := by
        cases h : field.name <;> simp_all
      have absent := List.find?_eq_none.1 (admits.1 name new) old member
      exact absent (decide_eq_true named)
  · rw [List.filterMap_append, List.nodup_append]
    refine ⟨distinct.ids, ?_, ?_⟩
    · cases h : field.id <;> simp [h]
    · intro id known other added same
      subst same
      obtain ⟨old, member, numbered⟩ := List.mem_filterMap.1 known
      have new : field.id = some id := by
        cases h : field.id <;> simp_all
      have absent := List.find?_eq_none.1 (admits.2 id new) old member
      exact absent (decide_eq_true numbered)

theorem Consistent.createRecord {s changed : RecordSchema} {name : Option String}
    {kind : RecordKind} {id : RecordId} (consistent : s.Consistent)
    (h : s.createRecord name kind = .ok (changed, id)) : changed.Consistent where
  names := consistent.names.createRecord h
  fields other := by
    obtain ⟨names, -, rfl, rfl⟩ := createRecord_eq_ok h
    rw [record_push]
    split
    · exact ⟨.nil, .nil⟩
    · exact consistent.fields other

theorem Consistent.createEnumeration {s changed : RecordSchema} {name : Option String}
    {id : EnumerationId} (consistent : s.Consistent)
    (h : s.createEnumeration name = .ok (changed, id)) : changed.Consistent where
  names := consistent.names.createEnumeration h
  fields other := by
    obtain ⟨names, -, rfl, rfl⟩ := createEnumeration_eq_ok h
    exact consistent.fields other

theorem Consistent.appendField {s changed : RecordSchema} {id : RecordId} {field : Field}
    (consistent : s.Consistent) (h : s.appendField id field = .ok changed) :
    changed.Consistent where
  names := consistent.names.appendField h
  fields other := by
    obtain ⟨admits, rfl⟩ := appendField_eq_ok h
    by_cases bound : id.index < s.records.size
    · rw [record_modifyRecord_eq _ _ _ _ bound]
      split
      · exact (consistent.fields id).append admits
      · exact consistent.fields other
    · rw [modifyRecord_of_size_le bound]
      exact consistent.fields other

theorem Consistent.modifyEnumeration {s : RecordSchema} (consistent : s.Consistent)
    (id : EnumerationId) (f : Enumeration → Enumeration)
    (keeps : (f (s.enumeration id)).name = (s.enumeration id).name) :
    (s.modifyEnumeration id f).Consistent where
  names := consistent.names.modifyEnumeration id f keeps
  fields := consistent.fields

end XsdRecords.Layout.RecordSchema
