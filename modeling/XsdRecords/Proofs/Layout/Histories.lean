import XsdRecords.Proofs.Layout.Enumerators
import XsdRecords.Proofs.Layout.WellFormed

/-! # Histories of a record schema

A record schema is changed in place by one operation after another.  `Operation.write` says in which
order an operation looks at the schema and writes to it, and what it has written before a fault stays
written.  Every operation looks before it writes, so that one that fails has written nothing
(`run_write`); the ones that do not fail keep the names, the fields and the enumerators distinct. -/

namespace XsdRecords.Layout

/-- Changes of a record schema in place; what was written before a fault stays. -/
abbrev Write :=
  ExceptT SchemaFault (StateM RecordSchema)

namespace Write

/-- Fails where something is taken. -/
def refuseIf (taken : Bool) (fault : SchemaFault) : Write Unit :=
  if taken then throw fault else pure ()

/-- Enters a name, if there is one, into the table. -/
def claim (name : Option String) (d : Definition) : Write Unit :=
  match name with
  | none => pure ()
  | some name => do
    refuseIf ((← get).definition? name).isSome (.duplicateName name)
    modify fun s => { s with names := (name, d) :: s.names }

/-- Enters the name and then appends the record. -/
def createRecord (name : Option String) (kind : RecordKind) : Write Unit := do
  let id : RecordId := ⟨(← get).records.size⟩
  claim name (.record id)
  modify fun s => { s with records := s.records.push { name, kind } }

/-- Enters the name and then appends the enumeration. -/
def createEnumeration (name : Option String) : Write Unit := do
  let id : EnumerationId := ⟨(← get).enumerations.size⟩
  claim name (.enumeration id)
  modify fun s => { s with enumerations := s.enumerations.push { name } }

/-- Appends a field to a record. -/
def appendField (id : RecordId) (field : Field) : Write Unit := do
  let label := (← get).recordLabel id
  let record := (← get).record id
  field.name.forM fun name =>
    refuseIf (record.field? name).isSome (.duplicateFieldName label name)
  field.id.forM fun fieldId =>
    refuseIf (record.fieldById? fieldId).isSome (.duplicateFieldId label fieldId)
  modify fun s => s.modifyRecord id fun r => { r with fields := r.fields ++ [field] }

/-- Appends an enumerator to an enumeration. -/
def addEnumerator (id : EnumerationId) (name : String) (number : Int) : Write Unit := do
  let e := (← get).enumeration id
  refuseIf (e.enumerators.any fun x => x.name = name || x.id = number)
    (.duplicateEnumerator (e.name.getD "") name number)
  modify fun s => s.modifyEnumeration id fun e =>
    { e with enumerators := e.enumerators ++ [⟨name, number⟩] }

/-- Sorts the enumerators of an enumeration and then numbers them. -/
def alphabetize (id : EnumerationId) : Write Unit := do
  modify fun s => s.modifyEnumeration id fun e =>
    { e with enumerators := e.enumerators.mergeSort fun a b => a.name ≤ b.name }
  modify fun s => s.modifyEnumeration id fun e =>
    { e with enumerators := e.enumerators.zipIdx.map fun (x, number) => { x with id := number } }

/-- Removes the records, then the enumerations, then the names. -/
def clear : Write Unit := do
  modify fun s => { s with records := #[] }
  modify fun s => { s with enumerations := #[] }
  modify fun s => { s with names := [] }

end Write

/-- An operation of a record schema. -/
inductive Operation where
  | createRecord (name : Option String) (kind : RecordKind)
  | createEnumeration (name : Option String)
  | appendField (record : RecordId) (field : Field)
  | addEnumerator (enumeration : EnumerationId) (name : String) (id : Int)
  | alphabetize (enumeration : EnumerationId)
  | clear

namespace Operation

/-- What an operation does, write after write. -/
def write : Operation → Write Unit
  | createRecord name kind => Write.createRecord name kind
  | createEnumeration name => Write.createEnumeration name
  | appendField record field => Write.appendField record field
  | addEnumerator enumeration name id => Write.addEnumerator enumeration name id
  | alphabetize enumeration => Write.alphabetize enumeration
  | clear => Write.clear

/-- The schema that an operation makes of a schema, or why it makes none. -/
def apply (s : RecordSchema) : Operation → Except SchemaFault RecordSchema
  | createRecord name kind => (s.createRecord name kind).map (·.1)
  | createEnumeration name => (s.createEnumeration name).map (·.1)
  | appendField record field => s.appendField record field
  | addEnumerator enumeration name id => s.addEnumerator enumeration name id
  | alphabetize enumeration => .ok (s.modifyEnumeration enumeration Enumeration.alphabetize)
  | clear => .ok {}

/-- Whether the definition that an operation is about exists. -/
def isInside (s : RecordSchema) : Operation → Bool
  | appendField record _ => record.index < s.records.size
  | addEnumerator enumeration _ _ | alphabetize enumeration =>
    enumeration.index < s.enumerations.size
  | _ => true

/-- Performs an operation in place: its answer and the schema after it.  There is no answer where the
definition that it is about does not exist. -/
def perform? (op : Operation) (s : RecordSchema) : Option (Except SchemaFault Unit × RecordSchema) :=
  if op.isInside s then some (op.write.run.run s) else none

end Operation

/-! ## Looking before writing -/

section Write

variable (s : RecordSchema)

/-- An answer together with what is left of the schema: all of it after a fault. -/
def settled : Except SchemaFault RecordSchema → Except SchemaFault Unit × RecordSchema
  | .ok changed => (.ok (), changed)
  | .error fault => (.error fault, s)

@[simp] theorem run_get {α : Type} (f : RecordSchema → Write α) :
    (get >>= f : Write α).run.run s = (f s).run.run s := rfl

@[simp] theorem run_modify (f : RecordSchema → RecordSchema) :
    (modify f : Write Unit).run.run s = (.ok (), f s) := rfl

@[simp] theorem run_modify_bind {α : Type} (f : RecordSchema → RecordSchema) (g : Unit → Write α) :
    (modify f >>= g : Write α).run.run s = (g ()).run.run (f s) := rfl

@[simp] theorem run_refuseIf_bind {α : Type} (taken : Bool) (fault : SchemaFault)
    (f : Unit → Write α) :
    (Write.refuseIf taken fault >>= f).run.run s =
      if taken then (.error fault, s) else (f ()).run.run s := by
  cases taken <;> rfl

theorem run_claim_bind {α : Type} (name : Option String) (d : Definition) (f : Unit → Write α) :
    (Write.claim name d >>= f).run.run s =
      match s.reserve name d with
      | .ok names => (f ()).run.run { s with names }
      | .error fault => (.error fault, s) := by
  cases name with
  | none => rfl
  | some name =>
    simp only [Write.claim, RecordSchema.reserve, bind_assoc, run_get, run_refuseIf_bind,
      run_modify_bind]
    split <;> rfl

theorem run_createRecord (name : Option String) (kind : RecordKind) :
    (Write.createRecord name kind).run.run s = settled s ((s.createRecord name kind).map (·.1)) := by
  unfold Write.createRecord RecordSchema.createRecord
  rw [run_get]
  dsimp only
  rw [run_claim_bind]
  cases s.reserve name (.record ⟨s.records.size⟩) <;> rfl

theorem run_createEnumeration (name : Option String) :
    (Write.createEnumeration name).run.run s = settled s ((s.createEnumeration name).map (·.1)) := by
  unfold Write.createEnumeration RecordSchema.createEnumeration
  rw [run_get]
  dsimp only
  rw [run_claim_bind]
  cases s.reserve name (.enumeration ⟨s.enumerations.size⟩) <;> rfl

theorem run_appendField (id : RecordId) (field : Field) :
    (Write.appendField id field).run.run s = settled s (s.appendField id field) := by
  unfold Write.appendField RecordSchema.appendField
  simp only [run_get]
  cases field.name <;> cases field.id <;>
    simp only [Option.forM, pure_bind, run_refuseIf_bind, run_modify]
  · rfl
  · split <;> rfl
  · split <;> rfl
  · split
    · rfl
    · split <;> rfl

theorem modifyEnumeration_congr (id : EnumerationId) {f g : Enumeration → Enumeration}
    (same : f (s.enumeration id) = g (s.enumeration id)) :
    s.modifyEnumeration id f = s.modifyEnumeration id g := by
  unfold RecordSchema.modifyEnumeration
  congr 1
  apply Array.ext_getElem?
  intro i
  rw [Array.getElem?_modify, Array.getElem?_modify]
  split
  · rename_i here
    subst here
    cases found : s.enumerations[id.index]? with
    | none => rfl
    | some e =>
      have own : s.enumeration id = e := by
        rw [RecordSchema.enumeration, Array.getD_eq_getD_getElem?, found, Option.getD_some]
      rw [own] at same
      exact congrArg some same
  · rfl

theorem modifyEnumeration_modifyEnumeration (id : EnumerationId) (f g : Enumeration → Enumeration) :
    (s.modifyEnumeration id f).modifyEnumeration id g =
      s.modifyEnumeration id fun e => g (f e) := by
  unfold RecordSchema.modifyEnumeration
  congr 1
  apply Array.ext_getElem?
  intro i
  simp only [Array.getElem?_modify]
  split
  · exact Option.map_map g f _
  · rfl

theorem run_addEnumerator (id : EnumerationId) (name : String) (number : Int) :
    (Write.addEnumerator id name number).run.run s = settled s (s.addEnumerator id name number) := by
  unfold Write.addEnumerator RecordSchema.addEnumerator Enumeration.add
  simp only [run_get, run_refuseIf_bind]
  split
  · rfl
  · rw [run_modify]
    exact congrArg (Prod.mk _) (modifyEnumeration_congr s id rfl)

theorem run_alphabetize (id : EnumerationId) :
    (Write.alphabetize id).run.run s =
      settled s (.ok (s.modifyEnumeration id Enumeration.alphabetize)) := by
  unfold Write.alphabetize
  rw [run_modify_bind, run_modify, modifyEnumeration_modifyEnumeration]
  rfl

/-- What an operation writes is what it makes of the schema, and nothing if it fails. -/
theorem run_write (op : Operation) : op.write.run.run s = settled s (op.apply s) := by
  cases op with
  | createRecord name kind => exact run_createRecord s name kind
  | createEnumeration name => exact run_createEnumeration s name
  | appendField record field => exact run_appendField s record field
  | addEnumerator enumeration name id => exact run_addEnumerator s enumeration name id
  | alphabetize enumeration => exact run_alphabetize s enumeration
  | clear => rfl

end Write

/-! ## What is kept -/

/-- No name and no id occurs twice among the enumerators of an enumeration. -/
structure EnumeratorsDistinct (e : Enumeration) : Prop where
  names : (e.enumerators.map (·.name)).Nodup
  ids : (e.enumerators.map (·.id)).Nodup

theorem nodup_map_concat {α β : Type} {f : α → β} {l : List α} {a : α} (distinct : (l.map f).Nodup)
    (new : ∀ x ∈ l, f x ≠ f a) : ((l ++ [a]).map f).Nodup := by
  rw [List.map_append, List.map_singleton, ← List.concat_eq_append, List.nodup_concat]
  refine ⟨fun taken => ?_, distinct⟩
  obtain ⟨x, member, same⟩ := List.mem_map.1 taken
  exact new x member same

theorem EnumeratorsDistinct.add {e changed : Enumeration} {name : String} {id : Int}
    (distinct : EnumeratorsDistinct e) (added : e.add name id = .ok changed) :
    EnumeratorsDistinct changed := by
  obtain ⟨new, rfl⟩ := Enumeration.add_eq_ok_iff.1 added
  exact ⟨nodup_map_concat distinct.names fun x member => (new x member).1,
    nodup_map_concat distinct.ids fun x member => (new x member).2⟩

theorem EnumeratorsDistinct.alphabetize {e : Enumeration} (distinct : EnumeratorsDistinct e) :
    EnumeratorsDistinct e.alphabetize := by
  constructor
  · rw [Enumeration.enumerators_alphabetize distinct.names, names_counted]
    exact (pairwise_alphabetical _).imp ne_of_lt
  · rw [Enumeration.enumerators_alphabetize distinct.names]
    exact nodup_ids_counted _

/-- In an enumeration the ids lead back to the names and the names to the ids. -/
theorem EnumeratorsDistinct.idOf?_eq_some_iff {e : Enumeration} (distinct : EnumeratorsDistinct e)
    {name : String} {id : Int} : e.idOf? name = some id ↔ e.nameOf? id = some name := by
  rw [Enumeration.idOf?_eq_some_iff distinct.names, Enumeration.nameOf?_eq_some_iff distinct.ids]

namespace RecordSchema

/-- What every operation keeps. -/
structure Kept (s : RecordSchema) : Prop where
  consistent : s.Consistent
  enumerators (id : EnumerationId) : EnumeratorsDistinct (s.enumeration id)

theorem kept_empty : Kept {} where
  consistent := consistent_empty
  enumerators _ := ⟨.nil, .nil⟩

variable {s changed : RecordSchema}

theorem Kept.createRecord {name : Option String} {kind : RecordKind} {id : RecordId} (kept : s.Kept)
    (created : s.createRecord name kind = .ok (changed, id)) : changed.Kept where
  consistent := kept.consistent.createRecord created
  enumerators := by
    obtain ⟨names, -, -, rfl⟩ := createRecord_eq_ok created
    exact kept.enumerators

theorem Kept.createEnumeration {name : Option String} {id : EnumerationId} (kept : s.Kept)
    (created : s.createEnumeration name = .ok (changed, id)) : changed.Kept where
  consistent := kept.consistent.createEnumeration created
  enumerators other := by
    obtain ⟨names, -, -, rfl⟩ := createEnumeration_eq_ok created
    rw [enumeration_push]
    split
    · exact ⟨.nil, .nil⟩
    · exact kept.enumerators other

theorem Kept.appendField {id : RecordId} {field : Field} (kept : s.Kept)
    (appended : s.appendField id field = .ok changed) : changed.Kept where
  consistent := kept.consistent.appendField appended
  enumerators := by
    obtain ⟨-, rfl⟩ := appendField_eq_ok appended
    exact kept.enumerators

theorem Kept.modifyEnumeration {id : EnumerationId} {f : Enumeration → Enumeration} (kept : s.Kept)
    (inside : id.index < s.enumerations.size)
    (name : (f (s.enumeration id)).name = (s.enumeration id).name)
    (distinct : EnumeratorsDistinct (f (s.enumeration id))) : (s.modifyEnumeration id f).Kept where
  consistent := kept.consistent.modifyEnumeration id f name
  enumerators other := by
    rw [enumeration_modifyEnumeration_eq _ _ _ _ inside]
    split
    · exact distinct
    · exact kept.enumerators other

theorem Kept.addEnumerator {id : EnumerationId} {name : String} {number : Int} (kept : s.Kept)
    (inside : id.index < s.enumerations.size)
    (added : s.addEnumerator id name number = .ok changed) : changed.Kept := by
  obtain ⟨e, entered, rfl⟩ := addEnumerator_eq_ok added
  refine kept.modifyEnumeration inside ?_ ((kept.enumerators id).add entered)
  obtain ⟨-, rfl⟩ := Enumeration.add_eq_ok_iff.1 entered
  rfl

theorem exists_of_map_eq_ok {α β : Type} {result : Except SchemaFault α} {f : α → β} {b : β}
    (mapped : result.map f = .ok b) : ∃ a, result = .ok a ∧ f a = b := by
  cases result with
  | error fault => cases mapped
  | ok a => exact ⟨a, rfl, Except.ok.inj mapped⟩

/-- An operation on a definition that exists keeps what there is distinct. -/
theorem Kept.apply {op : Operation} (kept : s.Kept) (inside : op.isInside s = true)
    (applied : op.apply s = .ok changed) : changed.Kept := by
  cases op with
  | createRecord name kind =>
    obtain ⟨⟨_, id⟩, created, rfl⟩ := exists_of_map_eq_ok applied
    exact kept.createRecord created
  | createEnumeration name =>
    obtain ⟨⟨_, id⟩, created, rfl⟩ := exists_of_map_eq_ok applied
    exact kept.createEnumeration created
  | appendField record field => exact kept.appendField applied
  | addEnumerator enumeration name id =>
    exact kept.addEnumerator (of_decide_eq_true inside) applied
  | alphabetize enumeration =>
    obtain rfl := Except.ok.inj applied
    exact kept.modifyEnumeration (of_decide_eq_true inside) rfl
      (kept.enumerators enumeration).alphabetize
  | clear =>
    obtain rfl := Except.ok.inj applied
    exact kept_empty

end RecordSchema

/-! ## When an operation fails -/

/-- The name that the definition with a handle has, if it exists and has one. -/
def RecordSchema.nameOf? (s : RecordSchema) : Definition → Option String
  | .record id => s.records[id.index]?.bind (·.name)
  | .enumeration id => s.enumerations[id.index]?.bind (·.name)

theorem RecordSchema.NamesAgree.definition?_eq_some_iff {s : RecordSchema} (agree : s.NamesAgree)
    {name : String} {d : Definition} : s.definition? name = some d ↔ s.nameOf? d = some name := by
  cases d with
  | record id =>
    rw [agree.record_iff, nameOf?, RecordSchema.record, Array.getD_eq_getD_getElem?]
    by_cases inside : id.index < s.records.size
    · simp [inside]
    · simp [inside]
  | enumeration id =>
    rw [agree.enumeration_iff, nameOf?, RecordSchema.enumeration, Array.getD_eq_getD_getElem?]
    by_cases inside : id.index < s.enumerations.size
    · simp [inside]
    · simp [inside]

/-- Whether what an operation is to add has a name or an id that is taken. -/
def Operation.Conflicts (s : RecordSchema) : Operation → Prop
  | createRecord name _ | createEnumeration name =>
    ∃ taken d, name = some taken ∧ s.nameOf? d = some taken
  | appendField record field =>
    ∃ other ∈ (s.record record).fields,
      (∃ name, other.name = some name ∧ field.name = some name) ∨
        ∃ id, other.id = some id ∧ field.id = some id
  | addEnumerator enumeration name id =>
    ∃ x ∈ (s.enumeration enumeration).enumerators, x.name = name ∨ x.id = id
  | alphabetize _ | clear => False

namespace RecordSchema

variable {s : RecordSchema}

theorem exists_reserve_eq_error_iff (agree : s.NamesAgree) {name : Option String} {d : Definition} :
    (∃ fault, s.reserve name d = .error fault) ↔
      ∃ taken d, name = some taken ∧ s.nameOf? d = some taken := by
  cases name with
  | none => simp [reserve]
  | some name =>
    simp only [reserve, ← agree.definition?_eq_some_iff]
    cases found : s.definition? name <;> simp [found]

theorem exists_createRecord_eq_error_iff {name : Option String} {kind : RecordKind} :
    (∃ fault, (s.createRecord name kind).map (·.1) = .error fault) ↔
      ∃ fault, s.reserve name (.record ⟨s.records.size⟩) = .error fault := by
  unfold createRecord
  cases reserved : s.reserve name (.record ⟨s.records.size⟩) <;>
    simp [reserved, bind, Except.bind, Except.map, pure, Except.pure]

theorem exists_createEnumeration_eq_error_iff {name : Option String} :
    (∃ fault, (s.createEnumeration name).map (·.1) = .error fault) ↔
      ∃ fault, s.reserve name (.enumeration ⟨s.enumerations.size⟩) = .error fault := by
  unfold createEnumeration
  cases reserved : s.reserve name (.enumeration ⟨s.enumerations.size⟩) <;>
    simp [reserved, bind, Except.bind, Except.map, pure, Except.pure]

/-- A field that no other one is in the way of is appended. -/
theorem appendField_of_admits {id : RecordId} {field : Field}
    (admits : Record.Admits (s.record id) field) :
    s.appendField id field =
      .ok (s.modifyRecord id fun r => { r with fields := r.fields ++ [field] }) := by
  obtain ⟨names, ids⟩ := admits
  unfold appendField
  cases nameCase : field.name <;> cases idCase : field.id <;>
    simp [nameCase, idCase, names, ids, pure, Except.pure]

theorem not_admits_iff {r : Record} {field : Field} :
    ¬Record.Admits r field ↔ ∃ other ∈ r.fields,
      (∃ name, other.name = some name ∧ field.name = some name) ∨
        ∃ id, other.id = some id ∧ field.id = some id := by
  simp only [Record.Admits, Record.field?, Record.fieldById?, List.find?_eq_none, decide_eq_true_eq]
  grind

theorem exists_appendField_eq_error_iff {id : RecordId} {field : Field} :
    (∃ fault, s.appendField id field = .error fault) ↔ ¬Record.Admits (s.record id) field := by
  constructor
  · rintro ⟨fault, refused⟩ admits
    rw [appendField_of_admits admits] at refused
    cases refused
  · intro conflict
    cases appended : s.appendField id field with
    | error fault => exact ⟨fault, rfl⟩
    | ok changed => exact absurd (appendField_eq_ok appended).1 conflict

theorem exists_addEnumerator_eq_error_iff {id : EnumerationId} {name : String} {number : Int} :
    (∃ fault, s.addEnumerator id name number = .error fault) ↔
      ∃ x ∈ (s.enumeration id).enumerators, x.name = name ∨ x.id = number := by
  rw [← @any_taken_iff _ (name, number)]
  unfold addEnumerator Enumeration.add
  split <;> simp_all [bind, Except.bind, pure, Except.pure]

theorem exists_apply_eq_error_iff (agree : s.NamesAgree) {op : Operation} :
    (∃ fault, op.apply s = .error fault) ↔ op.Conflicts s := by
  cases op with
  | createRecord name kind =>
    exact exists_createRecord_eq_error_iff.trans (exists_reserve_eq_error_iff agree)
  | createEnumeration name =>
    exact exists_createEnumeration_eq_error_iff.trans (exists_reserve_eq_error_iff agree)
  | appendField record field => exact exists_appendField_eq_error_iff.trans not_admits_iff
  | addEnumerator enumeration name id => exact exists_addEnumerator_eq_error_iff
  | alphabetize enumeration => simp [Operation.apply, Operation.Conflicts]
  | clear => simp [Operation.apply, Operation.Conflicts]

/-! ## Histories -/

theorem perform?_eq_some_iff {op : Operation} {answer : Except SchemaFault Unit}
    {changed : RecordSchema} :
    op.perform? s = some (answer, changed) ↔
      op.isInside s = true ∧ settled s (op.apply s) = (answer, changed) := by
  rw [Operation.perform?, ← run_write]
  split
  · rename_i inside
    rw [and_iff_right inside, Option.some.injEq]
  · rename_i outside
    exact iff_of_false nofun fun both => outside both.1

/-- Performs operations one after another; those that fail are passed over. -/
def performAll? (s : RecordSchema) : List Operation → Option RecordSchema
  | [] => some s
  | op :: rest => (op.perform? s).bind fun (_, s) => s.performAll? rest

theorem Kept.perform {op : Operation} {answer : Except SchemaFault Unit} {changed : RecordSchema}
    (kept : s.Kept) (performed : op.perform? s = some (answer, changed)) : changed.Kept := by
  obtain ⟨inside, done⟩ := perform?_eq_some_iff.1 performed
  cases applied : op.apply s with
  | ok made =>
    rw [applied] at done
    obtain ⟨-, rfl⟩ := Prod.mk.inj done
    exact kept.apply inside applied
  | error fault =>
    rw [applied] at done
    obtain ⟨-, rfl⟩ := Prod.mk.inj done
    exact kept

theorem Kept.performAll {operations : List Operation} {s' : RecordSchema} (kept : s.Kept)
    (performed : s.performAll? operations = some s') : s'.Kept := by
  induction operations generalizing s with
  | nil => exact Option.some.inj performed ▸ kept
  | cons op rest ih =>
    obtain ⟨⟨answer, changed⟩, first, later⟩ := Option.bind_eq_some_iff.1 performed
    exact ih (kept.perform first) later

/-- A schema whose name table holds the names of its definitions and nothing else, and in which no
name and no id is given twice. -/
structure Sound (s : RecordSchema) : Prop where
  definition?_iff {name : String} {d : Definition} :
    s.definition? name = some d ↔ s.nameOf? d = some name
  names : (s.records.toList.filterMap (·.name) ++ s.enumerations.toList.filterMap (·.name)).Nodup
  fields {record : Record} : record ∈ s.records → FieldsDistinct record
  enumerators {e : Enumeration} : e ∈ s.enumerations → EnumeratorsDistinct e
  idOf?_iff {e : Enumeration} {name : String} {id : Int} : e ∈ s.enumerations →
    (e.idOf? name = some id ↔ e.nameOf? id = some name)

theorem Kept.sound (kept : s.Kept) : s.Sound := by
  have enumerators {e : Enumeration} (member : e ∈ s.enumerations) : EnumeratorsDistinct e := by
    obtain ⟨id, -, rfl⟩ := mem_enumerations_iff.1 member
    exact kept.enumerators id
  refine ⟨kept.consistent.names.definition?_eq_some_iff, kept.consistent.names.nodup_names,
    fun member => ?_, enumerators, fun member => (enumerators member).idOf?_eq_some_iff⟩
  obtain ⟨id, -, rfl⟩ := mem_records_iff.1 member
  exact kept.consistent.fields id

/-- Whatever operations have been performed, with and without success, the name table holds exactly
the names of the definitions, no name and no id is given twice, and ids and names of enumerators lead
to each other.  The next operation fails exactly if something that it would add is taken, and what
fails leaves the schema as it was. -/
theorem performAll_sound {operations : List Operation} {s : RecordSchema}
    (performed : performAll? {} operations = some s) :
    s.Sound ∧ ∀ op : Operation,
      ((∃ fault changed, op.perform? s = some (.error fault, changed)) ↔
        op.isInside s = true ∧ op.Conflicts s) ∧
      ∀ {fault : SchemaFault} {changed : RecordSchema},
        op.perform? s = some (.error fault, changed) → changed = s := by
  have kept := kept_empty.performAll performed
  refine ⟨kept.sound, fun op => ?_⟩
  have failed {fault : SchemaFault} {changed : RecordSchema} :
      op.perform? s = some (.error fault, changed) ↔
        op.isInside s = true ∧ op.apply s = .error fault ∧ s = changed := by
    rw [perform?_eq_some_iff]
    cases op.apply s <;> simp [settled]
  refine ⟨?_, fun fails => (failed.1 fails).2.2.symm⟩
  rw [← exists_apply_eq_error_iff kept.consistent.names]
  constructor
  · rintro ⟨fault, changed, fails⟩
    obtain ⟨inside, refused, -⟩ := failed.1 fails
    exact ⟨inside, fault, refused⟩
  · rintro ⟨inside, fault, refused⟩
    exact ⟨fault, s, failed.2 ⟨inside, refused, rfl⟩⟩

/-- Operations of which every second one is refused. -/
def refusedHistory : List Operation :=
  [.createEnumeration (some "E"), .createRecord (some "E") .sequence,
    .addEnumerator ⟨0⟩ "b" 0, .addEnumerator ⟨0⟩ "b" 1,
    .addEnumerator ⟨0⟩ "a" 7, .addEnumerator ⟨0⟩ "c" 7,
    .createEnumeration (some "E"),
    .createRecord (some "R") .choice, .createRecord (some "R") .sequence,
    .appendField ⟨0⟩ { elemType := .int, name := some "x", id := some 1 },
    .appendField ⟨0⟩ { elemType := .int, name := some "y", id := some 1 }]

/-- What they leave. -/
def refusedSchema : RecordSchema where
  records := #[{ name := some "R", kind := .choice,
                 fields := [{ elemType := .int, name := some "x", id := some 1 }] }]
  enumerations := #[{ name := some "E", enumerators := [⟨"b", 0⟩, ⟨"a", 7⟩] }]
  names := [("R", .record ⟨0⟩), ("E", .enumeration ⟨0⟩)]

theorem performAll_sound_refused :
    performAll? {} refusedHistory = some refusedSchema ∧ refusedSchema.Sound ∧
      (Operation.createRecord (some "E") .choice).Conflicts refusedSchema := by
  have performed : performAll? {} refusedHistory = some refusedSchema := by decide +kernel
  obtain ⟨sound, operations⟩ := performAll_sound performed
  refine ⟨performed, sound, ((operations (.createRecord (some "E") .choice)).1.1 ?_).2⟩
  exact ⟨.duplicateName "E", refusedSchema, by decide +kernel⟩

end RecordSchema

end XsdRecords.Layout
