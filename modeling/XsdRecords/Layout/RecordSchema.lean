import XsdRecords.Layout.DefaultValue
import XsdRecords.Layout.FormattingMode

/-! # Record schemas

A record schema is an ordered collection of records and enumerations, which share one space of
names.  Fields of a record have distinct names and distinct ids where they have any, and
enumerators of an enumeration have distinct names and ids.  An operation that fails changes
nothing. -/

namespace XsdRecords.Layout

/-- The place of a record in its schema. -/
structure RecordId where
  index : Nat
  deriving DecidableEq, Repr

/-- The place of an enumeration in its schema. -/
structure EnumerationId where
  index : Nat
  deriving DecidableEq, Repr

/-- Whether all fields of a record may be present, or exactly one is. -/
inductive RecordKind where
  | sequence
  | choice
  deriving DecidableEq, Repr

instance : Inhabited RecordKind := ⟨.sequence⟩

def RecordKind.name : RecordKind → String
  | sequence => "SEQUENCE"
  | choice => "CHOICE"

/-- The definition whose instances the values of a field are. -/
inductive Constraint where
  | record (id : RecordId)
  | enumeration (id : EnumerationId)
  deriving DecidableEq, Repr

structure Field where
  elemType : ElemType
  name : Option String := none
  id : Option Int := none
  constraint : Option Constraint := none
  nullable : Bool := false
  formattingMode : FormattingMode := .default
  defaultValue : Option DefaultValue := none
  deriving DecidableEq, Repr

structure Record where
  name : Option String := none
  kind : RecordKind := .sequence
  fields : List Field := []
  deriving DecidableEq, Repr, Inhabited

def Record.field? (r : Record) (name : String) : Option Field :=
  r.fields.find? (·.name = some name)

def Record.fieldById? (r : Record) (id : Int) : Option Field :=
  r.fields.find? (·.id = some id)

structure Enumerator where
  name : String
  id : Int
  deriving DecidableEq, Repr

structure Enumeration where
  name : Option String := none
  enumerators : List Enumerator := []
  deriving DecidableEq, Repr, Inhabited

inductive SchemaFault where
  | duplicateName (name : String)
  | duplicateFieldName (record field : String)
  | duplicateFieldId (record : String) (id : Int)
  | duplicateEnumerator (enumeration name : String) (id : Int)
  | invalidDefault (type : ElemType) (text : String)
  deriving DecidableEq, Repr

def SchemaFault.message : SchemaFault → String
  | .duplicateName name => s!"duplicate definition name '{name}'"
  | .duplicateFieldName record field => s!"duplicate field name '{field}' in record '{record}'"
  | .duplicateFieldId record id => s!"duplicate field id {id} in record '{record}'"
  | .duplicateEnumerator enumeration name id =>
    s!"duplicate enumerator '{name}' ({id}) in enumeration '{enumeration}'"
  | .invalidDefault type text => s!"invalid default value '{text}' for type {type.name}"

/-- Reads a default value or tells that there is none. -/
def DefaultValue.read (type : ElemType) (text : String) : Except SchemaFault DefaultValue :=
  match DefaultValue.read? type text with
  | some value => .ok value
  | none => .error (.invalidDefault type text)

namespace Enumeration

/-- Appends an enumerator with a new name and a new id. -/
def add (e : Enumeration) (name : String) (id : Int) : Except SchemaFault Enumeration :=
  if e.enumerators.any (fun x => x.name = name || x.id = id) then
    .error (.duplicateEnumerator (e.name.getD "") name id)
  else .ok { e with enumerators := e.enumerators ++ [⟨name, id⟩] }

/-- An enumerator is added exactly if its name and its id are new. -/
theorem add_eq_ok_iff {e changed : Enumeration} {name : String} {id : Int} :
    e.add name id = .ok changed ↔
      (∀ x ∈ e.enumerators, x.name ≠ name ∧ x.id ≠ id) ∧
        changed = { e with enumerators := e.enumerators ++ [⟨name, id⟩] } := by
  unfold add
  split
  · rename_i taken
    simp only [List.any_eq_true, Bool.or_eq_true, decide_eq_true_eq] at taken
    obtain ⟨x, hx, same⟩ := taken
    refine ⟨fun h => (by cases h), fun ⟨fresh, _⟩ => ?_⟩
    exact same.elim (absurd · (fresh x hx).1) (absurd · (fresh x hx).2)
  · rename_i free
    refine ⟨fun h => ⟨fun x hx => ⟨fun same => free ?_, fun same => free ?_⟩, ?_⟩,
      fun ⟨_, h⟩ => h ▸ rfl⟩
    · exact List.any_eq_true.2 ⟨x, hx, by simp [same]⟩
    · exact List.any_eq_true.2 ⟨x, hx, by simp [same]⟩
    · cases h
      rfl

/-- Sorts the enumerators by name and numbers them from zero. -/
def alphabetize (e : Enumeration) : Enumeration :=
  let sorted := e.enumerators.mergeSort fun a b => a.name ≤ b.name
  { e with enumerators := sorted.zipIdx.map fun (x, id) => { x with id := id } }

/-- The id of the enumerator of a name. -/
def idOf? (e : Enumeration) (name : String) : Option Int :=
  (e.enumerators.find? (·.name = name)).map (·.id)

/-- The name of the enumerator of an id. -/
def nameOf? (e : Enumeration) (id : Int) : Option String :=
  (e.enumerators.find? (·.id = id)).map (·.name)

end Enumeration

inductive Definition where
  | record (id : RecordId)
  | enumeration (id : EnumerationId)
  deriving DecidableEq, Repr

/-- Records and enumerations in order of creation, and the names that they were created with. -/
structure RecordSchema where
  records : Array Record := #[]
  enumerations : Array Enumeration := #[]
  names : List (String × Definition) := []
  deriving DecidableEq, Repr, Inhabited

namespace RecordSchema

/-- The definition that was created with a name. -/
def definition? (s : RecordSchema) (name : String) : Option Definition :=
  s.names.lookup name

/-- Takes a name, if there is one to take, for a definition. -/
def reserve (s : RecordSchema) (name : Option String) (d : Definition) :
    Except SchemaFault (List (String × Definition)) :=
  match name with
  | none => .ok s.names
  | some name =>
    if (s.definition? name).isSome then .error (.duplicateName name)
    else .ok ((name, d) :: s.names)

def createRecord (s : RecordSchema) (name : Option String) (kind : RecordKind) :
    Except SchemaFault (RecordSchema × RecordId) := do
  let id : RecordId := ⟨s.records.size⟩
  let names ← s.reserve name (.record id)
  return ({ s with records := s.records.push { name, kind }, names }, id)

def createEnumeration (s : RecordSchema) (name : Option String) :
    Except SchemaFault (RecordSchema × EnumerationId) := do
  let id : EnumerationId := ⟨s.enumerations.size⟩
  let names ← s.reserve name (.enumeration id)
  return ({ s with enumerations := s.enumerations.push { name }, names }, id)

/-- The record at a place; a place outside the schema holds an empty record. -/
def record (s : RecordSchema) (id : RecordId) : Record :=
  s.records.getD id.index {}

/-- The enumeration at a place; a place outside the schema holds an empty enumeration. -/
def enumeration (s : RecordSchema) (id : EnumerationId) : Enumeration :=
  s.enumerations.getD id.index {}

/-- Changes the record at a place, but not the name it is found by. -/
def modifyRecord (s : RecordSchema) (id : RecordId) (f : Record → Record) : RecordSchema :=
  { s with records := s.records.modify id.index f }

/-- Changes the enumeration at a place, but not the name it is found by. -/
def modifyEnumeration (s : RecordSchema) (id : EnumerationId) (f : Enumeration → Enumeration) :
    RecordSchema :=
  { s with enumerations := s.enumerations.modify id.index f }

theorem record_modifyRecord {s : RecordSchema} {id : RecordId} (h : id.index < s.records.size)
    (f : Record → Record) : (s.modifyRecord id f).record id = f (s.record id) := by
  simp [record, modifyRecord, Array.getD_eq_getD_getElem?, Array.getElem_modify, h]

theorem record_modifyRecord_of_ne {s : RecordSchema} {id other : RecordId} (h : id ≠ other)
    (f : Record → Record) : (s.modifyRecord id f).record other = s.record other := by
  have places : id.index ≠ other.index := fun same => h (congrArg RecordId.mk same)
  simp [record, modifyRecord, Array.getD_eq_getD_getElem?, Array.getElem?_modify, places]

theorem enumeration_modifyEnumeration {s : RecordSchema} {id : EnumerationId}
    (h : id.index < s.enumerations.size) (f : Enumeration → Enumeration) :
    (s.modifyEnumeration id f).enumeration id = f (s.enumeration id) := by
  simp [enumeration, modifyEnumeration, Array.getD_eq_getD_getElem?, Array.getElem_modify, h]

/-- What a record is called in print: its name or its place. -/
def recordLabel (s : RecordSchema) (id : RecordId) : String :=
  (s.record id).name.getD s!"#{id.index}"

/-- What an enumeration is called in print: its name or its place. -/
def enumerationLabel (s : RecordSchema) (id : EnumerationId) : String :=
  (s.enumeration id).name.getD s!"#{id.index}"

/-- Appends a field with a new name and a new id to a record. -/
def appendField (s : RecordSchema) (id : RecordId) (field : Field) :
    Except SchemaFault RecordSchema := do
  let record := s.record id
  let label := s.recordLabel id
  if let some name := field.name then
    if (record.field? name).isSome then throw (.duplicateFieldName label name)
  if let some fieldId := field.id then
    if (record.fieldById? fieldId).isSome then throw (.duplicateFieldId label fieldId)
  return s.modifyRecord id fun r => { r with fields := r.fields ++ [field] }

/-- Appends an enumerator with a new name and a new id to an enumeration. -/
def addEnumerator (s : RecordSchema) (id : EnumerationId) (name : String) (number : Int) :
    Except SchemaFault RecordSchema := do
  let changed ← (s.enumeration id).add name number
  return s.modifyEnumeration id fun _ => changed

/-- The place of the record that was created with a name. -/
def findRecordId? (s : RecordSchema) (name : String) : Option RecordId :=
  match s.definition? name with
  | some (.record id) => some id
  | _ => none

/-- The record that was created with a name. -/
def findRecord? (s : RecordSchema) (name : String) : Option Record :=
  (s.findRecordId? name).map s.record

/-- The enumeration that was created with a name. -/
def findEnumeration? (s : RecordSchema) (name : String) : Option Enumeration :=
  match s.definition? name with
  | some (.enumeration id) => some (s.enumeration id)
  | _ => none

end RecordSchema

end XsdRecords.Layout
