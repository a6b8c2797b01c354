import XsdRecords.Generation.Basic

/-! # Fields of generated records -/

namespace XsdRecords.Generation

open XsdRecords.Declaration (Declarations ElementId TypeId Element)
open XsdRecords.Layout
open XsdRecords.Vocabulary (Builtin)

/-- What the names of fields made by a generator start with. -/
def fieldStart : String := "FIELD_"

/-- The element type of a field that holds records of a kind, one or many. -/
def recordElemType (kind : RecordKind) (isSingle : Bool) : ElemType :=
  match kind, isSingle with
  | .choice, true => .choice
  | .choice, false => .choiceArray
  | .sequence, true => .list
  | .sequence, false => .table

/-- The element type of a field, and the record that its values are. -/
def fieldShape (g : Generation) (id : ElementId) (type : TypeId) :
    ElemType × Option Constraint :=
  match (g.declarations.type type).record with
  | none => (g.declarations.elementElemType id, none)
  | some record =>
    let isSingle := (g.declarations.element id).maxOccurs = 1
    (recordElemType (g.schema.record record).kind isSingle, some (.record record))

/-- The name of a field, unless it is to have none. -/
def fieldName (element : Element) (name : String) : Option String :=
  if element.isUntagged || name = "" || name.startsWith fieldStart then none else some name

/-- Reads the default value of a field and reports one that is none. -/
def readDefault (g : Generation) (recordName name text : String) (type : ElemType) :
    Generation × Option DefaultValue :=
  if text = "" || type.isAggregate then (g, none)
  else
    match DefaultValue.read? type text with
    | some value => (g, some value)
    | none => (g.report (.invalidDefault text recordName name), none)

/-- The nillable field of a single item of an array. -/
def itemField (type : ElemType) (enumeration : Option EnumerationId) : Field :=
  { elemType := type.ofArray
    constraint := enumeration.map .enumeration
    formattingMode := .nillable }

/-- Creates a record of one nillable field, so that single items of an array may be nil. -/
def wrapItems (g : Generation) (type : ElemType) (enumeration : Option EnumerationId) :
    Except SchemaFault (RecordSchema × RecordId) := do
  let (schema, wrapper) ← g.schema.createRecord none .sequence
  return (← schema.appendField wrapper (itemField type enumeration), wrapper)

/-- Appends a field to a record and reports one whose name or id is taken. -/
def appendField (g : Generation) (record : RecordId) (recordName name : String) (field : Field) :
    Generation :=
  match g.schema.appendField record field with
  | .ok schema => { g with schema }
  | .error _ => g.report (.duplicateField recordName name)

/-- The field of an element whose type is known and whose default value was read. -/
def typedField (g : Generation) (name : String) (id : ElementId) (type : TypeId)
    (mode : FormattingMode) (value : Option DefaultValue) : Field :=
  let element := g.declarations.element id
  let (elemType, constraint) := g.fieldShape id type
  { elemType
    name := fieldName element name
    id := element.id
    constraint := constraint <|> (g.declarations.type type).enumeration.map .enumeration
    nullable := element.minOccurs = 0 && element.maxOccurs ≤ 1 && value.isNone
    formattingMode := mode
    defaultValue := value }

/-- Whether the items of a field are wrapped: an array without a default value that may be nil. -/
def wrapsItems (field : Field) (text : String) : Bool :=
  field.formattingMode.contains .nillable && field.elemType.isArray && text = ""

/-- A field that holds the records of its wrapped items. -/
def wrappedField (field : Field) (wrapper : RecordId) : Field :=
  { field with
    elemType := .table
    constraint := some (.record wrapper)
    defaultValue := none }

/-- Emits the field of an element whose type is known. -/
def emitTypedField (g : Generation) (record : RecordId) (recordName name : String)
    (id : ElementId) (type : TypeId) (mode : FormattingMode) : Generation :=
  let text := (g.declarations.element id).defaultValue
  let (g, value) := g.readDefault recordName name text (g.fieldShape id type).1
  let field := g.typedField name id type mode value
  if wrapsItems field text then
    match g.wrapItems field.elemType (g.declarations.type type).enumeration with
    | .error fault => g.report (.output fault)
    | .ok (schema, wrapper) =>
      appendField { g with schema } record recordName name (wrappedField field wrapper)
  else g.appendField record recordName name field

/-- How the field of an element of a built-in type is written. -/
def fieldMode (g : Generation) (id : ElementId) (type : TypeId) (builtin : Builtin) :
    FormattingMode :=
  let mode := (g.declarations.element id).formattingMode.insert builtin.formattingMode
  if g.declarations.isList type then mode.insert .list else mode

def emitField (record : RecordId) (recordName : String) (g : Generation)
    (field : String × ElementId) : Generation :=
  let (name, id) := field
  match g.declarations.elementType id with
  | none => g
  | some type =>
    if g.declarations.elementElemType id = .void then g.report (.noType recordName name)
    else
      match g.declarations.builtin type with
      | none => g
      | some builtin =>
        g.emitTypedField record recordName name id type (g.fieldMode id type builtin)

end XsdRecords.Generation
