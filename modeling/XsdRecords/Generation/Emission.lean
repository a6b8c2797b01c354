import XsdRecords.Generation.Field

/-! # Generating records and enumerations

First the complex types of the top-level elements are named after these.  Then the types that the
top-level elements reach are emitted depth first: a record exists before the types of its fields are
emitted, so that types may refer to each other. -/

namespace XsdRecords.Generation

open XsdRecords.Declaration (Declarations ElementId TypeId Symbol)
open XsdRecords.Layout

/-- What the names of records made by a generator start with. -/
def recordStart : String := "RECORD_"

/-- What the names of enumerations made by a generator start with. -/
def enumerationStart : String := "ENUMERATION_"

/-- The name of a record, unless it is to have none. -/
def recordName? (symbol : Symbol) : Option String :=
  let name := symbol.localName
  if name = "" || symbol.namespaceId = .anonymous || name.startsWith recordStart then none
  else some name

/-- The name of an enumeration, unless it is to have none. -/
def enumerationName? (name : String) : Option String :=
  if name = "" || name.startsWith " " || name.startsWith enumerationStart then none else some name

/-! ## Naming types after top-level elements -/

/-- Names the type of a top-level element after it.  A type that is named already is copied. -/
def nameRoot (g : Generation) (symbol : Symbol) (id : ElementId) : Generation :=
  match g.declarations.elementType id with
  | none => g
  | some type =>
    if !g.declarations.isComplex type || (g.declarations.type type).symbol = symbol then g
    else if (g.declarations.type type).overrideSymbol.isSome then
      let (d, copy) := g.declarations.cloneType type
      let d := d.modifyElement id fun e => { e with directType := some copy }
      (Generation.note { g with declarations := d } (.clonedType symbol.localName)).modifyType copy
        fun t => { t with overrideSymbol := some symbol }
    else g.modifyType type fun t => { t with overrideSymbol := some symbol }

/-- Checks and names top-level elements in turn, up to the first that is wrong. -/
def nameRoots (g : Generation) : List (Symbol × ElementId) → Generation × Bool
  | [] => (g, true)
  | (symbol, id) :: rest =>
    match g.declarations.check "root" symbol.localName id with
    | .error problem => (g.report problem, false)
    | .ok _ => nameRoots (g.nameRoot symbol id) rest

/-! ## Emitting types -/

/-- Adds enumerators to an enumeration and reports those whose name or id is taken. -/
def addEnumerators (g : Generation) (id : EnumerationId) (name : String)
    (enumerators : List (String × Int)) : Generation :=
  enumerators.foldl
    (fun g (value, number) =>
      match g.schema.addEnumerator id value number with
      | .ok schema => { g with schema }
      | .error _ => g.report (.duplicateEnumerator name value))
    g

/-- Emits the enumeration of a type, unless there is one already. -/
def emitEnumeration (g : Generation) (type : TypeId) : Generation :=
  let t := g.declarations.type type
  if t.enumeration.isSome then g
  else
    let name := t.outputSymbol.localName
    match g.schema.createEnumeration (enumerationName? name) with
    | .error _ => g.report (.nameCollision name)
    | .ok (schema, id) =>
      let g := Generation.note { g with schema } (.enumerationEmitted name)
      let g := g.modifyType type fun t => { t with enumeration := some id }
      let g := g.addEnumerators id name t.enumerators
      if t.preserveEnumIds then g
      else { g with schema := g.schema.modifyEnumeration id (·.alphabetize) }

/-- Checks the fields of a type in turn and emits their types with `emit`, up to the first that is
wrong.  A field of the type itself needs neither. -/
def emitFieldTypes (emit : Generation → TypeId → Generation) (owner : TypeId)
    (recordName : String) (g : Generation) : List (String × ElementId) → Generation × Bool
  | [] => (g, true)
  | (name, id) :: rest =>
    match g.declarations.elementType id with
    | none =>
      match g.declarations.check recordName name id with
      | .error problem => (g.report problem, false)
      | .ok _ => emitFieldTypes emit owner recordName g rest
    | some type =>
      if type = owner then emitFieldTypes emit owner recordName g rest
      else
        match g.declarations.check recordName name id with
        | .error problem => (g.report problem, false)
        | .ok _ => emitFieldTypes emit owner recordName (emit g type) rest

/-- Emits the record of a type, unless there is one already: the record, then with `emit` the types
of its fields, then its fields. -/
def emitRecord (emit : Generation → TypeId → Generation) (g : Generation) (type : TypeId) :
    Generation :=
  let t := g.declarations.type type
  if t.record.isSome then g
  else
    let name := t.outputSymbol.localName
    let kind : RecordKind := if g.declarations.isChoice type then .choice else .sequence
    match g.schema.createRecord (recordName? t.outputSymbol) kind with
    | .error _ => g.report (.nameCollision name)
    | .ok (schema, id) =>
      let g := Generation.modifyType { g with schema } type fun t => { t with record := some id }
      let g := g.note (.recordEmitted name kind)
      match emitFieldTypes emit type name g t.fields with
      | (g, false) => g
      | (g, true) => t.fields.foldl (emitField id name) g

/-- Emits a type and what it reaches, through at most `limit` types one inside another. -/
def emitTypeWithin : Nat → Generation → TypeId → Generation
  | 0, g, _ => g
  | limit + 1, g, type =>
    match g.declarations.builtin type with
    | none => g.report (.noDefinition (g.declarations.type type).symbol.localName)
    | some builtin =>
      if builtin.isComplex then
        let g := { g with declarations := g.declarations.sortFields type }
        emitRecord (emitTypeWithin limit) g type
      else if (g.declarations.type type).enumerators.isEmpty then g
      else g.emitEnumeration type

/-- Emits a type and what it reaches.  Each type on the way down has just become a record, so no way
is longer than the number of types. -/
def emitType (g : Generation) (type : TypeId) : Generation :=
  emitTypeWithin (g.declarations.types.size + 1) g type

/-- Emits the type of a top-level element, if it is complex. -/
def emitRoot (g : Generation) (id : ElementId) : Generation :=
  match g.declarations.elementType id with
  | none => g
  | some type => if g.declarations.isComplex type then g.emitType type else g

/-- Notes all types in the order of their symbols. -/
def noteTypes (g : Generation) : Generation :=
  g.declarations.typeTable.toSorted.foldl
    (fun g (_, id) => g.note (.typeSeen (g.declarations.renderType id))) g

def run (g : Generation) : Generation :=
  let (g, named) := nameRoots { g with schema := {} } g.declarations.roots.toSorted
  if named then
    let g := g.noteTypes
    (g.declarations.roots.toSorted.map (·.2)).foldl emitRoot g
  else g

end XsdRecords.Generation
