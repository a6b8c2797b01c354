import XsdRecords.Session.Basic
import XsdRecords.Session.Number

/-! # Element and attribute tags

A tag directly under the schema declares a top-level element; any other declares a field of the
innermost open type. -/

namespace XsdRecords.Session

open XsdRecords.Declaration (ElementId TypeId Element Symbol)
open XsdRecords.Markup (StartTag)

/-- What an element or attribute tag says beyond its name and type. -/
structure ElementForm where
  isAttribute : Bool
  minOccurs : Option Int
  maxOccurs : Option Int
  isNillable : Bool
  /-- The default or fixed value. -/
  value : Option String
  id : Option Int
  deriving DecidableEq, Repr

/-- The least number of occurrences that the use of an attribute allows. -/
def readUse (use : Option String) : Except Problem Int :=
  match use.getD "" with
  | "" | "optional" | "prohibited" => .ok 0
  | "required" => .ok 1
  | _ => .error .invalidUse

namespace ElementForm

/-- Reads what a tag says.  The use of an attribute counts for more than its occurrences. -/
def read (tag : StartTag) (isAttribute : Bool) : Except Problem ElementForm := do
  let minOccurs ← minOccurs? tag
  let maxOccurs ← maxOccurs? tag
  let isNillable := (tag.plain? "nillable").any isTrue
  let value := tag.plain? "default"
  let fixed := tag.plain? "fixed"
  if value.isSome && fixed.isSome then throw .defaultAndFixed
  let id ← annotatedId? tag
  if isAttribute then
    let least ← readUse (tag.plain? "use")
    return ⟨true, some least, maxOccurs, isNillable, value <|> fixed, id⟩
  else
    return ⟨false, minOccurs, maxOccurs, isNillable, value <|> fixed, id⟩

/-- What the form makes of an element.  Occurrences are only ever raised at the top, and an element
with a value need not occur. -/
def apply (f : ElementForm) (e : Element) : Element :=
  let mode := e.formattingMode
  let mode := if f.isAttribute then mode.insert .asAttribute else mode
  let mode := if f.isNillable then mode.insert .nillable else mode
  { e with
    formattingMode := mode
    minOccurs := if f.value.isSome then 0 else f.minOccurs.getD e.minOccurs
    maxOccurs := max e.maxOccurs (f.maxOccurs.getD e.maxOccurs)
    defaultValue := f.value.getD e.defaultValue
    id := f.id <|> e.id }

end ElementForm

/-- The top-level element or attribute of a symbol, added if there is none. -/
def findRoot (symbol : Symbol) (isAttribute : Bool) : Action ElementId :=
  if isAttribute then Action.declare (·.findOrAddRootAttribute symbol)
  else Action.declare (·.findOrAddRoot symbol)

/-- Finds or adds the element that a tag declares and opens it. -/
def openElement (isTopLevel isAttribute : Bool) (name : String) : Action ElementId := do
  if isTopLevel then
    let id ← findRoot ⟨(← get).target, name⟩ isAttribute
    if ((← Action.declarations).element id).isDefined then
      throw (if isAttribute then .duplicateAttribute name else .duplicateElement name)
    Action.pushElement id
    return id
  else
    let id ← Action.declare (·.addElement)
    Action.pushElement id
    return id

/-- Makes an element refer to the top-level element of a symbol, whose name it takes. -/
def referTo (id : ElementId) (symbol : Symbol) (isTopLevel isAttribute : Bool) :
    Action String := do
  if isTopLevel then
    throw (if isAttribute then .topLevelAttributeRef else .topLevelElementRef)
  let referenced ← findRoot symbol isAttribute
  if !((← Action.declarations).element referenced).isDefined
      && symbol.namespaceId ≠ (← get).target then
    throw (if isAttribute then .noSuchAttribute symbol.localName
      else .noSuchElement symbol.localName)
  Action.modifyElement id fun e => { e with reference := some referenced }
  return symbol.localName

/-- Gives an element the type or the reference that its tag names, and answers its name. -/
def resolveElement (id : ElementId) (tag : StartTag) (name : String)
    (isTopLevel isAttribute : Bool) : Action String := do
  let s ← get
  match s.symbol? (tag.plain? "ref") with
  | some symbol => referTo id symbol isTopLevel isAttribute
  | none =>
    if let some symbol := s.symbol? (tag.plain? "type") then
      let type ← Action.findType symbol
      Action.modifyElement id fun e => { e with directType := some type }
    return name

/-- Adds an element to the fields of the innermost open type. -/
def addToType (id : ElementId) (name : String) (isAttribute : Bool) : Action Unit := do
  let s ← get
  match s.typeStack with
  | [] => return
  | parent :: _ =>
    if isAttribute && !s.allowUnsupported
        && (s.declarations.isChoice parent || (s.declarations.elemType parent).isScalar) then
      throw .attributeNotSupported
    Action.setDeclarations (s.declarations.addField parent name id)

def startElement (tag : StartTag) (isAttribute : Bool) : Action Unit := do
  let name := (tag.plain? "name").getD ""
  let isTopLevel := (← get).typeStack.isEmpty
  let id ← openElement isTopLevel isAttribute name
  Action.note (.elementDefined name isTopLevel isAttribute)
  let name ← resolveElement id tag name isTopLevel isAttribute
  if !isAttribute && name = "" then throw .elementMissingName
  let form ← ofExcept (ElementForm.read tag isAttribute)
  Action.modifyElement id form.apply
  if isAttribute && name = "" then throw .attributeMissingName
  if !isTopLevel then addToType id name isAttribute

/-- The end of an element or attribute, which must have a type by now. -/
def endElement : Action Unit := do
  let s ← get
  match s.elementStack with
  | [] => return
  | id :: rest =>
    if !(s.declarations.element id).isDefined then throw .undefinedElement
    set { s with elementStack := rest }

end XsdRecords.Session
