import XsdRecords.Session.Basic
import XsdRecords.Session.Number

/-! # Type, group, derivation and enumeration tags

A type directly under the schema has a name; any other is the type of the innermost open element.
The outermost sequence or choice of a complex type lays out the type itself, unless it may be absent
or repeated; every other lays out a type of its own, which becomes an untagged field. -/

namespace XsdRecords.Session

open XsdRecords.Declaration (ElementId TypeId Symbol)
open XsdRecords.Markup (StartTag)
open XsdRecords.Vocabulary (Tag Builtin)

/-- The name of a field without a tag of its own. -/
def untaggedName : String := "UNTAGGED"

/-- Finds or adds the type that a tag defines. -/
def openType (name : String) : Action TypeId := do
  let s ← get
  match s.elementStack with
  | [] =>
    if name = "" then throw .topLevelTypeMissingName
    let id ← Action.findType ⟨s.target, name⟩
    if ((← Action.declarations).type id).isDefined then throw (.duplicateType name)
    return id
  | element :: _ =>
    if name ≠ "" then throw .namedLocalType
    let symbol ← Action.declare (·.anonymousSymbol)
    let id ← Action.findType symbol
    Action.modifyElement element fun e => { e with directType := some id }
    return id

/-- The start of a simple or complex type. -/
def startType (tag : StartTag) (kind : Tag) : Action Unit := do
  let name := (tag.plain? "name").getD ""
  let isTopLevel := (← get).elementStack.isEmpty
  let id ← openType name
  Action.note (.typeDefined kind.name name isTopLevel)
  if kind = .complexType then
    Action.modifyType id fun t => { t with builtin := some Builtin.complexType }
  else if (tag.annotated? "preserveEnumOrder").any isTrue then
    Action.modifyType id fun t => { t with preserveEnumIds := true }
  Action.pushType id

def endType : Action Unit :=
  modify fun s => { s with typeStack := s.typeStack.tail }

/-- Adds an untagged field that holds a new type to `parent`, and opens both. -/
def openUntagged (parent : TypeId) : Action (TypeId × ElementId) := do
  let symbol ← Action.declare (·.anonymousSymbol)
  let (type, _) ← Action.declare (·.findOrAddType symbol)
  Action.modifyType type fun t => { t with builtin := some Builtin.complexType }
  Action.pushType type
  let element ← Action.declare (·.addElement)
  Action.modifyElement element fun e =>
    { e with
      directType := some type
      formattingMode := e.formattingMode.insert .untagged }
  Action.setDeclarations ((← Action.declarations).addField parent untaggedName element)
  Action.pushElement element
  return (type, element)

/-- The tag that the innermost open tag stands in. -/
def outerTag (s : Session) : Tag :=
  (s.tagStack.drop 1).headD .outside

/-- The type that a group lays out, and the element whose occurrences are those of the group. -/
def openGroup (kind : Tag) (minOccurs maxOccurs : Int) : Action (TypeId × Option ElementId) := do
  let s ← get
  match s.typeStack.head?, outerTag s with
  | some type, .complexType =>
    let owner := s.elementStack.head?
    if kind = .choice && !(s.declarations.type type).fields.isEmpty then
      throw .choiceAfterFields
    if (owner.isNone && minOccurs < 1) || 1 < maxOccurs then
      let (type, element) ← openUntagged type
      return (type, some element)
    else return (type, owner)
  | some parent, .sequence | some parent, .choice =>
    let (type, element) ← openUntagged parent
    return (type, some element)
  | _, _ => throw (.recordContext kind.name)

def startGroup (tag : StartTag) (kind : Tag) : Action Unit := do
  if (tag.plain? "name").isSome then throw .namedRecord
  let minOccurs := (← ofExcept (minOccurs? tag)).getD 1
  let maxOccurs := (← ofExcept (maxOccurs? tag)).getD 1
  let (type, owner) ← openGroup kind minOccurs maxOccurs
  Action.note (.recordDefined kind.name minOccurs maxOccurs)
  Action.modifyType type fun t => { t with isChoice := kind = .choice }
  if let some element := owner then
    Action.modifyElement element fun e =>
      { e with
        minOccurs := min e.minOccurs minOccurs
        maxOccurs := max e.maxOccurs maxOccurs }

/-- The end of a sequence or choice: an untagged field ends with it. -/
def endGroup : Action Unit :=
  modify fun s =>
    match s.elementStack with
    | element :: rest =>
      if (s.declarations.element element).isUntagged then
        { s with elementStack := rest, typeStack := s.typeStack.tail }
      else s
    | [] => s

/-- A derivation: the innermost open type gets a base, and is a list if it is derived as one. -/
def startDerivation (tag : StartTag) (isList : Bool) : Action Unit := do
  let s ← get
  match s.typeStack with
  | [] => throw (if isList then .listOutsideType else .restrictionOutsideType)
  | type :: _ =>
    let some symbol := s.symbol? (tag.plain? (if isList then "itemType" else "base"))
      | throw (if isList then .missingItemType else .missingBase)
    let base ← Action.findType symbol
    let d ← Action.declarations
    if d.derivesFrom base type then
      throw (.recursiveDerivation (d.type type).symbol.localName)
    Action.note (.derived (d.type base).symbol.render isList)
    Action.modifyType type fun t =>
      { t with base := some base, isList := t.isList || isList }

/-- An enumerator of the innermost open type.  Types that do not derive from `string` have none. -/
def startEnumerator (tag : StartTag) : Action Unit := do
  let s ← get
  match s.typeStack with
  | [] => throw .enumerationOutsideType
  | type :: _ =>
    if (s.declarations.builtin type).any (·.isString) then
      let value := (tag.plain? "value").getD ""
      let id ← ofExcept (annotatedId? tag)
      Action.note (.enumeratorAdded value id)
      Action.modifyType type (·.addEnumerator value id)

end XsdRecords.Session
