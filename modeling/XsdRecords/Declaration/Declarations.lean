import XsdRecords.Declaration.Basic

/-! # The declarations of a compile

All elements and types that the documents of a compile declare or use, the names of types, of
top-level elements and of top-level attributes, and the names made up for what has none.  What a
type inherits is found by walking along its bases; walks are cut off after as many steps as there
are types or elements, so that they end on every collection. -/

namespace XsdRecords.Declaration

open XsdRecords.Layout (ElemType)
open XsdRecords.Vocabulary (Builtin)

structure Declarations where
  elements : Array Element := #[]
  types : Array TypeDef := #[]
  typeTable : SymbolTable TypeId := {}
  roots : SymbolTable ElementId := {}
  rootAttributes : SymbolTable ElementId := {}
  anonymousCount : Nat := 0
  deriving Repr

namespace Declarations

/-! ## Elements and types by place -/

/-- The element at a place; a place outside holds an undefined element. -/
def element (d : Declarations) (id : ElementId) : Element :=
  d.elements.getD id.index {}

/-- The type at a place; a place outside holds a type without a name. -/
def type (d : Declarations) (id : TypeId) : TypeDef :=
  d.types.getD id.index { symbol := ⟨.none, ""⟩ }

def modifyElement (d : Declarations) (id : ElementId) (f : Element → Element) : Declarations :=
  { d with elements := d.elements.modify id.index f }

def modifyType (d : Declarations) (id : TypeId) (f : TypeDef → TypeDef) : Declarations :=
  { d with types := d.types.modify id.index f }

theorem element_modifyElement {d : Declarations} {id : ElementId}
    (h : id.index < d.elements.size) (f : Element → Element) :
    (d.modifyElement id f).element id = f (d.element id) := by
  simp [element, modifyElement, Array.getD_eq_getD_getElem?, Array.getElem_modify, h]

theorem element_modifyElement_of_ne {d : Declarations} {id other : ElementId} (h : id ≠ other)
    (f : Element → Element) : (d.modifyElement id f).element other = d.element other := by
  have places : id.index ≠ other.index := fun same => h (congrArg ElementId.mk same)
  simp [element, modifyElement, Array.getD_eq_getD_getElem?, Array.getElem?_modify, places]

theorem type_modifyType {d : Declarations} {id : TypeId} (h : id.index < d.types.size)
    (f : TypeDef → TypeDef) : (d.modifyType id f).type id = f (d.type id) := by
  simp [type, modifyType, Array.getD_eq_getD_getElem?, Array.getElem_modify, h]

theorem type_modifyType_of_ne {d : Declarations} {id other : TypeId} (h : id ≠ other)
    (f : TypeDef → TypeDef) : (d.modifyType id f).type other = d.type other := by
  have places : id.index ≠ other.index := fun same => h (congrArg TypeId.mk same)
  simp [type, modifyType, Array.getD_eq_getD_getElem?, Array.getElem?_modify, places]

@[simp] theorem type_modifyElement (d : Declarations) (id : ElementId) (f : Element → Element)
    (type : TypeId) : (d.modifyElement id f).type type = d.type type := rfl

@[simp] theorem element_modifyType (d : Declarations) (id : TypeId) (f : TypeDef → TypeDef)
    (element : ElementId) : (d.modifyType id f).element element = d.element element := rfl

def addElement (d : Declarations) : Declarations × ElementId :=
  ({ d with elements := d.elements.push {} }, ⟨d.elements.size⟩)

def addType (d : Declarations) (t : TypeDef) : Declarations × TypeId :=
  let id : TypeId := ⟨d.types.size⟩
  ({ d with types := d.types.push t, typeTable := d.typeTable.insert t.symbol id }, id)

/-- The declarations of every compile: the built-in types. -/
def initial : Declarations :=
  Builtin.all.foldl
    (fun d b =>
      (d.addType
        { symbol := ⟨.xmlSchema, b.name⟩, builtin := some b, maxValue := b.maxValue }).1)
    {}

instance : Inhabited Declarations := ⟨initial⟩

/-! ## Names -/

/-- Makes up a symbol; its name starts with a blank, as no name in a document does.  The count has no
largest value here: its width, thirty-two bits, is left out. -/
def anonymousSymbol (d : Declarations) : Declarations × Symbol :=
  let count := d.anonymousCount + 1
  ({ d with anonymousCount := count },
    ⟨.anonymous, " " ++ Number.padded 6 count ++ "_ANON"⟩)

/-- The type of a symbol, which is added if there is none, and whether it was. -/
def findOrAddType (d : Declarations) (s : Symbol) : Declarations × TypeId × Bool :=
  match d.typeTable.find? s with
  | some id => (d, id, false)
  | none =>
    let (d, id) := d.addType { symbol := s }
    (d, id, true)

/-- The top-level element of a symbol, which is added if there is none. -/
def findOrAddRoot (d : Declarations) (s : Symbol) : Declarations × ElementId :=
  match d.roots.find? s with
  | some id => (d, id)
  | none =>
    let (d, id) := d.addElement
    ({ d with roots := d.roots.insert s id }, id)

/-- The top-level attribute of a symbol, which is added if there is none. -/
def findOrAddRootAttribute (d : Declarations) (s : Symbol) : Declarations × ElementId :=
  match d.rootAttributes.find? s with
  | some id => (d, id)
  | none =>
    let (d, id) := d.addElement
    ({ d with rootAttributes := d.rootAttributes.insert s id }, id)

/-- Adds a copy of a type under a made-up symbol.  The copy shares the elements of the fields but
not the output. -/
def cloneType (d : Declarations) (id : TypeId) : Declarations × TypeId :=
  let (d, symbol) := d.anonymousSymbol
  d.addType
    { d.type id with symbol, overrideSymbol := none, record := none, enumeration := none }

/-! ## Walks -/

/-- The type of an element, found along at most `limit` references. -/
def elementTypeWithin (d : Declarations) : Nat → ElementId → Option TypeId
  | 0, _ => none
  | limit + 1, id =>
    match (d.element id).reference with
    | some next => elementTypeWithin d limit next
    | none => (d.element id).directType

/-- The type of an element: its own, or that of the element it refers to. -/
def elementType (d : Declarations) (id : ElementId) : Option TypeId :=
  d.elementTypeWithin d.elements.size id

/-- A type and its bases, at most `limit` of them. -/
def baseChainWithin (d : Declarations) : Nat → TypeId → List TypeId
  | 0, _ => []
  | limit + 1, id =>
    id :: match (d.type id).base with
      | some base => baseChainWithin d limit base
      | none => []

/-- A type and its bases, the nearest first. -/
def baseChain (d : Declarations) (id : TypeId) : List TypeId :=
  d.baseChainWithin d.types.size id

/-- The last of the bases of a type. -/
def mostBase (d : Declarations) (id : TypeId) : TypeId :=
  (d.baseChain id).getLastD id

/-- Whether `target` is a type or one of its bases. -/
def derivesFrom (d : Declarations) (id target : TypeId) : Bool :=
  (d.baseChain id).contains target

/-- The nearest built-in type. -/
def builtin (d : Declarations) (id : TypeId) : Option Builtin :=
  (d.baseChain id).findSome? fun t => (d.type t).builtin

def isComplex (d : Declarations) (id : TypeId) : Bool :=
  (d.builtin id).any (·.isComplex)

/-- Whether a type or one of its bases is a list. -/
def isList (d : Declarations) (id : TypeId) : Bool :=
  (d.baseChain id).any fun t => (d.type t).isList

/-- Whether a type or one of its bases is a choice. -/
def isChoice (d : Declarations) (id : TypeId) : Bool :=
  (d.baseChain id).any fun t => (d.type t).isChoice

/-- The nearest largest value. -/
def maxValue (d : Declarations) (id : TypeId) : Nat :=
  (((d.baseChain id).map fun t => (d.type t).maxValue).find? (· ≠ 0)).getD 0

/-- The element type of the values of a type. -/
def elemType (d : Declarations) (id : TypeId) : ElemType :=
  match d.builtin id with
  | none => .void
  | some b => if d.isList id then b.elemType.widenToArray else b.elemType

/-- The element type of the values of an element, which are many if it may be repeated. -/
def elementElemType (d : Declarations) (id : ElementId) : ElemType :=
  match d.elementType id with
  | none => .void
  | some t =>
    if 1 < (d.element id).maxOccurs then (d.elemType t).widenToArray else d.elemType t

/-! ## Fields -/

/-- Appends a field to a type, which becomes complex. -/
def addField (d : Declarations) (id : TypeId) (name : String) (element : ElementId) :
    Declarations :=
  d.modifyType id fun t =>
    { t with fields := t.fields ++ [(name, element)], builtin := some Builtin.complexType }

/-- Moves the attributes of a type before its elements and keeps the order within each. -/
def sortFields (d : Declarations) (id : TypeId) : Declarations :=
  let isAttribute (field : String × ElementId) : Bool := (d.element field.2).isAttribute
  d.modifyType id fun t =>
    { t with fields := t.fields.filter isAttribute ++ t.fields.filter (!isAttribute ·) }

end Declarations

end XsdRecords.Declaration
