import XsdRecords.Declaration.Symbol
import XsdRecords.Number.Integer
import XsdRecords.Layout.RecordSchema
import XsdRecords.Vocabulary.Builtin

/-! # Declared elements and types

An element or attribute has a type of its own or refers to another element; a type has a built-in
type, a base, fields or enumerators.  Both are referred to by their place, so that a name may be
used before it is defined. -/

namespace XsdRecords.Declaration

open XsdRecords.Layout (FormattingMode RecordId EnumerationId)
open XsdRecords.Vocabulary (Builtin)

structure ElementId where
  index : Nat
  deriving DecidableEq, Repr

structure TypeId where
  index : Nat
  deriving DecidableEq, Repr

structure Element where
  directType : Option TypeId := none
  reference : Option ElementId := none
  formattingMode : FormattingMode := .default
  /-- The text of the default or fixed value. -/
  defaultValue : String := ""
  id : Option Int := none
  minOccurs : Int := 1
  /-- The largest integer of thirty-two bits stands for no bound. -/
  maxOccurs : Int := 1
  deriving DecidableEq, Repr, Inhabited

namespace Element

/-- Whether an element has a type or refers to another element. -/
def isDefined (e : Element) : Bool :=
  e.directType.isSome || e.reference.isSome

def isAttribute (e : Element) : Bool :=
  e.formattingMode.contains .asAttribute

/-- Whether an element holds a record that has no tag of its own. -/
def isUntagged (e : Element) : Bool :=
  e.formattingMode.contains .untagged

end Element

structure TypeDef where
  symbol : Symbol
  /-- The name of the top-level element that the output is named after. -/
  overrideSymbol : Option Symbol := none
  base : Option TypeId := none
  builtin : Option Builtin := none
  isList : Bool := false
  isChoice : Bool := false
  /-- The largest value or length; zero where it is that of the base. -/
  maxValue : Nat := 0
  fields : List (String × ElementId) := []
  enumerators : List (String × Int) := []
  /-- Whether enumerators keep their ids and their order. -/
  preserveEnumIds : Bool := false
  record : Option RecordId := none
  enumeration : Option EnumerationId := none
  deriving DecidableEq, Repr

namespace TypeDef

/-- Whether a type has a built-in type or a base. -/
def isDefined (t : TypeDef) : Bool :=
  t.builtin.isSome || t.base.isSome

/-- The id of an enumerator that has none of its own: one more than the last. -/
def nextId (t : TypeDef) : Int :=
  match t.enumerators.getLast? with
  | none => 0
  | some (_, last) => Number.succInt32 last

/-- Appends an enumerator; one with an id of its own keeps the declared order. -/
def addEnumerator (t : TypeDef) (value : String) (id : Option Int) : TypeDef :=
  { t with
    preserveEnumIds := t.preserveEnumIds || id.isSome
    enumerators := t.enumerators ++ [(value, id.getD t.nextId)] }

def outputSymbol (t : TypeDef) : Symbol :=
  t.overrideSymbol.getD t.symbol

end TypeDef

end XsdRecords.Declaration
