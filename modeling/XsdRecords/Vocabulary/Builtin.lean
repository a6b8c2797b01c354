import XsdRecords.Layout.ElemType
import XsdRecords.Layout.FormattingMode

/-! # The built-in types of XML Schema

Each built-in type stands for the closest element type that can hold its values; an unsigned type
for the next larger signed one.  A type without one has the element type `void`. -/

namespace XsdRecords.Vocabulary

open XsdRecords.Layout (ElemType FormattingMode)

/-- What is known of a built-in type. -/
structure Builtin where
  name : String
  elemType : ElemType
  /-- The largest value or length. -/
  maxValue : Nat
  formattingMode : FormattingMode
  deriving DecidableEq, Repr

namespace Builtin

def intMax : Nat := 2147483647
/-- The bound of a type that has none. -/
def unbounded : Nat := 18446744073709551615

def text (name : String) : Builtin := ⟨name, .string, unbounded, .default⟩
def texts (name : String) : Builtin := ⟨name, .stringArray, unbounded, .list⟩
def long (name : String) : Builtin := ⟨name, .int64, unbounded, .default⟩
/-- A type that no element type can hold. -/
def unsupported (name : String) : Builtin := ⟨name, .void, 0, .default⟩

def all : List Builtin :=
  [ texts "ENTITIES", text "ENTITY", text "ID", text "IDREF", texts "IDREFS", text "NCName",
    text "NMTOKEN", texts "NMTOKENS", unsupported "NOTATION", text "QName",
    unsupported "anySimpleType", unsupported "anyType", text "anyURI",
    ⟨"base64Binary", .charArray, intMax, .base64⟩, ⟨"boolean", .bool, 1, .default⟩,
    ⟨"byte", .char, 127, .dec⟩, ⟨"date", .dateTz, intMax, .default⟩,
    ⟨"dateTime", .datetimeTz, intMax, .default⟩, ⟨"decimal", .double, intMax, .dec⟩,
    ⟨"double", .double, intMax, .default⟩, unsupported "duration",
    ⟨"float", .float, intMax, .default⟩, unsupported "gDay", unsupported "gMonth",
    unsupported "gMonthDay", unsupported "gYear", unsupported "gYearMonth",
    ⟨"hexBinary", .charArray, intMax, .hex⟩, ⟨"int", .int, intMax, .default⟩, long "integer",
    text "language", long "long", text "Name", long "negativeInteger", long "nonNegativeInteger",
    long "nonPositiveInteger", text "normalizedString", long "positiveInteger",
    ⟨"short", .short, 32767, .default⟩, text "string", ⟨"time", .timeTz, intMax, .default⟩,
    text "token", ⟨"unsignedByte", .short, 255, .default⟩, long "unsignedInt",
    long "unsignedLong", ⟨"unsignedShort", .int, 65535, .default⟩ ]

/-- The type that all complex types derive from. -/
def complexType : Builtin := ⟨"complexType", .list, intMax, .default⟩

def ofName? (name : String) : Option Builtin :=
  all.find? (·.name = name)

/-- Whether this is the type of complex types. -/
def isComplex (b : Builtin) : Bool :=
  b = complexType

/-- Whether this is the type `string` itself. -/
def isString (b : Builtin) : Bool :=
  b = text "string"

/-- No type of the table holds records. -/
theorem isAggregate_elemType_of_mem {b : Builtin} (h : b ∈ all) :
    b.elemType.isAggregate = false := by
  have none : ∀ b ∈ all, b.elemType.isAggregate = false := by decide
  exact none b h

end Builtin

end XsdRecords.Vocabulary
