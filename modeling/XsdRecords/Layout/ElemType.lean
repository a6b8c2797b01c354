/-! # Element types

The type of the values of a field.  Scalars and aggregates have an array form; an array, like
`void`, has none. -/

namespace XsdRecords.Layout

inductive ElemType where
  | char
  | short
  | int
  | int64
  | float
  | double
  | string
  | datetime
  | date
  | time
  | charArray
  | shortArray
  | intArray
  | int64Array
  | floatArray
  | doubleArray
  | stringArray
  | datetimeArray
  | dateArray
  | timeArray
  /-- A single sequence record. -/
  | list
  /-- A repeated sequence record. -/
  | table
  | bool
  | datetimeTz
  | dateTz
  | timeTz
  | boolArray
  | datetimeTzArray
  | dateTzArray
  | timeTzArray
  /-- A single choice record. -/
  | choice
  /-- A repeated choice record. -/
  | choiceArray
  /-- No type that a field could have. -/
  | void
  deriving DecidableEq, Repr

namespace ElemType

def all : List ElemType :=
  [char, short, int, int64, float, double, string, datetime, date, time, charArray, shortArray,
    intArray, int64Array, floatArray, doubleArray, stringArray, datetimeArray, dateArray,
    timeArray, list, table, bool, datetimeTz, dateTz, timeTz, boolArray, datetimeTzArray,
    dateTzArray, timeTzArray, choice, choiceArray, void]

/-- The place of a type in the order. -/
def index (t : ElemType) : Nat :=
  all.idxOf t

/-- The array form of a type, or `void`. -/
def toArray : ElemType → ElemType
  | char => charArray
  | short => shortArray
  | int => intArray
  | int64 => int64Array
  | float => floatArray
  | double => doubleArray
  | string => stringArray
  | datetime => datetimeArray
  | date => dateArray
  | time => timeArray
  | bool => boolArray
  | datetimeTz => datetimeTzArray
  | dateTz => dateTzArray
  | timeTz => timeTzArray
  | list => table
  | choice => choiceArray
  | _ => void

/-- The array form of a type, or the type itself where there is none. -/
def widenToArray (t : ElemType) : ElemType :=
  if t.toArray = void then t else t.toArray

/-- The type of an array's items, or `void`. -/
def ofArray : ElemType → ElemType
  | charArray => char
  | shortArray => short
  | intArray => int
  | int64Array => int64
  | floatArray => float
  | doubleArray => double
  | stringArray => string
  | datetimeArray => datetime
  | dateArray => date
  | timeArray => time
  | boolArray => bool
  | datetimeTzArray => datetimeTz
  | dateTzArray => dateTz
  | timeTzArray => timeTz
  | table => list
  | choiceArray => choice
  | _ => void

def isAggregate : ElemType → Bool
  | list | table | choice | choiceArray => true
  | _ => false

def isArray : ElemType → Bool
  | charArray | shortArray | intArray | int64Array | floatArray | doubleArray | stringArray
  | datetimeArray | dateArray | timeArray | boolArray | datetimeTzArray | dateTzArray
  | timeTzArray => true
  | _ => false

def isScalar (t : ElemType) : Bool :=
  !t.isArray && !t.isAggregate && t ≠ void

@[simp] theorem isAggregate_widenToArray (t : ElemType) :
    t.widenToArray.isAggregate = t.isAggregate := by
  cases t <;> rfl

/-- The type of the items of an array of scalars is a scalar. -/
theorem isScalar_ofArray {t : ElemType} (h : t.isArray = true) : t.ofArray.isScalar = true := by
  cases t <;> first | rfl | cases h

/-- Every type is of exactly one of four sorts. -/
theorem isScalar_iff (t : ElemType) :
    t.isScalar = true ↔ t.isArray = false ∧ t.isAggregate = false ∧ t ≠ void := by
  simp [isScalar, and_assoc]

def name : ElemType → String
  | char => "CHAR"
  | short => "SHORT"
  | int => "INT"
  | int64 => "INT64"
  | float => "FLOAT"
  | double => "DOUBLE"
  | string => "STRING"
  | datetime => "DATETIME"
  | date => "DATE"
  | time => "TIME"
  | charArray => "CHAR_ARRAY"
  | shortArray => "SHORT_ARRAY"
  | intArray => "INT_ARRAY"
  | int64Array => "INT64_ARRAY"
  | floatArray => "FLOAT_ARRAY"
  | doubleArray => "DOUBLE_ARRAY"
  | stringArray => "STRING_ARRAY"
  | datetimeArray => "DATETIME_ARRAY"
  | dateArray => "DATE_ARRAY"
  | timeArray => "TIME_ARRAY"
  | list => "LIST"
  | table => "TABLE"
  | bool => "BOOL"
  | datetimeTz => "DATETIMETZ"
  | dateTz => "DATETZ"
  | timeTz => "TIMETZ"
  | boolArray => "BOOL_ARRAY"
  | datetimeTzArray => "DATETIMETZ_ARRAY"
  | dateTzArray => "DATETZ_ARRAY"
  | timeTzArray => "TIMETZ_ARRAY"
  | choice => "CHOICE"
  | choiceArray => "CHOICE_ARRAY"
  | void => "VOID"

def ofName? (text : String) : Option ElemType :=
  all.find? (·.name = text)

/-- A name stands for the type that has it, so no two types have the same. -/
@[simp] theorem ofName?_name (t : ElemType) : ofName? t.name = some t := by
  cases t <;> rfl

end ElemType

end XsdRecords.Layout
