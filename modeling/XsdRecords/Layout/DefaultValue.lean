import XsdRecords.Calendar.Offset
import XsdRecords.Number.Shortest
import XsdRecords.Layout.ElemType

/-! # Default values

The value that stands for an absent field, read from text by the element type of the field.  Arrays,
records and `void` have none. -/

namespace XsdRecords.Layout

open XsdRecords.Calendar (Date Time DateTime Offset)
open XsdRecords.Number (Floating BinaryFormat Decimal IntegerRange readDecimal?)

inductive DefaultValue where
  | char (value : Int)
  | short (value : Int)
  | int (value : Int)
  | int64 (value : Int)
  | float (value : Floating)
  | double (value : Floating)
  | string (value : String)
  | datetime (value : DateTime)
  | date (value : Date)
  | time (value : Time)
  | bool (value : Bool)
  | datetimeTz (value : DateTime) (offset : Offset)
  | dateTz (value : Date) (offset : Offset)
  | timeTz (value : Time) (offset : Offset)
  deriving DecidableEq, Repr

def readBool? (cs : List Char) : Option Bool :=
  if cs = "true".toList || cs = "1".toList then some true
  else if cs = "false".toList || cs = "0".toList then some false
  else none

/-- Reads a floating point number of sixty-four bits; infinities and the number that is none have
names of their own. -/
def readDouble? (cs : List Char) : Option Floating :=
  if cs = "INF".toList || cs = "+INF".toList then some (.infinite false)
  else if cs = "-INF".toList then some (.infinite true)
  else if cs = "NaN".toList then some .nan
  else (Decimal.read? cs).map BinaryFormat.double.ofDecimal

namespace DefaultValue

/-- Reads a date and time at an offset, which must be a time of the calendar in universal time
too. -/
def readDatetimeTz? (cs : List Char) : Option DefaultValue := do
  let (body, offset) ← Offset.split? cs
  let value ← DateTime.read? body
  if value.isUniversal offset then some (.datetimeTz value offset) else none

def read? (type : ElemType) (text : String) : Option DefaultValue :=
  let cs := text.toList
  match type with
  | .char => (readDecimal? IntegerRange.int8 cs).map .char
  | .short => (readDecimal? IntegerRange.int16 cs).map .short
  | .int => (readDecimal? IntegerRange.int32 cs).map .int
  | .int64 => (readDecimal? IntegerRange.int64 cs).map .int64
  | .float => (readDouble? cs).map fun v => .float (BinaryFormat.single.narrow v)
  | .double => (readDouble? cs).map .double
  | .string => some (.string text)
  | .bool => (readBool? cs).map .bool
  | .datetime => (DateTime.read? cs).map .datetime
  | .date => (Date.read? cs).map .date
  | .time => (Time.read? cs).map .time
  | .datetimeTz => readDatetimeTz? cs
  | .dateTz => do
    let (body, offset) ← Offset.split? cs
    (Date.read? body).map (.dateTz · offset)
  | .timeTz => do
    let (body, offset) ← Offset.split? cs
    (Time.read? body).map (.timeTz · offset)
  | _ => none

def elemType : DefaultValue → ElemType
  | char _ => .char
  | short _ => .short
  | int _ => .int
  | int64 _ => .int64
  | float _ => .float
  | double _ => .double
  | string _ => .string
  | datetime _ => .datetime
  | date _ => .date
  | time _ => .time
  | bool _ => .bool
  | datetimeTz _ _ => .datetimeTz
  | dateTz _ _ => .dateTz
  | timeTz _ _ => .timeTz

/-- A value that is read is of the element type it is read for. -/
theorem elemType_of_read? {type : ElemType} {text : String} {value : DefaultValue}
    (h : read? type text = some value) : value.elemType = type := by
  cases type <;> simp only [read?, Option.map_eq_some_iff, Option.some.injEq, reduceCtorEq,
    readDatetimeTz?, bind, Option.bind_eq_some_iff, Option.ite_none_right_eq_some] at h
  case datetimeTz =>
    obtain ⟨_, _, _, _, _, rfl⟩ := h
    rfl
  case dateTz | timeTz =>
    obtain ⟨_, _, _, _, rfl⟩ := h
    rfl
  case string =>
    subst h
    rfl
  all_goals
    obtain ⟨_, _, rfl⟩ := h
    rfl

/-- Writes a value; a string stands between quotes. -/
def render : DefaultValue → String
  | char value | short value | int value | int64 value => toString value
  | float value => value.render .single
  | double value => value.render .double
  | string value => "\"" ++ value ++ "\""
  | datetime value => value.render
  | date value => value.render
  | time value => value.render
  | bool value => if value then "true" else "false"
  | datetimeTz value offset => value.render ++ offset.render
  | dateTz value offset => value.render ++ offset.render
  | timeTz value offset => value.render ++ offset.render

end DefaultValue

end XsdRecords.Layout
