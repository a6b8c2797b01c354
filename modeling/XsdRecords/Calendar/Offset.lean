import XsdRecords.Calendar.Time
import XsdRecords.Text.Slice
import XsdRecords.Text.Utf8

/-! # Offsets from universal time

An offset stands at the end of a text: nothing or `Z` for none at all, or a sign, hours, a colon
and minutes in the last six bytes.  The places are counted in bytes, and `slice?` answers only where
characters end, so that no character is ever cut. -/

namespace XsdRecords.Calendar

open XsdRecords.Number (IntegerRange readDecimal? padded)

/-- Seconds that local time is ahead of universal time. -/
structure Offset where
  seconds : Int
  deriving DecidableEq, Repr

def Offset.utc : Offset := ⟨0⟩

/-- The characters between two byte offsets, if both are ends of characters. -/
def slice? (cs : List Char) (start stop : Nat) : Option (List Char) := do
  let (_, rest) ← Text.splitAtByte? start cs
  let (part, _) ← Text.splitAtByte? (stop - start) rest
  some part

/-- The sign of an offset, by its first byte. -/
def signOfByte? (b : UInt8) : Option Int :=
  if b = 0x2B then some 1 else if b = 0x2D then some (-1) else none

/-- Reads the hours and minutes of an offset whose sign stands at the byte `signAt`; hours above 14
and minutes above 59 are refused. -/
def Offset.readAt? (cs : List Char) (signAt : Nat) (sign : Int) : Option Offset := do
  let hoursText ← slice? cs (signAt + 1) (signAt + 3)
  let hours ← readDecimal? IntegerRange.int32 hoursText
  let minutesText ← slice? cs (signAt + 4) (signAt + 6)
  let minutes ← readDecimal? IntegerRange.int32 minutesText
  if 14 < hours || 59 < minutes then none
  else some ⟨sign * (hours * 3600 + minutes * 60)⟩

/-- Splits an offset off the end of a text; a text without one has offset zero. -/
def Offset.split? (cs : List Char) : Option (List Char × Offset) :=
  if cs.getLast? = some 'Z' then some (cs.dropLast, Offset.utc)
  else
    let bytes := Text.Utf8.encode cs
    let signAt := bytes.length - 6
    if 6 < bytes.length && bytes[bytes.length - 3]? = some 0x3A then
      match bytes[signAt]?.bind signOfByte? with
      | none => some (cs, Offset.utc)
      | some sign => do
        let offset ← Offset.readAt? cs signAt sign
        let body ← slice? cs 0 signAt
        some (body, offset)
    else some (cs, Offset.utc)

def Offset.render (o : Offset) : String :=
  let minutes := o.seconds.natAbs / 60
  (if o.seconds < 0 then "-" else "+") ++ padded 2 (minutes / 60) ++ ":"
    ++ padded 2 (minutes % 60)

/-- Whether a local date and time at an offset is a time of the calendar in universal time. -/
def DateTime.isUniversal (d : DateTime) (o : Offset) : Bool :=
  let second := (d.time.secondOfDay : Int) - o.seconds
  !(d.date = Date.first && second < 0) && !(d.date = Date.last && 86400 ≤ second)

end XsdRecords.Calendar
