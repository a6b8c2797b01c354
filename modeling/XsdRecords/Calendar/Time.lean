import XsdRecords.Calendar.Date

/-! # Times of day

A time is written hour, minute and second with colons between them, then a point and a fraction if
there is one.  Second 60 is a leap second and stays one. -/

namespace XsdRecords.Calendar

open XsdRecords.Number (isDigit digitsValue padded)

structure Time where
  hour : Nat
  minute : Nat
  second : Nat
  nanosecond : Nat
  deriving DecidableEq, Repr

/-- Whether the parts of a time are in their ranges. -/
def Time.isValid (t : Time) : Bool :=
  t.hour ≤ 23 && t.minute ≤ 59 && t.second ≤ 60

/-- Reads an optional fraction of a second in nanoseconds; digits past the ninth are dropped. -/
def readFraction? : List Char → Option (Nat × List Char)
  | '.' :: cs =>
    match (cs.takeWhile isDigit).take 9 with
    | [] => none
    | digits => some (digitsValue digits * Nat.pow 10 (9 - digits.length), cs.dropWhile isDigit)
  | cs => some (0, cs)

def Time.scan? (cs : List Char) : Option (Time × List Char) := do
  let (hour, cs) ← readTwoDigits? cs
  let cs ← expect? ':' cs
  let (minute, cs) ← readTwoDigits? cs
  let cs ← expect? ':' cs
  let (second, cs) ← readTwoDigits? cs
  let (nanosecond, cs) ← readFraction? cs
  let time : Time := ⟨hour, minute, second, nanosecond⟩
  if time.isValid then some (time, cs) else none

theorem Time.isValid_of_scan? {cs rest : List Char} {t : Time}
    (h : Time.scan? cs = some (t, rest)) : t.isValid = true := by
  simp only [Time.scan?, Option.bind_eq_bind, Option.bind_eq_some_iff] at h
  obtain ⟨_, _, _, _, _, _, _, _, _, _, _, _, h⟩ := h
  split at h
  · cases h
    assumption
  · cases h

def Time.read? (cs : List Char) : Option Time :=
  match Time.scan? cs with
  | some (time, []) => some time
  | _ => none

/-- Writes a fraction with three, six or nine digits, and a whole second not at all. -/
def renderFraction (nanosecond : Nat) : String :=
  if nanosecond = 0 then ""
  else if nanosecond % 1000000 = 0 then "." ++ padded 3 (nanosecond / 1000000)
  else if nanosecond % 1000 = 0 then "." ++ padded 6 (nanosecond / 1000)
  else "." ++ padded 9 nanosecond

def Time.render (t : Time) : String :=
  padded 2 t.hour ++ ":" ++ padded 2 t.minute ++ ":" ++ padded 2 t.second
    ++ renderFraction t.nanosecond

/-- The number of whole seconds since midnight, a leap second counting with the one before it. -/
def Time.secondOfDay (t : Time) : Nat :=
  t.hour * 3600 + t.minute * 60 + min t.second 59

structure DateTime where
  date : Date
  time : Time
  deriving DecidableEq, Repr

/-- Reads a text that is a date, `T` and a time. -/
def DateTime.read? (cs : List Char) : Option DateTime := do
  let (date, cs) ← Date.scan? cs
  let cs ← expect? 'T' cs
  let time ← Time.read? cs
  some ⟨date, time⟩

def DateTime.render (d : DateTime) : String :=
  d.date.render ++ "T" ++ d.time.render

end XsdRecords.Calendar
