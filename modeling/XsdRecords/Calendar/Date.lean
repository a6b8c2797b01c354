import XsdRecords.Number.Binary
import XsdRecords.Number.Integer
import XsdRecords.Text.Blank

/-! # Dates

A date is written year, month and day with dashes between them.  A year of more than four digits
needs a sign, and years from 0 to 9999 are printed without one.  Each number may follow blanks. -/

namespace XsdRecords.Calendar

open XsdRecords.Number (isDigit digitsValue padded)

/-- A day of the proleptic Gregorian calendar. -/
structure Date where
  year : Int
  month : Nat
  day : Nat
  deriving DecidableEq, Repr

/-- Whether a year has a twenty-ninth of February. -/
def isLeapYear (year : Int) : Bool :=
  year % 4 = 0 && (year % 100 ≠ 0 || year % 400 = 0)

def daysInMonth (year : Int) (month : Nat) : Nat :=
  if month = 2 then (if isLeapYear year then 29 else 28)
  else if month = 4 || month = 6 || month = 9 || month = 11 then 30
  else 31

def Date.first : Date := ⟨-262143, 1, 1⟩

def Date.last : Date := ⟨262142, 12, 31⟩

/-- Whether a year, month and day name a day of the calendar. -/
def Date.isValid (d : Date) : Bool :=
  Date.first.year ≤ d.year && d.year ≤ Date.last.year && 1 ≤ d.month && d.month ≤ 12
    && 1 ≤ d.day && d.day ≤ daysInMonth d.year d.month

/-- Reads a nonempty run of digits. -/
def readDigits? (cs : List Char) : Option (Nat × List Char) :=
  match cs.takeWhile isDigit with
  | [] => none
  | digits => some (digitsValue digits, cs.dropWhile isDigit)

/-- Reads a nonempty run of at most `width` digits. -/
def readDigitsUpTo? (width : Nat) (cs : List Char) : Option (Nat × List Char) :=
  match (cs.takeWhile isDigit).take width with
  | [] => none
  | digits => some (digitsValue digits, cs.drop digits.length)

/-- Reads a number of at most two digits after blanks. -/
def readTwoDigits? (cs : List Char) : Option (Nat × List Char) :=
  readDigitsUpTo? 2 (Text.trimStart cs)

/-- Reads a year after blanks: any number of digits after a sign, at most four without. -/
def readYear? (cs : List Char) : Option (Int × List Char) :=
  match Text.trimStart cs with
  | '-' :: rest => (readDigits? rest).map fun (year, rest) => (-(year : Int), rest)
  | '+' :: rest => (readDigits? rest).map fun (year, rest) => ((year : Int), rest)
  | cs => (readDigitsUpTo? 4 cs).map fun (year, rest) => ((year : Int), rest)

/-- Drops a character that must come next. -/
def expect? (c : Char) : List Char → Option (List Char)
  | [] => none
  | d :: rest => if c = d then some rest else none

def Date.scan? (cs : List Char) : Option (Date × List Char) := do
  let (year, cs) ← readYear? cs
  let cs ← expect? '-' cs
  let (month, cs) ← readTwoDigits? cs
  let cs ← expect? '-' cs
  let (day, cs) ← readTwoDigits? cs
  let date : Date := ⟨year, month, day⟩
  if date.isValid then some (date, cs) else none

theorem Date.isValid_of_scan? {cs rest : List Char} {d : Date}
    (h : Date.scan? cs = some (d, rest)) : d.isValid = true := by
  simp only [Date.scan?, Option.bind_eq_bind, Option.bind_eq_some_iff] at h
  obtain ⟨_, _, _, _, _, _, _, _, _, _, h⟩ := h
  split at h
  · cases h
    assumption
  · cases h

def Date.read? (cs : List Char) : Option Date :=
  match Date.scan? cs with
  | some (date, []) => some date
  | _ => none

/-- What is read is a day of the calendar. -/
theorem Date.isValid_of_read? {cs : List Char} {d : Date} (h : Date.read? cs = some d) :
    d.isValid = true := by
  unfold Date.read? at h
  split at h
  · rename_i date scan
    cases h
    exact Date.isValid_of_scan? scan
  · cases h

def renderYear (year : Int) : String :=
  if 0 ≤ year && year ≤ 9999 then padded 4 year.toNat
  else (if year < 0 then "-" else "+") ++ padded 4 year.natAbs

def Date.render (d : Date) : String :=
  renderYear d.year ++ "-" ++ padded 2 d.month ++ "-" ++ padded 2 d.day

end XsdRecords.Calendar
