/-! # Integers in decimal and hexadecimal

An integer is an optional sign and one or more digits.  `read` checks the value against a range
digit by digit, so that of two faults in one text the one further left is reported. -/

namespace XsdRecords.Number

/-- Why a text is no integer of the range. -/
inductive IntegerFault where
  | empty
  | badDigit
  | tooLarge
  | tooSmall
  deriving DecidableEq, Repr

def IntegerFault.message : IntegerFault → String
  | .empty => "cannot parse integer from empty string"
  | .badDigit => "invalid digit found in string"
  | .tooLarge => "number too large to fit in target type"
  | .tooSmall => "number too small to fit in target type"

structure IntegerRange where
  low : Int
  high : Int
  deriving DecidableEq, Repr

namespace IntegerRange

def int8 : IntegerRange := ⟨-128, 127⟩
def int16 : IntegerRange := ⟨-32768, 32767⟩
def int32 : IntegerRange := ⟨-2147483648, 2147483647⟩
def int64 : IntegerRange := ⟨-9223372036854775808, 9223372036854775807⟩
/-- Natural numbers below 2 to the power of thirty-two. -/
def nat32 : IntegerRange := ⟨0, 4294967295⟩

end IntegerRange

/-- The value of an ASCII digit in a base of at most sixteen. -/
def digitValue? (base : Nat) (c : Char) : Option Nat :=
  let n := c.toNat
  let value? : Option Nat :=
    if 0x30 ≤ n && n ≤ 0x39 then some (n - 0x30)
    else if 0x61 ≤ n && n ≤ 0x66 then some (n - 0x61 + 10)
    else if 0x41 ≤ n && n ≤ 0x46 then some (n - 0x41 + 10)
    else none
  value?.filter (· < base)

/-- Appends digits to `value`, adding them above zero and subtracting them below. -/
def readDigits (base : Nat) (range : IntegerRange) (negative : Bool) (value : Int) :
    List Char → Except IntegerFault Int
  | [] => .ok value
  | c :: rest =>
    match digitValue? base c with
    | none => .error .badDigit
    | some d =>
      let next := if negative then value * base - d else value * base + d
      if range.high < next then .error .tooLarge
      else if next < range.low then .error .tooSmall
      else readDigits base range negative next rest

/-- Appending digits never leaves the range. -/
theorem mem_range_of_readDigits {base : Nat} {range : IntegerRange} {negative : Bool}
    {value n : Int} {cs : List Char} (h : readDigits base range negative value cs = .ok n)
    (inside : range.low ≤ value ∧ value ≤ range.high) : range.low ≤ n ∧ n ≤ range.high := by
  induction cs generalizing value with
  | nil => cases h; exact inside
  | cons c cs ih =>
    simp only [readDigits] at h
    split at h
    · cases h
    · rename_i d _
      generalize (if negative = true then value * base - d else value * base + d) = next at h
      split at h
      · cases h
      · split at h
        · cases h
        · rename_i high low
          exact ih h ⟨Int.not_lt.1 low, Int.not_lt.1 high⟩

/-- Reads a signed integer of a range; a minus sign is a digit fault where the range has no
negative numbers. -/
def readInteger (base : Nat) (range : IntegerRange) (cs : List Char) :
    Except IntegerFault Int :=
  match cs with
  | [] => .error .empty
  | ['+'] | ['-'] => .error .badDigit
  | '+' :: digits => readDigits base range false 0 digits
  | '-' :: digits =>
    if range.low < 0 then readDigits base range true 0 digits else .error .badDigit
  | digits => readDigits base range false 0 digits

/-- What is read lies in the range, if zero does. -/
theorem mem_range_of_readInteger {base : Nat} {range : IntegerRange} {cs : List Char} {n : Int}
    (h : readInteger base range cs = .ok n) (zero : range.low ≤ 0 ∧ 0 ≤ range.high) :
    range.low ≤ n ∧ n ≤ range.high := by
  unfold readInteger at h
  split at h
  · cases h
  · cases h
  · cases h
  · exact mem_range_of_readDigits h zero
  · split at h
    · exact mem_range_of_readDigits h zero
    · cases h
  · exact mem_range_of_readDigits h zero

def readDecimal? (range : IntegerRange) (cs : List Char) : Option Int :=
  (readInteger 10 range cs).toOption

/-- The least integer of thirty-two bits that is not below `n + 1`, and not above the largest. -/
def succInt32 (n : Int) : Int :=
  min (n + 1) IntegerRange.int32.high

/-- Pads decimal digits with zeros on the left. -/
def padded (width n : Nat) : String :=
  let digits := toString n
  String.ofList (List.replicate (width - digits.length) '0') ++ digits

end XsdRecords.Number
