import Mathlib.Algebra.Group.Nat.Defs
import Mathlib.Data.List.Induction
import XsdRecords.Number.Binary
import XsdRecords.Number.Integer

/-! # Digits that are written and read

A number is written with digits only, as many as it is padded to where it has no more than these,
and the value of what is written is the number.  An integer of a range is read back from what is
written for it: on the way its digits never lead further from zero than it is itself. -/

namespace XsdRecords.Number

/-! ## Runs of digits -/

theorem isDigit_iff {c : Char} : isDigit c = true ↔ 0x30 ≤ c.toNat ∧ c.toNat ≤ 0x39 := by
  rw [isDigit, Bool.and_eq_true, decide_eq_true_eq, decide_eq_true_eq]

theorem isDigit_of_mem_toDigits {n : Nat} {c : Char} (member : c ∈ Nat.toDigits 10 n) :
    isDigit c = true :=
  isDigit_iff.2 (by
    simpa [Char.isDigit_iff_toNat] using
      Nat.isDigit_of_mem_toDigits (by decide) (Nat.le_refl 10) member)

theorem digitsValue_eq (cs : List Char) : digitsValue cs = Nat.ofDigitChars 10 cs 0 := by
  rw [Nat.ofDigitChars_eq_foldl, digitsValue]
  simp only [Nat.mul_comm]
  rfl

theorem digitsValue_append_singleton (cs : List Char) (c : Char) :
    digitsValue (cs ++ [c]) = digitsValue cs * 10 + (c.toNat - 0x30) := by
  simp [digitsValue]

/-- A run of digits stands for less than the power of ten of its length. -/
theorem digitsValue_lt {cs : List Char} (digits : ∀ c ∈ cs, isDigit c = true) :
    digitsValue cs < 10 ^ cs.length := by
  induction cs using List.reverseRecOn with
  | nil => exact Nat.one_pos
  | append_singleton cs c ih =>
    have front := ih fun d member => digits d (List.mem_append_left _ member)
    have last := (isDigit_iff.1 (digits c (by simp))).2
    rw [digitsValue_append_singleton, List.length_append, List.length_singleton, Nat.pow_succ]
    omega

/-! ## Padded numbers -/

variable {width n : Nat}

theorem toList_padded (width n : Nat) : (padded width n).toList =
    List.replicate (width - (Nat.toDigits 10 n).length) '0' ++ Nat.toDigits 10 n := by
  have digits : (toString n).toList = Nat.toDigits 10 n := Nat.toList_repr
  rw [padded, String.toList_append, String.toList_ofList, digits, ← digits, String.length_toList]

theorem isDigit_of_mem_padded {c : Char} (member : c ∈ (padded width n).toList) :
    isDigit c = true := by
  rw [toList_padded, List.mem_append] at member
  obtain zero | digit := member
  · rw [List.eq_of_mem_replicate zero]
    rfl
  · exact isDigit_of_mem_toDigits digit

theorem digitsValue_padded (width n : Nat) : digitsValue (padded width n).toList = n := by
  rw [toList_padded, digitsValue_eq, Nat.ofDigitChars_append, Nat.ofDigitChars_replicate_zero,
    Nat.mul_zero, Nat.ofDigitChars_ten_toDigits]

theorem toList_padded_ne_nil (width n : Nat) : (padded width n).toList ≠ [] := by
  rw [toList_padded]
  exact List.append_ne_nil_of_right_ne_nil _ Nat.toDigits_ne_nil

/-- A number that is not too large is padded to just the width. -/
theorem length_padded (small : n < 10 ^ width) (positive : 0 < width) :
    (padded width n).toList.length = width := by
  have fits := (Nat.length_toDigits_le_iff (b := 10) (by decide) positive).2 small
  rw [toList_padded, List.length_append, List.length_replicate, Nat.sub_add_cancel fits]

/-! ## Integers -/

theorem digitValue?_of_isDigit {c : Char} (digit : isDigit c = true) :
    digitValue? 10 c = some (c.toNat - '0'.toNat) := by
  obtain ⟨low, high⟩ := isDigit_iff.1 digit
  have code : '0'.toNat = 0x30 := rfl
  have small : c.toNat - 0x30 < 10 := by omega
  simp [digitValue?, low, high, Option.filter, small, code]

/-- A number with the sign that is read before it. -/
def signed (negative : Bool) (n : Nat) : Int :=
  if negative then -n else n

/-- What reading one more digit makes of a number. -/
theorem signed_next (negative : Bool) (value digit : Nat) :
    (if negative = true then signed negative value * (10 : Nat) - digit
      else signed negative value * (10 : Nat) + digit) = signed negative (10 * value + digit) := by
  cases negative with
  | false =>
    simp only [signed, Bool.false_eq_true, if_false]
    omega
  | true =>
    simp only [signed, if_true]
    omega

/-- Where zero and a number are in a range, what lies between them is. -/
theorem signed_mem_range {range : IntegerRange} (zero : range.low ≤ 0 ∧ 0 ≤ range.high)
    {negative : Bool} {less more : Nat} (le : less ≤ more)
    (inside : range.low ≤ signed negative more ∧ signed negative more ≤ range.high) :
    range.low ≤ signed negative less ∧ signed negative less ≤ range.high := by
  cases negative with
  | false =>
    simp only [signed, Bool.false_eq_true, if_false] at inside ⊢
    omega
  | true =>
    simp only [signed, if_true] at inside ⊢
    omega

/-- Digits are read where zero and their value are in the range. -/
theorem readDigits_of_digits {range : IntegerRange} (zero : range.low ≤ 0 ∧ 0 ≤ range.high)
    (negative : Bool) {cs : List Char} (digits : ∀ c ∈ cs, isDigit c = true) (value : Nat)
    (inside : range.low ≤ signed negative (Nat.ofDigitChars 10 cs value) ∧
      signed negative (Nat.ofDigitChars 10 cs value) ≤ range.high) :
    readDigits 10 range negative (signed negative value) cs =
      .ok (signed negative (Nat.ofDigitChars 10 cs value)) := by
  induction cs generalizing value with
  | nil => rfl
  | cons c cs ih =>
    rw [Nat.ofDigitChars_cons] at inside ⊢
    have grows : 10 * value + (c.toNat - '0'.toNat) ≤
        Nat.ofDigitChars 10 cs (10 * value + (c.toNat - '0'.toNat)) := by
      rw [Nat.ofDigitChars_eq_ofDigitChars_zero]
      exact Nat.le_trans (Nat.le_mul_of_pos_left _ (Nat.pow_pos (by decide)))
        (Nat.le_add_right _ _)
    obtain ⟨low, high⟩ := signed_mem_range zero grows inside
    rw [readDigits, digitValue?_of_isDigit (digits c List.mem_cons_self)]
    dsimp only
    rw [signed_next, if_neg (Int.not_lt.2 high), if_neg (Int.not_lt.2 low)]
    exact ih (fun d member => digits d (List.mem_cons_of_mem c member)) _ inside

theorem readInteger_of_digits {range : IntegerRange} {cs : List Char} (nonempty : cs ≠ [])
    (digits : ∀ c ∈ cs, isDigit c = true) :
    readInteger 10 range cs = readDigits 10 range false 0 cs := by
  cases cs with
  | nil => exact absurd rfl nonempty
  | cons c cs =>
    have digit := digits c List.mem_cons_self
    unfold readInteger
    split
    · contradiction
    all_goals try rfl
    all_goals
      rename_i same
      cases same
      cases digit

theorem readInteger_of_minus {range : IntegerRange} {cs : List Char} (nonempty : cs ≠ [])
    (negative : range.low < 0) :
    readInteger 10 range ('-' :: cs) = readDigits 10 range true 0 cs := by
  cases cs with
  | nil => exact absurd rfl nonempty
  | cons c cs => exact if_pos negative

/-- Digits that stand for a number of the range are read as that number. -/
theorem readDecimal?_of_digits {range : IntegerRange} (zero : range.low ≤ 0 ∧ 0 ≤ range.high)
    {cs : List Char} (nonempty : cs ≠ []) (digits : ∀ c ∈ cs, isDigit c = true)
    (inside : digitsValue cs ≤ range.high) : readDecimal? range cs = some (digitsValue cs : Int) := by
  rw [digitsValue_eq] at inside ⊢
  have read := readDigits_of_digits zero false digits 0
    ⟨Int.le_trans zero.1 (Int.natCast_nonneg _), inside⟩
  rw [readDecimal?, readInteger_of_digits nonempty digits]
  exact congrArg Except.toOption read

/-- An integer of a range is read back. -/
theorem readDecimal?_toString {range : IntegerRange} (zero : range.low ≤ 0 ∧ 0 ≤ range.high)
    {n : Int} (inside : range.low ≤ n ∧ n ≤ range.high) :
    readDecimal? range (toString n).toList = some n := by
  have digits (m : Nat) (c : Char) (member : c ∈ Nat.toDigits 10 m) : isDigit c = true :=
    isDigit_of_mem_toDigits member
  have value (m : Nat) : Nat.ofDigitChars 10 (Nat.toDigits 10 m) 0 = m :=
    Nat.ofDigitChars_ten_toDigits
  rw [Int.toString_eq_repr, Int.repr_eq_if]
  split
  · rename_i positive
    have same : (digitsValue (Nat.toDigits 10 n.toNat) : Int) = n := by
      rw [digitsValue_eq, value, Int.toNat_of_nonneg positive]
    rw [Nat.toList_repr, readDecimal?_of_digits zero Nat.toDigits_ne_nil (digits _)
      (same.symm ▸ inside.2), same]
  · rename_i negative
    have same : signed true (-n).toNat = n := by
      rw [signed, if_pos rfl, Int.toNat_of_nonneg (by omega), Int.neg_neg]
    have read := readDigits_of_digits zero true (digits (-n).toNat) 0
      (by rwa [value, same])
    rw [value, same] at read
    have minus : "-".toList = ['-'] := rfl
    rw [String.toList_append, minus, Nat.toList_repr, List.singleton_append, readDecimal?,
      readInteger_of_minus Nat.toDigits_ne_nil (by omega)]
    exact congrArg Except.toOption read

end XsdRecords.Number
