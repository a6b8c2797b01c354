import Mathlib.Data.List.TakeWhile
import XsdRecords.Proofs.Calendar.Offset
import XsdRecords.Proofs.Number.Digits

/-! # Dates, times and offsets that are written

A date, a time and a date and time are read back from what is written for them, whatever their year
is and whether or not there are fractions of a second.  The numbers of months, days, hours, minutes
and seconds are as wide when they are written as they may be when they are read; a year of more than
four digits follows a sign, and so may be longer.  What is written for an offset of whole minutes
stands for it (`Offset.zone_render`). -/

namespace XsdRecords.Calendar

open Number (IntegerRange digitsValue digitsValue_padded digitsValue_lt isDigit isDigit_iff
  isDigit_of_mem_padded length_padded padded readDecimal?_of_digits toList_padded_ne_nil)

/-! ## Numbers -/

theorem isBlank_of_isDigit {c : Char} (digit : isDigit c = true) : Text.isBlank c = false := by
  obtain ⟨low, high⟩ := isDigit_iff.1 digit
  simp only [Text.isBlank, Bool.or_eq_false_iff, Bool.and_eq_false_iff, decide_eq_false_iff_not]
  omega

theorem trimStart_cons {c : Char} {cs : List Char} (visible : Text.isBlank c = false) :
    Text.trimStart (c :: cs) = c :: cs := by
  rw [Text.trimStart, List.dropWhile_cons, visible, if_neg Bool.false_ne_true]

section Digits

variable {digits rest : List Char} (all : ∀ c ∈ digits, isDigit c = true)

include all

theorem trimStart_digits (nonempty : digits ≠ []) :
    Text.trimStart (digits ++ rest) = digits ++ rest := by
  obtain ⟨c, cs, rfl⟩ := List.exists_cons_of_ne_nil nonempty
  exact trimStart_cons (isBlank_of_isDigit (all c List.mem_cons_self))

/-- Digits up to something else. -/
theorem takeWhile_digits (stops : ∀ c ∈ rest.head?, isDigit c = false) :
    (digits ++ rest).takeWhile isDigit = digits := by
  rw [List.takeWhile_append_of_pos all]
  cases rest with
  | nil => exact List.append_nil digits
  | cons c rest =>
    rw [List.takeWhile_cons, stops c rfl, if_neg Bool.false_ne_true, List.append_nil]

theorem dropWhile_digits (stops : ∀ c ∈ rest.head?, isDigit c = false) :
    (digits ++ rest).dropWhile isDigit = rest := by
  rw [List.dropWhile_append_of_pos all]
  cases rest with
  | nil => rfl
  | cons c rest => rw [List.dropWhile_cons, stops c rfl, if_neg Bool.false_ne_true]

theorem readDigits?_digits (nonempty : digits ≠ []) (stops : ∀ c ∈ rest.head?, isDigit c = false) :
    readDigits? (digits ++ rest) = some (digitsValue digits, rest) := by
  unfold readDigits?
  rw [takeWhile_digits all stops, dropWhile_digits all stops]
  split
  · exact absurd rfl nonempty
  · rfl

/-- As many digits as may be read are read, whatever follows them. -/
theorem readDigitsUpTo?_digits (nonempty : digits ≠ []) (rest : List Char) :
    readDigitsUpTo? digits.length (digits ++ rest) = some (digitsValue digits, rest) := by
  unfold readDigitsUpTo?
  rw [List.takeWhile_append_of_pos all, List.take_left]
  split
  · exact absurd rfl nonempty
  · rw [List.drop_left]

end Digits

theorem readTwoDigits?_padded {n : Nat} (small : n < 100) (rest : List Char) :
    readTwoDigits? ((padded 2 n).toList ++ rest) = some (n, rest) := by
  have all (c : Char) (member : c ∈ (padded 2 n).toList) := isDigit_of_mem_padded member
  have read := readDigitsUpTo?_digits all (toList_padded_ne_nil 2 n) rest
  rw [length_padded small (by decide), digitsValue_padded] at read
  rw [readTwoDigits?, trimStart_digits all (toList_padded_ne_nil 2 n), read]

theorem expect?_cons (c : Char) (rest : List Char) : expect? c (c :: rest) = some rest :=
  if_pos rfl

/-! ## Dates -/

theorem readYear?_minus (cs : List Char) :
    readYear? ('-' :: cs) = (readDigits? cs).map fun read => (-(read.1 : Int), read.2) := by
  rw [readYear?, trimStart_cons rfl]
  rfl

theorem readYear?_plus (cs : List Char) :
    readYear? ('+' :: cs) = (readDigits? cs).map fun read => ((read.1 : Int), read.2) := by
  rw [readYear?, trimStart_cons rfl]
  rfl

theorem readYear?_digits {digits rest : List Char} (all : ∀ c ∈ digits, isDigit c = true)
    (nonempty : digits ≠ []) : readYear? (digits ++ rest) =
      (readDigitsUpTo? 4 (digits ++ rest)).map fun read => ((read.1 : Int), read.2) := by
  rw [readYear?, trimStart_digits all nonempty]
  obtain ⟨c, cs, rfl⟩ := List.exists_cons_of_ne_nil nonempty
  have digit := all c List.mem_cons_self
  split
  · rename_i same
    cases same
    cases digit
  · rename_i same
    cases same
    cases digit
  · rfl

/-- A year is read up to the dash after it. -/
theorem readYear?_render (year : Int) (rest : List Char) :
    readYear? ((renderYear year).toList ++ '-' :: rest) = some (year, '-' :: rest) := by
  have all (n : Nat) (c : Char) (member : c ∈ (padded 4 n).toList) := isDigit_of_mem_padded member
  have some_digit (n : Nat) : (padded 4 n).toList ≠ [] := toList_padded_ne_nil 4 n
  have stops : ∀ c ∈ ('-' :: rest).head?, isDigit c = false := by
    rintro c ⟨⟩
    rfl
  have long : readDigits? ((padded 4 year.natAbs).toList ++ '-' :: rest) =
      some (year.natAbs, '-' :: rest) := by
    rw [readDigits?_digits (all _) (some_digit _) stops, digitsValue_padded]
  -- Four digits are read without a sign, which is when a year is written without one.
  unfold renderYear
  split_ifs with four negative
  · simp only [Bool.and_eq_true, decide_eq_true_eq] at four
    have short := readDigitsUpTo?_digits (all year.toNat) (some_digit _) ('-' :: rest)
    rw [length_padded (by omega) (by decide), digitsValue_padded] at short
    rw [readYear?_digits (all _) (some_digit _), short]
    simp only [Option.map_some, Int.toNat_of_nonneg four.1]
  · have minus : "-".toList = ['-'] := rfl
    rw [String.toList_append, minus, List.singleton_append, List.cons_append, readYear?_minus, long]
    simp only [Option.map_some, Int.ofNat_natAbs_of_nonpos (Int.le_of_lt negative), Int.neg_neg]
  · have plus : "+".toList = ['+'] := rfl
    rw [String.toList_append, plus, List.singleton_append, List.cons_append, readYear?_plus, long]
    simp only [Option.map_some, Int.natAbs_of_nonneg (Int.not_lt.1 negative)]

/-- A date is read, whatever follows it. -/
theorem Date.scan?_render {d : Date} (valid : d.isValid = true) (rest : List Char) :
    Date.scan? (d.render.toList ++ rest) = some (d, rest) := by
  have ranges : d.month < 100 ∧ d.day < 100 := by
    have days : daysInMonth d.year d.month ≤ 31 := by
      unfold daysInMonth
      split_ifs <;> decide
    simp only [Date.isValid, Bool.and_eq_true, decide_eq_true_eq] at valid
    omega
  have dash : "-".toList = ['-'] := rfl
  simp only [Date.render, String.toList_append, dash, List.append_assoc, List.cons_append,
    List.nil_append]
  simp only [Date.scan?, readYear?_render, expect?_cons, readTwoDigits?_padded ranges.1,
    readTwoDigits?_padded ranges.2, Option.bind_eq_bind, Option.bind_some]
  exact if_pos valid

theorem Date.read?_render {d : Date} (valid : d.isValid = true) :
    Date.read? d.render.toList = some d := by
  have scan := Date.scan?_render valid []
  rw [List.append_nil] at scan
  rw [Date.read?, scan]

/-! ## Times -/

/-- What is read as a fraction is less than a second. -/
theorem readFraction?_lt {cs rest : List Char} {nanosecond : Nat}
    (read : readFraction? cs = some (nanosecond, rest)) : nanosecond < 10 ^ 9 := by
  unfold readFraction? at read
  split at read
  · rename_i cs
    split at read
    · cases read
    · cases read
      have all (c : Char) (member : c ∈ (cs.takeWhile isDigit).take 9) : isDigit c = true :=
        List.mem_takeWhile_imp (List.mem_of_mem_take member)
      have short : ((cs.takeWhile isDigit).take 9).length ≤ 9 := List.length_take_le _ _
      calc digitsValue ((cs.takeWhile isDigit).take 9)
              * 10 ^ (9 - ((cs.takeWhile isDigit).take 9).length)
          < 10 ^ ((cs.takeWhile isDigit).take 9).length
              * 10 ^ (9 - ((cs.takeWhile isDigit).take 9).length) :=
            Nat.mul_lt_mul_of_pos_right (digitsValue_lt all) (Nat.pow_pos (by decide))
        _ = 10 ^ 9 := by rw [← Nat.pow_add, Nat.add_sub_cancel' short]
  · cases read
    decide

theorem Time.nanosecond_lt_of_scan? {cs rest : List Char} {t : Time}
    (scan : Time.scan? cs = some (t, rest)) : t.nanosecond < 10 ^ 9 := by
  simp only [Time.scan?, Option.bind_eq_bind, Option.bind_eq_some_iff] at scan
  obtain ⟨_, _, _, _, _, _, _, _, _, _, ⟨nanosecond, _⟩, fraction, result⟩ := scan
  split at result
  · cases result
    exact readFraction?_lt fraction
  · cases result

theorem readFraction?_digits {digits : List Char} (all : ∀ c ∈ digits, isDigit c = true)
    (nonempty : digits ≠ []) (le : digits.length ≤ 9) : readFraction? ('.' :: digits) =
      some (digitsValue digits * 10 ^ (9 - digits.length), []) := by
  have stops : ∀ c ∈ ([] : List Char).head?, isDigit c = false := by simp
  have whole := takeWhile_digits all stops
  have nothing := dropWhile_digits all stops
  rw [List.append_nil] at whole nothing
  unfold readFraction?
  split
  · rename_i point
    cases point
    rw [whole, nothing, List.take_of_length_le le]
    split
    · exact absurd rfl nonempty
    · rfl
  · rename_i other
    exact absurd rfl (other _)

theorem readFraction?_padded {places n : Nat} (positive : 0 < places) (le : places ≤ 9)
    (small : n < 10 ^ places) :
    readFraction? ('.' :: (padded places n).toList) = some (n * 10 ^ (9 - places), []) := by
  have length := length_padded small positive
  rw [readFraction?_digits (fun _ => isDigit_of_mem_padded) (toList_padded_ne_nil places n)
    (length.trans_le le), digitsValue_padded, length]

/-- A fraction of a second is read at the end of a text. -/
theorem readFraction?_render {nanosecond : Nat} (less : nanosecond < 10 ^ 9) :
    readFraction? (renderFraction nanosecond).toList = some (nanosecond, []) := by
  have point : ".".toList = ['.'] := rfl
  unfold renderFraction
  split_ifs with none milli micro
  · rw [none]
    rfl
  · rw [String.toList_append, point, List.singleton_append,
      readFraction?_padded (by decide) (by decide) (by omega)]
    exact congrArg (fun n => some (n, [])) (Nat.div_mul_cancel (Nat.dvd_of_mod_eq_zero milli))
  · rw [String.toList_append, point, List.singleton_append,
      readFraction?_padded (by decide) (by decide) (by omega)]
    exact congrArg (fun n => some (n, [])) (Nat.div_mul_cancel (Nat.dvd_of_mod_eq_zero micro))
  · rw [String.toList_append, point, List.singleton_append,
      readFraction?_padded (by decide) (by decide) less]
    exact congrArg (fun n => some (n, [])) (Nat.mul_one nanosecond)

theorem Time.read?_render {t : Time} (valid : t.isValid = true) (less : t.nanosecond < 10 ^ 9) :
    Time.read? t.render.toList = some t := by
  have ranges : t.hour < 100 ∧ t.minute < 100 ∧ t.second < 100 := by
    simp only [Time.isValid, Bool.and_eq_true, decide_eq_true_eq] at valid
    omega
  have colon : ":".toList = [':'] := rfl
  have scan : Time.scan? t.render.toList = some (t, []) := by
    simp only [Time.render, String.toList_append, colon, List.append_assoc,
      List.cons_append, List.nil_append]
    simp only [Time.scan?, expect?_cons, readTwoDigits?_padded ranges.1,
      readTwoDigits?_padded ranges.2.1, readTwoDigits?_padded ranges.2.2, readFraction?_render less,
      Option.bind_eq_bind, Option.bind_some]
    exact if_pos valid
  rw [Time.read?, scan]

theorem DateTime.read?_render {d : DateTime} (date : d.date.isValid = true)
    (time : d.time.isValid = true) (less : d.time.nanosecond < 10 ^ 9) :
    DateTime.read? d.render.toList = some d := by
  have mark : "T".toList = ['T'] := rfl
  simp only [DateTime.render, String.toList_append, mark, List.append_assoc, List.cons_append,
    List.nil_append]
  simp only [DateTime.read?, Date.scan?_render date, expect?_cons, Time.read?_render time less,
    Option.bind_eq_bind, Option.bind_some]

/-! ## Offsets -/

theorem TwoPlaces.neg_nine_le {cs : List Char} {value : Int} (two : TwoPlaces cs value) :
    -9 ≤ value := by
  cases two <;> omega

/-- An offset that stands in a text is of whole minutes and less than fifteen hours. -/
theorem Zone.exists_minutes {cs : List Char} {o : Offset} (zone : Zone cs o) :
    ∃ minutes : Int, o.seconds = minutes * 60 ∧ minutes.natAbs < 900 := by
  cases zone with
  | none | universal => exact ⟨0, rfl, by decide⟩
  | @signed mark sign hours minutes _ _ marked hoursRead minutesRead hoursLe minutesLe =>
    have hoursGe := hoursRead.neg_nine_le
    have minutesGe := minutesRead.neg_nine_le
    cases marked with
    | plus => exact ⟨hours * 60 + minutes, by dsimp only; omega, by omega⟩
    | minus => exact ⟨-(hours * 60 + minutes), by dsimp only; omega, by omega⟩

theorem byteLength_digits {cs : List Char} (all : ∀ c ∈ cs, isDigit c = true) :
    Text.byteLength cs = cs.length := by
  induction cs with
  | nil => rfl
  | cons c cs ih =>
    obtain ⟨digit, all⟩ := List.forall_mem_cons.1 all
    have ascii : c.utf8Size = 1 := by
      have high := (isDigit_iff.1 digit).2
      rw [Char.utf8Size_eq_one_iff]
      change c.toNat ≤ 127
      omega
    rw [Text.byteLength, ascii, ih all, List.length_cons, Nat.add_comm]

theorem twoPlaces_padded {n : Nat} (small : n < 100) : TwoPlaces (padded 2 n).toList n := by
  have all (c : Char) (member : c ∈ (padded 2 n).toList) := isDigit_of_mem_padded member
  have inside : (digitsValue (padded 2 n).toList : Int) ≤ IntegerRange.int32.high := by
    rw [digitsValue_padded]
    change (n : Int) ≤ 2147483647
    omega
  have read := readDecimal?_of_digits (by decide) (toList_padded_ne_nil 2 n) all inside
  rw [digitsValue_padded] at read
  exact twoPlaces_of_read read ((byteLength_digits all).trans (length_padded small (by decide)))

/-- What is written for an offset of whole minutes stands for it. -/
theorem Offset.zone_render {o : Offset} {minutes : Int} (whole : o.seconds = minutes * 60)
    (less : minutes.natAbs < 900) : Zone o.render.toList o := by
  have abs : o.seconds.natAbs / 60 = minutes.natAbs := by omega
  have colon : ":".toList = [':'] := rfl
  have hoursRead := twoPlaces_padded (n := minutes.natAbs / 60) (by omega)
  have minutesRead := twoPlaces_padded (n := minutes.natAbs % 60) (by omega)
  have stands {mark : Char} {sign : Int} (marked : SignMark mark sign)
      (same : sign * ((minutes.natAbs / 60 : Nat) * 3600 + (minutes.natAbs % 60 : Nat) * 60) =
        o.seconds) :
      Zone (mark :: ((padded 2 (minutes.natAbs / 60)).toList ++
        ':' :: (padded 2 (minutes.natAbs % 60)).toList)) o := by
    have zone := Zone.signed marked hoursRead minutesRead (by omega) (by omega)
    rwa [same] at zone
  simp only [Offset.render, abs, String.toList_append, colon, List.append_assoc, List.cons_append,
    List.nil_append]
  by_cases negative : o.seconds < 0
  · have minus : "-".toList = ['-'] := rfl
    rw [if_pos negative, minus, List.singleton_append]
    exact stands .minus (by omega)
  · have plus : "+".toList = ['+'] := rfl
    rw [if_neg negative, plus, List.singleton_append]
    exact stands .plus (by omega)

end XsdRecords.Calendar
