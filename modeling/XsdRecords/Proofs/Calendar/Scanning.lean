import Mathlib.Data.List.TakeWhile
import XsdRecords.Proofs.Calendar.Offset

/-! # What dates and times are written with

A date has no colon in it, a time no sign, and both end with a digit.  In a date and time together the
signs stand before the `T`, and the time after it takes five characters or more.  Nothing of them is
therefore taken for an offset. -/

namespace XsdRecords.Calendar

open Number (isDigit)
open Text (byteLength)

/-- At least `n` characters of a kind are taken off a text, and the last of them is a digit. -/
def Takes (P : Char → Prop) (n : Nat) (cs rest : List Char) : Prop :=
  ∃ front c, cs = front ++ c :: rest ∧ isDigit c = true ∧ n ≤ front.length + 1 ∧
    (∀ d ∈ front, P d) ∧ P c

theorem expect?_eq_some_iff {c : Char} {cs rest : List Char} :
    expect? c cs = some rest ↔ cs = c :: rest := by
  cases cs with
  | nil => simp [expect?]
  | cons d cs =>
    by_cases same : c = d
    · simp [expect?, same]
    · simp [expect?, same, Ne.symm same]

section Takes

variable {P : Char → Prop} {m n : Nat} {cs mid rest : List Char}

theorem Takes.trans (first : Takes P m cs mid) (later : Takes P n mid rest) :
    Takes P (m + n) cs rest := by
  obtain ⟨front, c, rfl, -, length, all, last⟩ := first
  obtain ⟨front', c', rfl, digit, length', all', last'⟩ := later
  refine ⟨front ++ c :: front', c', by simp, digit, ?_, ?_, last'⟩
  · rw [List.length_append, List.length_cons]
    omega
  · intro d member
    obtain old | new := List.mem_append.1 member
    · exact all d old
    · obtain rfl | new := List.mem_cons.1 new
      · exact last
      · exact all' d new

theorem Takes.prepend (takes : Takes P n cs rest) (front : List Char) (all : ∀ c ∈ front, P c) :
    Takes P (front.length + n) (front ++ cs) rest := by
  obtain ⟨front', c, rfl, digit, length, all', last⟩ := takes
  refine ⟨front ++ front', c, by simp, digit, ?_, ?_, last⟩
  · rw [List.length_append]
    omega
  · intro d member
    exact (List.mem_append.1 member).elim (all d) (all' d)

theorem Takes.mono (takes : Takes P n cs rest) (le : m ≤ n) : Takes P m cs rest := by
  obtain ⟨front, c, whole, digit, length, all⟩ := takes
  exact ⟨front, c, whole, digit, le.trans length, all⟩

theorem Takes.cons {c : Char} (takes : Takes P n cs rest) (head : P c) :
    Takes P (n + 1) (c :: cs) rest :=
  (takes.prepend [c] (by simpa using head)).mono (Nat.add_comm n 1).le

theorem Takes.after_blanks (takes : Takes P n (Text.trimStart cs) rest)
    (blanks : ∀ c, Text.isBlank c = true → P c) : Takes P n cs rest := by
  have whole := takes.prepend (cs.takeWhile Text.isBlank) fun c member =>
    blanks c (List.mem_takeWhile_imp member)
  rw [Text.trimStart, List.takeWhile_append_dropWhile] at whole
  exact whole.mono (Nat.le_add_left _ _)

variable (digits : ∀ c, isDigit c = true → P c) (blanks : ∀ c, Text.isBlank c = true → P c)

include digits

theorem takes_of_digits {run : List Char} (some_digit : run ≠ [])
    (all : ∀ c ∈ run, isDigit c = true) (rest : List Char) : Takes P 1 (run ++ rest) rest := by
  obtain rfl | ⟨front, c, rfl⟩ := List.eq_nil_or_concat run
  · exact absurd rfl some_digit
  · refine ⟨front, c, by simp, all c (by simp), by omega, fun d member => ?_,
      digits c (all c (by simp))⟩
    exact digits d (all d (by simp [member]))

theorem takes_readDigits {value : Nat} (read : readDigits? cs = some (value, rest)) :
    Takes P 1 cs rest := by
  unfold readDigits? at read
  split at read
  · cases read
  · rename_i some_digit
    cases read
    have takes := takes_of_digits digits some_digit (fun _ => List.mem_takeWhile_imp)
      (cs.dropWhile isDigit)
    rwa [List.takeWhile_append_dropWhile] at takes

theorem takes_readDigitsUpTo {width value : Nat}
    (read : readDigitsUpTo? width cs = some (value, rest)) : Takes P 1 cs rest := by
  unfold readDigitsUpTo? at read
  split at read
  · cases read
  · rename_i some_digit
    cases read
    have all : ∀ c ∈ (cs.takeWhile isDigit).take width, isDigit c = true := fun c member =>
      List.mem_takeWhile_imp (List.mem_of_mem_take member)
    have starts : (cs.takeWhile isDigit).take width <+: cs :=
      (List.take_prefix _ _).trans (List.takeWhile_prefix _)
    generalize (cs.takeWhile isDigit).take width = run at some_digit all starts ⊢
    obtain ⟨after, rfl⟩ := starts
    rw [List.drop_left]
    exact takes_of_digits digits some_digit all after

theorem takes_readFraction (point : P '.') {value : Nat}
    (read : readFraction? cs = some (value, rest)) : rest = cs ∨ Takes P 1 cs rest := by
  unfold readFraction? at read
  split at read
  · rename_i cs
    split at read
    · cases read
    · rename_i some_digit
      cases read
      have takes := takes_of_digits digits
        (fun none => some_digit (by rw [none, List.take_nil])) (fun _ => List.mem_takeWhile_imp)
        (cs.dropWhile isDigit)
      rw [List.takeWhile_append_dropWhile] at takes
      exact .inr ((takes.cons point).mono (by omega))
  · cases read
    exact .inl rfl

include blanks

theorem takes_readTwoDigits {value : Nat} (read : readTwoDigits? cs = some (value, rest)) :
    Takes P 1 cs rest :=
  (takes_readDigitsUpTo digits read).after_blanks blanks

theorem takes_readYear (plus : P '+') (minus : P '-') {year : Int}
    (read : readYear? cs = some (year, rest)) : Takes P 1 cs rest := by
  refine Takes.after_blanks ?_ blanks
  unfold readYear? at read
  split at read
  · rename_i found
    obtain ⟨⟨value, left⟩, run, rfl, rfl⟩ := Option.map_eq_some_iff.1 read
    rw [found]
    exact ((takes_readDigits digits run).cons minus).mono (by omega)
  · rename_i found
    obtain ⟨⟨value, left⟩, run, rfl, rfl⟩ := Option.map_eq_some_iff.1 read
    rw [found]
    exact ((takes_readDigits digits run).cons plus).mono (by omega)
  · obtain ⟨⟨value, left⟩, run, rfl, rfl⟩ := Option.map_eq_some_iff.1 read
    exact takes_readDigitsUpTo digits run

end Takes

/-! ## Dates and times -/

variable {cs rest : List Char}

theorem takes_scanDate {date : Date} (scan : Date.scan? cs = some (date, rest)) :
    Takes (· ≠ ':') 5 cs rest := by
  have digits (c : Char) (digit : isDigit c = true) : c ≠ ':' := by
    rintro rfl
    exact absurd digit (by decide)
  have blanks (c : Char) (blank : Text.isBlank c = true) : c ≠ ':' := by
    rintro rfl
    exact absurd blank (by decide)
  simp only [Date.scan?, Option.bind_eq_bind, Option.bind_eq_some_iff, expect?_eq_some_iff,
    Prod.exists] at scan
  obtain ⟨year, _, yearRead, _, rfl, month, _, monthRead, _, rfl, day, _, dayRead, valid⟩ := scan
  have takes := takes_readYear digits blanks (by decide) (by decide) yearRead
  have takes := takes.trans ((takes_readTwoDigits digits blanks monthRead).cons (by decide))
  have takes := takes.trans ((takes_readTwoDigits digits blanks dayRead).cons (by decide))
  split at valid
  · cases valid
    exact takes
  · cases valid

theorem takes_scanTime {time : Time} (scan : Time.scan? cs = some (time, rest)) :
    Takes (fun c => c ≠ '+' ∧ c ≠ '-') 5 cs rest := by
  have digits (c : Char) (digit : isDigit c = true) : c ≠ '+' ∧ c ≠ '-' := by
    constructor <;> rintro rfl <;> exact absurd digit (by decide)
  have blanks (c : Char) (blank : Text.isBlank c = true) : c ≠ '+' ∧ c ≠ '-' := by
    constructor <;> rintro rfl <;> exact absurd blank (by decide)
  simp only [Time.scan?, Option.bind_eq_bind, Option.bind_eq_some_iff, expect?_eq_some_iff,
    Prod.exists] at scan
  obtain ⟨hour, _, hourRead, _, rfl, minute, _, minuteRead, _, rfl, second, _, secondRead,
    nanosecond, _, fractionRead, valid⟩ := scan
  have takes := takes_readTwoDigits digits blanks hourRead
  have takes := takes.trans ((takes_readTwoDigits digits blanks minuteRead).cons (by decide))
  have takes := takes.trans ((takes_readTwoDigits digits blanks secondRead).cons (by decide))
  split at valid
  · cases valid
    obtain rfl | fraction := takes_readFraction digits (by decide) fractionRead
    · exact takes
    · exact (takes.trans fraction).mono (by omega)
  · cases valid

theorem Takes.last {P : Char → Prop} {n : Nat} (takes : Takes P n cs []) :
    cs ≠ [] ∧ cs.getLast? ≠ some 'Z' := by
  obtain ⟨front, c, rfl, digit, -⟩ := takes
  refine ⟨by simp, ?_⟩
  rw [List.getLast?_concat]
  rintro ⟨⟩
  exact absurd digit (by decide)

theorem Takes.all {P : Char → Prop} {n : Nat} (takes : Takes P n cs []) : ∀ c ∈ cs, P c := by
  obtain ⟨front, c, rfl, -, -, all, last⟩ := takes
  intro d member
  obtain old | new := List.mem_append.1 member
  · exact all d old
  · obtain rfl := List.mem_singleton.1 new
    exact last

theorem Takes.le_byteLength {P : Char → Prop} {n : Nat} (takes : Takes P n cs []) :
    n ≤ byteLength cs := by
  obtain ⟨front, c, rfl, -, length, -⟩ := takes
  have size (cs : List Char) : cs.length ≤ byteLength cs := by
    induction cs with
    | nil => exact Nat.le_refl 0
    | cons d cs ih =>
      have := d.utf8Size_pos
      rw [byteLength, List.length_cons]
      omega
  refine length.trans ?_
  simpa using size (front ++ [c])

theorem scan_of_readDate {date : Date} (read : Date.read? cs = some date) :
    Date.scan? cs = some (date, []) := by
  unfold Date.read? at read
  split at read
  · cases read
    assumption
  · cases read

theorem scan_of_readTime {time : Time} (read : Time.read? cs = some time) :
    Time.scan? cs = some (time, []) := by
  unfold Time.read? at read
  split at read
  · cases read
    assumption
  · cases read

theorem SignMark.not_mem {mark : Char} {sign : Int} (marked : SignMark mark sign)
    (unsigned : ∀ c ∈ cs, c ≠ '+' ∧ c ≠ '-') : mark ∉ cs := by
  intro member
  obtain ⟨plus, minus⟩ := unsigned mark member
  cases marked with
  | plus => exact plus rfl
  | minus => exact minus rfl

/-- Nothing of a date is taken for an offset. -/
theorem plain_of_readDate {date : Date} (read : Date.read? cs = some date) :
    cs ≠ [] ∧ Plain cs := by
  have takes := takes_scanDate (scan_of_readDate read)
  refine ⟨takes.last.1, takes.last.2, ?_⟩
  rintro before hours minutes mark sign rfl - - -
  exact takes.all ':' (by simp) rfl

/-- Nothing of a time is taken for an offset. -/
theorem plain_of_readTime {time : Time} (read : Time.read? cs = some time) :
    cs ≠ [] ∧ Plain cs := by
  have takes := takes_scanTime (scan_of_readTime read)
  refine ⟨takes.last.1, takes.last.2, ?_⟩
  rintro before hours minutes mark sign rfl - - marked
  exact marked.not_mem takes.all (by simp)

/-- Nothing of a date and time is taken for an offset. -/
theorem plain_of_readDateTime {value : DateTime} (read : DateTime.read? cs = some value) :
    cs ≠ [] ∧ Plain cs := by
  simp only [DateTime.read?, Option.bind_eq_bind, Option.bind_eq_some_iff, expect?_eq_some_iff,
    Prod.exists] at read
  obtain ⟨date, _, dateRead, clock, rfl, time, timeRead, -⟩ := read
  obtain ⟨front, c, rfl, -⟩ := takes_scanDate dateRead
  have takes := takes_scanTime (scan_of_readTime timeRead)
  obtain ⟨some_clock, last⟩ := takes.last
  have whole : front ++ c :: 'T' :: clock = (front ++ [c, 'T']) ++ clock := by simp
  refine ⟨by simp, ?_, ?_⟩
  · rwa [whole, List.getLast?_append_of_ne_nil _ some_clock]
  · intro before hours minutes mark sign same hoursTwo minutesTwo marked
    have unsigned := marked.not_mem takes.all
    rw [whole] at same
    obtain ⟨between, -, within⟩ | ⟨between, before_eq, within⟩ :=
      List.append_eq_append_iff.1 same
    · exact unsigned (by simp [within])
    · cases between with
      | nil =>
        rw [List.nil_append] at within
        exact unsigned (by simp [← within])
      | cons d between =>
        -- A sign before the time leaves no room for it in the five bytes that follow.
        rw [List.cons_append] at within
        obtain ⟨rfl, tail⟩ := List.cons.inj within
        have room := congrArg byteLength tail
        have colonSize : ':'.utf8Size = 1 := rfl
        rw [Text.byteLength_append, Text.byteLength_append, byteLength, hoursTwo, minutesTwo,
          colonSize] at room
        have long := takes.le_byteLength
        cases between with
        | nil =>
          have ends := congrArg List.getLast? before_eq
          simp only [List.getLast?_append, List.getLast?_cons_cons, List.getLast?_singleton,
            Option.some_or, Option.some.injEq] at ends
          subst ends
          cases marked
        | cons e between =>
          have := e.utf8Size_pos
          rw [byteLength] at room
          omega

end XsdRecords.Calendar
