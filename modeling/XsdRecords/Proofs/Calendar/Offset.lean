import Mathlib.Data.List.Basic
import Mathlib.Tactic.IntervalCases
import XsdRecords.Calendar.Offset
import XsdRecords.Proofs.Text.Bytes

/-! # What stands for an offset

An offset is looked for in the last six bytes of a text.  `Zone` says which texts stand for one and
for how many seconds: besides nothing and `Z`, a sign, two characters for the hours, a colon and two
for the minutes.  The two characters are read as an integer is, so that the first may be a sign too
(`TwoPlaces`).  Where a text is `Plain`, nothing of it is taken for an offset. -/

namespace XsdRecords.Calendar

open Text (byteLength)
open Number (IntegerRange digitValue? readDecimal? readDigits readInteger)

/-! ## Two characters -/

/-- Two characters that an integer is read from: two digits, or a sign and a digit. -/
inductive TwoPlaces : List Char → Int → Prop
  | digits {m n : Nat} (tens : m < 10) (ones : n < 10) :
      TwoPlaces [m.digitChar, n.digitChar] (10 * m + n)
  | plus {n : Nat} (ones : n < 10) : TwoPlaces ['+', n.digitChar] n
  | minus {n : Nat} (ones : n < 10) : TwoPlaces ['-', n.digitChar] (-n)

theorem digitValue?_eq_some_iff {c : Char} {n : Nat} :
    digitValue? 10 c = some n ↔ n < 10 ∧ c = n.digitChar := by
  constructor
  · intro h
    simp only [digitValue?, Option.filter_eq_some_iff, Bool.and_eq_true, decide_eq_true_eq] at h
    obtain ⟨value, small⟩ := h
    have code : c.toNat = 0x30 + n := by
      split_ifs at value <;> cases value <;> omega
    refine ⟨small, Char.toNat_inj.1 ?_⟩
    rw [code]
    interval_cases n <;> rfl
  · rintro ⟨small, rfl⟩
    interval_cases n <;> rfl

/-- What integers are read from starts with a digit, after a sign. -/
theorem readDigits_cons {range : IntegerRange} {negative : Bool} {value read : Int} {c : Char}
    {cs : List Char} (h : readDigits 10 range negative value (c :: cs) = .ok read) :
    ∃ n : Nat, n < 10 ∧ c = n.digitChar ∧
      readDigits 10 range negative (if negative then value * 10 - n else value * 10 + n) cs =
        .ok read := by
  rw [readDigits] at h
  cases digit : digitValue? 10 c with
  | none => simp [digit] at h
  | some n =>
    obtain ⟨small, same⟩ := digitValue?_eq_some_iff.1 digit
    refine ⟨n, small, same, ?_⟩
    simp only [digit] at h
    generalize (if negative = true then value * 10 - n else value * 10 + n : Int) = next at h ⊢
    split at h
    · cases h
    · split at h
      · cases h
      · exact h

theorem utf8Size_digitChar {n : Nat} (small : n < 10) : n.digitChar.utf8Size = 1 := by
  interval_cases n <;> rfl

theorem TwoPlaces.read {cs : List Char} {value : Int} (two : TwoPlaces cs value) :
    readDecimal? IntegerRange.int32 cs = some value := by
  cases two with
  | @digits m n tens ones => interval_cases m <;> interval_cases n <;> rfl
  | @plus n ones => interval_cases n <;> rfl
  | @minus n ones => interval_cases n <;> rfl

theorem TwoPlaces.byteLength {cs : List Char} {value : Int} (two : TwoPlaces cs value) :
    byteLength cs = 2 := by
  cases two with
  | digits tens ones =>
    simp only [Text.byteLength, utf8Size_digitChar tens, utf8Size_digitChar ones]
  | plus ones | minus ones =>
    simp only [Text.byteLength, utf8Size_digitChar ones]
    rfl

/-- One byte has room for one digit. -/
theorem readDigits_of_byteLength {range : IntegerRange} {negative : Bool} {value read : Int}
    {cs : List Char} (h : readDigits 10 range negative value cs = .ok read)
    (one : Text.byteLength cs = 1) :
    ∃ n : Nat, n < 10 ∧ cs = [n.digitChar] ∧
      read = if negative then value * 10 - n else value * 10 + n := by
  cases cs with
  | nil => cases one
  | cons c rest =>
    obtain ⟨n, small, rfl, later⟩ := readDigits_cons h
    rw [Text.byteLength, utf8Size_digitChar small] at one
    cases rest with
    | nil =>
      rw [readDigits] at later
      exact ⟨n, small, rfl, (Except.ok.inj later).symm⟩
    | cons d rest =>
      have := d.utf8Size_pos
      rw [Text.byteLength] at one
      omega

/-- An integer in two bytes has a sign and a digit, or two digits. -/
theorem twoPlaces_of_read {cs : List Char} {value : Int}
    (read : readDecimal? IntegerRange.int32 cs = some value) (two : byteLength cs = 2) :
    TwoPlaces cs value := by
  have read : readInteger 10 IntegerRange.int32 cs = .ok value := by
    unfold readDecimal? at read
    cases h : readInteger 10 IntegerRange.int32 cs with
    | error fault =>
      rw [h] at read
      cases read
    | ok n =>
      rw [h] at read
      rw [Option.some.inj read]
  unfold readInteger at read
  split at read
  · cases read
  · cases read
  · cases read
  · rename_i digits _ _
    have left : byteLength digits = 1 := Nat.succ.inj ((Nat.add_comm _ _).trans two)
    obtain ⟨n, small, rfl, rfl⟩ := readDigits_of_byteLength read left
    simpa using TwoPlaces.plus small
  · rename_i digits _ _
    have left : byteLength digits = 1 := Nat.succ.inj ((Nat.add_comm _ _).trans two)
    rw [if_pos (by decide)] at read
    obtain ⟨n, small, rfl, rfl⟩ := readDigits_of_byteLength read left
    simpa using TwoPlaces.minus small
  · cases cs with
    | nil => cases two
    | cons c rest =>
      obtain ⟨m, tens, rfl, later⟩ := readDigits_cons read
      rw [Text.byteLength, utf8Size_digitChar tens] at two
      have left : byteLength rest = 1 := by omega
      obtain ⟨n, ones, rfl, rfl⟩ := readDigits_of_byteLength later left
      simpa [mul_comm] using TwoPlaces.digits tens ones

/-! ## Splitting -/

/-- The sign that an offset starts with. -/
inductive SignMark : Char → Int → Prop
  | plus : SignMark '+' 1
  | minus : SignMark '-' (-1)

/-- What stands for an offset. -/
inductive Zone : List Char → Offset → Prop
  | none : Zone [] Offset.utc
  | universal : Zone ['Z'] Offset.utc
  | signed {mark : Char} {sign hours minutes : Int} {hoursText minutesText : List Char}
      (marked : SignMark mark sign) (hoursRead : TwoPlaces hoursText hours)
      (minutesRead : TwoPlaces minutesText minutes) (hoursLe : hours ≤ 14)
      (minutesLe : minutes ≤ 59) :
      Zone (mark :: (hoursText ++ ':' :: minutesText)) ⟨sign * (hours * 3600 + minutes * 60)⟩

/-- A text whose end is not taken for an offset. -/
structure Plain (cs : List Char) : Prop where
  last : cs.getLast? ≠ some 'Z'
  free {before hours minutes : List Char} {mark : Char} {sign : Int} :
    cs = before ++ mark :: (hours ++ ':' :: minutes) → byteLength hours = 2 →
      byteLength minutes = 2 → ¬SignMark mark sign

section Split

variable {body hours minutes : List Char} {mark : Char} {sign : Int}

theorem signOfByte?_eq_some_iff {b : UInt8} :
    signOfByte? b = some sign ↔ (b = 0x2B ∧ sign = 1) ∨ (b = 0x2D ∧ sign = -1) := by
  unfold signOfByte?
  by_cases plus : b = 0x2B
  · simp [plus, eq_comm]
  · by_cases minus : b = 0x2D <;> simp [plus, minus, eq_comm]

theorem SignMark.encodeChar (marked : SignMark mark sign) :
    ∃ b, Text.Utf8.encodeChar mark = [b] ∧ signOfByte? b = some sign := by
  cases marked with
  | plus => exact ⟨0x2B, rfl, rfl⟩
  | minus => exact ⟨0x2D, rfl, rfl⟩

theorem SignMark.of_byte {b : UInt8} (signed : signOfByte? b = some sign)
    (same : mark.toNat = b.toNat) : SignMark mark sign := by
  obtain ⟨rfl, rfl⟩ | ⟨rfl, rfl⟩ := signOfByte?_eq_some_iff.1 signed
  · obtain rfl : mark = '+' := Char.toNat_inj.1 same
    exact .plus
  · obtain rfl : mark = '-' := Char.toNat_inj.1 same
    exact .minus

theorem slice?_append (before part after : List Char) {start stop : Nat}
    (starts : byteLength before = start) (stops : start + byteLength part = stop) :
    slice? (before ++ (part ++ after)) start stop = some part := by
  have width : stop - start = byteLength part := by omega
  simp only [slice?, ← starts, Text.splitAtByte?_append, Option.bind_eq_bind, Option.bind_some]
  rw [starts, width, Text.splitAtByte?_append]
  rfl

/-- What is split off where a sign and a colon are found, by the parts of the text. -/
theorem split?_of_found {cs : List Char} {n : Nat} {b : UInt8} (last : cs.getLast? ≠ some 'Z')
    (length : (Text.Utf8.encode cs).length = n + 6) (positive : 0 < n)
    (sign_found : (Text.Utf8.encode cs)[n]? = some b) (signed : signOfByte? b = some sign)
    (colon_found : (Text.Utf8.encode cs)[n + 3]? = some 0x3A) (front : slice? cs 0 n = some body)
    (hours_found : slice? cs (n + 1) (n + 3) = some hours)
    (minutes_found : slice? cs (n + 4) (n + 6) = some minutes) :
    Offset.split? cs =
      (readDecimal? IntegerRange.int32 hours).bind fun h =>
        (readDecimal? IntegerRange.int32 minutes).bind fun m =>
          if 14 < h || 59 < m then none else some (body, ⟨sign * (h * 3600 + m * 60)⟩) := by
  unfold Offset.split? Offset.readAt?
  rw [if_neg last]
  simp only [length, Nat.add_sub_cancel, Nat.reduceSubDiff, sign_found, colon_found, signed, front,
    hours_found, minutes_found, Option.bind_some, Option.bind_eq_bind]
  rw [if_pos (by simp; omega)]
  cases readDecimal? IntegerRange.int32 hours with
  | none => rfl
  | some h =>
    cases readDecimal? IntegerRange.int32 minutes with
    | none => rfl
    | some m =>
      dsimp only [Option.bind_some]
      split <;> rfl

theorem getLast?_signed (body hours : List Char) (mark : Char)
    (two : byteLength minutes = 2) :
    (body ++ mark :: (hours ++ ':' :: minutes)).getLast? = minutes.getLast? := by
  have some_minutes : minutes ≠ [] := by
    rintro rfl
    cases two
  have whole : body ++ mark :: (hours ++ ':' :: minutes) =
      (body ++ mark :: (hours ++ [':'])) ++ minutes := by simp
  rw [whole, List.getLast?_append_of_ne_nil _ some_minutes]

/-- Where a sign, two bytes, a colon and two bytes end a text, the bytes are read as integers. -/
theorem split?_signed (nonempty : body ≠ []) (marked : SignMark mark sign)
    (hoursTwo : byteLength hours = 2) (minutesTwo : byteLength minutes = 2)
    (last : minutes.getLast? ≠ some 'Z') :
    Offset.split? (body ++ mark :: (hours ++ ':' :: minutes)) =
      (readDecimal? IntegerRange.int32 hours).bind fun h =>
        (readDecimal? IntegerRange.int32 minutes).bind fun m =>
          if 14 < h || 59 < m then none else some (body, ⟨sign * (h * 3600 + m * 60)⟩) := by
  obtain ⟨b, single, signed⟩ := marked.encodeChar
  have markSize : mark.utf8Size = 1 := by
    rw [← Text.Utf8.length_encodeChar, single, List.length_singleton]
  have colonSize : ':'.utf8Size = 1 := rfl
  have positive : 0 < byteLength body := by
    obtain ⟨c, rest, rfl⟩ := List.exists_cons_of_ne_nil nonempty
    exact Nat.add_pos_left c.utf8Size_pos _
  have atColon : body ++ mark :: (hours ++ ':' :: minutes) =
      (body ++ mark :: hours) ++ ':' :: minutes := by simp
  have atHours : body ++ mark :: (hours ++ ':' :: minutes) =
      (body ++ [mark]) ++ (hours ++ ':' :: minutes) := by simp
  have atMinutes : body ++ mark :: (hours ++ ':' :: minutes) =
      (body ++ mark :: (hours ++ [':'])) ++ (minutes ++ []) := by simp
  refine split?_of_found ?_ ?_ positive (Text.getElem?_encode_append _ _ single) signed ?_
    (slice?_append [] body _ rfl (Nat.zero_add _)) ?_ ?_
  · rwa [getLast?_signed _ _ _ minutesTwo]
  · rw [Text.length_encode, atColon]
    simp only [Text.byteLength_append, byteLength, markSize, colonSize]
    omega
  · have found := Text.getElem?_encode_append (body ++ mark :: hours) minutes
      (show Text.Utf8.encodeChar ':' = [0x3A] from rfl)
    simpa [byteLength, markSize, hoursTwo] using found
  · rw [atHours]
    exact slice?_append _ _ _ (by simp [byteLength, markSize]) (by omega)
  · rw [atMinutes]
    exact slice?_append _ _ _ (by simp [byteLength, markSize, colonSize]; omega) (by omega)

/-- What stands where an offset is split off. -/
theorem exists_parts {cs : List Char} {n : Nat} {b : UInt8}
    (length : (Text.Utf8.encode cs).length = n + 6)
    (sign_found : (Text.Utf8.encode cs)[n]? = some b) (signed : signOfByte? b = some sign)
    (colon_found : (Text.Utf8.encode cs)[n + 3]? = some 0x3A) :
    ∃ body mark hours minutes, cs = body ++ mark :: (hours ++ ':' :: minutes) ∧
      byteLength body = n ∧ SignMark mark sign ∧ byteLength hours = 2 ∧ byteLength minutes = 2 := by
  have ascii : b < 0x80 := by
    obtain ⟨rfl, -⟩ | ⟨rfl, -⟩ := signOfByte?_eq_some_iff.1 signed <;> decide
  obtain ⟨body, mark, tail, rfl, here, same⟩ :=
    Text.exists_of_getElem?_encode sign_found ascii
  have marked := SignMark.of_byte signed same
  obtain ⟨b', single, -⟩ := marked.encodeChar
  have cut : Text.Utf8.encode (body ++ mark :: tail) =
      Text.Utf8.encode (body ++ [mark]) ++ Text.Utf8.encode tail := by
    rw [← Text.Utf8.encode_append, List.append_assoc, List.singleton_append]
  have front : (Text.Utf8.encode (body ++ [mark])).length = n + 1 := by
    rw [Text.Utf8.encode_append, List.length_append, Text.length_encode, here]
    simp [Text.Utf8.encode, single]
  rw [cut, List.getElem?_append_right (by omega), front] at colon_found
  rw [cut, List.length_append, front, Text.length_encode] at length
  have two : n + 3 - (n + 1) = 2 := by omega
  rw [two] at colon_found
  obtain ⟨hours, colon, minutes, rfl, hoursTwo, same⟩ :=
    Text.exists_of_getElem?_encode colon_found (by decide)
  obtain rfl : colon = ':' := Char.toNat_inj.1 same
  have colonSize : ':'.utf8Size = 1 := rfl
  rw [Text.byteLength_append, byteLength, hoursTwo, colonSize] at length
  exact ⟨body, mark, hours, minutes, rfl, here, marked, hoursTwo, by omega⟩

/-- A text ends with `Z`, with the parts of an offset, or with no offset. -/
theorem split?_cases (cs : List Char) :
    (∃ body, cs = body ++ ['Z']) ∨
    (∃ body mark sign hours minutes, cs = body ++ mark :: (hours ++ ':' :: minutes) ∧ body ≠ [] ∧
      SignMark mark sign ∧ byteLength hours = 2 ∧ byteLength minutes = 2 ∧
      minutes.getLast? ≠ some 'Z') ∨
    Offset.split? cs = some (cs, Offset.utc) := by
  by_cases last : cs.getLast? = some 'Z'
  · exact .inl (List.getLast?_eq_some_iff.1 last)
  right
  by_cases shaped : 6 < (Text.Utf8.encode cs).length ∧
      (Text.Utf8.encode cs)[(Text.Utf8.encode cs).length - 3]? = some 0x3A
  · cases found : (Text.Utf8.encode cs)[(Text.Utf8.encode cs).length - 6]?.bind signOfByte? with
    | none =>
      right
      unfold Offset.split?
      rw [if_neg last]
      dsimp only
      rw [if_pos (by simpa using shaped), found]
    | some sign =>
      left
      obtain ⟨b, sign_found, signed⟩ := Option.bind_eq_some_iff.1 found
      obtain ⟨long, colon_found⟩ := shaped
      obtain ⟨n, length⟩ : ∃ n, (Text.Utf8.encode cs).length = n + 6 :=
        ⟨_, (Nat.sub_add_cancel (Nat.le_of_lt long)).symm⟩
      rw [length, Nat.add_sub_cancel] at sign_found
      rw [length] at colon_found long
      obtain ⟨body, mark, hours, minutes, rfl, here, marked, hoursTwo, minutesTwo⟩ :=
        exists_parts length sign_found signed colon_found
      rw [getLast?_signed _ _ _ minutesTwo] at last
      refine ⟨body, mark, sign, hours, minutes, rfl, ?_, marked, hoursTwo, minutesTwo, last⟩
      rintro rfl
      rw [byteLength] at here
      omega
  · right
    unfold Offset.split?
    rw [if_neg last]
    dsimp only
    rw [if_neg (by simpa using shaped)]

/-- What is split off a text stands for an offset. -/
theorem zone_of_split? {cs : List Char} {o : Offset} (split : Offset.split? cs = some (body, o)) :
    ∃ zone, cs = body ++ zone ∧ Zone zone o := by
  obtain ⟨front, rfl⟩ | ⟨front, mark, sign, hours, minutes, rfl, nonempty, marked, hoursTwo,
    minutesTwo, last⟩ | whole := split?_cases cs
  · unfold Offset.split? at split
    rw [if_pos (by simp), List.dropLast_concat] at split
    cases split
    exact ⟨_, rfl, .universal⟩
  · rw [split?_signed nonempty marked hoursTwo minutesTwo last] at split
    obtain ⟨h, hoursRead, split⟩ := Option.bind_eq_some_iff.1 split
    obtain ⟨m, minutesRead, split⟩ := Option.bind_eq_some_iff.1 split
    split at split
    · cases split
    · rename_i small
      cases split
      simp only [Bool.or_eq_true, decide_eq_true_eq, not_or, not_lt] at small
      exact ⟨_, rfl, .signed marked (twoPlaces_of_read hoursRead hoursTwo)
        (twoPlaces_of_read minutesRead minutesTwo) small.1 small.2⟩
  · rw [whole] at split
    cases split
    exact ⟨[], by simp, .none⟩

theorem TwoPlaces.getLast?_ne {value : Int} (two : TwoPlaces minutes value) :
    minutes.getLast? ≠ some 'Z' := by
  cases two <;> simp

/-- What stands for an offset is split off a text whose own end does not. -/
theorem split?_append {zone : List Char} {o : Offset} (nonempty : body ≠ []) (plain : Plain body)
    (stands : Zone zone o) : Offset.split? (body ++ zone) = some (body, o) := by
  cases stands with
  | none =>
    rw [List.append_nil]
    obtain ⟨front, rfl⟩ | ⟨front, mark, sign, hours, minutes, rfl, -, marked, hoursTwo, minutesTwo,
      -⟩ | whole := split?_cases body
    · exact absurd (by simp) plain.last
    · exact absurd marked (plain.free rfl hoursTwo minutesTwo)
    · exact whole
  | universal =>
    unfold Offset.split?
    rw [if_pos (by simp), List.dropLast_concat]
  | @signed mark sign hours minutes hoursText minutesText marked hoursRead minutesRead hoursLe
      minutesLe =>
    rw [split?_signed nonempty marked hoursRead.byteLength minutesRead.byteLength
      minutesRead.getLast?_ne, hoursRead.read, minutesRead.read, Option.bind_some,
      Option.bind_some, if_neg (by simp; omega)]

end Split

end XsdRecords.Calendar
