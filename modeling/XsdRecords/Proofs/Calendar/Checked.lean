import XsdRecords.Proofs.Calendar.Rendering
import XsdRecords.Proofs.Text.Bytes

/-! # Splitting an offset off with every step checked

The places where a text is cut are counted back from its end in bytes, with no look at where
characters start, and the seconds of an offset are computed from two numbers that may have signs of
their own.  `Offset.splitChecked` is the same splitting with a failure wherever a byte that is
not there would be read, a character would be cut in two, or an offset would be a day or more: it
never fails. -/

namespace XsdRecords.Calendar

open Text (byteLength isBoundary isBoundary_encode_iff splitAtByte?_eq_some_iff)
open Text.Utf8 (encode)
open Number (IntegerRange readDecimal?)

/-- A step that must not be taken. -/
inductive Misstep where
  /-- A byte is read past the end of a text. -/
  | byte (place : Nat)
  /-- A part of a text is taken whose bounds are in the wrong order, past the end, or inside a
  character. -/
  | cut (start stop : Nat)
  /-- An offset is made that is a day or more. -/
  | offset (seconds : Int)
  deriving DecidableEq, Repr

/-- The byte at a place. -/
def byteAt (bytes : List UInt8) (place : Nat) : Except Misstep UInt8 :=
  match bytes[place]? with
  | some b => .ok b
  | none => .error (.byte place)

/-- The part of a text between two byte offsets. -/
def cut (cs : List Char) (start stop : Nat) : Except Misstep (List Char) :=
  match slice? cs start stop with
  | some part => if start ≤ stop then .ok part else .error (.cut start stop)
  | none => .error (.cut start stop)

/-- The offset that is some seconds ahead of universal time. -/
def Offset.east (seconds : Int) : Except Misstep Offset :=
  if -86400 < seconds ∧ seconds < 86400 then .ok ⟨seconds⟩ else .error (.offset seconds)

/-- Reads the hours and minutes of an offset whose sign stands at the byte `signAt`, every step
checked. -/
def Offset.readChecked (cs : List Char) (signAt : Nat) (sign : Int) :
    Except Misstep (Option Offset) := do
  let hoursText ← cut cs (signAt + 1) (signAt + 3)
  match readDecimal? IntegerRange.int32 hoursText with
  | none => pure none
  | some hours =>
    let minutesText ← cut cs (signAt + 4) (encode cs).length
    match readDecimal? IntegerRange.int32 minutesText with
    | none => pure none
    | some minutes =>
      if 14 < hours || 59 < minutes then pure none
      else
        let offset ← east (sign * (hours * 3600 + minutes * 60))
        pure (some offset)

/-- The sign of the offset that a text ends with, if it ends with one: its last six bytes are a sign,
two bytes, a colon and two bytes. -/
def Offset.signChecked (bytes : List UInt8) : Except Misstep (Option Int) := do
  if 6 < bytes.length then
    let colon ← byteAt bytes (bytes.length - 3)
    if colon = 0x3A then
      let mark ← byteAt bytes (bytes.length - 6)
      pure (signOfByte? mark)
    else pure none
  else pure none

/-- Splits an offset off the end of a text, every step checked. -/
def Offset.splitChecked (cs : List Char) : Except Misstep (Option (List Char × Offset)) := do
  if cs.getLast? = some 'Z' then
    let offset ← east 0
    pure (some (cs.dropLast, offset))
  else
    let bytes := encode cs
    let signAt := bytes.length - 6
    match ← signChecked bytes with
    | none =>
      let offset ← east 0
      pure (some (cs, offset))
    | some sign =>
      match ← readChecked cs signAt sign with
      | none => pure none
      | some offset =>
        let body ← cut cs 0 signAt
        pure (some (body, offset))

/-! ## Cuts -/

/-- A part of a text is taken where both bounds are ends of characters, in their order. -/
theorem cut_eq_ok_iff {cs part : List Char} {start stop : Nat} :
    cut cs start stop = .ok part ↔
      ∃ before after, cs = before ++ (part ++ after) ∧ byteLength before = start ∧
        start + byteLength part = stop := by
  constructor
  · intro h
    unfold cut at h
    split at h
    · rename_i found
      split at h
      · rename_i ordered
        cases h
        simp only [slice?, Option.bind_eq_bind, Option.bind_eq_some_iff, Option.some.injEq,
          Prod.exists] at found
        obtain ⟨before, rest, front, part', after, back, rfl⟩ := found
        obtain ⟨rfl, size⟩ := splitAtByte?_eq_some_iff.1 front
        obtain ⟨rfl, width⟩ := splitAtByte?_eq_some_iff.1 back
        exact ⟨before, after, rfl, size, by omega⟩
      · cases h
    · cases h
  · rintro ⟨before, after, rfl, rfl, rfl⟩
    rw [cut, slice?_append before part after rfl rfl]
    exact if_pos (Nat.le_add_right _ _)

/-- A part of a text is taken exactly if its bounds are in order, in the text, and at no place inside
a character. -/
theorem exists_cut_iff {cs : List Char} {start stop : Nat} :
    (∃ part, cut cs start stop = .ok part) ↔
      start ≤ stop ∧ isBoundary (encode cs) start = true ∧ isBoundary (encode cs) stop = true := by
  simp only [cut_eq_ok_iff, isBoundary_encode_iff]
  constructor
  · rintro ⟨part, before, after, rfl, rfl, rfl⟩
    exact ⟨Nat.le_add_right _ _, ⟨before, _, rfl, rfl⟩,
      ⟨before ++ part, after, (List.append_assoc _ _ _).symm, Text.byteLength_append _ _⟩⟩
  · rintro ⟨ordered, ⟨before, rest, rfl, rfl⟩, ⟨front, after, whole, rfl⟩⟩
    obtain ⟨part, rfl, rfl⟩ | ⟨part, rfl, rfl⟩ := List.append_eq_append_iff.1 whole
    · exact ⟨part, before, after, by simp, rfl, (Text.byteLength_append _ _).symm⟩
    · rw [Text.byteLength_append] at ordered
      have empty : part = [] := by
        cases part with
        | nil => rfl
        | cons c part =>
          have := c.utf8Size_pos
          rw [byteLength] at ordered
          omega
      subst empty
      exact ⟨[], front, rest, by simp, by simp, by simp [byteLength]⟩

example : cut "+é:00".toList 1 2 = .error (.cut 1 2) := by decide +kernel

/-! ## The splitting -/

/-- What stands for an offset is less than a day. -/
theorem Zone.east {cs : List Char} {o : Offset} (zone : Zone cs o) :
    Offset.east o.seconds = .ok o := by
  obtain ⟨minutes, seconds, small⟩ := zone.exists_minutes
  exact if_pos (by omega)

theorem SignMark.utf8Size {mark : Char} {sign : Int} (marked : SignMark mark sign) :
    mark.utf8Size = 1 := by
  cases marked <;> rfl

theorem slice?_of_cut {cs part : List Char} {start stop : Nat}
    (h : cut cs start stop = .ok part) : slice? cs start stop = some part := by
  obtain ⟨before, after, rfl, starts, stops⟩ := cut_eq_ok_iff.1 h
  exact slice?_append before part after starts stops

theorem byteAt_of_getElem? {bytes : List UInt8} {place : Nat} {b : UInt8}
    (found : bytes[place]? = some b) : byteAt bytes place = .ok b := by
  rw [byteAt, found]

/-- Where a text ends with the parts of an offset, none of the cuts fails, and neither does the
offset. -/
theorem readChecked_eq {body hoursText minutesText : List Char} {mark : Char} {sign : Int}
    (marked : SignMark mark sign) (hoursTwo : byteLength hoursText = 2)
    (minutesTwo : byteLength minutesText = 2) :
    Offset.readChecked (body ++ mark :: (hoursText ++ ':' :: minutesText)) (byteLength body) sign =
      .ok (Offset.readAt? (body ++ mark :: (hoursText ++ ':' :: minutesText)) (byteLength body)
        sign) := by
  have markSize := marked.utf8Size
  have colonSize : ':'.utf8Size = 1 := rfl
  have hours_found : cut (body ++ mark :: (hoursText ++ ':' :: minutesText)) (byteLength body + 1)
      (byteLength body + 3) = .ok hoursText :=
    cut_eq_ok_iff.2 ⟨body ++ [mark], ':' :: minutesText, by simp, by simp [byteLength, markSize],
      by omega⟩
  have minutes_found : cut (body ++ mark :: (hoursText ++ ':' :: minutesText)) (byteLength body + 4)
      (byteLength body + 6) = .ok minutesText :=
    cut_eq_ok_iff.2 ⟨body ++ mark :: (hoursText ++ [':']), [], by simp,
      by simp [byteLength, markSize, colonSize]; omega, by omega⟩
  have length : (encode (body ++ mark :: (hoursText ++ ':' :: minutesText))).length =
      byteLength body + 6 := by
    simp only [Text.length_encode, Text.byteLength_append, byteLength]
    omega
  unfold Offset.readChecked Offset.readAt?
  rw [length, hours_found, minutes_found, slice?_of_cut hours_found, slice?_of_cut minutes_found]
  simp only [bind, Except.bind, pure, Except.pure, Option.bind]
  cases hoursRead : readDecimal? IntegerRange.int32 hoursText with
  | none => rfl
  | some hours =>
    cases minutesRead : readDecimal? IntegerRange.int32 minutesText with
    | none => rfl
    | some minutes =>
      dsimp only
      split
      · rfl
      · rename_i small
        simp only [Bool.or_eq_true, decide_eq_true_eq, not_or, not_lt] at small
        have zone := Zone.signed marked (twoPlaces_of_read hoursRead hoursTwo)
          (twoPlaces_of_read minutesRead minutesTwo) small.1 small.2
        rw [zone.east]

/-- Both bytes that are looked at are there. -/
theorem signChecked_eq (bytes : List UInt8) :
    Offset.signChecked bytes =
      .ok (if 6 < bytes.length && bytes[bytes.length - 3]? = some 0x3A then
        bytes[bytes.length - 6]?.bind signOfByte? else none) := by
  unfold Offset.signChecked
  by_cases long : 6 < bytes.length
  · have colon := List.getElem?_eq_getElem (show bytes.length - 3 < bytes.length by omega)
    have mark := List.getElem?_eq_getElem (show bytes.length - 6 < bytes.length by omega)
    rw [if_pos long, byteAt_of_getElem? colon, byteAt_of_getElem? mark, colon, mark]
    simp only [long, decide_true, Bool.true_and, Option.some.injEq, decide_eq_true_eq,
      Option.bind_some]
    by_cases found : bytes[bytes.length - 3] = 0x3A
    · rw [if_pos found]
      simp only [bind, Except.bind, if_pos found]
      rfl
    · rw [if_neg found]
      simp only [bind, Except.bind, if_neg found]
      rfl
  · rw [if_neg long, if_neg (by simp [long])]
    rfl

/-- No step that is checked fails, and the checks change nothing. -/
theorem splitChecked_eq (cs : List Char) : Offset.splitChecked cs = .ok (Offset.split? cs) := by
  unfold Offset.splitChecked Offset.split?
  by_cases last : cs.getLast? = some 'Z'
  · rw [if_pos last, if_pos last]
    rfl
  rw [if_neg last, if_neg last]
  dsimp only
  rw [signChecked_eq]
  by_cases shaped :
      (6 < (encode cs).length && (encode cs)[(encode cs).length - 3]? = some 0x3A) = true
  · rw [if_pos shaped, if_pos shaped]
    cases found : (encode cs)[(encode cs).length - 6]?.bind signOfByte? with
    | none => rfl
    | some sign =>
      obtain ⟨b, sign_found, signed⟩ := Option.bind_eq_some_iff.1 found
      simp only [Bool.and_eq_true, decide_eq_true_eq] at shaped
      obtain ⟨long, colon_found⟩ := shaped
      obtain ⟨n, length⟩ : ∃ n, (encode cs).length = n + 6 := ⟨_, (Nat.sub_add_cancel long.le).symm⟩
      rw [length] at sign_found colon_found ⊢
      obtain ⟨body, mark, hours, minutes, rfl, rfl, marked, hoursTwo, minutesTwo⟩ :=
        exists_parts length sign_found signed colon_found
      have front : cut (body ++ mark :: (hours ++ ':' :: minutes)) 0 (byteLength body) = .ok body :=
        cut_eq_ok_iff.2 ⟨[], _, rfl, rfl, Nat.zero_add _⟩
      rw [Nat.add_sub_cancel]
      simp only [bind, Except.bind, readChecked_eq marked hoursTwo minutesTwo, front,
        slice?_of_cut front]
      cases Offset.readAt? (body ++ mark :: (hours ++ ':' :: minutes)) (byteLength body) sign <;>
        rfl
  · rw [if_neg shaped, if_neg shaped]
    rfl

end XsdRecords.Calendar
