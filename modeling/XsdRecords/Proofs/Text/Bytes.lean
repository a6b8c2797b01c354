import Mathlib.Data.String.Basic
import Mathlib.Tactic.SplitIfs
import XsdRecords.Text.Slice
import XsdRecords.Text.Utf8

/-! # Texts and their bytes

UTF-8 keeps the order of characters: the leading byte of a longer sequence is the larger one, and
sequences of one length are the digits of their characters to the base 64, highest first.  Between
two bytes a text can be cut if the second one starts a character.  That is told from the byte alone:
the bytes that go on with a character are those from 128 to 191, and no character starts with one of
them.  A byte below 128 is a character by itself, and never part of another one: where it is found,
the text can be cut before and after it. -/

/-! ## The order of texts is the order of their bytes -/

namespace XsdRecords.Text.Utf8

theorem toUInt8_lt_iff {m n : Nat} (hm : m < 256) (hn : n < 256) :
    m.toUInt8 < n.toUInt8 ↔ m < n := by
  rw [UInt8.lt_iff_toNat_lt, Nat.toUInt8_eq, Nat.toUInt8_eq, UInt8.toNat_ofNat', UInt8.toNat_ofNat',
    Nat.mod_eq_of_lt hm, Nat.mod_eq_of_lt hn]

theorem toUInt8_inj {m n : Nat} (hm : m < 256) (hn : n < 256) :
    m.toUInt8 = n.toUInt8 ↔ m = n := by
  rw [← UInt8.toNat_inj, Nat.toUInt8_eq, Nat.toUInt8_eq, UInt8.toNat_ofNat', UInt8.toNat_ofNat',
    Nat.mod_eq_of_lt hm, Nat.mod_eq_of_lt hn]

/-- The bytes of a smaller character are smaller before they end. -/
theorem encodeChar_append_lt {c d : Char} (less : c < d) (rest rest' : List UInt8) :
    encodeChar c ++ rest < encodeChar d ++ rest' := by
  have below : c.toNat < d.toNat := less
  have bound : d.toNat < 0x110000 := by
    obtain h | h := d.valid
    · exact h.trans (by decide)
    · exact h.2
  simp only [encodeChar, Nat.div_one]
  generalize c.toNat = m at below
  generalize d.toNat = n at below bound
  -- Either the second sequence is longer, or the characters differ first in one of their digits.
  split_ifs <;> try omega
  all_goals
    simp (disch := omega) only [List.cons_append, List.nil_append, List.cons_lt_cons_iff,
      toUInt8_lt_iff, toUInt8_inj]
    omega

theorem encode_lt {cs ds : List Char} (less : cs < ds) : encode cs < encode ds := by
  induction less with
  | @nil d rest =>
    cases bytes : encode (d :: rest) with
    | nil =>
      have size := length_encode_cons d rest
      rw [bytes, List.length_nil] at size
      exact absurd d.utf8Size_pos (by omega)
    | cons b bs => exact .nil
  | rel below => exact encodeChar_append_lt below _ _
  | cons later ih => exact List.append_left_lt ih

/-- One text is before another exactly if its bytes are. -/
theorem encodeText_lt_iff {a b : String} : encodeText a < encodeText b ↔ a < b := by
  refine ⟨fun less => ?_, fun less => encode_lt (String.lt_iff_toList_lt.1 less)⟩
  rcases lt_trichotomy a b with before | rfl | after
  · exact before
  · exact absurd less (List.lt_irrefl _)
  · exact absurd less (List.lt_asymm (encode_lt (String.lt_iff_toList_lt.1 after)))

end XsdRecords.Text.Utf8

/-! ## Where texts can be cut -/

namespace XsdRecords.Text

open Utf8

/-- Whether a byte goes on with a character that an earlier one starts. -/
def isContinuation (b : UInt8) : Bool := 0x80 ≤ b && b < 0xC0

/-- Whether a text can be cut before byte `i`: at its ends, and where a character starts. -/
def isBoundary (bytes : List UInt8) (i : Nat) : Bool :=
  i = 0 || i = bytes.length || bytes[i]?.any (!isContinuation ·)

theorem isContinuation_toUInt8 {n : Nat} (small : n < 256) :
    isContinuation n.toUInt8 = decide (0x80 ≤ n ∧ n < 0xC0) := by
  have low : 0x80 ≤ n.toUInt8 ↔ 0x80 ≤ n := by
    rw [← UInt8.not_lt, ← not_lt]
    exact not_congr (toUInt8_lt_iff small (by decide))
  have high : n.toUInt8 < 0xC0 ↔ n < 0xC0 := toUInt8_lt_iff small (by decide)
  rw [isContinuation, Bool.decide_and, decide_eq_decide.2 low, decide_eq_decide.2 high]

/-- A character starts with a byte that goes on with none, and its other bytes go on with it. -/
theorem exists_encodeChar_eq (c : Char) :
    ∃ lead follow, encodeChar c = lead :: follow ∧ isContinuation lead = false ∧
      ∀ b ∈ follow, isContinuation b = true := by
  have bound : c.toNat < 0x110000 := by
    obtain h | h := c.valid
    · exact Nat.lt_trans h (by decide)
    · exact h.2
  simp only [encodeChar]
  split_ifs
  all_goals
    refine ⟨_, _, rfl, ?_⟩
    simp (disch := omega) only [isContinuation_toUInt8, List.forall_mem_cons, List.not_mem_nil,
      decide_eq_true_eq, decide_eq_false_iff_not, IsEmpty.forall_iff, implies_true, and_true]
    omega

theorem isBoundary_eq_true_iff {bytes : List UInt8} {i : Nat} :
    isBoundary bytes i = true ↔
      i = 0 ∨ i = bytes.length ∨ ∃ b, bytes[i]? = some b ∧ isContinuation b = false := by
  simp [isBoundary, Option.any_eq_true, or_assoc]

/-- The bytes of characters are none, or start with one that goes on with nothing. -/
theorem getElem?_zero_encode (cs : List Char) :
    (encode cs).length = 0 ∨ ∃ b, (encode cs)[0]? = some b ∧ isContinuation b = false := by
  cases cs with
  | nil => exact .inl rfl
  | cons c rest =>
    obtain ⟨lead, follow, bytes, starts, -⟩ := exists_encodeChar_eq c
    refine .inr ⟨lead, ?_, starts⟩
    rw [encode, List.flatMap_cons, bytes]
    rfl

/-- Inside the bytes of a character there is no boundary, and past them are those of the rest. -/
theorem isBoundary_encode_cons {c : Char} {rest : List Char} {i : Nat} (positive : 0 < i) :
    isBoundary (encode (c :: rest)) i = true ↔
      c.utf8Size ≤ i ∧ isBoundary (encode rest) (i - c.utf8Size) = true := by
  obtain ⟨lead, follow, bytes, -, goesOn⟩ := exists_encodeChar_eq c
  have size : (lead :: follow).length = c.utf8Size := by rw [← length_encodeChar, bytes]
  have cons : encode (c :: rest) = (lead :: follow) ++ encode rest := by
    rw [encode, List.flatMap_cons, bytes]
    rfl
  rw [isBoundary_eq_true_iff, isBoundary_eq_true_iff, cons, List.length_append, size]
  by_cases inside : i < c.utf8Size
  · obtain ⟨j, rfl⟩ := Nat.exists_eq_succ_of_ne_zero positive.ne'
    have within : j < follow.length := by simpa [← size] using inside
    have here : ((lead :: follow) ++ encode rest)[j + 1]? = some follow[j] := by
      rw [List.getElem?_append_left (by simpa using within), List.getElem?_cons_succ,
        List.getElem?_eq_getElem within]
    refine ⟨?_, fun past => absurd past.1 (by omega)⟩
    rintro (zero | last | ⟨b, found, starts⟩)
    · cases zero
    · omega
    · cases here.symm.trans found
      rw [goesOn _ (List.getElem_mem within)] at starts
      cases starts
  · rw [List.getElem?_append_right (by omega), size]
    refine ⟨?_, ?_⟩
    · rintro (zero | last | found)
      · omega
      · exact ⟨by omega, .inr (.inl (by omega))⟩
      · exact ⟨by omega, .inr (.inr found)⟩
    · rintro ⟨le, zero | last | found⟩
      · rw [zero]
        exact .inr ((getElem?_zero_encode rest).imp_left (by omega))
      · exact .inr (.inl (by omega))
      · exact .inr (.inr found)

/-- A text can be cut before a byte exactly if the bytes before it are those of its first
characters. -/
theorem isBoundary_encode_iff {cs : List Char} {i : Nat} :
    isBoundary (encode cs) i = true ↔
      ∃ before after, cs = before ++ after ∧ byteLength before = i := by
  induction cs generalizing i with
  | nil =>
    simp only [isBoundary_eq_true_iff, encode_nil, List.length_nil, List.getElem?_nil, reduceCtorEq,
      false_and, exists_false, or_false, or_self, List.nil_eq_append_iff]
    exact ⟨fun zero => ⟨[], [], ⟨rfl, rfl⟩, zero.symm⟩,
      fun ⟨_, _, ⟨empty, _⟩, size⟩ => by rw [← size, empty]; rfl⟩
  | cons c rest ih =>
    obtain rfl | positive := i.eq_zero_or_pos
    · exact ⟨fun _ => ⟨[], _, rfl, rfl⟩, fun _ => isBoundary_eq_true_iff.2 (.inl rfl)⟩
    rw [isBoundary_encode_cons positive, ih]
    constructor
    · rintro ⟨le, before, after, rfl, size⟩
      exact ⟨c :: before, after, rfl, by rw [byteLength]; omega⟩
    · rintro ⟨before, after, whole, size⟩
      cases before with
      | nil =>
        rw [byteLength] at size
        omega
      | cons d before =>
        obtain ⟨rfl, rfl⟩ := List.cons.inj whole
        rw [byteLength] at size
        exact ⟨by omega, before, after, rfl, by omega⟩

theorem splitAtByte?_eq_some_iff {n : Nat} {cs before after : List Char} :
    splitAtByte? n cs = some (before, after) ↔ cs = before ++ after ∧ byteLength before = n := by
  constructor
  · intro h
    obtain ⟨whole, size⟩ := append_of_splitAtByte? h
    exact ⟨whole.symm, size⟩
  · rintro ⟨rfl, rfl⟩
    exact splitAtByte?_append before after

/-! ## Bytes below 128 -/

/-- A byte below 128 is a character by itself. -/
theorem encodeChar_of_mem {c : Char} {b : UInt8} (member : b ∈ encodeChar c) (ascii : b < 0x80) :
    encodeChar c = [b] ∧ c.toNat = b.toNat := by
  have bound : c.toNat < 0x110000 := by
    obtain h | h := c.valid
    · exact Nat.lt_trans h (by decide)
    · exact h.2
  have small : b.toNat < 0x80 := UInt8.lt_iff_toNat_lt.1 ascii
  have value {n : Nat} (same : b = n.toUInt8) (below : n < 256) : b.toNat = n := by
    rw [same, Nat.toUInt8_eq, UInt8.toNat_ofNat', Nat.mod_eq_of_lt below]
  unfold encodeChar at member ⊢
  dsimp only at member ⊢
  split at member
  · rename_i one
    rw [if_pos one]
    obtain rfl := List.mem_singleton.1 member
    exact ⟨rfl, (value rfl (by omega)).symm⟩
  · exfalso
    split_ifs at member <;> simp only [List.mem_cons, List.not_mem_nil, or_false] at member
    · obtain same | same := member <;> exact absurd (value same (by omega)) (by omega)
    · obtain same | same | same := member <;> exact absurd (value same (by omega)) (by omega)
    · obtain same | same | same | same := member <;>
        exact absurd (value same (by omega)) (by omega)

/-- A text can be cut where a byte below 128 is found. -/
theorem exists_of_getElem?_encode {cs : List Char} {i : Nat} {b : UInt8}
    (found : (encode cs)[i]? = some b) (ascii : b < 0x80) :
    ∃ before c after, cs = before ++ c :: after ∧ byteLength before = i ∧ c.toNat = b.toNat := by
  induction cs generalizing i with
  | nil => simp at found
  | cons c rest ih =>
    have cons : encode (c :: rest) = encodeChar c ++ encode rest := List.flatMap_cons
    rw [cons] at found
    by_cases inside : i < (encodeChar c).length
    · rw [List.getElem?_append_left inside] at found
      obtain ⟨single, same⟩ := encodeChar_of_mem (List.mem_of_getElem? found) ascii
      rw [single, List.length_singleton, Nat.lt_one_iff] at inside
      exact ⟨[], c, rest, rfl, inside.symm, same⟩
    · rw [List.getElem?_append_right (Nat.le_of_not_lt inside)] at found
      obtain ⟨before, d, after, rfl, length, same⟩ := ih found
      rw [length_encodeChar] at inside length
      exact ⟨c :: before, d, after, rfl, by rw [byteLength]; omega, same⟩

/-- A character that is one byte stands in the bytes of a text where it stands in the text. -/
theorem getElem?_encode_append (before after : List Char) {c : Char} {b : UInt8}
    (single : encodeChar c = [b]) : (encode (before ++ c :: after))[byteLength before]? = some b := by
  have cons : encode (c :: after) = b :: encode after := by
    rw [encode, List.flatMap_cons, single]
    rfl
  rw [encode_append, cons, ← length_encode, List.getElem?_append_right (Nat.le_refl _),
    Nat.sub_self, List.getElem?_cons_zero]

end XsdRecords.Text
