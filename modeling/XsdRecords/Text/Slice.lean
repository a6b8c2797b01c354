import XsdRecords.Text.Utf8

/-! # Cutting text at byte offsets

Texts are sequences of characters, but some formats are laid out in bytes.  `splitAtByte?` cuts at
a byte offset and has no answer inside a character or past the end. -/

namespace XsdRecords.Text

/-- The number of bytes of a sequence of characters in UTF-8. -/
def byteLength : List Char → Nat
  | [] => 0
  | c :: rest => c.utf8Size + byteLength rest

@[simp] theorem byteLength_append (cs ds : List Char) :
    byteLength (cs ++ ds) = byteLength cs + byteLength ds := by
  induction cs with
  | nil => simp [byteLength]
  | cons c cs ih => simp [byteLength, ih, Nat.add_assoc]

/-- A text has as many bytes as its encoding. -/
theorem length_encode (cs : List Char) : (Utf8.encode cs).length = byteLength cs := by
  induction cs with
  | nil => rfl
  | cons c cs ih => simp [byteLength, ih]

/-- Cuts `cs` after `n` bytes, if a character ends there. -/
def splitAtByte? : Nat → List Char → Option (List Char × List Char)
  | 0, cs => some ([], cs)
  | _ + 1, [] => none
  | n + 1, c :: rest =>
    if c.utf8Size ≤ n + 1 then
      (splitAtByte? (n + 1 - c.utf8Size) rest).map (fun (before, after) => (c :: before, after))
    else none
  termination_by _ cs => cs.length

/-- A text can be cut wherever one of its parts ends. -/
theorem splitAtByte?_append (cs ds : List Char) :
    splitAtByte? (byteLength cs) (cs ++ ds) = some (cs, ds) := by
  induction cs with
  | nil => cases ds <;> simp [byteLength, splitAtByte?]
  | cons c cs ih =>
    have size := c.utf8Size_pos
    obtain ⟨n, hn⟩ : ∃ n, c.utf8Size + byteLength cs = n + 1 :=
      ⟨c.utf8Size + byteLength cs - 1, by omega⟩
    have rest : n + 1 - c.utf8Size = byteLength cs := by omega
    rw [byteLength, hn, List.cons_append, splitAtByte?, rest, ih, if_pos (by omega)]
    rfl

/-- A cut loses nothing and stands where it should. -/
theorem append_of_splitAtByte? {n : Nat} {cs before after : List Char}
    (h : splitAtByte? n cs = some (before, after)) :
    before ++ after = cs ∧ byteLength before = n := by
  fun_induction splitAtByte? n cs generalizing before after with
  | case1 => cases h; exact ⟨rfl, rfl⟩
  | case2 => cases h
  | case3 n c rest fits ih =>
    obtain ⟨⟨front, back⟩, cut, rfl, rfl⟩ :
        ∃ part, splitAtByte? (n + 1 - c.utf8Size) rest = some part ∧
          c :: part.1 = before ∧ part.2 = after := by
      simpa [Option.map_eq_some_iff] using h
    obtain ⟨whole, size⟩ := ih cut
    refine ⟨by rw [← whole]; rfl, ?_⟩
    simp only [byteLength]
    omega
  | case4 => cases h

/-- Cuts a text at the first occurrence of a character, which is dropped. -/
def cutAt? (mark : Char) (cs : List Char) : Option (List Char × List Char) :=
  match cs.dropWhile (· ≠ mark) with
  | [] => none
  | _ :: after => some (cs.takeWhile (· ≠ mark), after)

/-- What follows `start` in `cs`, if `cs` starts with it. -/
def dropStart? : List Char → List Char → Option (List Char)
  | [], cs => some cs
  | _ :: _, [] => none
  | c :: start, d :: cs => if c = d then dropStart? start cs else none

theorem dropStart?_eq_some_iff {start cs rest : List Char} :
    dropStart? start cs = some rest ↔ cs = start ++ rest := by
  induction start generalizing cs with
  | nil => simp [dropStart?]
  | cons c start ih =>
    cases cs with
    | nil => simp [dropStart?]
    | cons d cs =>
      by_cases h : c = d
      · simp [dropStart?, h, ih]
      · simp [dropStart?, h, Ne.symm h]

end XsdRecords.Text
