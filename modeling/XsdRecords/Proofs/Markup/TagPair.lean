import XsdRecords.Proofs.Markup.Values

/-! # Pairs for an empty tag

A start tag and its end tag stand for an empty tag if they have its name and its attributes.  Most
empty tags have a pair with their own text: only a name with quotes or a `>` in it, or a second
slash before the `>`, would read otherwise without the slash. -/

namespace XsdRecords.Markup

/-- A start tag and its end tag for an empty tag, by the text between their marks.  Both are tags
when they are read by themselves. -/
structure TagPair (text : List UInt8) where
  opening : List UInt8
  closing : List UInt8
  opens : scanMarkup (opening ++ [Byte.greater]) = ⟨.start opening, opening.length + 1⟩
  isOpen : opening.getLast? ≠ some Byte.slash
  closes : scanMarkup (Byte.slash :: (closing ++ [Byte.greater])) =
    ⟨.stop closing, closing.length + 2⟩
  name : tagName opening = tagName text
  attributes : readAttributes opening = readAttributes text
  closingName : Lexer.endName closing = tagName text

/-- The bytes of a pair, those of `rest` after them. -/
def TagPair.before {text : List UInt8} (pair : TagPair text) (rest : List UInt8) : List UInt8 :=
  Byte.less :: (pair.opening ++ Byte.greater ::
    Byte.less :: Byte.slash :: (pair.closing ++ Byte.greater :: rest))

/-- Markup by itself is found wherever it stands. -/
theorem scanMarkup_append (text : List UInt8) {construct : Construct}
    (scan : scanMarkup (text ++ [Byte.greater]) = ⟨construct, text.length + 1⟩)
    (sound : ∀ fault, construct ≠ .fault fault) (rest : List UInt8) :
    scanMarkup (text ++ Byte.greater :: rest) = ⟨construct, text.length + 1⟩ := by
  have found (fault : SyntaxFault) :
      (scanMarkup (text ++ [Byte.greater])).construct ≠ .fault fault := by
    rw [scan]
    exact sound fault
  obtain ⟨n, used, text', rest', split, length, same⟩ := scanMarkup_within found
  rw [scan, Nat.add_right_cancel_iff] at used
  obtain ⟨rfl, -⟩ := List.append_inj split (by rw [length, ← used])
  rw [same, scan]

/-! ## The pair in the text of a tag -/

section Length

variable {text : List UInt8}

theorem tagLength_cons_iff {quote : Option UInt8} {b : UInt8} {rest : List UInt8} {n : Nat} :
    tagLength quote (b :: rest) = .ok (n + 1) ↔
      (quote = none → b ≠ Byte.greater) ∧ tagLength (stepQuote quote b) rest = .ok n := by
  have map_ok (length : Except SyntaxFault Nat) :
      length.map (· + 1) = .ok (n + 1) ↔ length = .ok n := by
    cases length <;> simp [Except.map]
  cases quote with
  | none =>
    rw [tagLength]
    by_cases greater : b = Byte.greater
    · simp [greater]
    · simp [greater, map_ok, stepQuote]
  | some q => simp [tagLength, map_ok, stepQuote]

/-- Without its slash the text of a tag still ends where it did. -/
theorem tagLength_of_slash {quote : Option UInt8} {rest : List UInt8}
    (other : quote ≠ some Byte.slash)
    (length : tagLength quote (text ++ Byte.slash :: Byte.greater :: rest) = .ok (text.length + 1))
    (rest' : List UInt8) : tagLength quote (text ++ Byte.greater :: rest') = .ok text.length := by
  induction text generalizing quote with
  | nil =>
    cases quote with
    | none => rfl
    | some q =>
      -- In quotes the `>` after the slash would not end the tag.
      have quoted : stepQuote (some q) Byte.slash = some q :=
        if_neg fun same => other (by rw [same])
      have ended := (tagLength_cons_iff.1 length).2
      rw [quoted, tagLength] at ended
      cases more : tagLength (if Byte.greater = q then none else some q) rest <;>
        simp [more, Except.map] at ended
  | cons b text ih =>
    obtain ⟨goes, length⟩ := tagLength_cons_iff.1 length
    refine tagLength_cons_iff.2 ⟨goes, ih ?_ length⟩
    cases quote with
    | none =>
      unfold stepQuote
      dsimp only
      split
      · rename_i isQuote
        rintro ⟨⟩
        exact absurd isQuote (by decide)
      · simp
    | some q =>
      unfold stepQuote
      dsimp only
      split
      · simp
      · exact other

theorem tagLength_of_free (free : ∀ b ∈ text, Byte.isQuote b = false ∧ b ≠ Byte.greater)
    (rest : List UInt8) : tagLength none (text ++ Byte.greater :: rest) = .ok text.length := by
  induction text with
  | nil => rfl
  | cons b text ih =>
    obtain ⟨quote, greater⟩ := free b (by simp)
    refine tagLength_cons_iff.2 ⟨fun _ => greater, ?_⟩
    rw [show stepQuote none b = none from if_neg (by simp [quote])]
    exact ih fun b mem => free b (by simp [mem])

end Length

theorem scanMarkup_of_length {b : UInt8} {text : List UInt8} (bang : b ≠ Byte.bang)
    (question : b ≠ Byte.question)
    (length : tagLength none (b :: (text ++ [Byte.greater])) = .ok (text.length + 1)) :
    scanMarkup (b :: (text ++ [Byte.greater])) =
      ⟨if b = Byte.slash then .stop text else .start (b :: text), text.length + 2⟩ := by
  rw [scanMarkup, if_neg bang, if_neg question, scanTag, length]
  simp

/-- The text of an empty tag, without its slash, is that of a start tag. -/
theorem length_of_start {bytes text : List UInt8}
    (start : (scanMarkup bytes).construct = .start (text ++ [Byte.slash])) :
    ∃ b text', text = b :: text' ∧ b ≠ Byte.bang ∧ b ≠ Byte.question ∧ b ≠ Byte.slash ∧
      tagLength none (b :: (text' ++ [Byte.greater])) = .ok (text'.length + 1) := by
  have found := start
  rw [Lexer.scanMarkup_eq_scanTag (Construct.isTag_of_start start), scanTag] at found
  cases length : tagLength none bytes with
  | error fault =>
    rw [length] at found
    cases found
  | ok n =>
    rw [length] at found
    obtain ⟨body, rest, rfl, rfl, -⟩ := tagLength_within length
    dsimp only at found
    rw [List.take_left] at found
    cases body with
    | nil => simp at found
    | cons b body =>
      dsimp only at found
      split at found
      · cases found
      · rename_i slash
        obtain ⟨bang, question⟩ := Lexer.head_of_isTag (Construct.isTag_of_start start)
        have body_eq := Construct.start.inj found
        cases text with
        | nil =>
          obtain ⟨rfl, -⟩ := List.cons.inj body_eq
          exact absurd rfl slash
        | cons b' text =>
          obtain ⟨rfl, rfl⟩ := List.cons.inj body_eq
          refine ⟨b, text, rfl, bang, question, slash, ?_⟩
          have whole : tagLength none ((b :: text) ++ Byte.slash :: Byte.greater :: rest) =
              .ok ((b :: text).length + 1) := by
            simpa using length
          exact tagLength_of_slash (by simp) whole []

theorem endName_tagName (text : List UInt8) : Lexer.endName (tagName text) = tagName text := by
  have unblank : ∀ b ∈ tagName text, Byte.isBlank b = false := fun b mem => by
    simpa using List.mem_takeWhile_imp mem
  have kept : (tagName text).reverse.dropWhile Byte.isBlank = (tagName text).reverse := by
    refine List.dropWhile_eq_self_iff.2 fun _ => ?_
    rw [unblank _ (List.mem_reverse.1 (List.getElem_mem _))]
    decide
  unfold Lexer.endName
  rw [kept, List.reverse_reverse, ite_self]

namespace Lexer

variable {l : Lexer} {extra : Nat} {opened : List (List UInt8)}

theorem scan_of_stepMarkup {blanks offset : Nat} {rest text : List UInt8}
    (h : l.stepMarkup blanks rest = .next (some ⟨offset, .start text true⟩) extra opened) :
    (scanMarkup rest).construct = .start (text ++ [Byte.slash]) := by
  unfold stepMarkup at h
  dsimp only at h
  split at h
  · rename_i written start
    split at h
    · rename_i slash
      obtain ⟨text, rfl⟩ := List.getLast?_eq_some_iff.1 slash
      cases h
      rw [start, List.dropLast_concat]
    · cases h
  · unfold matchEnd at h
    cases names : l.opened with
    | nil =>
      rw [names] at h
      cases h
    | cons expected outer =>
      rw [names] at h
      dsimp only at h
      split at h <;> cases h
  all_goals cases h

/-- An empty tag is written between a `<` and a slash. -/
theorem scan_of_start {offset : Nat} {text : List UInt8}
    (h : l.step = .next (some ⟨offset, .start text true⟩) extra opened) :
    ∃ blanks rest, l.unread = blanks ++ Byte.less :: rest ∧
      l.unread.takeWhile Byte.isBlank = blanks ∧
      (scanMarkup rest).construct = .start (text ++ [Byte.slash]) := by
  obtain isFault | ⟨blanks, rest, unread, blank, markup⟩ := step_some h
  · cases isFault
  · exact ⟨blanks, rest, unread, blank, scan_of_stepMarkup markup⟩

/-- An empty tag has a pair in its own text, unless its name has quotes or a `>` in it or its text
ends with one more slash. -/
theorem exists_tagPair {offset : Nat} {text : List UInt8}
    (h : l.step = .next (some ⟨offset, .start text true⟩) extra opened)
    (isOpen : text.getLast? ≠ some Byte.slash)
    (free : ∀ b ∈ tagName text, Byte.isQuote b = false ∧ b ≠ Byte.greater) :
    ∃ pair : TagPair text, pair.opening = text ∧ pair.closing = tagName text := by
  obtain ⟨-, bytes, -, -, start⟩ := scan_of_start h
  obtain ⟨b, text', rfl, bang, question, slash, length⟩ := length_of_start start
  have closing : tagLength none (Byte.slash :: (tagName (b :: text') ++ [Byte.greater])) =
      .ok ((tagName (b :: text')).length + 1) :=
    tagLength_cons_iff.2 ⟨fun _ => by decide, tagLength_of_free free []⟩
  refine ⟨⟨b :: text', tagName (b :: text'), ?_, isOpen, ?_, rfl, rfl, ?_⟩, rfl, rfl⟩
  · rw [List.cons_append, scanMarkup_of_length bang question length, if_neg slash]
    rfl
  · rw [scanMarkup_of_length (by decide) (by decide) closing, if_pos rfl]
  · exact endName_tagName _

end Lexer

end XsdRecords.Markup
