import Mathlib.Data.List.TakeWhile
import XsdRecords.Markup.Lexer

/-! # What a step of the lexer looks at

A tag ends at a `>`, and nothing after it bears on what the tag is; text and a broken reference end
before a byte of markup, of which only the first byte matters.  A step therefore finds the same
whatever the rest of the document is. -/

namespace XsdRecords.Markup

/-- A keyword without `>` stands before a `>` or not at all, whatever comes after. -/
theorem prefix_append_cons_iff {keyword : List UInt8} {mark : UInt8} (free : mark ∉ keyword)
    (text rest : List UInt8) : keyword <+: text ++ mark :: rest ↔ keyword <+: text := by
  refine ⟨fun starts => ?_, fun starts => starts.trans (List.prefix_append _ _)⟩
  have marked : text ++ [mark] <+: text ++ mark :: rest := ⟨rest, by simp⟩
  obtain within | beyond := List.prefix_or_prefix_of_prefix starts marked
  · obtain rfl | within := List.prefix_concat_iff.1 within
    · exact absurd (by simp) free
    · exact within
  · exact absurd (beyond.subset (by simp)) free

/-- The first byte of what ends with a mark is there already. -/
theorem head?_append_cons (text : List UInt8) (mark : UInt8) (rest rest' : List UInt8) :
    (text ++ mark :: rest).head? = (text ++ mark :: rest').head? := by
  cases text <;> rfl

/-! ## Scanners -/

/-- What a scanner answers for these bytes depends on nothing past a `>`, which `n` bytes precede.
-/
def Within {α : Type} (scan : List UInt8 → α) (bytes : List UInt8) (n : Nat) : Prop :=
  ∃ text rest, bytes = text ++ Byte.greater :: rest ∧ text.length = n ∧
    ∀ rest', scan (text ++ Byte.greater :: rest') = scan bytes

section Scanners

variable {α β : Type} {scan : List UInt8 → α} {bytes : List UInt8} {n : Nat}

theorem Within.cons {scan' : List UInt8 → β} {b : UInt8} (within : Within scan bytes n)
    (after : ∀ text rest rest', bytes = text ++ Byte.greater :: rest →
      scan (text ++ Byte.greater :: rest') = scan bytes →
      scan' (b :: (text ++ Byte.greater :: rest')) = scan' (b :: bytes)) :
    Within scan' (b :: bytes) (n + 1) := by
  obtain ⟨text, rest, rfl, rfl, same⟩ := within
  exact ⟨b :: text, rest, rfl, rfl, fun rest' => after text rest rest' rfl (same rest')⟩

/-- The first byte may choose between scanners. -/
theorem Within.of_head {scan' : List UInt8 → α} {b : UInt8} (within : Within scan bytes n)
    (head : bytes.head? = some b)
    (chosen : ∀ bytes : List UInt8, bytes.head? = some b → scan' bytes = scan bytes) :
    Within scan' bytes n := by
  obtain ⟨text, rest, rfl, length, same⟩ := within
  refine ⟨text, rest, rfl, length, fun rest' => ?_⟩
  rw [chosen _ head, chosen _ (head ▸ head?_append_cons text _ rest' rest), same]

theorem tagLength_within {quote : Option UInt8} (h : tagLength quote bytes = .ok n) :
    Within (tagLength quote) bytes n := by
  induction bytes generalizing quote n with
  | nil => cases quote <;> simp [tagLength] at h
  | cons b rest ih =>
    cases quote with
    | none =>
      unfold tagLength at h
      by_cases ends : b = Byte.greater
      · rw [if_pos ends] at h
        cases h
        exact ⟨[], rest, by rw [ends]; rfl, rfl, fun rest' => by simp [tagLength, ends]⟩
      · rw [if_neg ends] at h
        cases more : tagLength (if Byte.isQuote b then some b else none) rest with
        | error fault => rw [more] at h; cases h
        | ok m =>
          rw [more] at h
          cases h
          refine (ih more).cons fun text _ rest' _ same => ?_
          rw [tagLength, if_neg ends, tagLength, if_neg ends, same]
    | some quote =>
      unfold tagLength at h
      cases more : tagLength (if b = quote then none else some quote) rest with
      | error fault => rw [more] at h; cases h
      | ok m =>
        rw [more] at h
        cases h
        refine (ih more).cons fun text _ rest' _ same => ?_
        rw [tagLength, tagLength, same]

theorem lengthUntil_within {before : List UInt8 → Bool} {passed : List UInt8}
    (h : lengthUntil before passed bytes = some n) :
    ∃ m, n = passed.length + m ∧ Within (lengthUntil before passed) bytes m := by
  induction bytes generalizing passed with
  | nil => simp [lengthUntil] at h
  | cons b rest ih =>
    unfold lengthUntil at h
    split at h
    · -- Whether the bytes end here was told by what is passed already.
      rename_i ends
      cases h
      have mark : b = Byte.greater := by simp_all
      subst mark
      refine ⟨0, rfl, [], rest, rfl, rfl, fun rest' => ?_⟩
      rw [List.nil_append, lengthUntil, if_pos ends, lengthUntil, if_pos ends]
    · rename_i goes
      obtain ⟨m, rfl, within⟩ := ih h
      refine ⟨m + 1, by simp only [List.length_cons]; omega, within.cons fun _ _ _ _ same => ?_⟩
      rw [lengthUntil, if_neg goes, lengthUntil, if_neg goes, same]

/-- In a document type declaration a few bytes are looked ahead, but not past a `>`. -/
theorem DoctypePlace.next_within (place : DoctypePlace) (passed : List UInt8) (b : UInt8)
    (text rest rest' : List UInt8) :
    place.next passed b (text ++ Byte.greater :: rest') =
      place.next passed b (text ++ Byte.greater :: rest) := by
  have free : Byte.greater ∉ Byte.ofText "!--" := by decide
  have comment : Byte.ofText "!--" <+: text ++ Byte.greater :: rest' ↔
      Byte.ofText "!--" <+: text ++ Byte.greater :: rest :=
    (prefix_append_cons_iff free _ _).trans (prefix_append_cons_iff free _ _).symm
  unfold DoctypePlace.next
  simp only [comment, head?_append_cons text Byte.greater rest' rest]

theorem doctypeLength_within {place : DoctypePlace} {passed : List UInt8}
    (h : doctypeLength place passed bytes = some n) :
    ∃ m, n = passed.length + m ∧ Within (doctypeLength place passed) bytes m := by
  induction bytes generalizing place passed with
  | nil => simp [doctypeLength] at h
  | cons b rest ih =>
    unfold doctypeLength at h
    split at h
    · rename_i ends
      cases h
      have mark : b = Byte.greater := by simp_all
      subst mark
      refine ⟨0, rfl, [], rest, rfl, rfl, fun rest' => ?_⟩
      rw [List.nil_append, doctypeLength, if_pos ends, doctypeLength, if_pos ends]
    · rename_i goes
      obtain ⟨m, rfl, within⟩ := ih h
      refine ⟨m + 1, by simp only [List.length_cons]; omega,
        within.cons fun text rest rest' same later => ?_⟩
      subst same
      rw [doctypeLength, if_neg goes, doctypeLength, if_neg goes, place.next_within _ _ _ rest,
        later]

/-! ## Markup -/

/-- Where a tag is found, nothing past its `>` is looked at. -/
theorem scanTag_within (sound : ∀ fault, (scanTag bytes).construct ≠ .fault fault) :
    ∃ n, (scanTag bytes).used = n + 1 ∧ Within scanTag bytes n := by
  cases length : tagLength none bytes with
  | error fault => exact absurd (by rw [scanTag, length]) (sound fault)
  | ok n =>
    obtain ⟨text, rest, rfl, rfl, same⟩ := tagLength_within length
    refine ⟨text.length, ?_, text, rest, rfl, rfl, fun rest' => ?_⟩
    · rw [scanTag, length]
      cases text <;> rfl
    · rw [scanTag, same, length, scanTag, length]
      simp

theorem scanInstruction_within (sound : ∀ fault, (scanInstruction bytes).construct ≠ .fault fault) :
    ∃ n, (scanInstruction bytes).used = n + 1 ∧ Within scanInstruction bytes n := by
  cases length : lengthUntil (·.head? = some Byte.question) [] bytes with
  | none => exact absurd (by rw [scanInstruction, length]) (sound _)
  | some n =>
    obtain ⟨m, rfl, text, rest, rfl, rfl, same⟩ := lengthUntil_within length
    refine ⟨_, by rw [scanInstruction, length], text, rest, rfl, by simp, fun rest' => ?_⟩
    rw [scanInstruction, same, length, scanInstruction, length]

theorem scanComment_within (sound : ∀ fault, (scanComment bytes).construct ≠ .fault fault) :
    ∃ n, (scanComment bytes).used = n + 2 ∧ Within scanComment bytes n := by
  cases length : lengthUntil (fun passed => 4 ≤ passed.length && Byte.ofText "--" <+: passed) []
      bytes with
  | none => exact absurd (by rw [scanComment, length]) (sound _)
  | some n =>
    obtain ⟨m, rfl, text, rest, rfl, rfl, same⟩ := lengthUntil_within length
    refine ⟨_, by rw [scanComment, length], text, rest, rfl, by simp, fun rest' => ?_⟩
    have free : Byte.greater ∉ Byte.ofText "--" := by decide
    rw [scanComment, same, length, scanComment, length]
    simp only [prefix_append_cons_iff free]

theorem scanCData_within (sound : ∀ fault, (scanCData bytes).construct ≠ .fault fault) :
    ∃ n, (scanCData bytes).used = n + 2 ∧ Within scanCData bytes n := by
  cases length : lengthUntil (Byte.ofText "]]" <+: ·) [] bytes with
  | none => exact absurd (by rw [scanCData, length]) (sound _)
  | some n =>
    obtain ⟨m, rfl, text, rest, rfl, rfl, same⟩ := lengthUntil_within length
    refine ⟨_, by rw [scanCData, length], text, rest, rfl, by simp, fun rest' => ?_⟩
    have free : Byte.greater ∉ Byte.ofText "[CDATA[" := by decide
    rw [scanCData, same, length, scanCData, length]
    simp only [prefix_append_cons_iff free]

theorem scanDoctype_within (sound : ∀ fault, (scanDoctype bytes).construct ≠ .fault fault) :
    ∃ n, (scanDoctype bytes).used = n + 2 ∧ Within scanDoctype bytes n := by
  cases length : doctypeLength (.outside none) [] bytes with
  | none => exact absurd (by rw [scanDoctype, length]) (sound _)
  | some n =>
    obtain ⟨m, rfl, text, rest, rfl, rfl, same⟩ := doctypeLength_within length
    refine ⟨_, by rw [scanDoctype, length], text, rest, rfl, by simp, fun rest' => ?_⟩
    rw [scanDoctype, same, length, scanDoctype, length]
    simp

/-- After an exclamation mark one more byte tells what it is. -/
theorem scanMarkup_bang {kind : UInt8} (head : bytes.head? = some kind) :
    scanMarkup (Byte.bang :: bytes) =
      if kind = Byte.dash then scanComment bytes
      else if kind = Byte.openBracket then scanCData bytes
      else if Byte.toUpper kind = 0x44 then scanDoctype bytes
      else ⟨.fault .badBang, 0⟩ := by
  rw [scanMarkup, if_pos rfl, head]

theorem scanMarkup_bang_within
    (sound : ∀ fault, (scanMarkup (Byte.bang :: bytes)).construct ≠ .fault fault) :
    ∃ n, (scanMarkup (Byte.bang :: bytes)).used = n + 2 ∧
      Within (fun bytes => scanMarkup (Byte.bang :: bytes)) bytes n := by
  cases head : bytes.head? with
  | none =>
    cases List.head?_eq_none_iff.1 head
    exact absurd rfl (sound .badBang)
  | some kind =>
    have chosen (bytes : List UInt8) (head : bytes.head? = some kind) := scanMarkup_bang head
    rw [scanMarkup_bang head] at sound ⊢
    by_cases dash : kind = Byte.dash
    · simp only [dash, if_true] at chosen head sound ⊢
      obtain ⟨n, used, within⟩ := scanComment_within sound
      exact ⟨n, used, within.of_head head chosen⟩
    · by_cases bracket : kind = Byte.openBracket
      · simp only [bracket, if_true] at chosen head sound ⊢
        obtain ⟨n, used, within⟩ := scanCData_within sound
        exact ⟨n, used, within.of_head head chosen⟩
      · by_cases letter : Byte.toUpper kind = 0x44
        · simp only [dash, bracket, letter, if_true, if_false] at chosen sound ⊢
          obtain ⟨n, used, within⟩ := scanDoctype_within sound
          exact ⟨n, used, within.of_head head chosen⟩
        · rw [if_neg dash, if_neg bracket, if_neg letter] at sound
          exact absurd rfl (sound .badBang)

/-- Where markup is found, nothing past its `>` is looked at. -/
theorem scanMarkup_within (sound : ∀ fault, (scanMarkup bytes).construct ≠ .fault fault) :
    ∃ n, (scanMarkup bytes).used = n + 1 ∧ Within scanMarkup bytes n := by
  cases bytes with
  | nil => exact absurd rfl (sound .openTag)
  | cons b rest =>
    by_cases bang : b = Byte.bang
    · subst bang
      obtain ⟨n, used, within⟩ := scanMarkup_bang_within sound
      exact ⟨n + 1, used, within.cons fun _ _ _ _ same => same⟩
    · have chosen (bytes : List UInt8) (head : bytes.head? = some b) :
          scanMarkup bytes =
            if b = Byte.question then scanInstruction bytes else scanTag bytes := by
        obtain ⟨rest, rfl⟩ := List.head?_eq_some_iff.1 head
        rw [scanMarkup, if_neg bang]
      rw [chosen _ rfl] at sound ⊢
      by_cases question : b = Byte.question
      · simp only [question, if_true] at chosen sound ⊢
        obtain ⟨n, used, within⟩ := scanInstruction_within sound
        exact ⟨n, used, within.of_head rfl chosen⟩
      · simp only [question, if_false] at chosen sound ⊢
        obtain ⟨n, used, within⟩ := scanTag_within sound
        exact ⟨n, used, within.of_head rfl chosen⟩

end Scanners

/-! ## Steps -/

/-- What is answered for these bytes depends on `n` of them and the next one. -/
def Determined {α : Type} (f : List UInt8 → α) (bytes : List UInt8) (n : Nat) : Prop :=
  ∃ text rest, bytes = text ++ rest ∧ text.length = n ∧
    ∀ rest' : List UInt8, rest'.head? = rest.head? → f (text ++ rest') = f bytes

section Determined

variable {α : Type} {f g : List UInt8 → α} {bytes : List UInt8} {n : Nat}

theorem Within.determined (within : Within f bytes n) : Determined f bytes (n + 1) := by
  obtain ⟨text, rest, rfl, rfl, same⟩ := within
  refine ⟨text ++ [Byte.greater], rest, by simp, by simp, fun rest' _ => ?_⟩
  rw [List.append_assoc, List.singleton_append, same]

theorem Determined.congr {β : Type} {g : List UInt8 → β} (determined : Determined f bytes n)
    (sees : ∀ bytes', f bytes' = f bytes → g bytes' = g bytes) : Determined g bytes n := by
  obtain ⟨text, rest, rfl, length, same⟩ := determined
  exact ⟨text, rest, rfl, length, fun rest' head => sees _ (same rest' head)⟩

theorem Determined.append (determined : Determined f bytes n) (text : List UInt8)
    (sees : ∀ bytes, g (text ++ bytes) = f bytes) :
    Determined g (text ++ bytes) (text.length + n) := by
  obtain ⟨text', rest, rfl, rfl, same⟩ := determined
  refine ⟨text ++ text', rest, by simp, by simp, fun rest' head => ?_⟩
  rw [List.append_assoc, sees, sees, same rest' head]

end Determined

section TakeWhile

variable {p : UInt8 → Bool} {bytes text rest : List UInt8} {b : UInt8}

theorem exists_of_dropWhile (h : bytes.dropWhile p = b :: rest) :
    ∃ text, bytes = text ++ b :: rest ∧ (∀ b ∈ text, p b = true) ∧ p b = false := by
  have stops := List.head?_dropWhile_not p bytes
  rw [h] at stops
  exact ⟨bytes.takeWhile p, by rw [← h, List.takeWhile_append_dropWhile],
    fun _ => List.mem_takeWhile_imp, stops⟩

theorem takeWhile_append_cons (all : ∀ b ∈ text, p b = true) (stops : p b = false) :
    (text ++ b :: rest).takeWhile p = text := by
  rw [List.takeWhile_append_of_pos all, List.takeWhile_cons_of_neg (by simp [stops]),
    List.append_nil]

theorem dropWhile_append_cons (all : ∀ b ∈ text, p b = true) (stops : p b = false) :
    (text ++ b :: rest).dropWhile p = b :: rest := by
  rw [List.dropWhile_append_of_pos all, List.dropWhile_cons_of_neg (by simp [stops])]

end TakeWhile

namespace Lexer

variable {l : Lexer} {lexeme : Option Lexeme} {blanks extra : Nat} {rest : List UInt8}
  {opened : List (List UInt8)}

theorem stepMarkup_determined (h : l.stepMarkup blanks rest = .next lexeme extra opened) :
    ∃ n, extra = blanks + n ∧ Determined (l.stepMarkup blanks) rest n := by
  have sound (fault : SyntaxFault) : (scanMarkup rest).construct ≠ .fault fault := by
    intro isFault
    rw [stepMarkup] at h
    dsimp only at h
    rw [isFault] at h
    cases h
  obtain ⟨n, used, within⟩ := scanMarkup_within sound
  refine ⟨n + 1, ?_, within.determined.congr fun rest' same => ?_⟩
  · rw [stepMarkup] at h
    dsimp only at h
    rw [used] at h
    split at h
    · split at h <;> cases h <;> rfl
    · cases h
      rfl
    · cases h
      rfl
    · cases h
      rfl
    · cases h
  · rw [stepMarkup, same, stepMarkup]

/-- A reference ends at a semicolon; where markup or another one comes first it is a fault. -/
theorem stepReference_append {text later : List UInt8} {b : UInt8}
    (all : ∀ b ∈ text, (!(b = Byte.semicolon || b = Byte.ampersand || b = Byte.less)) = true)
    (stops : (!(b = Byte.semicolon || b = Byte.ampersand || b = Byte.less)) = false) :
    l.stepReference blanks (text ++ b :: later) =
      if b = Byte.semicolon then .next none (blanks + text.length + 1) l.opened
      else .next (some ⟨l.offset + blanks, .fault (.form .openReference)⟩) (blanks + text.length)
        l.opened := by
  rw [stepReference, takeWhile_append_cons all stops, dropWhile_append_cons all stops]

theorem stepReference_determined (h : l.stepReference blanks rest = .next lexeme extra opened) :
    ∃ n, extra = blanks + n ∧ Determined (l.stepReference blanks) rest n := by
  cases ahead : rest.dropWhile
      fun b => !(b = Byte.semicolon || b = Byte.ampersand || b = Byte.less) with
  | nil =>
    rw [stepReference, ahead] at h
    cases h
  | cons b later =>
    obtain ⟨text, rfl, all, stops⟩ := exists_of_dropWhile ahead
    rw [stepReference_append all stops] at h
    by_cases semicolon : b = Byte.semicolon
    · rw [if_pos semicolon] at h
      cases h
      refine ⟨text.length + 1, rfl, text ++ [b], later, by simp, by simp, fun rest' _ => ?_⟩
      rw [List.append_assoc, List.singleton_append, stepReference_append all stops,
        stepReference_append all stops]
    · rw [if_neg semicolon] at h
      cases h
      refine ⟨text.length, rfl, text, b :: later, rfl, rfl, fun rest' head => ?_⟩
      obtain ⟨later', rfl⟩ := List.head?_eq_some_iff.1 head
      rw [stepReference_append all stops, stepReference_append all stops]

/-- A text ends before markup or a reference. -/
theorem stepText_append {text later : List UInt8} {b : UInt8}
    (all : ∀ b ∈ text, (!(b = Byte.ampersand || b = Byte.less)) = true)
    (stops : (!(b = Byte.ampersand || b = Byte.less)) = false) :
    l.stepText blanks (text ++ b :: later) = .next none (blanks + text.length) l.opened := by
  rw [stepText, takeWhile_append_cons all stops, dropWhile_append_cons all stops]
  rfl

theorem stepText_determined (h : l.stepText blanks rest = .next lexeme extra opened) :
    ∃ n, extra = blanks + n ∧ Determined (l.stepText blanks) rest n := by
  cases ahead : rest.dropWhile fun b => !(b = Byte.ampersand || b = Byte.less) with
  | nil =>
    rw [stepText, ahead] at h
    cases h
  | cons b later =>
    obtain ⟨text, rfl, all, stops⟩ := exists_of_dropWhile ahead
    rw [stepText_append all stops] at h
    cases h
    refine ⟨text.length, rfl, text, b :: later, rfl, rfl, fun rest' head => ?_⟩
    obtain ⟨later', rfl⟩ := List.head?_eq_some_iff.1 head
    rw [stepText_append all stops, stepText_append all stops]

/-- The step at the first byte that is no blank. -/
theorem step_blanks {blanks : List UInt8} {b : UInt8} (unread : l.unread = blanks ++ b :: rest)
    (blank : ∀ b ∈ blanks, Byte.isBlank b = true) (mark : Byte.isBlank b = false) :
    l.step = if b = Byte.less then l.stepMarkup blanks.length rest
      else if b = Byte.ampersand then l.stepReference blanks.length rest
      else l.stepText blanks.length rest := by
  rw [step, unread, takeWhile_append_cons blank mark, List.drop_left]

/-- Where a step goes on, there is a byte that is no blank. -/
theorem exists_mark (h : l.step = .next lexeme extra opened) :
    ∃ blanks b rest, l.unread = blanks ++ b :: rest ∧
      (∀ b ∈ blanks, Byte.isBlank b = true) ∧ Byte.isBlank b = false := by
  cases ahead : l.unread.dropWhile Byte.isBlank with
  | nil =>
    have blank : l.unread.takeWhile Byte.isBlank = l.unread := by
      simpa [ahead] using List.takeWhile_append_dropWhile (p := Byte.isBlank) (l := l.unread)
    rw [step, blank, List.drop_length] at h
    cases h
  | cons b rest =>
    obtain ⟨blanks, marked⟩ := exists_of_dropWhile ahead
    exact ⟨blanks, b, rest, marked⟩

/-- Where a step goes on, it has looked at what it passes and at one byte more. -/
theorem step_determined (h : l.step = .next lexeme extra opened) :
    Determined (fun unread => step { l with unread }) l.unread (extra + 1) := by
  obtain ⟨blanks, b, rest, unread, blank, mark⟩ := exists_mark h
  have here (rest' : List UInt8) : step { l with unread := blanks ++ b :: rest' } =
      if b = Byte.less then l.stepMarkup blanks.length rest'
      else if b = Byte.ampersand then l.stepReference blanks.length rest'
      else l.stepText blanks.length rest' := step_blanks rfl blank mark
  obtain ⟨n, rfl, determined⟩ : ∃ n, extra = blanks.length + n ∧
      Determined (fun rest' => step { l with unread := blanks ++ b :: rest' }) rest n := by
    rw [step_blanks unread blank mark] at h
    simp only [here]
    by_cases less : b = Byte.less
    · simp only [less, if_true] at h ⊢
      exact stepMarkup_determined h
    · by_cases ampersand : b = Byte.ampersand
      · simp only [if_neg less, if_pos ampersand] at h ⊢
        exact stepReference_determined h
      · simp only [if_neg less, if_neg ampersand] at h ⊢
        exact stepText_determined h
  have whole := determined.append (g := fun unread => step { l with unread }) (blanks ++ [b])
    fun rest' => by rw [List.append_assoc, List.singleton_append]
  rw [List.append_assoc, List.singleton_append, ← unread] at whole
  rwa [List.length_append, List.length_singleton, Nat.add_right_comm] at whole

end Lexer

end XsdRecords.Markup
