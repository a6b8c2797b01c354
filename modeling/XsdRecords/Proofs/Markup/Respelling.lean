import XsdRecords.Proofs.Markup.Pairs
import XsdRecords.Proofs.Markup.TagPair

/-! # Writing empty tags as pairs of tags

A document is respelled by writing some of its empty tags as a start tag and its end tag, with the
same name and the same attributes.  Its lexemes are then `Paired` with those that it had: the lexer
finds what it found in what was not touched, and the two tags where it found the empty one. -/

namespace XsdRecords.Markup

/-- Which empty tags of a document are to be pairs, and which ones: by the offset of a tag and its
text. -/
abbrev Spelling := Nat → (text : List UInt8) → Option (TagPair text)

namespace Lexer

/-- The bytes that a step passes, respelled, those of `rest` after them. -/
def respellStep (spelling : Spelling) (l : Lexer) (lexeme : Option Lexeme) (extra : Nat)
    (rest : List UInt8) : List UInt8 :=
  let blanks := l.unread.takeWhile Byte.isBlank
  match lexeme with
  | some ⟨_, .start text true⟩ =>
    match spelling (l.offset + blanks.length) text with
    | some pair => blanks ++ pair.before rest
    | none => l.unread.take (extra + 1) ++ rest
  | _ => l.unread.take (extra + 1) ++ rest

/-- What is not read yet, respelled.  Where the lexer ends there are no more tags. -/
def respell (spelling : Spelling) (l : Lexer) : List UInt8 :=
  match l.step with
  | .last _ _ => l.unread
  | .next lexeme extra opened =>
    if l.unread = [] then []
    else l.respellStep spelling lexeme extra
      (respell spelling { l.advance (extra + 1) with opened })
  termination_by l.unread.length
  decreasing_by
    have := List.length_pos_iff.2 ‹¬l.unread = []›
    simp only [Lexer.advance, List.length_drop]
    omega

end Lexer

/-- A document with pairs for some of its empty tags.  A byte order mark stays where it is. -/
def respell (spelling : Spelling) (document : List UInt8) : List UInt8 :=
  let respelled := (Lexer.ofDocument document).respell spelling
  if Lexer.byteOrderMark <+: document then Lexer.byteOrderMark ++ respelled else respelled

/-- A source with pairs for some of the empty tags of its document. -/
def Source.respell (spelling : Spelling) : Source → Source
  | .failing reason => .failing reason
  | .bytes content => .bytes (Markup.respell spelling content)

/-! ## Steps -/

namespace Lexer

/-- Two steps that find the same at different places. -/
inductive Step.Same : Step → Step → Prop
  | next {lexeme lexeme' : Option Lexeme}
      (token : lexeme'.map (·.token) = lexeme.map (·.token)) (extra : Nat)
      (opened : List (List UInt8)) : Same (.next lexeme extra opened) (.next lexeme' extra opened)
  | last {lexeme lexeme' : Lexeme} (token : lexeme'.token = lexeme.token) (used : Nat) :
      Same (.last lexeme used) (.last lexeme' used)

variable {l l' : Lexer} {lexeme : Option Lexeme} {extra : Nat} {opened : List (List UInt8)}

theorem matchEnd_same (opened : List (List UInt8)) (place here place' here' : Nat)
    (name : List UInt8) :
    (matchEnd opened place' here' name).1.token = (matchEnd opened place here name).1.token ∧
      (matchEnd opened place' here' name).2 = (matchEnd opened place here name).2 := by
  unfold matchEnd
  cases opened with
  | nil => exact ⟨rfl, rfl⟩
  | cons expected outer =>
    dsimp only
    split <;> exact ⟨rfl, rfl⟩

theorem stepMarkup_same (l : Lexer) (trail : List UInt8) (offset blanks : Nat)
    (rest : List UInt8) :
    (l.stepMarkup blanks rest).Same (stepMarkup { l with trail, offset } blanks rest) := by
  unfold stepMarkup
  dsimp only
  cases (scanMarkup rest).construct with
  | start text => dsimp only; split <;> exact .next (by rfl) _ _
  | stop text =>
    obtain ⟨token, outer⟩ := matchEnd_same l.opened l.tagOffset (l.offset + blanks)
      (tagOffset { l with trail, offset }) (offset + blanks) (endName text)
    dsimp only
    rw [outer]
    exact .next (by exact congrArg some token) _ _
  | other => exact .next (by rfl) _ _
  | unnamedDoctype => exact .next (by rfl) _ _
  | fault fault => exact .last (by rfl) _

theorem stepReference_same (l : Lexer) (trail : List UInt8) (offset blanks : Nat)
    (rest : List UInt8) :
    (l.stepReference blanks rest).Same (stepReference { l with trail, offset } blanks rest) := by
  unfold stepReference
  dsimp only
  split
  · exact .last (by rfl) _
  · split <;> exact .next (by rfl) _ _

theorem stepText_same (l : Lexer) (trail : List UInt8) (offset blanks : Nat)
    (rest : List UInt8) :
    (l.stepText blanks rest).Same (stepText { l with trail, offset } blanks rest) := by
  unfold stepText
  dsimp only
  split
  · exact .last (by rfl) _
  · exact .next rfl _ _

/-- Where a lexer stands only bears on the places that it tells. -/
theorem step_same (opened : l'.opened = l.opened) (unread : l'.unread = l.unread) :
    l.step.Same l'.step := by
  obtain ⟨_, trail, offset, _⟩ := l'
  dsimp only at opened unread
  subst opened unread
  unfold step
  dsimp only
  split
  · exact .last (by rfl) _
  · split
    · exact l.stepMarkup_same trail offset _ _
    · split
      · exact l.stepReference_same trail offset _ _
      · exact l.stepText_same trail offset _ _

/-- What a step passes it also passes where something else follows that starts alike. -/
theorem step_take (h : l.step = .next lexeme extra opened) {rest : List UInt8}
    (head : rest.head? = (l.unread.drop (extra + 1)).head?) :
    step { l with unread := l.unread.take (extra + 1) ++ rest } = l.step := by
  obtain ⟨text, rest', split, length, same⟩ := step_determined h
  rw [split, ← length, List.drop_left] at head
  rw [split, ← length, List.take_left]
  exact same rest head

/-- A step that goes on passes bytes that are there. -/
theorem length_of_step_next (h : l.step = .next lexeme extra opened) :
    extra < l.unread.length := by
  obtain ⟨text, rest, split, length, -⟩ := step_determined h
  rw [split, List.length_append]
  omega

/-! ## Runs -/

theorem run_next (h : l.step = .next lexeme extra opened) :
    l.run.lexemes = lexeme.toList ++ (run { l.advance (extra + 1) with opened }).lexemes := by
  have length := length_of_step_next h
  rw [run, h]
  dsimp only
  rw [if_neg (List.ne_nil_of_length_pos (by omega))]

/-- A run goes on with what is left when the bytes of a step are passed. -/
theorem run_passed (h : l.step = .next lexeme extra opened) (passed : List UInt8)
    {rest : List UInt8} (unread : l.unread = passed ++ rest) (length : passed.length = extra + 1) :
    ∃ later : Lexer, l.run.lexemes = lexeme.toList ++ later.run.lexemes ∧
      later.opened = opened ∧ later.unread = rest := by
  refine ⟨_, run_next h, rfl, ?_⟩
  simp only [advance, unread]
  exact List.drop_left' length

theorem respell_next (spelling : Spelling) (h : l.step = .next lexeme extra opened) :
    l.respell spelling = l.respellStep spelling lexeme extra
      (respell spelling { l.advance (extra + 1) with opened }) := by
  have length := length_of_step_next h
  rw [respell, h]
  dsimp only
  rw [if_neg (List.ne_nil_of_length_pos (by omega))]

/-- A step passes what it passed before, or an empty tag is a pair. -/
theorem respellStep_cases (spelling : Spelling) (l : Lexer) (lexeme : Option Lexeme) (extra : Nat) :
    (∀ rest, l.respellStep spelling lexeme extra rest = l.unread.take (extra + 1) ++ rest) ∨
    ∃ offset text, ∃ pair : TagPair text, lexeme = some ⟨offset, .start text true⟩ ∧
      ∀ rest, l.respellStep spelling lexeme extra rest =
        l.unread.takeWhile Byte.isBlank ++ pair.before rest := by
  unfold respellStep
  dsimp only
  split
  · rename_i offset text
    cases spelling (l.offset + (l.unread.takeWhile Byte.isBlank).length) text with
    | none => exact .inl fun _ => rfl
    | some pair => exact .inr ⟨offset, text, pair, rfl, fun _ => rfl⟩
  · exact .inl fun _ => rfl

/-- Respelled or not, a document goes on with the same byte. -/
theorem head?_respell (spelling : Spelling) (l : Lexer) :
    (l.respell spelling).head? = l.unread.head? := by
  cases h : l.step with
  | last lexeme used => rw [respell, h]
  | next lexeme extra opened =>
    rw [respell_next spelling h]
    obtain same | ⟨offset, text, pair, rfl, same⟩ := l.respellStep_cases spelling lexeme extra
    · rw [same]
      cases unread : l.unread with
      | nil => simpa [unread] using length_of_step_next h
      | cons b rest => rfl
    · obtain ⟨blanks, rest, unread, blank, -⟩ := scan_of_start h
      rw [same, blank, unread, TagPair.before]
      exact head?_append_cons _ _ _ _

/-- A lexer finds what another one does where it has the same bytes to pass. -/
theorem run_take {rest : List UInt8} (h : l.step = .next lexeme extra opened)
    (head : rest.head? = (l.unread.drop (extra + 1)).head?) (names : l'.opened = l.opened)
    (unread : l'.unread = l.unread.take (extra + 1) ++ rest) :
    ∃ (lexeme' : Option Lexeme) (later : Lexer),
      l'.run.lexemes = lexeme'.toList ++ later.run.lexemes ∧
      lexeme'.map (·.token) = lexeme.map (·.token) ∧ later.opened = opened ∧
      later.unread = rest := by
  have same := step_same (l := { l with unread := l.unread.take (extra + 1) ++ rest }) names unread
  rw [step_take h head, h] at same
  cases found : l'.step with
  | last => rw [found] at same; cases same
  | next lexeme' extra' opened' =>
    rw [found] at same
    cases same with
    | next token =>
      have length := length_of_step_next h
      obtain ⟨later, run, left⟩ := run_passed found _ unread (by rw [List.length_take]; omega)
      exact ⟨lexeme', later, run, token, left⟩

/-- A run at a start tag that is not empty. -/
theorem run_start {blanks text rest : List UInt8}
    (unread : l.unread = blanks ++ Byte.less :: (text ++ Byte.greater :: rest))
    (blank : ∀ b ∈ blanks, Byte.isBlank b = true)
    (opens : scanMarkup (text ++ [Byte.greater]) = ⟨.start text, text.length + 1⟩)
    (isOpen : text.getLast? ≠ some Byte.slash) :
    ∃ later : Lexer, l.run.lexemes = ⟨l.tagOffset, .start text false⟩ :: later.run.lexemes ∧
      later.opened = tagName text :: l.opened ∧ later.unread = rest := by
  have step : l.step = .next (some ⟨l.tagOffset, .start text false⟩)
      (blanks.length + (text.length + 1)) (tagName text :: l.opened) := by
    rw [step_blanks unread blank (by decide), if_pos rfl, stepMarkup,
      scanMarkup_append text opens (by simp)]
    dsimp only
    rw [if_neg isOpen]
    rfl
  exact run_passed step (blanks ++ Byte.less :: (text ++ [Byte.greater])) (by rw [unread]; simp)
    (by simp; omega)

/-- A run at the end tag of the innermost element. -/
theorem run_stop {text rest : List UInt8} {outer : List (List UInt8)}
    (unread : l.unread = Byte.less :: Byte.slash :: (text ++ Byte.greater :: rest))
    (closes : scanMarkup (Byte.slash :: (text ++ [Byte.greater])) = ⟨.stop text, text.length + 2⟩)
    (inner : l.opened = endName text :: outer) :
    ∃ later : Lexer, l.run.lexemes = ⟨l.tagOffset, .stop (endName text)⟩ :: later.run.lexemes ∧
      later.opened = outer ∧ later.unread = rest := by
  have step : l.step = .next (some ⟨l.tagOffset, .stop (endName text)⟩) (0 + (text.length + 2))
      outer := by
    have scan := scanMarkup_append (Byte.slash :: text) closes (by simp) rest
    rw [List.cons_append] at scan
    have here : l.unread = [] ++ Byte.less :: Byte.slash :: (text ++ Byte.greater :: rest) := unread
    rw [step_blanks here (by simp) (by decide), if_pos rfl, stepMarkup, scan, inner]
    dsimp only [matchEnd]
    rw [if_pos rfl]
    rfl
  exact run_passed step (Byte.less :: Byte.slash :: (text ++ [Byte.greater]))
    (by rw [unread]; simp) (by simp)

/-- A lexer finds the two tags of a pair one after the other. -/
theorem run_pair {text blanks rest : List UInt8} (pair : TagPair text)
    (unread : l.unread = blanks ++ pair.before rest)
    (blank : ∀ b ∈ blanks, Byte.isBlank b = true) :
    ∃ (offset offset' : Nat) (later : Lexer),
      l.run.lexemes = ⟨offset, .start pair.opening false⟩ :: ⟨offset', .stop (tagName text)⟩ ::
        later.run.lexemes ∧ later.opened = l.opened ∧ later.unread = rest := by
  obtain ⟨middle, run, opened, unread⟩ := run_start unread blank pair.opens pair.isOpen
  rw [pair.name, ← pair.closingName] at opened
  obtain ⟨later, run', left⟩ := run_stop unread pair.closes opened
  rw [run, run', pair.closingName]
  exact ⟨_, _, later, rfl, left⟩

theorem paired_append {lexeme' : Option Lexeme} {lexemes lexemes' : List Lexeme}
    (token : lexeme'.map (·.token) = lexeme.map (·.token)) (later : Paired lexemes lexemes') :
    Paired (lexeme.toList ++ lexemes) (lexeme'.toList ++ lexemes') := by
  cases lexeme <;> cases lexeme'
  · exact later
  · cases token
  · cases token
  · exact .same (Option.some.inj token) later

theorem paired_run (spelling : Spelling) (l l' : Lexer) (names : l'.opened = l.opened)
    (unread : l'.unread = l.respell spelling) : Paired l.run.lexemes l'.run.lexemes := by
  induction l using Lexer.run.induct generalizing l' with
  | case1 l lexeme used last =>
    rw [respell, last] at unread
    have same := step_same names unread
    rw [last] at same
    cases found : l'.step with
    | next => rw [found] at same; cases same
    | last lexeme' used' =>
      rw [found] at same
      cases same with
      | last token =>
        rw [run, last, run, found]
        exact .same token .nil
  | case2 l lexeme extra opened next isEmpty =>
    have length := length_of_step_next next
    rw [isEmpty] at length
    cases length
  | case3 l lexeme extra opened next more ih =>
    rw [respell_next spelling next] at unread
    rw [run_next next]
    obtain same | ⟨offset, text, pair, rfl, same⟩ := l.respellStep_cases spelling lexeme extra
    · rw [same] at unread
      obtain ⟨lexeme', later, run, token, names', unread'⟩ :=
        run_take next (head?_respell spelling _) names unread
      rw [run]
      exact paired_append token (ih later names' unread')
    · rw [same] at unread
      obtain ⟨offset', offset'', later, run, names', unread'⟩ :=
        run_pair pair unread fun _ => List.mem_takeWhile_imp
      rw [run]
      have empty : opened = l.opened := by
        obtain moves | isFault := step_moves next
        · cases moves
          rfl
        · cases isFault
      exact .pair rfl rfl rfl pair.name pair.attributes
        (ih later (names'.trans (names.trans empty.symm)) unread')

end Lexer

/-! ## Documents -/

/-- A respelled document starts with bytes that are no `<` only if it did before. -/
theorem Lexer.prefix_of_respell (spelling : Spelling) (l : Lexer) {text : List UInt8}
    (free : Byte.less ∉ text) (starts : text <+: l.respell spelling) : text <+: l.unread := by
  induction l using Lexer.run.induct generalizing text with
  | case1 l lexeme used last =>
    rwa [respell, last] at starts
  | case2 l lexeme extra opened next isEmpty =>
    simpa [respell, next, isEmpty] using starts
  | case3 l lexeme extra opened next more ih =>
    rw [respell_next spelling next] at starts
    obtain same | ⟨offset, tag, pair, rfl, same⟩ := l.respellStep_cases spelling lexeme extra
    · rw [same] at starts
      obtain within | ⟨left, rfl⟩ :=
        List.prefix_or_prefix_of_prefix starts (List.prefix_append _ _)
      · exact within.trans (List.take_prefix _ _)
      · rw [List.prefix_append_right_inj] at starts
        have later : left <+: l.unread.drop (extra + 1) :=
          ih (fun mem => free (List.mem_append_right _ mem)) starts
        have whole := (List.prefix_append_right_inj (l.unread.take (extra + 1))).2 later
        rwa [List.take_append_drop] at whole
    · rw [same, TagPair.before, prefix_append_cons_iff free] at starts
      exact starts.trans (List.takeWhile_prefix _)

/-- The lexemes of a document are paired with those of the respelled document. -/
theorem paired_respell (spelling : Spelling) (document : List UInt8) :
    Paired (Lexed.ofDocument document).lexemes
      (Lexed.ofDocument (respell spelling document)).lexemes := by
  apply Lexer.paired_run spelling
  · rfl
  · unfold respell
    dsimp only
    by_cases marked : Lexer.byteOrderMark <+: document
    · rw [if_pos marked, Lexer.ofDocument]
      simp [Lexer.byteOrderMark]
    · have unmarked : ¬Lexer.byteOrderMark <+: (Lexer.ofDocument document).respell spelling := by
        intro starts
        have before := Lexer.prefix_of_respell spelling _ (by decide) starts
        rw [Lexer.ofDocument, if_neg marked] at before
        exact marked before
      rw [if_neg marked, Lexer.ofDocument, if_neg unmarked]

theorem Source.paired_respell (spelling : Spelling) (source : Source) :
    source.Paired (source.respell spelling) := by
  cases source with
  | failing reason => exact .failing reason
  | bytes content => exact .bytes (Markup.paired_respell spelling content)

end XsdRecords.Markup
