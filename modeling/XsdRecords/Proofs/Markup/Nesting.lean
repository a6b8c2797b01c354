import XsdRecords.Markup.Attribute
import XsdRecords.Proofs.Markup.Locality

/-! # How the tags of a document nest

The lexer compares every end tag with the innermost open tag, and answers a fault where they differ.
Up to the first fault the end tags therefore close what the start tags open, innermost first:
`Nested`.  Nothing is said of the end of the document, which may come while tags are open. -/

namespace XsdRecords.Markup

/-- Whether a token is a fault. -/
def Token.IsFault : Token → Prop
  | .fault _ => True
  | .start .. | .stop _ | .finish => False

/-- What a tag does to the names of the open tags, the innermost first. -/
inductive Token.Moves : Token → List (List UInt8) → List (List UInt8) → Prop
  | enter (text : List UInt8) (opened : List (List UInt8)) :
      Moves (.start text false) opened (tagName text :: opened)
  | empty (text : List UInt8) (opened : List (List UInt8)) :
      Moves (.start text true) opened opened
  | leave (name : List UInt8) (opened : List (List UInt8)) :
      Moves (.stop name) (name :: opened) opened

/-- Lexemes whose tags nest, where tags of these names are open before them.  Past a fault anything may
stand, past the end nothing does. -/
inductive Nested : List (List UInt8) → List Lexeme → Prop
  | nil (opened : List (List UInt8)) : Nested opened []
  | tag {opened opened' : List (List UInt8)} {lexeme : Lexeme} {rest : List Lexeme}
      (moves : lexeme.token.Moves opened opened') (later : Nested opened' rest) :
      Nested opened (lexeme :: rest)
  | fault {opened : List (List UInt8)} {lexeme : Lexeme} {rest : List Lexeme}
      (isFault : lexeme.token.IsFault) : Nested opened (lexeme :: rest)
  | finish {opened : List (List UInt8)} {lexeme : Lexeme} (isFinish : lexeme.token = .finish) :
      Nested opened [lexeme]

/-- A tag opens or closes, and what follows nests in what is open then. -/
theorem Nested.moves {opened : List (List UInt8)} {lexeme : Lexeme} {rest : List Lexeme}
    (nested : Nested opened (lexeme :: rest)) (sound : ¬lexeme.token.IsFault)
    (more : lexeme.token ≠ .finish) :
    ∃ opened', lexeme.token.Moves opened opened' ∧ Nested opened' rest := by
  cases nested with
  | tag moves later => exact ⟨_, moves, later⟩
  | fault isFault => exact absurd isFault sound
  | finish isFinish => exact absurd isFinish more

/-- Nothing stands past the end of a document. -/
theorem Nested.eq_nil_of_finish {opened : List (List UInt8)} {lexeme : Lexeme} {rest : List Lexeme}
    (nested : Nested opened (lexeme :: rest)) (isFinish : lexeme.token = .finish) : rest = [] := by
  cases nested with
  | tag moves later =>
    rw [isFinish] at moves
    cases moves
  | fault isFault =>
    rw [isFinish] at isFault
    cases isFault
  | finish => rfl

namespace Lexer

variable {l : Lexer} {rest : List UInt8} {lexeme : Lexeme} {blanks extra used : Nat}
  {opened : List (List UInt8)}

/-- An end tag closes the innermost open tag, or is a fault. -/
theorem matchEnd_moves (opened : List (List UInt8)) (place here : Nat) (name : List UInt8) :
    (matchEnd opened place here name).1.token.Moves opened (matchEnd opened place here name).2 ∨
      (matchEnd opened place here name).1.token.IsFault := by
  unfold matchEnd
  cases opened with
  | nil => exact .inr trivial
  | cons expected outer =>
    dsimp only
    split
    · rename_i same
      subst same
      exact .inl (.leave name outer)
    · exact .inr trivial

theorem stepMarkup_moves (h : l.stepMarkup blanks rest = .next (some lexeme) extra opened) :
    lexeme.token.Moves l.opened opened ∨ lexeme.token.IsFault := by
  unfold stepMarkup at h
  dsimp only at h
  split at h
  · split at h
    · cases h
      exact .inl (.empty _ _)
    · cases h
      exact .inl (.enter _ _)
  · cases h
    apply matchEnd_moves
  · cases h
  · cases h
    exact .inr trivial
  · cases h

theorem stepMarkup_none (h : l.stepMarkup blanks rest = .next none extra opened) :
    opened = l.opened := by
  unfold stepMarkup at h
  dsimp only at h
  split at h
  · split at h <;> cases h
  · cases h
  · cases h
    rfl
  · cases h
  · cases h

/-- What a step finds that is no fault is markup. -/
theorem step_some (h : l.step = .next (some lexeme) extra opened) : lexeme.token.IsFault ∨
    ∃ blanks rest, l.unread = blanks ++ Byte.less :: rest ∧
      l.unread.takeWhile Byte.isBlank = blanks ∧
      l.stepMarkup blanks.length rest = .next (some lexeme) extra opened := by
  obtain ⟨blanks, b, rest, unread, blank, mark⟩ := exists_mark h
  rw [step_blanks unread blank mark] at h
  split at h
  · rename_i less
    subst less
    exact .inr ⟨blanks, rest, unread, by rw [unread, takeWhile_append_cons blank mark], h⟩
  · -- Outside markup only a reference can be a lexeme, and then it is a fault.
    split at h
    · unfold stepReference at h
      dsimp only at h
      split at h
      · cases h
      · split at h <;> cases h
        exact .inl trivial
    · unfold stepText at h
      dsimp only at h
      split at h <;> cases h

/-- What a step that finds a lexeme does to the open tags. -/
theorem step_moves (h : l.step = .next (some lexeme) extra opened) :
    lexeme.token.Moves l.opened opened ∨ lexeme.token.IsFault := by
  obtain isFault | ⟨blanks, rest, -, -, markup⟩ := step_some h
  · exact .inr isFault
  · exact stepMarkup_moves markup

/-- What is no lexeme leaves the open tags as they are. -/
theorem step_none (h : l.step = .next none extra opened) : opened = l.opened := by
  unfold step at h
  dsimp only at h
  split at h
  · cases h
  · split at h
    · exact stepMarkup_none h
    · split at h
      · unfold stepReference at h
        dsimp only at h
        split at h
        · cases h
        · split at h <;> cases h
          rfl
      · unfold stepText at h
        dsimp only at h
        split at h <;> cases h
        rfl

/-- The last lexeme is no tag. -/
theorem step_last (h : l.step = .last lexeme used) :
    lexeme.token = .finish ∨ lexeme.token.IsFault := by
  unfold step at h
  dsimp only at h
  split at h
  · cases h
    exact .inl rfl
  · split at h
    · unfold stepMarkup at h
      dsimp only at h
      split at h
      · split at h <;> cases h
      · cases h
      · cases h
      · cases h
      · cases h
        exact .inr trivial
    · split at h
      · unfold stepReference at h
        dsimp only at h
        split at h
        · cases h
          exact .inr trivial
        · split at h <;> cases h
      · unfold stepText at h
        dsimp only at h
        split at h <;> cases h
        exact .inl rfl

/-- The tags that a lexer finds nest in those that it has open. -/
theorem nested_run (l : Lexer) : Nested l.opened l.run.lexemes := by
  induction l using Lexer.run.induct with
  | case1 l lexeme used last =>
    rw [run, last]
    obtain isFinish | isFault := step_last last
    · exact .finish isFinish
    · exact .fault isFault
  | case2 l lexeme extra opened next isEmpty =>
    rw [run, next]
    simp only [isEmpty, if_true]
    cases lexeme with
    | none => exact .nil _
    | some lexeme =>
      obtain moves | isFault := step_moves next
      · exact .tag moves (.nil _)
      · exact .fault isFault
  | case3 l lexeme extra opened next more ih =>
    rw [run, next]
    simp only [more, if_false]
    cases lexeme with
    | none =>
      rw [step_none next] at ih ⊢
      exact ih
    | some lexeme =>
      obtain moves | isFault := step_moves next
      · exact .tag moves ih
      · exact .fault isFault

end Lexer

/-- The tags of a document nest, up to the first fault. -/
theorem nested_ofDocument (document : List UInt8) :
    Nested [] (Lexed.ofDocument document).lexemes :=
  (Lexer.ofDocument document).nested_run

end XsdRecords.Markup
