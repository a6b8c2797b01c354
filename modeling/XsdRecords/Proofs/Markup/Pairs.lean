import XsdRecords.Proofs.Markup.Scoping

/-! # Empty tags and pairs of tags

An empty tag may also be written as a start tag and its end tag.  `Paired` relates the lexemes of
two documents where some empty tags of the one are such pairs in the other.  The reader delivers
from a pair what it delivers from the empty tag, in two calls. -/

namespace XsdRecords.Markup

/-- The lexemes of a document, and those of a document that has pairs for some of its empty tags.
Where the tags stand does not matter, nor how a start tag is written that has the same name and the
same attributes. -/
inductive Paired : List Lexeme → List Lexeme → Prop
  | nil : Paired [] []
  | same {lexeme lexeme' : Lexeme} {rest rest' : List Lexeme}
      (token : lexeme'.token = lexeme.token) (later : Paired rest rest') :
      Paired (lexeme :: rest) (lexeme' :: rest')
  | pair {lexeme opening closing : Lexeme} {rest rest' : List Lexeme} {text text' : List UInt8}
      (empty : lexeme.token = .start text true) (start : opening.token = .start text' false)
      (stop : closing.token = .stop (tagName text)) (name : tagName text' = tagName text)
      (attributes : readAttributes text' = readAttributes text) (later : Paired rest rest') :
      Paired (lexeme :: rest) (opening :: closing :: rest')

/-- Two sources, the second with pairs for some empty tags of the first. -/
inductive Source.Paired : Source → Source → Prop
  | failing (reason : String) : Paired (.failing reason) (.failing reason)
  | bytes {content content' : List UInt8}
      (paired : Markup.Paired (Lexed.ofDocument content).lexemes
        (Lexed.ofDocument content').lexemes) : Paired (.bytes content) (.bytes content')

/-- A start tag is resolved alike if its name and attributes are the same. -/
theorem readStart_same {text text' : List UInt8} (name : tagName text' = tagName text)
    (attributes : readAttributes text' = readAttributes text) (s : Scope)
    (isEmpty isEmpty' : Bool) :
    s.readStart text' isEmpty' = ((s.readStart text isEmpty).1,
      (s.readStart text isEmpty).2.map fun tag => { tag with isEmpty := isEmpty' }) := by
  unfold Scope.readStart
  rw [name, attributes]
  dsimp only
  split
  · rfl
  · split <;> rfl

namespace Reader

variable {r r' : Reader} {s s' : Scope}

/-- A reader at another place. -/
def elsewhere (r : Reader) (cursor : Cursor) : Reader :=
  { r with cursor }

theorem settle_elsewhere (r : Reader) (s : Scope) (cursor : Cursor) :
    (r.elsewhere cursor).settle s = ((r.settle s).1.elsewhere cursor, (r.settle s).2) := by
  obtain ⟨_, _, _ | size⟩ := r <;> rfl

theorem pending_settle (r : Reader) (s : Scope) : (r.settle s).1.pending = none := by
  obtain ⟨_, _, _ | size⟩ := r <;> rfl

/-- Of the reader a call only looks at the elements that are open, and of the lexeme only at the
token: wherever they are, it answers the same. -/
theorem deliver_elsewhere {lexeme lexeme' : Lexeme} (token : lexeme'.token = lexeme.token)
    (cursor : Cursor) : (r.elsewhere cursor).deliver s lexeme' =
      ((r.deliver s lexeme).1.elsewhere (cursor.moveTo lexeme'.offset),
        (r.deliver s lexeme).2) := by
  unfold deliver
  rw [settle_elsewhere, token]
  generalize r.settle s = settled
  dsimp only
  cases lexeme.token with
  | finish => rfl
  | fault fault => rfl
  | start text isEmpty =>
    dsimp only
    split
    · rfl
    · split <;> rfl
  | stop name =>
    dsimp only
    split <;> rfl

section Pair

variable {lexeme opening closing : Lexeme} {text text' : List UInt8}

/-- A start tag that is refused as an empty tag is refused. -/
theorem deliver_opening_of_fault (empty : lexeme.token = .start text true)
    (start : opening.token = .start text' false) (name : tagName text' = tagName text)
    (attributes : readAttributes text' = readAttributes text) {fault : ReaderFault}
    (delivered : r.deliver s lexeme = (r', s', .error fault)) :
    (r.deliver s opening).2 = (s', .error fault) := by
  unfold deliver at delivered ⊢
  rw [empty] at delivered
  rw [start]
  generalize r.settle s = settled at delivered ⊢
  dsimp only at delivered ⊢
  rw [readStart_same name attributes settled.2 true false]
  rcases read : settled.2.readStart text true with ⟨s₁, fault' | tag⟩
  · simp only [read, Prod.mk.injEq, Except.error.injEq] at delivered
    obtain ⟨-, rfl, rfl⟩ := delivered
    rfl
  · simp [read] at delivered

/-- What an empty tag delivers, a start tag and its end tag deliver in two calls. -/
theorem deliver_pair (empty : lexeme.token = .start text true)
    (start : opening.token = .start text' false) (stop : closing.token = .stop (tagName text))
    (name : tagName text' = tagName text)
    (attributes : readAttributes text' = readAttributes text) {answer : Option Node}
    (delivered : r.deliver s lexeme = (r', s', .ok answer)) :
    ∃ tag opened, answer = some (.start tag) ∧ tag.isEmpty = true ∧
      r.deliver s opening = (opened, s', .ok (some (.start { tag with isEmpty := false }))) ∧
      ∀ later : Scope, ∃ cursor name, opened.deliver later closing =
        (r'.elsewhere cursor, later, .ok (some (.stop name))) := by
  have settles := r.pending_settle s
  unfold deliver at delivered ⊢
  rw [empty] at delivered
  rw [start, stop]
  generalize r.settle s = settled at delivered settles ⊢
  dsimp only at delivered ⊢
  rw [readStart_same name attributes settled.2 true false]
  rcases read : settled.2.readStart text true with ⟨s₁, fault | tag⟩
  · simp [read] at delivered
  · simp only [read, if_true, Prod.mk.injEq, Except.ok.injEq] at delivered
    obtain ⟨rfl, rfl, rfl⟩ := delivered
    obtain ⟨starts, isEmpty⟩ := Scope.starts read
    obtain ⟨written, decoded, -⟩ := starts.name
    refine ⟨tag, _, rfl, isEmpty, rfl, fun later => ?_⟩
    -- Nothing is pending after a start tag, and its end tag pends what the empty tag does.
    simp only [settle, settles, decoded]
    exact ⟨_, _, rfl⟩

end Pair

end Reader

end XsdRecords.Markup
