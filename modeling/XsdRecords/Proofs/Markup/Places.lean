import XsdRecords.Markup.Reader

/-! # Places in a document

A cursor moves along a document and counts lines as it goes; `Tells` says that what it has counted
is the line and column of its offset.  The reader therefore tells each lexeme at the place of its
offset. -/

namespace XsdRecords.Markup

/-- The line and column of an offset. -/
def placeAt (document : List UInt8) (offset : Nat) : Position :=
  ⟨lineAt document offset, columnAt document offset⟩

/-- The places of the tags and faults among some lexemes of a document, up to its end. -/
def placesOf (document : List UInt8) (lexemes : List Lexeme) : List Position :=
  (lexemes.takeWhile (·.token ≠ .finish)).map fun lexeme => placeAt document lexeme.offset

/-- The places of the tags and faults of a document in their order. -/
def places (document : List UInt8) : List Position :=
  placesOf document (Lexed.ofDocument document).lexemes

/-- The place of the last tag of a document that is read to its end; where there is none it has no
line. -/
def Source.lastPlace : Source → Position
  | .failing _ => {}
  | .bytes content => (places content).getLastD {}

namespace Cursor

variable {document : List UInt8} {c : Cursor}

/-- A cursor in a document that has counted lines and columns right. -/
structure Tells (document : List UInt8) (c : Cursor) : Prop where
  source : c.document = document
  ahead : c.ahead = document.drop c.offset
  inside : c.offset ≤ document.length
  line : c.line = lineAt document c.offset
  column : c.lineStart + columnAt document c.offset = c.offset + 1

theorem tells_start (document : List UInt8) : Tells document (start document) :=
  ⟨rfl, rfl, Nat.zero_le _, rfl, rfl⟩

theorem Tells.position (tells : Tells document c) : c.position = placeAt document c.offset := by
  have column : c.offset - c.lineStart + 1 = columnAt document c.offset := by
    have counted := tells.column
    have positive : 1 ≤ columnAt document c.offset := Nat.le_add_left 1 _
    omega
  rw [Cursor.position, placeAt, column, tells.line]

/-! ## One byte -/

theorem lineAt_succ {offset : Nat} {b : UInt8} (here : document[offset]? = some b) :
    lineAt document (offset + 1) =
      if b = Byte.lineFeed then lineAt document offset + 1 else lineAt document offset := by
  unfold lineAt
  rw [List.take_add_one, here, Option.toList_some, List.count_append, List.count_singleton]
  split <;> simp_all

theorem columnAt_succ {offset : Nat} {b : UInt8} (here : document[offset]? = some b) :
    columnAt document (offset + 1) =
      if b = Byte.lineFeed then 1 else columnAt document offset + 1 := by
  unfold columnAt
  rw [List.take_add_one, here, Option.toList_some, List.reverse_append, List.reverse_singleton,
    List.singleton_append, List.takeWhile_cons]
  split <;> simp_all

theorem Tells.pass (tells : Tells document c) {b : UInt8} {rest : List UInt8}
    (ahead : c.ahead = b :: rest) :
    Tells document (c.pass b rest) ∧ (c.pass b rest).offset = c.offset + 1 := by
  have split : document.drop c.offset = b :: rest := tells.ahead.symm.trans ahead
  have inside : c.offset < document.length := by
    have length := congrArg List.length split
    rw [List.length_drop, List.length_cons] at length
    omega
  have here : document[c.offset]? = some b := by
    rw [← List.head?_drop, split, List.head?_cons]
  have later : rest = document.drop (c.offset + 1) := by
    rw [← List.tail_drop, split, List.tail_cons]
  have line := lineAt_succ here
  have column := columnAt_succ here
  have counted := tells.column
  unfold Cursor.pass
  split
  · rename_i feed
    rw [if_pos feed] at line column
    exact ⟨⟨tells.source, later, inside, by rw [line, ← tells.line], by rw [column]⟩, rfl⟩
  · rename_i other
    rw [if_neg other] at line column
    refine ⟨⟨tells.source, later, inside, tells.line.trans line.symm, ?_⟩, rfl⟩
    dsimp only
    rw [column]
    omega

/-! ## Moving -/

theorem Tells.forward (tells : Tells document c) (n : Nat) :
    Tells document (forward n c) ∧
      (Cursor.forward n c).offset = min (c.offset + n) document.length := by
  induction n generalizing c with
  | zero => exact ⟨tells, (Nat.min_eq_left tells.inside).symm⟩
  | succ n ih =>
    unfold Cursor.forward
    split
    · rename_i none
      have all := tells.ahead.symm.trans none
      rw [List.drop_eq_nil_iff] at all
      have inside := tells.inside
      exact ⟨tells, by omega⟩
    · rename_i b rest ahead
      obtain ⟨passed, offset⟩ := tells.pass ahead
      obtain ⟨moved, target⟩ := ih passed
      exact ⟨moved, by rw [target, offset]; omega⟩

theorem Tells.moveTo (tells : Tells document c) (target : Nat) :
    Tells document (c.moveTo target) ∧ (c.moveTo target).offset = min target document.length := by
  unfold Cursor.moveTo
  split
  · rw [tells.source]
    obtain ⟨moved, offset⟩ := (tells_start document).forward target
    exact ⟨moved, by rw [offset]; congr 1; exact Nat.zero_add target⟩
  · obtain ⟨moved, offset⟩ := tells.forward (target - c.offset)
    exact ⟨moved, by rw [offset]; congr 1; omega⟩

/-- Beyond the end of a document is its end. -/
theorem placeAt_min (document : List UInt8) (offset : Nat) :
    placeAt document (min offset document.length) = placeAt document offset := by
  have same : document.take (min offset document.length) = document.take offset := by
    rw [← List.take_take, List.take_length]
  rw [placeAt, placeAt, lineAt, lineAt, columnAt, columnAt, same]

/-- Wherever a cursor was, after it has moved it is at the place of the offset. -/
theorem Tells.position_moveTo (tells : Tells document c) (target : Nat) :
    (c.moveTo target).position = placeAt document target := by
  obtain ⟨moved, offset⟩ := tells.moveTo target
  rw [moved.position, offset, placeAt_min]

end Cursor

theorem placesOf_finish {document : List UInt8} {lexeme : Lexeme} (finish : lexeme.token = .finish)
    (rest : List Lexeme) : placesOf document (lexeme :: rest) = [] := by
  simp [placesOf, finish]

theorem placesOf_cons {document : List UInt8} {lexeme : Lexeme} (found : lexeme.token ≠ .finish)
    (rest : List Lexeme) : placesOf document (lexeme :: rest) =
      placeAt document lexeme.offset :: placesOf document rest := by
  simp [placesOf, found]

/-! ## The reader -/

theorem Reader.cursor_deliver (r : Reader) (s : Scope) (lexeme : Lexeme) :
    (r.deliver s lexeme).1.cursor = r.cursor.moveTo lexeme.offset := by
  have settled : (r.settle s).1.cursor = r.cursor := by
    unfold settle
    split <;> rfl
  unfold deliver
  dsimp only
  rw [← settled]
  cases lexeme.token with
  | finish => rfl
  | fault fault => rfl
  | start text isEmpty =>
    dsimp only
    split
    · rfl
    · split <;> rfl
  | stop name =>
    dsimp only
    split <;> rfl

/-- Only the end of a document is delivered without a node or a fault. -/
theorem Reader.deliver_eq_none_iff (r : Reader) (s : Scope) (lexeme : Lexeme) :
    (r.deliver s lexeme).2.2 = .ok none ↔ lexeme.token = .finish := by
  unfold deliver
  dsimp only
  cases lexeme.token with
  | finish => simp
  | fault fault => simp
  | start text isEmpty =>
    dsimp only
    split <;> simp
  | stop name =>
    dsimp only
    split <;> simp

end XsdRecords.Markup
