import XsdRecords.Diagnostic.Severity
import XsdRecords.Markup.Byte

/-! # Lines and columns

A cursor is a place in a document together with its line and the offset where that line starts.
Moving it forward looks only at the bytes passed; moving it back starts over.  `lineAt` and
`columnAt` say what the line and column of an offset are. -/

namespace XsdRecords.Markup

/-- A place in a document; `ahead` is the document from there on. -/
structure Cursor where
  document : List UInt8 := []
  ahead : List UInt8 := []
  offset : Nat := 0
  line : Nat := 1
  lineStart : Nat := 0
  deriving Inhabited

namespace Cursor

def start (document : List UInt8) : Cursor :=
  { document, ahead := document }

def pass (c : Cursor) (b : UInt8) (rest : List UInt8) : Cursor :=
  if b = Byte.lineFeed then
    { c with ahead := rest, offset := c.offset + 1, line := c.line + 1, lineStart := c.offset + 1 }
  else { c with ahead := rest, offset := c.offset + 1 }

/-- Moves past a number of bytes, or to the end. -/
def forward : Nat → Cursor → Cursor
  | 0, c => c
  | n + 1, c =>
    match c.ahead with
    | [] => c
    | b :: rest => forward n (c.pass b rest)

/-- Moves to an offset, or to the end if it lies beyond. -/
def moveTo (c : Cursor) (target : Nat) : Cursor :=
  if target < c.offset then forward target (start c.document)
  else forward (target - c.offset) c

@[simp] theorem document_forward (n : Nat) (c : Cursor) : (forward n c).document = c.document := by
  induction n generalizing c with
  | zero => rfl
  | succ n ih =>
    unfold forward
    split
    · rfl
    · rw [ih, pass]
      split <;> rfl

/-- Moving never changes the document. -/
@[simp] theorem document_moveTo (c : Cursor) (target : Nat) :
    (c.moveTo target).document = c.document := by
  unfold moveTo
  split
  · exact document_forward _ _
  · exact document_forward _ _

/-- The line and column of a cursor, both from one; a column counts bytes. -/
def position (c : Cursor) : Position :=
  ⟨c.line, c.offset - c.lineStart + 1⟩

end Cursor

/-- The line of an offset: one more than the line feeds before it. -/
def lineAt (document : List UInt8) (offset : Nat) : Nat :=
  (document.take offset).count Byte.lineFeed + 1

/-- The column of an offset: one more than the bytes since the last line feed before it. -/
def columnAt (document : List UInt8) (offset : Nat) : Nat :=
  ((document.take offset).reverse.takeWhile (· ≠ Byte.lineFeed)).length + 1

end XsdRecords.Markup
