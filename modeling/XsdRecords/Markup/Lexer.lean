import XsdRecords.Markup.Byte
import XsdRecords.Markup.Fault

/-! # From bytes to lexemes

The lexer finds the tags of a document.  Text, references, comments, instructions and declarations
between them are passed over.  A lexeme carries the offset that its position is told from: for a tag
the first `<` at or after the end of what came before it, for a fault its own place.  A byte order
mark at the start of a document is passed over without being counted.

Every step passes at least one byte, so a document has finitely many lexemes. -/

namespace XsdRecords.Markup

inductive Token where
  /-- A start tag or an empty tag, by the text between `<` and `>` or `/>`. -/
  | start (text : List UInt8) (isEmpty : Bool)
  /-- An end tag, by its name. -/
  | stop (name : List UInt8)
  | fault (fault : ReaderFault)
  /-- The end of the document. -/
  | finish
  deriving DecidableEq, Repr

/-- What the lexer finds, and the offset that its position is told from. -/
structure Lexeme where
  offset : Nat
  token : Token
  deriving DecidableEq, Repr

/-! ## The extent of markup -/

/-- The number of bytes before the `>` that ends a tag: the first outside quotes. -/
def tagLength : Option UInt8 → List UInt8 → Except SyntaxFault Nat
  | none, [] => .error .openTag
  | some quote, [] =>
    .error (if quote = Byte.singleQuote then .openSingleQuote else .openDoubleQuote)
  | none, b :: rest =>
    if b = Byte.greater then .ok 0
    else (tagLength (if Byte.isQuote b then some b else none) rest).map (· + 1)
  | some quote, b :: rest =>
    (tagLength (if b = quote then none else some quote) rest).map (· + 1)

/-- The number of bytes before the first `>` that follows `before`, where the bytes already passed
are `passed`, the last first. -/
def lengthUntil (before : List UInt8 → Bool) (passed : List UInt8) : List UInt8 → Option Nat
  | [] => none
  | b :: rest =>
    if b = Byte.greater && before passed then some passed.length
    else lengthUntil before (b :: passed) rest

inductive DoctypePlace where
  | outside (quote : Option UInt8)
  | subset
  | comment
  | instruction
  | declaration (quote : Option UInt8)
  | afterSubset
  deriving DecidableEq, Repr

def stepQuote (quote : Option UInt8) (b : UInt8) : Option UInt8 :=
  match quote with
  | none => if Byte.isQuote b then some b else none
  | some q => if b = q then none else some q

/-- The place after a byte that does not end the declaration; `passed` are the bytes before it, the
last first, and `rest` those after it. -/
def DoctypePlace.next (place : DoctypePlace) (passed : List UInt8) (b : UInt8)
    (rest : List UInt8) : DoctypePlace :=
  match place with
  | .outside none =>
    if b = Byte.openBracket then .subset else .outside (stepQuote none b)
  | .outside quote => .outside (stepQuote quote b)
  | .subset =>
    if b = Byte.closeBracket then .afterSubset
    else if b = Byte.less then
      if Byte.ofText "!--" <+: rest then .comment
      else if rest.head? = some Byte.question then .instruction
      else .declaration none
    else .subset
  | .comment =>
    if b = Byte.greater && Byte.ofText "--" <+: passed then .subset else .comment
  | .instruction =>
    if b = Byte.greater && passed.head? = some Byte.question then .subset else .instruction
  | .declaration none =>
    if b = Byte.greater then .subset else .declaration (stepQuote none b)
  | .declaration quote => .declaration (stepQuote quote b)
  | .afterSubset => .afterSubset

/-- Whether `>` ends the declaration here. -/
def DoctypePlace.isLast : DoctypePlace → Bool
  | .outside none | .afterSubset => true
  | _ => false

/-- The number of bytes before the `>` that ends a document type declaration. -/
def doctypeLength (place : DoctypePlace) (passed : List UInt8) : List UInt8 → Option Nat
  | [] => none
  | b :: rest =>
    if b = Byte.greater && place.isLast then some passed.length
    else doctypeLength (place.next passed b rest) (b :: passed) rest

/-! ## What a less-than sign starts -/

inductive Construct where
  /-- A start tag, by its text. -/
  | start (text : List UInt8)
  /-- An end tag, by its text after the slash. -/
  | stop (text : List UInt8)
  /-- Something that is no tag. -/
  | other
  | unnamedDoctype
  | fault (fault : SyntaxFault)
  deriving DecidableEq, Repr

/-- A construct, and how many bytes after the `<` it takes. -/
structure ConstructScan where
  construct : Construct
  used : Nat
  deriving DecidableEq, Repr

def scanTag (bytes : List UInt8) : ConstructScan :=
  match tagLength none bytes with
  | .error fault => ⟨.fault fault, bytes.length⟩
  | .ok n =>
    match bytes.take n with
    | [] => ⟨.start [], n + 1⟩
    | b :: text => ⟨if b = Byte.slash then .stop text else .start (b :: text), n + 1⟩

/-- Whether bytes start an XML declaration, as far as they go. -/
def startsDeclaration (bytes : List UInt8) : Bool :=
  Byte.ofText "?xml" <+: bytes
    && (bytes.drop 4).head?.all (fun b => Byte.isBlank b || b = Byte.question)

/-- Reads an instruction, given with its question mark; one that is a single question mark is never
closed. -/
def scanInstruction (bytes : List UInt8) : ConstructScan :=
  match lengthUntil (·.head? = some Byte.question) [] bytes with
  | some n => ⟨if n = 1 then .fault .openInstruction else .other, n + 1⟩
  | none =>
    ⟨.fault (if startsDeclaration bytes then .openDeclaration else .openInstruction),
      bytes.length⟩

/-- Reads a comment, given without the exclamation mark; its two opening and two closing dashes are
all different. -/
def scanComment (bytes : List UInt8) : ConstructScan :=
  match lengthUntil (fun passed => 4 ≤ passed.length && Byte.ofText "--" <+: passed) [] bytes with
  | some n => ⟨if Byte.ofText "--" <+: bytes then .other else .fault .openComment, n + 2⟩
  | none => ⟨.fault .openComment, bytes.length + 1⟩

/-- Reads a character data section, given without the exclamation mark. -/
def scanCData (bytes : List UInt8) : ConstructScan :=
  match lengthUntil (Byte.ofText "]]" <+: ·) [] bytes with
  | some n =>
    ⟨if Byte.ofText "[CDATA[" <+: bytes then .other else .fault .openCData, n + 2⟩
  | none => ⟨.fault .openCData, bytes.length + 1⟩

/-- Reads a document type declaration, given without the exclamation mark. -/
def scanDoctype (bytes : List UInt8) : ConstructScan :=
  match doctypeLength (.outside none) [] bytes with
  | some n =>
    let text := bytes.take n
    let keyword := Byte.ofText "DOCTYPE"
    let construct : Construct :=
      if keyword <+: text.map Byte.toUpper then
        if (text.drop keyword.length).all Byte.isBlank then .unnamedDoctype else .other
      else .fault .openDoctype
    ⟨construct, n + 2⟩
  | none => ⟨.fault .openDoctype, bytes.length + 1⟩

def scanMarkup (bytes : List UInt8) : ConstructScan :=
  match bytes with
  | [] => ⟨.fault .openTag, 0⟩
  | b :: rest =>
    if b = Byte.bang then
      match rest.head? with
      | none => ⟨.fault .badBang, 0⟩
      | some kind =>
        if kind = Byte.dash then scanComment rest
        else if kind = Byte.openBracket then scanCData rest
        else if Byte.toUpper kind = 0x44 then scanDoctype rest
        else ⟨.fault .badBang, 0⟩
    else if b = Byte.question then scanInstruction bytes
    else scanTag bytes

/-! ## The lexer -/

/-- A lexer in a document: the bytes not read yet, the names of the open tags, the last first, the
offset reached, and the document from that offset on. -/
structure Lexer where
  unread : List UInt8
  trail : List UInt8
  offset : Nat := 0
  opened : List (List UInt8) := []

namespace Lexer

def byteOrderMark : List UInt8 := [0xEF, 0xBB, 0xBF]

/-- A lexer at the start of a document. -/
def ofDocument (document : List UInt8) : Lexer :=
  { unread := if byteOrderMark <+: document then document.drop 3 else document
    trail := document }

def advance (l : Lexer) (n : Nat) : Lexer :=
  { l with unread := l.unread.drop n, trail := l.trail.drop n, offset := l.offset + n }

/-- The offset of the first `<` from here on, or the offset reached. -/
def tagOffset (l : Lexer) : Nat :=
  match l.trail.findIdx? (· = Byte.less) with
  | some n => l.offset + n
  | none => l.offset

inductive Step where
  /-- A lexeme, if any, `extra` bytes beyond the first that were passed, and the open tags. -/
  | next (lexeme : Option Lexeme) (extra : Nat) (opened : List (List UInt8))
  /-- The last lexeme, and the number of bytes passed. -/
  | last (lexeme : Lexeme) (used : Nat)

/-- The name in the text of an end tag: blanks at its end do not count, unless it is all blank. -/
def endName (text : List UInt8) : List UInt8 :=
  if text.all Byte.isBlank then text
  else (text.reverse.dropWhile Byte.isBlank).reverse

/-- A name for a message; one that is no text is left out. -/
def nameText (name : List UInt8) : String :=
  match Text.Utf8.decodeText name with
  | .ok text => text
  | .error _ => ""

/-- An end tag: it must match the last open tag, which is open no more. -/
def matchEnd (opened : List (List UInt8)) (place here : Nat) (name : List UInt8) :
    Lexeme × List (List UInt8) :=
  match opened with
  | [] => (⟨here, .fault (.form (.unmatchedEnd (nameText name)))⟩, [])
  | expected :: rest =>
    if name = expected then (⟨place, .stop name⟩, rest)
    else (⟨here, .fault (.form (.mismatchedEnd (nameText expected) (nameText name)))⟩, rest)

/-- The step at a `<` that `blanks` bytes precede, `rest` being the bytes after it. -/
def stepMarkup (l : Lexer) (blanks : Nat) (rest : List UInt8) : Step :=
  let here := l.offset + blanks
  let scan := scanMarkup rest
  let extra := blanks + scan.used
  match scan.construct with
  | .start text =>
    if text.getLast? = some Byte.slash then
      .next (some ⟨l.tagOffset, .start text.dropLast true⟩) extra l.opened
    else
      let name := text.takeWhile (!Byte.isBlank ·)
      .next (some ⟨l.tagOffset, .start text false⟩) extra (name :: l.opened)
  | .stop text =>
    let (lexeme, opened) := matchEnd l.opened l.tagOffset here (endName text)
    .next (some lexeme) extra opened
  | .other => .next none extra l.opened
  | .unnamedDoctype =>
    .next (some ⟨here + scan.used, .fault (.form .missingDoctypeName)⟩) extra l.opened
  | .fault fault => .last ⟨here, .fault (.markup fault)⟩ (extra + 1)

/-- The step at a `&` that `blanks` bytes precede, `rest` being the bytes after it. -/
def stepReference (l : Lexer) (blanks : Nat) (rest : List UInt8) : Step :=
  let fault : Lexeme := ⟨l.offset + blanks, .fault (.form .openReference)⟩
  let inside (b : UInt8) : Bool :=
    !(b = Byte.semicolon || b = Byte.ampersand || b = Byte.less)
  let extra := blanks + (rest.takeWhile inside).length
  match rest.dropWhile inside with
  | [] => .last fault (extra + 1)
  | b :: _ =>
    if b = Byte.semicolon then .next none (extra + 1) l.opened
    else .next (some fault) extra l.opened

/-- The step at text that `blanks` bytes precede, `rest` being the bytes after its first. -/
def stepText (l : Lexer) (blanks : Nat) (rest : List UInt8) : Step :=
  let inside (b : UInt8) : Bool := !(b = Byte.ampersand || b = Byte.less)
  let extra := blanks + (rest.takeWhile inside).length
  if (rest.dropWhile inside).isEmpty then
    .last ⟨(l.advance (extra + 1)).tagOffset, .finish⟩ (extra + 1)
  else .next none extra l.opened

def step (l : Lexer) : Step :=
  let blanks := (l.unread.takeWhile Byte.isBlank).length
  match l.unread.drop blanks with
  | [] => .last ⟨l.tagOffset, .finish⟩ blanks
  | b :: rest =>
    if b = Byte.less then l.stepMarkup blanks rest
    else if b = Byte.ampersand then l.stepReference blanks rest
    else l.stepText blanks rest

end Lexer

/-- The lexemes of a document and the offset where every reading past them stands. -/
structure Lexed where
  lexemes : List Lexeme
  stop : Nat
  deriving DecidableEq, Repr, Inhabited

def Lexer.run (l : Lexer) : Lexed :=
  match l.step with
  | .last lexeme used => ⟨[lexeme], (l.advance used).tagOffset⟩
  | .next lexeme extra opened =>
    if l.unread = [] then ⟨lexeme.toList, l.tagOffset⟩
    else
      let rest := Lexer.run { l.advance (extra + 1) with opened }
      ⟨lexeme.toList ++ rest.lexemes, rest.stop⟩
  termination_by l.unread.length
  decreasing_by
    have := List.length_pos_iff.2 ‹¬l.unread = []›
    simp only [Lexer.advance, List.length_drop]
    omega

def Lexed.ofDocument (document : List UInt8) : Lexed :=
  (Lexer.ofDocument document).run

end XsdRecords.Markup
