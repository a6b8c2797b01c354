import XsdRecords.Proofs.Markup.Places
import XsdRecords.Proofs.Markup.Respelling

/-! # The pieces of a document

Every step of the lexer passes some bytes, in which it finds a token or nothing.  These are the pieces
of the document: they stand in it one after another, and in the piece of a tag there is nothing before
the tag but blanks.  The first `<` from the start of the piece on is therefore that of the tag, and so
the reader tells a tag at its own `<`, whatever it was asked before (`advance_tells`).

A byte order mark belongs to no piece and is not counted by the lexer, so that in a document with one
the search for the `<` starts three bytes before the piece. -/

namespace XsdRecords.Markup

/-- The bytes that one step of the lexer passes, and the token that it finds in them. -/
structure Piece where
  bytes : List UInt8
  token : Option Token
  deriving DecidableEq, Repr

/-- The bytes of some pieces. -/
def passed (pieces : List Piece) : List UInt8 :=
  pieces.flatMap (·.bytes)

theorem passed_cons (piece : Piece) (pieces : List Piece) :
    passed (piece :: pieces) = piece.bytes ++ passed pieces :=
  List.flatMap_cons

/-- The number of tokens that are found in some pieces. -/
def tokenCount (pieces : List Piece) : Nat :=
  pieces.countP (·.token.isSome)

/-- All pieces from here on. -/
def Lexer.pieces (l : Lexer) : List Piece :=
  match l.step with
  | .last lexeme used => [⟨l.unread.take used, some lexeme.token⟩]
  | .next lexeme extra opened =>
    if l.unread = [] then []
    else ⟨l.unread.take (extra + 1), lexeme.map (·.token)⟩ ::
      Lexer.pieces { l.advance (extra + 1) with opened }
  termination_by l.unread.length
  decreasing_by
    have := List.length_pos_iff.2 ‹¬l.unread = []›
    simp only [Lexer.advance, List.length_drop]
    omega

/-- The pieces of a document. -/
def piecesOf (document : List UInt8) : List Piece :=
  (Lexer.ofDocument document).pieces

/-- The byte order mark that a document starts with. -/
def markOf (document : List UInt8) : List UInt8 :=
  if Lexer.byteOrderMark <+: document then Lexer.byteOrderMark else []

/-- How the tags of a token are written. -/
inductive Token.Writes : Token → List UInt8 → Prop
  | start (text : List UInt8) :
      Writes (.start text false) (Byte.less :: (text ++ [Byte.greater]))
  | empty (text : List UInt8) :
      Writes (.start text true) (Byte.less :: (text ++ [Byte.slash, Byte.greater]))
  | stop (text : List UInt8) :
      Writes (.stop (Lexer.endName text)) (Byte.less :: Byte.slash :: (text ++ [Byte.greater]))

/-- What a token is delivered as. -/
inductive Token.Reads : Token → Node → Prop
  | start {text : List UInt8} {written : String} {tag : StartTag}
      (decoded : Text.Utf8.decodeText (tagName text) = .ok written)
      (name : tag.name.localName = (splitName written).2)
      (attributes : tag.attributes.map (fun a => (a.qualifiedName, a.value)) =
        (readAttributes text).1) : Reads (.start text tag.isEmpty) (.start tag)
  | stop {text : List UInt8} {written : String} {name : TagName}
      (decoded : Text.Utf8.decodeText text = .ok written)
      (name_eq : name.localName = (splitName written).2) : Reads (.stop text) (.stop name)

theorem Token.Writes.exists_less {token : Token} {tag : List UInt8} (writes : token.Writes tag) :
    ∃ rest, tag = Byte.less :: rest := by
  cases writes <;> exact ⟨_, rfl⟩

theorem Token.Reads.sound {token : Token} {node : Node} (reads : token.Reads node) :
    ¬token.IsFault ∧ token ≠ .finish := by
  cases reads <;> exact ⟨id, nofun⟩

/-! ## The tag of a step -/

namespace Lexer

variable {l : Lexer} {lexeme : Lexeme} {blanks extra n : Nat} {rest bytes : List UInt8}
  {opened : List (List UInt8)}

/-- A tag goes to a `>`, and what stands before that tells which tag it is. -/
theorem scanMarkup_of_isTag (isTag : (scanMarkup bytes).construct.IsTag) :
    ∃ text rest, bytes = text ++ Byte.greater :: rest ∧ (scanMarkup bytes).used = text.length + 1 ∧
      ((scanMarkup bytes).construct = .start text ∨
        ∃ name, text = Byte.slash :: name ∧ (scanMarkup bytes).construct = .stop name) := by
  have same := scanMarkup_eq_scanTag isTag
  rw [same, scanTag] at isTag ⊢
  cases length : tagLength none bytes with
  | error fault =>
    rw [length] at isTag
    exact isTag.elim
  | ok n =>
    obtain ⟨text, rest, rfl, rfl, -⟩ := tagLength_within length
    refine ⟨text, rest, rfl, ?_⟩
    dsimp only
    rw [List.take_left]
    cases text with
    | nil => exact ⟨rfl, .inl rfl⟩
    | cons b text =>
      refine ⟨rfl, ?_⟩
      dsimp only
      split
      · rename_i slash
        exact .inr ⟨text, by rw [slash], rfl⟩
      · exact .inl rfl

/-- An end tag that is no fault is told where its search for a `<` leads. -/
theorem matchEnd_of_sound {opened : List (List UInt8)} {place here : Nat} {name : List UInt8}
    (sound : ¬(matchEnd opened place here name).1.token.IsFault) :
    (matchEnd opened place here name).1 = ⟨place, .stop name⟩ := by
  unfold matchEnd at sound ⊢
  cases opened with
  | nil => exact absurd trivial sound
  | cons expected outer =>
    dsimp only at sound ⊢
    split
    · rfl
    · rename_i other
      rw [if_neg other] at sound
      exact absurd trivial sound

theorem tag_of_stepMarkup (h : l.stepMarkup blanks rest = .next (some lexeme) extra opened)
    (sound : ¬lexeme.token.IsFault) :
    ∃ tag rest', Byte.less :: rest = tag ++ rest' ∧ lexeme.token.Writes tag ∧
      blanks + tag.length = extra + 1 ∧ lexeme.offset = l.tagOffset := by
  unfold stepMarkup at h
  dsimp only at h
  split at h
  · rename_i text start
    obtain ⟨text', rest', rfl, used, found⟩ :=
      scanMarkup_of_isTag (Construct.isTag_of_start start)
    obtain rfl : text = text' := by simpa [start] using found
    split at h
    · rename_i slash
      obtain ⟨body, rfl⟩ := List.getLast?_eq_some_iff.1 slash
      cases h
      rw [List.dropLast_concat, used]
      exact ⟨_, rest', by simp, .empty body, by simp; omega, rfl⟩
    · cases h
      rw [used]
      exact ⟨_, rest', by simp, .start text, by simp; omega, rfl⟩
  · rename_i text stop
    have isTag : (scanMarkup rest).construct.IsTag := by rw [stop]; trivial
    obtain ⟨text', rest', rfl, used, found⟩ := scanMarkup_of_isTag isTag
    obtain ⟨name, rfl, same⟩ : ∃ name, text' = Byte.slash :: name ∧ text = name := by
      simpa [stop] using found
    subst same
    cases h
    rw [matchEnd_of_sound sound, used]
    exact ⟨_, rest', by simp, .stop text, by simp; omega, rfl⟩
  · cases h
  · cases h
    exact absurd trivial sound
  · cases h

/-- A step that finds a tag passes blanks and the tag. -/
theorem tag_of_step (h : l.step = .next (some lexeme) extra opened)
    (sound : ¬lexeme.token.IsFault) :
    ∃ blanks tag, l.unread.take (extra + 1) = blanks ++ tag ∧
      (∀ b ∈ blanks, Byte.isBlank b = true) ∧ lexeme.token.Writes tag ∧
      lexeme.offset = l.tagOffset := by
  obtain isFault | ⟨blanks, rest, unread, blank, markup⟩ := step_some h
  · exact absurd isFault sound
  · obtain ⟨tag, rest', split, writes, length, offset⟩ := tag_of_stepMarkup markup sound
    refine ⟨blanks, tag, ?_, fun b member => ?_, writes, offset⟩
    · rw [unread, split, ← List.append_assoc]
      exact List.take_left' (by rw [List.length_append, length])
    · rw [← blank] at member
      exact List.mem_takeWhile_imp member

/-! ## The pieces of a run -/

theorem pieces_next {lexeme : Option Lexeme} (h : l.step = .next lexeme extra opened) :
    l.pieces = ⟨l.unread.take (extra + 1), lexeme.map (·.token)⟩ ::
      pieces { l.advance (extra + 1) with opened } := by
  have length := length_of_step_next h
  rw [pieces, h]
  dsimp only
  rw [if_neg (List.ne_nil_of_length_pos (by omega))]

/-- Where the tag of lexeme `n` from here on stands: after some pieces, and after blanks in its
own. -/
structure Cuts (l : Lexer) (n : Nat) (lexeme : Lexeme) (earlier : List Piece)
    (blanks tag : List UInt8) : Prop where
  pieces : ∃ later, l.pieces = earlier ++ ⟨blanks ++ tag, some lexeme.token⟩ :: later
  count : tokenCount earlier = n
  unread : passed earlier ++ (blanks ++ tag) <+: l.unread
  blank : ∀ b ∈ blanks, Byte.isBlank b = true
  writes : lexeme.token.Writes tag
  offset : lexeme.offset = (l.advance (passed earlier).length).tagOffset

theorem Cuts.later {first : Option Lexeme} {earlier : List Piece} {blanks tag : List UInt8}
    (h : l.step = .next first extra opened)
    (cuts : Cuts { l.advance (extra + 1) with opened } n lexeme earlier blanks tag) :
    l.Cuts (first.toList.length + n) lexeme
      (⟨l.unread.take (extra + 1), first.map (·.token)⟩ :: earlier) blanks tag := by
  have length : (l.unread.take (extra + 1)).length = extra + 1 :=
    List.length_take_of_le (length_of_step_next h)
  obtain ⟨⟨later, pieces⟩, count, unread, blank, writes, offset⟩ := cuts
  refine ⟨⟨later, ?_⟩, ?_, ?_, blank, writes, ?_⟩
  · rw [pieces_next h, pieces, List.cons_append]
  · rw [tokenCount, List.countP_cons, ← tokenCount, count]
    cases first <;> simp [Nat.add_comm]
  · rw [passed_cons, List.append_assoc]
    have whole := (List.prefix_append_right_inj (l.unread.take (extra + 1))).2 unread
    rwa [advance, List.take_append_drop] at whole
  · rw [offset, passed_cons, List.length_append, length]
    simp only [tagOffset, advance, List.drop_drop, Nat.add_assoc]

/-- Every tag that a lexer finds has a piece of its own. -/
theorem exists_cuts (found : l.run.lexemes[n]? = some lexeme) (sound : ¬lexeme.token.IsFault)
    (more : lexeme.token ≠ .finish) : ∃ earlier blanks tag, l.Cuts n lexeme earlier blanks tag := by
  induction l using Lexer.run.induct generalizing n with
  | case1 l last used h =>
    rw [run, h] at found
    obtain ⟨rfl, rfl⟩ : n = 0 ∧ last = lexeme := by
      cases n <;> simp_all
    obtain isFinish | isFault := step_last h
    · exact absurd isFinish more
    · exact absurd isFault sound
  | case2 l first extra opened h isEmpty =>
    have length := length_of_step_next h
    rw [isEmpty] at length
    cases length
  | case3 l first extra opened h _ ih =>
    rw [run_next h] at found
    have later {m : Nat} (found : (run { l.advance (extra + 1) with opened }).lexemes[m]? =
        some lexeme) : ∃ earlier blanks tag,
          l.Cuts (first.toList.length + m) lexeme earlier blanks tag := by
      obtain ⟨earlier, blanks, tag, cuts⟩ := ih found
      exact ⟨_, blanks, tag, cuts.later h⟩
    cases first with
    | none => simpa using later found
    | some first =>
      cases n with
      | zero =>
        obtain rfl : first = lexeme := by simpa using found
        obtain ⟨blanks, tag, taken, blank, writes, offset⟩ := tag_of_step h sound
        refine ⟨[], blanks, tag, ⟨pieces { l.advance (extra + 1) with opened }, ?_⟩, rfl, ?_, blank,
          writes, offset⟩
        · rw [pieces_next h, taken]
          rfl
        · rw [← taken]
          exact List.take_prefix _ _
      | succ n => simpa [Nat.add_comm] using later (m := n) (by simpa using found)

end Lexer

/-! ## The place of a tag -/

/-- Where a tag stands in a document: after some pieces, and after blanks in its own. -/
structure TagPlace where
  earlier : List Piece
  blanks : List UInt8
  tag : List UInt8

section TagPlace

variable {document : List UInt8} {n : Nat} {node : Node}

/-- The offset of the `<` of a tag. -/
def TagPlace.offset (p : TagPlace) (document : List UInt8) : Nat :=
  (markOf document ++ passed p.earlier ++ p.blanks).length

/-- The place of a tag that is delivered as a node, the tokens before it being `n`. -/
structure TagPlace.IsOf (document : List UInt8) (n : Nat) (node : Node) (p : TagPlace) : Prop where
  pieces : ∃ token later,
    piecesOf document = p.earlier ++ ⟨p.blanks ++ p.tag, some token⟩ :: later ∧
      token.Writes p.tag ∧ token.Reads node
  count : tokenCount p.earlier = n
  blank : ∀ b ∈ p.blanks, Byte.isBlank b = true
  inside : markOf document ++ (passed p.earlier ++ (p.blanks ++ p.tag)) <+: document

/-- The offset of the first `<` at or after an offset, or that offset where there is none. -/
def lessFrom (document : List UInt8) (offset : Nat) : Nat :=
  match (document.drop offset).findIdx? (· = Byte.less) with
  | some n => offset + n
  | none => offset

theorem tagOffset_ofDocument (document : List UInt8) (n : Nat) :
    ((Lexer.ofDocument document).advance n).tagOffset = lessFrom document n := by
  have offset : ((Lexer.ofDocument document).advance n).offset = n := Nat.zero_add n
  unfold Lexer.tagOffset
  rw [offset]
  rfl

/-- A search for a `<` passes blanks. -/
theorem lessFrom_append {before blanks : List UInt8} (blank : ∀ b ∈ blanks, Byte.isBlank b = true)
    (rest : List UInt8) :
    lessFrom (before ++ (blanks ++ Byte.less :: rest)) before.length =
      before.length + blanks.length := by
  have none : blanks.findIdx? (· = Byte.less) = none := by
    refine List.findIdx?_eq_none_iff.2 fun b member => decide_eq_false ?_
    rintro rfl
    exact absurd (blank _ member) (by decide)
  unfold lessFrom
  rw [List.drop_left, List.findIdx?_append, none, List.findIdx?_cons]
  simp

theorem markOf_append_unread (document : List UInt8) :
    markOf document ++ (Lexer.ofDocument document).unread = document := by
  unfold markOf Lexer.ofDocument
  dsimp only
  split
  · rename_i marked
    obtain ⟨rest, rfl⟩ := marked
    rfl
  · rfl

/-- Without a byte order mark the search for a `<` leads from the end of what was read before to the
tag. -/
theorem TagPlace.IsOf.lessFrom {p : TagPlace} (isOf : p.IsOf document n node)
    (unmarked : ¬Lexer.byteOrderMark <+: document) :
    lessFrom document (passed p.earlier).length = p.offset document := by
  obtain ⟨⟨token, later, -, writes, -⟩, -, blank, inside⟩ := isOf
  obtain ⟨text, tag⟩ := writes.exists_less
  rw [offset]
  rw [markOf, if_neg unmarked, List.nil_append] at inside ⊢
  obtain ⟨rest, rfl⟩ := inside
  rw [tag, List.append_assoc, List.append_assoc, List.cons_append, List.length_append]
  exact lessFrom_append blank _

end TagPlace

/-! ## A reader that is moved about -/

/-- Moves the reader to an offset. -/
def ReaderSession.moveTo (rs : ReaderSession) (target : Nat) : ReaderSession :=
  { rs with document := rs.document.map fun d =>
      { d with reader := { d.reader with cursor := d.reader.cursor.moveTo target } } }

/-- What a reader may be asked, from the opening of a document on: to advance, in any scope and
whatever it answers, and to move.  It has been asked to advance `n` times. -/
inductive Readings (rs₀ : ReaderSession) : Nat → ReaderSession → Prop
  | opened : Readings rs₀ 0 rs₀
  | advance {n : Nat} {rs : ReaderSession} (before : Readings rs₀ n rs) (s : Scope) :
      Readings rs₀ (n + 1) (rs.advance s).1
  | moveTo {n : Nat} {rs : ReaderSession} (before : Readings rs₀ n rs) (target : Nat) :
      Readings rs₀ n (rs.moveTo target)

/-- What a reader is delivered of a token is its name and its attributes. -/
theorem Reader.reads_deliver {r r' : Reader} {s s' : Scope} {lexeme : Lexeme} {node : Node}
    (delivered : r.deliver s lexeme = (r', s', .ok (some node))) : lexeme.token.Reads node := by
  unfold deliver at delivered
  dsimp only at delivered
  split at delivered
  · simp at delivered
  · simp at delivered
  · rename_i text isEmpty token
    rw [token]
    split at delivered
    · simp at delivered
    · rename_i tag read
      simp only [Prod.mk.injEq, Except.ok.injEq, Option.some.injEq] at delivered
      obtain ⟨-, -, rfl⟩ := delivered
      unfold Scope.readStart at read
      dsimp only at read
      split at read
      · cases read
      · split at read
        · cases read
        · rename_i written decoded
          obtain rfl := Except.ok.inj read
          refine @Token.Reads.start text written ⟨_, _, isEmpty⟩ decoded rfl ?_
          rw [List.map_map]
          exact List.map_id _
  · rename_i name token
    rw [token]
    split at delivered
    · simp at delivered
    · rename_i written decoded
      simp only [Prod.mk.injEq, Except.ok.injEq, Option.some.injEq] at delivered
      obtain ⟨-, -, rfl⟩ := delivered
      exact .stop decoded rfl

/-- A session whose reader is in a document of which it has been given `n` lexemes. -/
def ReaderSession.Given (content : List UInt8) (n : Nat) (rs : ReaderSession) : Prop :=
  ∃ d, rs.document = some d ∧ Cursor.Tells content d.reader.cursor ∧
    d.lexemes = (Lexed.ofDocument content).lexemes.drop n

section Given

variable {content : List UInt8} {n : Nat} {rs rs₀ rs₁ : ReaderSession} {location : String}

theorem ReaderSession.Given.advance (given : rs.Given content n) (s : Scope) :
    (rs.advance s).1.Given content (n + 1) := by
  obtain ⟨⟨reader, lexemes, stop⟩, opened, tells, left⟩ := given
  dsimp only at tells left
  have moved (lexeme : Lexeme) : Cursor.Tells content (reader.deliver s lexeme).1.cursor := by
    rw [Reader.cursor_deliver]
    exact (tells.moveTo _).1
  unfold ReaderSession.advance
  rw [opened]
  refine ⟨_, rfl, moved _, ?_⟩
  rw [← List.drop_drop, ← left]
  cases lexemes <;> rfl

theorem ReaderSession.Given.moveTo (given : rs.Given content n) (target : Nat) :
    (rs.moveTo target).Given content n ∧
      (rs.moveTo target).position = placeAt content (min target content.length) := by
  obtain ⟨d, opened, tells, left⟩ := given
  unfold ReaderSession.moveTo
  rw [opened]
  refine ⟨⟨_, rfl, (tells.moveTo target).1, left⟩, ?_⟩
  rw [Cursor.placeAt_min]
  exact tells.position_moveTo target

theorem Readings.given (opened : rs₀.openDocument (.bytes content) location = .ok rs₁)
    (readings : Readings rs₁ n rs) : rs.Given content n := by
  induction readings with
  | opened =>
    obtain rfl := Except.ok.inj opened
    exact ⟨_, rfl, Cursor.tells_start content, rfl⟩
  | advance _ s ih => exact ih.advance s
  | moveTo _ target ih => exact (ih.moveTo target).1

/-- A node is told where the search for a `<` leads from the end of what was read before. -/
theorem ReaderSession.Given.tag (given : rs.Given content n) {rs' : ReaderSession} {s s' : Scope}
    {node : Node} (answered : rs.advance s = (rs', s', .ok (some node))) :
    ∃ p : TagPlace, p.IsOf content n node ∧
      rs'.position = placeAt content (lessFrom content (passed p.earlier).length) := by
  obtain ⟨⟨reader, lexemes, stop⟩, opened, tells, left⟩ := given
  unfold ReaderSession.advance at answered
  rw [opened] at answered
  dsimp only at answered tells left
  cases lexemes with
  | nil =>
    simp only [Prod.mk.injEq] at answered
    have finish := (reader.deliver_eq_none_iff s ⟨stop, .finish⟩).2 rfl
    rw [answered.2.2] at finish
    cases finish
  | cons lexeme rest =>
    simp only [Prod.mk.injEq] at answered
    obtain ⟨rfl, rfl, result⟩ := answered
    have delivered : reader.deliver s lexeme =
        ((reader.deliver s lexeme).1, (reader.deliver s lexeme).2.1, .ok (some node)) := by
      rw [← result]
    have reads := Reader.reads_deliver delivered
    have found : (Lexed.ofDocument content).lexemes[n]? = some lexeme := by
      rw [← List.head?_drop, ← left, List.head?_cons]
    obtain ⟨earlier, blanks, tag, ⟨later, pieces⟩, count, unread, blank, writes, offset⟩ :=
      Lexer.exists_cuts found reads.sound.1 reads.sound.2
    refine ⟨⟨earlier, blanks, tag⟩, ⟨⟨_, later, pieces, writes, reads⟩, count, blank, ?_⟩, ?_⟩
    · have whole := (List.prefix_append_right_inj (markOf content)).2 unread
      rwa [markOf_append_unread] at whole
    · rw [← tagOffset_ofDocument, ← offset]
      change (reader.deliver s lexeme).1.cursor.position = _
      rw [Reader.cursor_deliver]
      exact tells.position_moveTo _

/-- However often a reader has advanced and been moved since a document was opened, a move leads to the
line and column of the offset, and a tag is told at the first `<` from where the lexer has counted to.
If that is the end of the piece before, it is the `<` of the tag.  A document with a byte order mark is
the case where it is not: the mark is not counted, the search starts three bytes before that end, and
may find a `<` in what was read before. -/
theorem advance_tells (opened : rs₀.openDocument (.bytes content) location = .ok rs₁)
    (readings : Readings rs₁ n rs) :
    (∀ target, (rs.moveTo target).position =
      ⟨lineAt content (min target content.length), columnAt content (min target content.length)⟩) ∧
    ∀ {rs' : ReaderSession} {s s' : Scope} {node : Node},
      rs.advance s = (rs', s', .ok (some node)) →
      ∃ p : TagPlace, p.IsOf content n node ∧
        rs'.position = placeAt content (lessFrom content (passed p.earlier).length) ∧
        (¬Lexer.byteOrderMark <+: content →
          rs'.position =
            ⟨lineAt content (p.offset content), columnAt content (p.offset content)⟩) := by
  have given := readings.given opened
  refine ⟨fun target => (given.moveTo target).2, fun answered => ?_⟩
  obtain ⟨p, isOf, told⟩ := given.tag answered
  refine ⟨p, isOf, told, fun unmarked => ?_⟩
  rw [told, isOf.lessFrom unmarked]
  rfl

end Given

/-- A document with a `<` in a comment between its tags. -/
def commentedDocument : List UInt8 :=
  Text.Utf8.encodeText "<a>\n x <!-- <c> -->\n  <b/>\n</a>"

/-- A session in which the document has just been opened. -/
def commentedSession : ReaderSession :=
  let lexed := Lexed.ofDocument commentedDocument
  { document := some ⟨Reader.ofDocument commentedDocument, lexed.lexemes, lexed.stop⟩ }

/-- The session after a tag and a move back. -/
def movedSession : ReaderSession :=
  (commentedSession.advance default).1.moveTo 2

set_option maxRecDepth 100000 in
theorem advance_tells_commented : movedSession.position = ⟨1, 3⟩ ∧
    ∃ rs s node, movedSession.advance default = (rs, s, .ok (some node)) ∧
      rs.position = ⟨3, 3⟩ ∧ ∃ p : TagPlace, p.IsOf commentedDocument 1 node ∧
        rs.position = ⟨lineAt commentedDocument (p.offset commentedDocument),
          columnAt commentedDocument (p.offset commentedDocument)⟩ := by
  have second : (movedSession.advance default).2.2.toOption =
      some (some (.start ⟨⟨"b", .none, ""⟩, [], true⟩)) := by decide +kernel
  have place : (movedSession.advance default).1.position = ⟨3, 3⟩ := by decide +kernel
  have opened : ReaderSession.openDocument {} (.bytes commentedDocument) "" =
    .ok commentedSession := rfl
  obtain ⟨moves, -⟩ := advance_tells opened (.advance .opened default)
  obtain ⟨-, tags⟩ := advance_tells opened (.moveTo (.advance .opened default) 2)
  refine ⟨(moves 2).trans (by decide +kernel), ?_⟩
  rcases read : movedSession.advance default with ⟨rs, s, fault | answer⟩
  · rw [read] at second
    cases second
  · rw [read] at second place
    obtain rfl := Option.some.inj second
    obtain ⟨p, isOf, -, told⟩ := tags read
    exact ⟨rs, s, _, rfl, place, p, isOf, told (by decide +kernel)⟩

-- With a byte order mark the second tag is told at the `<` of the first.
example : places (Lexer.byteOrderMark ++ Text.Utf8.encodeText "<a><b/></a>") =
    [⟨1, 4⟩, ⟨1, 4⟩, ⟨1, 11⟩] := by decide +kernel

end XsdRecords.Markup
