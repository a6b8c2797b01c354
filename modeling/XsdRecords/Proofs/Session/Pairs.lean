import XsdRecords.Proofs.Markup.Pairs
import XsdRecords.Proofs.Session.Variants

/-! # Reading an empty tag or a pair of tags

An empty tag runs its two actions in one turn, the second only if the first has not failed; a pair
of tags runs them in two turns, with a call of the reader between them that changes nothing.  Both
leave the same session, but for the place: `Twin`. -/

namespace XsdRecords.Session

open XsdRecords.Markup (Cursor Lexeme Node Paired Reader Source StartTag)

variable {s s' m : Session}

/-- Two sessions that differ in their places alone: both go on, or both have failed with the same
problem. -/
inductive Twin (s s' : Session) : Prop
  | goes (ok : s.hasFailed = false) (position : Position)
      (there : s' = s.variant s.allowUnsupported position)
  | fails (m : Session) (ok : m.hasFailed = false) (problem : Problem)
      (isFailure : problem.severity.isFailure = true) (position : Position)
      (here : s = m.report problem)
      (there : s' = (m.variant m.allowUnsupported position).report problem)

theorem hasFailed_of_eq_report {problem : Problem} (isFailure : problem.severity.isFailure = true)
    (eq : s = m.report problem) : s.hasFailed = true := by
  rw [eq]
  exact Journal.hasFailed_report_of_isFailure m.journal isFailure

/-- A step at two places. -/
theorem Responds.twin {f : Session → Session} (responds : Responds f s) (ok : s.hasFailed = false)
    (position : Position) : Twin (f s) (f (s.variant s.allowUnsupported position)) := by
  obtain ⟨quiet, alike⟩ | ⟨problem, m, isFailure, quiet, fails⟩ := responds
  · refine .goes (quiet.hasFailed.trans ok) position ?_
    rw [alike _ position id, quiet.allowUnsupported]
  · refine .fails m (quiet.hasFailed.trans ok) problem isFailure position ?_ ?_
    · have here := fails s.position
      rwa [quiet.variant_self] at here
    · rw [fails position, quiet.allowUnsupported]

/-- Reading goes on alike from twins, as far as it goes on at all. -/
theorem Twin.readLexemes (twin : Twin s s') {r r' : Reader} {lexemes lexemes' : List Lexeme}
    (next : s.hasFailed = false → ∀ position, Twin (s.readLexemes r lexemes)
      ((s.variant s.allowUnsupported position).readLexemes r' lexemes')) :
    Twin (s.readLexemes r lexemes) (s'.readLexemes r' lexemes') := by
  cases twin with
  | goes ok position there =>
    rw [there]
    exact next ok position
  | fails m ok problem isFailure position here there =>
    rw [readLexemes_of_hasFailed (hasFailed_of_eq_report isFailure here),
      readLexemes_of_hasFailed (hasFailed_of_eq_report isFailure there)]
    exact .fails m ok problem isFailure position here there

/-- A node at two places. -/
theorem twin_readNode (ok : s.hasFailed = false) (node : Node) (p q : Position) :
    Twin (s.readNode node p) ((s.variant s.allowUnsupported p).readNode node q) := by
  rw [readNode_eq, readNode_eq]
  exact (responds_nodeHere node (s.variant s.allowUnsupported p)).twin ok q

/-- A fault at two places. -/
theorem twin_fault (ok : s.hasFailed = false) (message : String) (p q : Position) :
    Twin ((s.variant s.allowUnsupported p).report (.markup message))
      ((s.variant s.allowUnsupported q).report (.markup message)) :=
  .fails (s.variant s.allowUnsupported p) ok (.markup message) rfl q rfl rfl

/-- An empty tag ends at once, if its start has not failed. -/
theorem readNode_empty {tag : StartTag} (isEmpty : tag.isEmpty = true) (s : Session)
    (position : Position) : s.readNode (.start tag) position =
      if (startTag tag (s.variant s.allowUnsupported position)).hasFailed then
        startTag tag (s.variant s.allowUnsupported position)
      else stopTag (startTag tag (s.variant s.allowUnsupported position)) := by
  rw [readNode_eq, nodeHere_start, if_pos isEmpty]

/-- The start tag of a pair only starts, and as that of the empty tag does. -/
theorem readNode_opening (tag : StartTag) (s : Session) (position : Position) :
    s.readNode (.start { tag with isEmpty := false }) position =
      startTag tag (s.variant s.allowUnsupported position) := by
  rw [readNode_eq, nodeHere_start]
  rfl

/-- The end tag of a pair is read where its start tag has left the session. -/
theorem readLexemes_closing (ok : s.hasFailed = false) {opened r : Reader} {closing : Lexeme}
    {name : Markup.TagName} (delivered : opened.deliver s.scope closing =
      (r, s.scope, .ok (some (.stop name)))) (rest : List Lexeme) :
    s.readLexemes opened (closing :: rest) =
      (stopTag (s.variant s.allowUnsupported r.position)).readLexemes r rest := by
  rw [readLexemes_cons ok delivered, withScope_scope]
  rfl

/-- An empty tag at one place and a pair at another: both start the tag, and where that goes on, the
one ends it at once and the other in a turn of its own. -/
theorem twin_pair {tag : StartTag} (isEmpty : tag.isEmpty = true) (ok : s.hasFailed = false)
    {r opened : Reader} {closing : Lexeme} {rest rest' : List Lexeme}
    (stops : ∀ later, ∃ cursor name, opened.deliver later closing =
      (r.elsewhere cursor, later, .ok (some (.stop name))))
    (next : ∀ {m : Session}, m.hasFailed = false → ∀ cursor position, Twin (m.readLexemes r rest)
      ((m.variant m.allowUnsupported position).readLexemes (r.elsewhere cursor) rest'))
    (place : Cursor) (p q : Position) :
    Twin ((s.readNode (.start tag) p).readLexemes r rest)
      ((startTag tag (s.variant s.allowUnsupported q)).readLexemes (opened.elsewhere place)
        (closing :: rest')) := by
  have started : Twin (startTag tag (s.variant s.allowUnsupported p))
      (startTag tag (s.variant s.allowUnsupported q)) :=
    (responds_startTag tag (s.variant s.allowUnsupported p)).twin ok q
  rw [readNode_empty isEmpty]
  generalize startTag tag (s.variant s.allowUnsupported p) = y at started ⊢
  generalize startTag tag (s.variant s.allowUnsupported q) = y' at started ⊢
  cases started with
  | fails m ok problem isFailure position here there =>
    have failed := hasFailed_of_eq_report isFailure here
    rw [if_pos failed]
    exact (Twin.fails m ok problem isFailure position here there).readLexemes fun going => by
      rw [failed] at going
      cases going
  | goes ok position there =>
    subst there
    obtain ⟨cursor, name, delivered⟩ := stops y.scope
    have delivered' := Reader.deliver_elsewhere (r := opened) (s := y.scope)
      (rfl : closing.token = closing.token) place
    rw [delivered] at delivered'
    rw [if_neg (by rw [ok]; exact Bool.false_ne_true),
      readLexemes_closing (s := y.variant y.allowUnsupported position) ok delivered']
    exact ((responds_stopTag y).twin ok _).readLexemes fun ok position => next ok _ position

/-- Documents that have pairs for empty tags are read alike. -/
theorem readLexemes_twin {lexemes lexemes' : List Lexeme} (paired : Paired lexemes lexemes')
    (ok : s.hasFailed = false) (r : Reader) (cursor : Cursor) (position : Position) :
    Twin (s.readLexemes r lexemes)
      ((s.variant s.allowUnsupported position).readLexemes (r.elsewhere cursor) lexemes') := by
  induction paired generalizing s r cursor position with
  | nil => exact .goes ok position rfl
  | @same lexeme lexeme' rest rest' token later ih =>
    have answers := Reader.deliver_elsewhere (r := r) (s := s.scope) token cursor
    rcases delivered : r.deliver s.scope lexeme with ⟨r', scope, fault | _ | node⟩
    · rw [delivered] at answers
      rw [readLexemes_of_fault ok delivered,
        readLexemes_of_fault (s := s.variant s.allowUnsupported position) ok answers]
      exact twin_fault (s := s.withScope scope) ok _ _ _
    · rw [delivered] at answers
      rw [readLexemes_of_finish ok delivered,
        readLexemes_of_finish (s := s.variant s.allowUnsupported position) ok answers]
      exact .goes ok position rfl
    · rw [delivered] at answers
      rw [readLexemes_cons ok delivered,
        readLexemes_cons (s := s.variant s.allowUnsupported position) ok answers]
      have here := twin_readNode (s := s.withScope scope) ok node r'.position
        (r'.elsewhere (cursor.moveTo lexeme'.offset)).position
      exact here.readLexemes fun ok position => ih ok r' _ position
  | @pair lexeme opening closing rest rest' text text' empty start stop name attributes later ih =>
    have answers := Reader.deliver_elsewhere (r := r) (s := s.scope)
      (rfl : opening.token = opening.token) cursor
    rcases delivered : r.deliver s.scope lexeme with ⟨r', scope, fault | answer⟩
    · have refused := Reader.deliver_opening_of_fault empty start name attributes delivered
      rw [refused] at answers
      rw [readLexemes_of_fault ok delivered,
        readLexemes_of_fault (s := s.variant s.allowUnsupported position) ok answers]
      exact twin_fault (s := s.withScope scope) ok _ _ _
    · obtain ⟨tag, opened, rfl, isEmpty, started, stopped⟩ :=
        Reader.deliver_pair empty start stop name attributes delivered
      rw [started] at answers
      rw [readLexemes_cons ok delivered,
        readLexemes_cons (s := s.variant s.allowUnsupported position) ok answers, readNode_opening]
      exact twin_pair (s := s.withScope scope) isEmpty ok stopped (fun ok => ih ok r') _ _ _

/-! ## Whole documents -/

theorem readDocument_twin {source source' : Source} (paired : source.Paired source')
    (ok : s.hasFailed = false) (position : Position) : Twin (s.readDocument source)
      ((s.variant s.allowUnsupported position).readDocument source') := by
  cases paired with
  | failing reason =>
    exact .fails (s.beginDocument.note _) ok _ rfl {} rfl rfl
  | @bytes content content' paired =>
    exact readLexemes_twin (s := s.beginDocument) paired ok (Reader.ofDocument content)
      (Cursor.start content') {}

end XsdRecords.Session
