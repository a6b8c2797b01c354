import XsdRecords.Proofs.Session.Disguise
import XsdRecords.Proofs.Session.Pairs
import XsdRecords.Proofs.Session.Positions

/-! # Reading documents with renamed prefixes

What a tag does to a session its renamed tag does to the session in disguise: `Matches`.  Either both go
on, or both fail with problems that are worded alike. -/

namespace XsdRecords

open XsdRecords.Markup (Cursor Lexed Lexeme Reader ReaderFault Reading Source StartTag
  delivers_renamed)
open XsdRecords.Vocabulary (Tag)

/-- Problems that are worded alike: they are the same, or faults of markup that differ in their byte
offsets alone. -/
inductive Problem.Alike : Problem → Problem → Prop
  | same (problem : Problem) : Alike problem problem
  | fault {fault fault' : ReaderFault} (alike : fault'.unplaced = fault.unplaced) :
      Alike (.markup fault.message) (.markup fault'.message)

theorem Problem.Alike.severity {p p' : Problem} (alike : p.Alike p') : p'.severity = p.severity := by
  cases alike <;> rfl

namespace Session

open XsdRecords.Action

variable {ρ : Renaming} {s s' : Session} {w : Worklist} {t : Trace}

/-- Two sessions, the second a disguise of the first: both go on, or both have failed with problems
that are worded alike. -/
inductive Matches (ρ : Renaming) (s s' : Session) : Prop
  | goes (ok : s.hasFailed = false) (w : Worklist) (t : Trace) (renamed : s.worklist.Renamed ρ w)
      (there : s' = s.disguised w t)
  | fails (m m' : Session) (ok : m.hasFailed = false) (ok' : m'.hasFailed = false)
      {p p' : Problem} (isFailure : p.severity.isFailure = true) (alike : p.Alike p')
      (here : s = m.report p) (there : s' = m'.report p')

/-- A problem that is found in both. -/
theorem matches_report (ok : s.hasFailed = false) {p p' : Problem}
    (isFailure : p.severity.isFailure = true) (alike : p.Alike p') (w : Worklist) (t : Trace) :
    Matches ρ (s.report p) ((s.disguised w t).report p') :=
  .fails s (s.disguised w t) ok ok isFailure alike rfl rfl

/-- An action that is performed in both. -/
theorem matches_perform {action action' : Action Unit} (mirrors : Mirrors ρ action action')
    (steady : action.Steady) (ok : s.hasFailed = false) (renamed : s.worklist.Renamed ρ w)
    (t : Trace) : Matches ρ (s.perform action) ((s.disguised w t).perform action') := by
  have follows := mirrors s w t renamed
  have ends := steady s
  unfold Ends at follows ends
  rcases ran : (ExceptT.run action).run s with ⟨problem | answer, m⟩
  · simp only [ran] at follows ends
    obtain ⟨w', t', -, there⟩ := follows
    obtain ⟨isFailure, quiet, -⟩ := ends
    have going : m.hasFailed = false := quiet.hasFailed.trans ok
    unfold perform
    rw [ran, there]
    exact matches_report going isFailure (.same problem) w' t'
  · simp only [ran] at follows ends
    obtain ⟨w', t', renamed', there⟩ := follows
    unfold perform
    rw [ran, there]
    exact .goes (ends.1.hasFailed.trans ok) w' t' renamed' rfl

/-! ## Tags -/

theorem matches_enterTag {tag tag' : StartTag} (same : tag.Renamed ρ tag') (kind : Tag)
    (ok : s.hasFailed = false) (renamed : s.worklist.Renamed ρ w) (t : Trace) :
    Matches ρ (enterTag kind tag s) (enterTag kind tag' (s.disguised w t)) := by
  unfold enterTag
  dsimp only
  by_cases skipping : 0 < s.skipDepth
  · rw [if_pos skipping, if_pos (show 0 < (s.disguised w t).skipDepth from skipping)]
    exact .goes ok w t renamed rfl
  · rw [if_neg skipping, if_neg (show ¬0 < (s.disguised w t).skipDepth from skipping)]
    obtain ⟨events, here⟩ := exists_noteAttributes kind tag { s with tagStack := kind :: s.tagStack }
    obtain ⟨events', there⟩ := exists_noteAttributes kind tag'
      { s.disguised w t with tagStack := kind :: (s.disguised w t).tagStack }
    rw [here, there]
    exact matches_perform (mirrors_startAction same kind) (steady_startAction kind tag)
      (s := { s with
        tagStack := kind :: s.tagStack
        journal := { s.journal with events := events } }) ok renamed { t with events := events' }

theorem matches_startTag {tag tag' : StartTag} (same : tag.Renamed ρ tag')
    (ok : s.hasFailed = false) (renamed : s.worklist.Renamed ρ w) (t : Trace) :
    Matches ρ (startTag tag s) (startTag tag' (s.disguised w t)) := by
  have alike : findTag (s.disguised w t) tag' = findTag s tag := by
    unfold findTag
    rw [same.name]
    rfl
  cases found : findTag s tag with
  | error problem =>
    rw [startTag_of_unknown found, startTag_of_unknown (alike.trans found)]
    exact matches_report ok (isFailure_of_findTag found) (.same problem) w t
  | ok kind =>
    have content : checkContent (s.disguised w t) tag'.name.localName kind =
        checkContent s tag.name.localName kind := by
      rw [same.name]
      rfl
    cases checked : checkContent s tag.name.localName kind with
    | error problem =>
      rw [startTag_of_refused found checked,
        startTag_of_refused (alike.trans found) (content.trans checked)]
      exact matches_report ok (isFailure_of_checkContent checked) (.same problem) w t
    | ok =>
      rw [startTag_of_allowed found checked,
        startTag_of_allowed (alike.trans found) (content.trans checked)]
      exact matches_enterTag same kind ok renamed t

theorem matches_leaveTag (kind : Tag) (ok : s.hasFailed = false)
    (renamed : s.worklist.Renamed ρ w) (t : Trace) :
    Matches ρ (leaveTag kind s) (leaveTag kind (s.disguised w t)) := by
  unfold leaveTag
  by_cases skipping : 0 < s.skipDepth
  · rw [if_pos skipping, if_pos (show 0 < (s.disguised w t).skipDepth from skipping)]
    exact .goes ok w t renamed rfl
  · rw [if_neg skipping, if_neg (show ¬0 < (s.disguised w t).skipDepth from skipping)]
    exact matches_perform (mirrors_endAction kind) (steady_endAction kind) ok renamed t

/-- The innermost tag is closed in both. -/
theorem Matches.popTag (matched : Matches ρ s s') :
    Matches ρ { s with tagStack := s.tagStack.tail } { s' with tagStack := s'.tagStack.tail } := by
  cases matched with
  | goes ok w t renamed there =>
    subst there
    exact .goes ok w t renamed rfl
  | fails m m' ok ok' isFailure alike here there =>
    subst here there
    exact .fails { m with tagStack := m.tagStack.tail } { m' with tagStack := m'.tagStack.tail }
      ok ok' isFailure alike rfl rfl

theorem matches_stopTag (ok : s.hasFailed = false) (renamed : s.worklist.Renamed ρ w) (t : Trace) :
    Matches ρ (stopTag s) (stopTag (s.disguised w t)) := by
  cases tags : s.tagStack with
  | nil =>
    rw [stopTag_of_nil tags, stopTag_of_nil (show (s.disguised w t).tagStack = [] from tags)]
    exact .goes ok w t renamed rfl
  | cons kind rest =>
    rw [stopTag_of_cons tags,
      stopTag_of_cons (show (s.disguised w t).tagStack = kind :: rest from tags)]
    exact (matches_leaveTag kind ok renamed t).popTag

theorem Matches.hasFailed (matched : Matches ρ s s') : s'.hasFailed = s.hasFailed := by
  cases matched with
  | goes ok w t renamed there =>
    subst there
    rfl
  | fails m m' ok ok' isFailure alike here there =>
    rw [hasFailed_of_eq_report isFailure here,
      hasFailed_of_eq_report (alike.severity.symm ▸ isFailure) there]

/-- A tag that ends at once, unless its start has failed. -/
theorem Matches.stopTag (matched : Matches ρ s s') :
    Matches ρ (if s.hasFailed then s else Session.stopTag s)
      (if s'.hasFailed then s' else Session.stopTag s') := by
  rw [matched.hasFailed]
  split
  · exact matched
  · rename_i going
    cases matched with
    | goes ok w t renamed there =>
      subst there
      exact matches_stopTag ok renamed t
    | fails m m' ok ok' isFailure alike here there =>
      exact absurd (hasFailed_of_eq_report isFailure here) going

/-! ## Nodes and lexemes -/

theorem matches_start {tag tag' : StartTag} (same : tag.Renamed ρ tag') (ok : s.hasFailed = false)
    (renamed : s.worklist.Renamed ρ w) (t : Trace) (p q : Position) :
    Matches ρ (s.readNode (.start tag) p) ((s.disguised w t).readNode (.start tag') q) := by
  rw [readNode_eq, readNode_eq, nodeHere_start, nodeHere_start, same.isEmpty]
  have started := matches_startTag (s := s.variant s.allowUnsupported p) same ok renamed
    { t with position := q }
  split
  · exact started.stopTag
  · exact started

theorem matches_stop (name : Markup.TagName) (ok : s.hasFailed = false)
    (renamed : s.worklist.Renamed ρ w) (t : Trace) (p q : Position) :
    Matches ρ (s.readNode (.stop name) p) ((s.disguised w t).readNode (.stop name) q) := by
  rw [readNode_eq, readNode_eq]
  exact matches_stopTag (s := s.variant s.allowUnsupported p) ok renamed { t with position := q }

/-- Renamed bindings come into both scopes. -/
theorem renamed_withScope (renamed : s.worklist.Renamed ρ w) (scope : Markup.Scope) :
    (s.withScope scope).worklist.Renamed ρ
      (w.modifyCurrent fun e => { e with bindings := (ρ.scope scope).bindings }) :=
  renamed.modifyCurrent (fun _ _ _ => rfl) fun _ _ others => others

/-- Reading goes on alike where it goes on at all. -/
theorem Matches.readLexemes (matched : Matches ρ s s') {r r' : Reader}
    {lexemes lexemes' : List Lexeme}
    (next : s.hasFailed = false → ∀ w t, s.worklist.Renamed ρ w →
      Matches ρ (s.readLexemes r lexemes) ((s.disguised w t).readLexemes r' lexemes')) :
    Matches ρ (s.readLexemes r lexemes) (s'.readLexemes r' lexemes') := by
  cases matched with
  | goes ok w t renamed there =>
    rw [there]
    exact next ok w t renamed
  | fails m m' ok ok' isFailure alike here there =>
    rw [readLexemes_of_hasFailed (hasFailed_of_eq_report isFailure here),
      readLexemes_of_hasFailed (hasFailed_of_eq_report (alike.severity.symm ▸ isFailure) there)]
    exact .fails m m' ok ok' isFailure alike here there

/-- Documents whose prefixes are renamed are read alike. -/
theorem readLexemes_matches {lexemes lexemes' : List Lexeme}
    (same : (lexemes'.map Lexeme.reading).map Reading.unplaced =
      (lexemes.map Lexeme.reading).map fun reading => (reading.renamed ρ).unplaced) {r : Reader}
    (well : ∀ v ∈ visitsOf s r lexemes, v.node.WellPrefixed) (ok : s.hasFailed = false)
    (renamed : s.worklist.Renamed ρ w) (t : Trace) (cursor : Cursor) :
    Matches ρ (s.readLexemes r lexemes)
      ((s.disguised w t).readLexemes (r.elsewhere cursor) lexemes') := by
  -- Along both lists of lexemes.  The readers differ in their cursors alone, and what a lexeme
  -- leaves in scope is the same in both sessions, but for the names of the prefixes.
  induction lexemes generalizing s r w t cursor lexemes' with
  | nil =>
    cases lexemes' with
    | nil => exact .goes ok w t renamed rfl
    | cons lexeme' rest' => cases same
  | cons lexeme rest ih =>
    cases lexemes' with
    | nil => cases same
    | cons lexeme' rest' =>
      obtain ⟨first, later⟩ := List.cons.inj same
      have ok' : (s.disguised w t).hasFailed = false := ok
      have delivers := delivers_renamed first r s.scope cursor
      rw [← scope_disguised renamed] at delivers
      unfold visitsOf at well
      rw [if_neg (by rw [ok]; exact Bool.false_ne_true)] at well
      rcases delivered : r.deliver s.scope lexeme with ⟨r₁, scope, result⟩
      rcases delivered' : (r.elsewhere cursor).deliver (s.disguised w t).scope lexeme' with
        ⟨r₁', scope', result'⟩
      rw [delivered, delivered'] at delivers
      simp only [delivered] at well
      cases delivers with
      | finish _ _ cursor' =>
        rw [readLexemes_of_finish ok delivered, readLexemes_of_finish ok' delivered']
        exact .goes ok _ t (renamed_withScope renamed scope) rfl
      | fault alike =>
        rw [readLexemes_of_fault ok delivered, readLexemes_of_fault ok' delivered']
        exact .fails ((s.withScope scope).variant s.allowUnsupported r₁.position)
          (((s.disguised w t).withScope scope').variant s.allowUnsupported r₁'.position) ok ok rfl
          (.fault alike) rfl rfl
      | start _ _ cursor' again =>
        rw [readLexemes_cons ok delivered, readLexemes_cons ok' delivered']
        have within := renamed_withScope renamed scope
        have started := matches_start (s := s.withScope scope) (again (well _ List.mem_cons_self)) ok
          within t r₁.position (r₁.elsewhere cursor').position
        exact started.readLexemes fun ok w t renamed =>
          ih later (fun v member => well v (List.mem_cons_of_mem _ member)) ok renamed t cursor'
      | stop _ _ cursor' name =>
        rw [readLexemes_cons ok delivered, readLexemes_cons ok' delivered']
        have within := renamed_withScope renamed scope
        have stopped := matches_stop (s := s.withScope scope) name ok within t r₁.position
          (r₁.elsewhere cursor').position
        exact stopped.readLexemes fun ok w t renamed =>
          ih later (fun v member => well v (List.mem_cons_of_mem _ member)) ok renamed t cursor'

/-! ## Documents -/

theorem readDocument_matches {source source' : Source} (same : source.Renamed ρ source')
    (well : ∀ v ∈ s.visits source, v.node.WellPrefixed) (ok : s.hasFailed = false)
    (renamed : s.worklist.Renamed ρ w) (t : Trace) :
    Matches ρ (s.readDocument source) ((s.disguised w t).readDocument source') := by
  have began : (s.disguised w t).beginDocument = s.beginDocument.disguised w
      { t with
        events := .readingDocument w.currentEntry.location :: t.events
        position := {} } := rfl
  cases source with
  | failing reason =>
    obtain rfl := same.failing
    have location : w.currentEntry.location = s.worklist.currentEntry.location :=
      (congrArg DocumentEntry.location renamed.agrees.currentEntry :)
    have there : (s.disguised w t).readDocument (.failing reason) =
        ((s.disguised w t).beginDocument.note (.unreadableDocument w.currentEntry.location
          (ReaderFault.io reason).message)).report (.openFailed w.currentEntry.location) := rfl
    rw [there, location]
    exact .fails (s.beginDocument.note _) ((s.disguised w t).beginDocument.note _) ok ok rfl (.same _)
      rfl rfl
  | bytes content =>
    obtain ⟨content', rfl, lexemes⟩ := same.bytes
    have there : (s.disguised w t).readDocument (.bytes content') =
        (s.disguised w t).beginDocument.readLexemes (Reader.ofDocument content')
          (Lexed.ofDocument content').lexemes := rfl
    rw [there, began]
    exact readLexemes_matches (s := s.beginDocument) lexemes well ok renamed _ (Cursor.start content')

end Session

end XsdRecords
