import XsdRecords.Proofs.Session.Ends

/-! # What reading keeps, tag by tag

What the actions of tags keep, whether they end with a problem or not, is kept by the reading of a
tag: `KeptByStops` and `KeptByActions`.  What is kept by every single step of reading is kept by the
reading of a whole document: `KeptByReading`. -/

namespace XsdRecords.Session

open XsdRecords.Action
open XsdRecords.Declaration (ElementId)
open XsdRecords.Markup (Lexeme Node Reader Source StartTag)
open XsdRecords.Vocabulary (Tag)

/-! ## End tags -/

/-- What the action of each end tag keeps, if it says nothing of the place of reading, the open tags
and the journal. -/
structure KeptByStops (P : Session → Prop) : Prop where
  aside {s : Session} (position : Position) (journal : Journal) (tagStack : List Tag)
    (skipDepth : Nat) : P s → P { s with position, journal, tagStack, skipDepth }
  popElement {s : Session} {id : ElementId} {rest : List ElementId} :
    s.elementStack = id :: rest → P s → P { s with elementStack := rest }
  popType {s : Session} : P s → P { s with typeStack := s.typeStack.tail }

namespace KeptByStops

variable {P : Session → Prop} (kept : KeptByStops P) {s : Session} (holds : P s)

include kept holds

theorem note (e : Event) : P (s.note e) :=
  kept.aside s.position _ s.tagStack s.skipDepth holds

theorem report (p : Problem) : P (s.report p) :=
  kept.aside s.position _ s.tagStack s.skipDepth holds

theorem skipContent : P { s with skipDepth := s.skipDepth + 1 } :=
  kept.aside s.position s.journal s.tagStack _ holds

theorem endElement : Session.endElement.Ends s (fun _ s' => P s') fun _ s' => P s' := by
  simp only [Session.endElement, ends_bind, ends_get]
  split
  · exact holds
  · rename_i opened
    simp only [ends_ite, ends_bind, ends_throw, ends_set]
    split
    · exact holds
    · exact kept.popElement opened holds

theorem endGroup : Session.endGroup.Ends s (fun _ s' => P s') fun _ s' => P s' := by
  simp only [Session.endGroup, ends_modify]
  split
  · rename_i opened
    split
    · exact kept.popType (kept.popElement opened holds)
    · exact holds
  · exact holds

theorem endAction (kind : Tag) :
    (Session.endAction kind).Ends s (fun _ s' => P s') fun _ s' => P s' := by
  unfold Session.endAction
  split
  · exact kept.endElement holds
  · exact kept.endElement holds
  · exact kept.popType holds
  · exact kept.endGroup holds
  · exact holds
  · exact holds

omit holds in
theorem perform {action : Action Unit}
    (ends : action.Ends s (fun _ s' => P s') fun _ s' => P s') : P (s.perform action) :=
  perform_of_ends (ends.imp (fun _ _ h => h) fun p _ h => kept.report h p)

theorem readStop (position : Position) : P (s.readStop position) := by
  have moved := kept.aside position s.journal s.tagStack s.skipDepth holds
  unfold Session.readStop
  dsimp only
  split
  · exact moved
  · split
    · have skipped := kept.aside position s.journal s.tagStack.tail (s.skipDepth - 1) holds
      exact skipped
    · rename_i kind _ _ _
      have ended := kept.perform (kept.endAction moved kind)
      exact kept.aside _ _ _ _ ended

end KeptByStops

/-! ## Start tags -/

/-- What the action of each tag keeps. -/
structure KeptByActions (P : Session → Prop) : Prop extends KeptByStops P where
  startElement {s : Session} (tag : StartTag) (isAttribute : Bool) : P s →
    (Session.startElement tag isAttribute).Ends s (fun _ s' => P s') fun _ s' => P s'
  startType {s : Session} (tag : StartTag) (kind : Tag) : P s →
    (Session.startType tag kind).Ends s (fun _ s' => P s') fun _ s' => P s'
  startGroup {s : Session} (tag : StartTag) (kind : Tag) : P s →
    (Session.startGroup tag kind).Ends s (fun _ s' => P s') fun _ s' => P s'
  startDerivation {s : Session} (tag : StartTag) (isList : Bool) : P s →
    (Session.startDerivation tag isList).Ends s (fun _ s' => P s') fun _ s' => P s'
  startEnumerator {s : Session} (tag : StartTag) : P s →
    (Session.startEnumerator tag).Ends s (fun _ s' => P s') fun _ s' => P s'
  startSchema {s : Session} (tag : StartTag) : P s →
    (Session.startSchema tag).Ends s (fun _ s' => P s') fun _ s' => P s'
  nameDocument {s : Session} (kind : DocumentKind) (location uri : String) : P s →
    (Session.nameDocument kind location uri).Ends s (fun _ s' => P s') fun _ s' => P s'

/-- What each step of reading keeps, in any session. -/
structure KeptByReading (P : Session → Prop) : Prop where
  note {s : Session} (e : Event) : P s → P (s.note e)
  report {s : Session} (p : Problem) : P s → P (s.report p)
  beginDocument {s : Session} : P s → P s.beginDocument
  deliver {s : Session} (r : Reader) (lexeme : Lexeme) :
    P s → P (s.withScope (r.deliver s.scope lexeme).2.1)
  moveTo {s : Session} (position : Position) : P s → P { s with position }
  readStart {s : Session} (tag : StartTag) (position : Position) :
    P s → P (s.readStart tag position)
  readStop {s : Session} (position : Position) : P s → P (s.readStop position)

namespace KeptByActions

variable {P : Session → Prop} (kept : KeptByActions P)

include kept

section

variable {s : Session} (holds : P s)

include holds

theorem startInclude (tag : StartTag) :
    (Session.startInclude tag).Ends s (fun _ s' => P s') fun _ s' => P s' := by
  simp only [Session.startInclude, ensureUnderSchema, ends_bind, ends_get, ends_ite, ends_throw,
    ends_pure]
  split
  · exact holds
  · split
    · exact holds
    · exact kept.nameDocument _ _ _ holds

theorem startImport (tag : StartTag) :
    (Session.startImport tag).Ends s (fun _ s' => P s') fun _ s' => P s' := by
  simp only [Session.startImport, ensureUnderSchema, ends_bind, ends_get, ends_ite, ends_throw,
    ends_pure, ends_note]
  split
  · exact holds
  · split
    · exact holds
    · split
      · exact holds
      · split
        · exact kept.note holds _
        · exact kept.nameDocument _ _ _ holds

theorem startAction (kind : Tag) (tag : StartTag) :
    (Session.startAction kind tag).Ends s (fun _ s' => P s') fun _ s' => P s' := by
  unfold Session.startAction
  cases kind.entry.start with
  | reject | refuseGroup =>
    simp only [reject, ends_bind, ends_skipContent, ends_throw]
    exact kept.skipContent holds
  | passThrough => exact kept.note holds _
  | skip =>
    simp only [ends_bind, ends_note, ends_skipContent]
    exact kept.skipContent (kept.note holds _)
  | defineAttribute => exact kept.startElement tag true holds
  | defineElement => exact kept.startElement tag false holds
  | defineRecord => exact kept.startGroup tag kind holds
  | defineType => exact kept.startType tag kind holds
  | addEnumerator => exact kept.startEnumerator tag holds
  | extendType =>
    simp only [reject, ends_bind, ends_get, ends_ite, ends_skipContent, ends_throw]
    split
    · exact kept.startDerivation tag false holds
    · exact kept.skipContent holds
  | importDocument => exact kept.startImport holds tag
  | includeDocument => exact kept.startInclude holds tag
  | deriveList => exact kept.startDerivation tag true holds
  | restrictType => exact kept.startDerivation tag false holds
  | openSchema => exact kept.startSchema tag holds

theorem noteAttributes (kind : Tag) (tag : StartTag) : P (s.noteAttributes kind tag) := by
  unfold Session.noteAttributes
  induction tag.attributes generalizing s with
  | nil => exact holds
  | cons a rest ih => exact ih (kept.note holds _)

theorem readStart (tag : StartTag) (position : Position) : P (s.readStart tag position) := by
  have moved := kept.aside position s.journal s.tagStack s.skipDepth holds
  unfold Session.readStart
  dsimp only
  split
  · exact kept.report moved _
  · split
    · exact kept.report moved _
    · rename_i kind _ _ _ _
      split
      · exact kept.aside position s.journal (kind :: s.tagStack) (s.skipDepth + 1) holds
      · have begun := kept.aside position s.journal (kind :: s.tagStack) s.skipDepth holds
        exact kept.perform (kept.startAction (kept.noteAttributes begun kind tag) kind tag)

end

/-- What the actions of tags keep is kept by reading, if the reader keeps it. -/
theorem keptByReading
    (deliver : ∀ {s : Session} (r : Reader) (lexeme : Lexeme), P s →
      P (s.withScope (r.deliver s.scope lexeme).2.1)) : KeptByReading P where
  note e holds := kept.note holds e
  report p holds := kept.report holds p
  beginDocument holds := kept.aside {} _ [] 0 (kept.note holds _)
  deliver := deliver
  moveTo {s} position holds := kept.aside position s.journal s.tagStack s.skipDepth holds
  readStart tag position holds := kept.readStart holds tag position
  readStop position holds := kept.readStop holds position

end KeptByActions

/-! ## Documents -/

namespace KeptByReading

variable {P : Session → Prop} (kept : KeptByReading P) {s : Session} (holds : P s)

include kept holds

theorem readNode (node : Node) (position : Position) : P (s.readNode node position) := by
  unfold Session.readNode
  cases node with
  | stop name => exact kept.readStop position holds
  | start tag =>
    have started := kept.readStart tag position holds
    dsimp only
    split
    · exact kept.readStop position started
    · exact started

theorem readLexemes (lexemes : List Lexeme) (r : Reader) : P (s.readLexemes r lexemes) := by
  induction lexemes generalizing s r with
  | nil => exact holds
  | cons lexeme rest ih =>
    have inScope := kept.deliver r lexeme holds
    unfold Session.readLexemes
    split
    · exact holds
    · dsimp only
      split
      · exact kept.report _ (kept.moveTo _ inScope)
      · exact inScope
      · exact ih (kept.readNode inScope _ _) _

theorem readDocument (source : Source) : P (s.readDocument source) := by
  have begun := kept.beginDocument holds
  cases source with
  | failing reason => exact kept.report _ (kept.note _ begun)
  | bytes content => exact kept.readLexemes begun _ _

end KeptByReading

end XsdRecords.Session
