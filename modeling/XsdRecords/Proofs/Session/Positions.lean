import XsdRecords.Proofs.Markup.Places
import XsdRecords.Proofs.Session.Variants

/-! # Where reading a document ends

Reading a document comes to its end at the place of its last tag, with nothing reported, or it fails
at the place of one of its tags or faults, and this is what is reported. -/

namespace XsdRecords.Session

open XsdRecords.Markup (Cursor Lexed Lexeme Reader Scope Source placeAt places placesOf
  placesOf_cons placesOf_finish)

variable {s s' m : Session} {document : List UInt8}

/-! ## Reading on from one place to another -/

/-- What is left alone is left alone at another place. -/
theorem Quiet.at (quiet : Quiet s s') (position : Position) :
    Quiet (s.variant s.allowUnsupported position) (s'.variant s.allowUnsupported position) :=
  ⟨rfl, rfl, quiet.reports, quiet.diagnostic, quiet.located⟩

theorem quiet_withScope (s : Session) (scope : Scope) : Quiet s (s.withScope scope) where
  allowUnsupported := rfl
  position := rfl
  reports := rfl
  diagnostic := rfl
  located inside := by
    refine ⟨isInDocument_withScope inside scope, ?_⟩
    rw [withScope, Worklist.currentEntry_modifyCurrent inside]

/-- Reading comes to an end with nothing reported, at the last of some places. -/
def Passes (places : List Position) (s s' : Session) : Prop :=
  Quiet (s.variant s.allowUnsupported (places.getLastD s.position)) s'

/-- Reading fails at one of some places. -/
def FailsAt (places : List Position) (s s' : Session) : Prop :=
  ∃ problem m, ∃ place ∈ places, problem.severity.isFailure = true ∧
    Quiet (s.variant s.allowUnsupported place) m ∧ s' = m.report problem

/-- A node that goes on leaves the rest to be read from its place. -/
theorem Passes.cons {place : Position} {places : List Position}
    (here : Quiet (s.variant s.allowUnsupported place) m) (later : Passes places m s') :
    Passes (place :: places) s s' := by
  have moved := here.at (places.getLastD place)
  rw [Passes, List.getLastD_cons]
  rw [Passes, here.position, here.allowUnsupported] at later
  exact moved.trans later

theorem FailsAt.cons {place : Position} {places : List Position}
    (here : Quiet (s.variant s.allowUnsupported place) m) (later : FailsAt places m s') :
    FailsAt (place :: places) s s' := by
  obtain ⟨problem, m', place', member, isFailure, quiet, fails⟩ := later
  rw [here.allowUnsupported] at quiet
  exact ⟨problem, m', place', List.mem_cons_of_mem _ member, isFailure,
    (here.at place').trans quiet, fails⟩

theorem readLexemes_places (lexemes : List Lexeme) {r : Reader} (tells : r.cursor.Tells document)
    (ok : s.hasFailed = false) :
    Passes (placesOf document lexemes) s (readLexemes s r lexemes) ∨
      FailsAt (placesOf document lexemes) s (readLexemes s r lexemes) := by
  induction lexemes generalizing s r with
  | nil => exact .inl (.refl s)
  | cons lexeme rest ih =>
    have position := tells.position_moveTo lexeme.offset
    have moved := (tells.moveTo lexeme.offset).1
    rw [← r.cursor_deliver s.scope lexeme] at position moved
    have finished := r.deliver_eq_none_iff s.scope lexeme
    rcases delivered : r.deliver s.scope lexeme with ⟨r', scope, fault | _ | node⟩
    · rw [delivered] at position finished
      rw [readLexemes_of_fault ok delivered,
        placesOf_cons fun finish => (nomatch finished.2 finish)]
      have here : r'.position = placeAt document lexeme.offset := position
      rw [here]
      exact .inr ⟨_, _, _, List.mem_cons_self, rfl, (quiet_withScope s scope).at _, rfl⟩
    · rw [delivered] at finished
      rw [readLexemes_of_finish ok delivered, placesOf_finish (finished.1 rfl)]
      exact .inl (quiet_withScope s scope)
    · rw [delivered] at position moved finished
      have here : readNode (s.withScope scope) node r'.position = nodeHere node
          ((s.withScope scope).variant s.allowUnsupported (placeAt document lexeme.offset)) := by
        rw [readNode_eq, show r'.position = placeAt document lexeme.offset from position]
        rfl
      have found : lexeme.token ≠ .finish := fun finish => nomatch finished.2 finish
      rw [readLexemes_cons ok delivered, placesOf_cons found, here]
      have before := (quiet_withScope s scope).at (placeAt document lexeme.offset)
      obtain ⟨quiet, -⟩ | breaks := responds_nodeHere node
        ((s.withScope scope).variant s.allowUnsupported (placeAt document lexeme.offset))
      · have whole := before.trans quiet
        exact (ih moved (whole.hasFailed.trans ok)).imp (.cons whole) (.cons whole)
      · obtain ⟨problem, m, isFailure, quiet, fails⟩ := breaks.report
        rw [readLexemes_of_hasFailed breaks.hasFailed]
        exact .inr ⟨problem, m, _, List.mem_cons_self, isFailure, before.trans quiet, fails⟩

/-! ## Whole documents -/

theorem quiet_beginDocument (s : Session) :
    Quiet (s.variant s.allowUnsupported {}) s.beginDocument :=
  ⟨rfl, rfl, rfl, rfl, fun inside => ⟨inside, rfl⟩⟩

/-- Where nothing was reported as a failure before, a failure that is reported is the diagnostic. -/
theorem diagnostic_report (ok : s.hasFailed = false) (problem : Problem)
    (isFailure : problem.severity.isFailure = true) : (s.report problem).journal.diagnostic =
      ⟨problem.severity, s.position, s.worklist.currentEntry.location, problem.message⟩ := by
  refine Diagnostic.replace_of_le ?_
  have harmless : ¬Severity.warning < s.journal.diagnostic.severity := of_decide_eq_false ok
  have severe : Severity.warning < problem.severity := of_decide_eq_true isFailure
  exact Nat.le_of_lt (Nat.lt_of_le_of_lt (Nat.le_of_not_lt harmless) severe)

/-- A document that is read to its end, with nothing reported, ends at the place of its last tag. -/
structure ReadsThrough (source : Source) (s s' : Session) : Prop where
  ok : s'.hasFailed = false
  reports : s'.journal.reports = s.journal.reports
  diagnostic : s'.journal.diagnostic = s.journal.diagnostic
  inside : s'.IsInDocument
  position : s'.position = source.lastPlace

/-- A document that fails is named by the diagnostic, with the place of one of its tags or faults,
or with none if it cannot be opened. -/
structure FailsWithin (source : Source) (s s' : Session) : Prop where
  failed : s'.hasFailed = true
  location : s'.journal.diagnostic.source = s.worklist.currentEntry.location
  position : s'.journal.diagnostic.position = {} ∨
    ∃ content, source = .bytes content ∧ s'.journal.diagnostic.position ∈ places content

theorem readDocument_places (inside : s.IsInDocument) (ok : s.hasFailed = false)
    (source : Source) :
    ReadsThrough source s (s.readDocument source) ∨
      FailsWithin source s (s.readDocument source) := by
  have begun := quiet_beginDocument s
  obtain ⟨inside', location⟩ := begun.located inside
  have ok' : s.beginDocument.hasFailed = false := ok
  cases source with
  | failing reason =>
    have decides := diagnostic_report (s := s.beginDocument.note (.unreadableDocument
      s.worklist.currentEntry.location (Markup.ReaderFault.io reason).message)) ok
      (.openFailed s.worklist.currentEntry.location) rfl
    refine .inr ⟨Journal.hasFailed_report_of_isFailure _ rfl, ?_, .inl ?_⟩
    · exact (congrArg Diagnostic.source decides).trans location
    · exact congrArg Diagnostic.position decides
  | bytes content =>
    obtain passes | ⟨problem, m, place, member, isFailure, quiet, fails⟩ :=
      readLexemes_places (s := s.beginDocument) (r := Reader.ofDocument content)
        (Lexed.ofDocument content).lexemes (Cursor.tells_start content) ok'
    · refine .inl ⟨passes.hasFailed.trans ok, passes.reports, passes.diagnostic,
        (passes.located inside').1, passes.position⟩
    · have read : s.readDocument (.bytes content) = m.report problem := fails
      have decides := diagnostic_report (quiet.hasFailed.trans ok) problem isFailure
      rw [read]
      refine .inr ⟨Journal.hasFailed_report_of_isFailure _ isFailure, ?_, .inr ⟨content, rfl, ?_⟩⟩
      · rw [decides]
        exact (quiet.located inside').2.trans location
      · rw [decides]
        exact quiet.position.symm ▸ member

end XsdRecords.Session
