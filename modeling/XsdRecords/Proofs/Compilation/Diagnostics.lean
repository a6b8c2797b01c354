import XsdRecords.Proofs.Compilation.Progress
import XsdRecords.Proofs.Compilation.WellFormed
import XsdRecords.Proofs.Generation.Journal
import XsdRecords.Proofs.Session.Variants

/-! # Diagnostics decide the result

A compile does one thing after another: `deeds` lists what, from the first document to the
generation. The diagnostic at any moment is that of the reports made so far, so that every deed is
done while no failure has been reported, and a compile delivers a result exactly if none was
reported to its end. -/

namespace XsdRecords

open XsdRecords.Markup (Lexed Lexeme Node Reader ReaderFault Scope Source StartTag)

/-! ## Deeds -/

/-- Something that a compile does. -/
inductive Deed where
  /-- The current document is opened. -/
  | opens
  /-- The current document cannot be opened. -/
  | refuses (reason : String)
  /-- The reader goes on to a lexeme, where other prefixes may be in scope. -/
  | moves (scope : Scope)
  /-- A start tag is checked and acts. -/
  | starts (tag : StartTag) (position : Position)
  /-- An end tag acts. -/
  | stops (position : Position)
  /-- The reader meets a fault. -/
  | breaks (fault : ReaderFault) (position : Position)
  /-- The next document is asked for. -/
  | asks (request : Request)
  /-- The document that was asked for is not to be had. -/
  | lacks
  /-- The record schema is generated. -/
  | generates

/-- What a deed makes of a session. -/
def Deed.act : Deed → Session → Session
  | opens, s => s.beginDocument
  | refuses reason, s => s.readDocument (.failing reason)
  | moves scope, s => s.withScope scope
  | starts tag position, s => s.readStart tag position
  | stops position, s => s.readStop position
  | breaks fault position, s => { s with position }.report (.markup fault.message)
  | asks request, s =>
    (Compilation.moved s).note (.requestedDocument request.location request.uri)
  | lacks, s => s.report (.unresolvedSchema s.worklist.currentEntry.location)
  | generates, s => s.generate.1

/-- Deeds one after another, each done while no failure has been reported. -/
inductive Course : Session → List Deed → Session → Prop
  | nil (s : Session) : Course s [] s
  | cons {s s' : Session} {deed : Deed} {deeds : List Deed}
      (clean : ∀ r ∈ s.journal.reports, r.isFailure = false)
      (later : Course (deed.act s) deeds s') : Course s (deed :: deeds) s'

namespace Session

variable {s s' : Session}

/-- What a node does: the end of an empty tag acts only if its start has not failed. -/
def nodeDeeds (s : Session) (node : Node) (position : Position) : List Deed :=
  match node with
  | .stop _ => [.stops position]
  | .start tag =>
    .starts tag position ::
      if tag.isEmpty && !(s.readStart tag position).hasFailed then [.stops position] else []

/-- What is done with lexemes up to the end of the document or the first failure. -/
def lexemeDeeds (s : Session) (r : Reader) : List Lexeme → List Deed
  | [] => []
  | lexeme :: rest =>
    if s.hasFailed then []
    else
      let (r, scope, result) := r.deliver s.scope lexeme
      let s := s.withScope scope
      .moves scope :: match result with
        | .error fault => [.breaks fault r.position]
        | .ok none => []
        | .ok (some node) =>
          nodeDeeds s node r.position ++ lexemeDeeds (readNode s node r.position) r rest

/-- What is done with the current document. -/
def documentDeeds (s : Session) (source : Source) : List Deed :=
  match source with
  | .failing reason => [.refuses reason]
  | .bytes content =>
    .opens :: lexemeDeeds s.beginDocument (Reader.ofDocument content)
      (Lexed.ofDocument content).lexemes

end Session

namespace Compilation

/-- What is done with at most `limit` further documents. -/
def deeds (resolve : Resolver) : Nat → Compilation → List Deed
  | 0, _ => []
  | limit + 1, c =>
    match c.request? with
    | none => []
    | some (c, request) =>
      .asks request :: (match resolve request with
        | none => [.lacks]
        | some source => c.session.documentDeeds source)
        ++ deeds resolve limit (c.supply (resolve request))

/-- What a compile does from the first document to the generation. -/
def allDeeds (resolve : Resolver) (limit : Nat) (allowUnsupported : Bool) (source : Source)
    (location : String) : List Deed :=
  let first := start allowUnsupported source location
  (Session.start location allowUnsupported).documentDeeds source
    ++ deeds resolve limit first
    ++ if (run resolve limit first).session.hasFailed then [] else [.generates]

end Compilation

/-- The diagnostic that a compile ends with, whether it delivers a result or not. -/
def Outcome.diagnostic (o : Outcome) : Diagnostic :=
  match o.result with
  | .ok compiled => compiled.diagnostic
  | .error diagnostic => diagnostic

/-! ## Journals along deeds -/

namespace Session

variable {s s' : Session}

theorem Quiet.sound (quiet : Quiet s s') (sound : s.journal.Sound) : s'.journal.Sound :=
  sound.congr quiet.reports quiet.diagnostic

theorem sound_report (sound : s.journal.Sound) (p : Problem) : (s.report p).journal.Sound :=
  sound.report _

/-- A step that goes on or fails keeps the journal sound. -/
theorem Responds.sound {f : Session → Session} (responds : Responds f s)
    (sound : s.journal.Sound) : (f s).journal.Sound := by
  obtain ⟨quiet, -⟩ | breaks := responds
  · exact quiet.sound sound
  · obtain ⟨problem, m, -, quiet, fails⟩ := breaks.report
    rw [fails]
    exact sound_report (quiet.sound sound) problem

theorem sound_readStart (sound : s.journal.Sound) (tag : StartTag) (position : Position) :
    (s.readStart tag position).journal.Sound :=
  (responds_startTag tag { s with position }).sound sound

theorem sound_readStop (sound : s.journal.Sound) (position : Position) :
    (s.readStop position).journal.Sound :=
  (responds_stopTag { s with position }).sound sound

/-- Everything that a compile does keeps the diagnostic that of its reports. -/
theorem sound_act (sound : s.journal.Sound) (deed : Deed) : (deed.act s).journal.Sound := by
  cases deed with
  | opens => exact sound.congr rfl rfl
  | refuses reason => exact sound_report (s := s.beginDocument.note _) (sound.congr rfl rfl) _
  | moves scope => exact sound
  | starts tag position => exact sound_readStart sound tag position
  | stops position => exact sound_readStop sound position
  | breaks fault position => exact sound_report (s := { s with position }) sound _
  | asks request => exact sound.congr rfl rfl
  | lacks => exact sound_report sound _
  | generates => exact sound.extends (Generation.continues_run s.generation).journal

end Session

namespace Course

variable {s m s' : Session} {first second : List Deed}

theorem append (before : Course s first m) (after : Course m second s') :
    Course s (first ++ second) s' := by
  induction before with
  | nil => exact after
  | cons clean _ ih => exact .cons clean (ih after)

theorem sound (course : Course s first s') (sound : s.journal.Sound) : s'.journal.Sound := by
  induction course with
  | nil => exact sound
  | cons _ _ ih => exact ih (Session.sound_act sound _)

/-- A deed that is done while the compile has not failed. -/
theorem step {deed : Deed} (sound : s.journal.Sound) (ok : s.hasFailed = false)
    (later : Course (deed.act s) first s') : Course s (deed :: first) s' := by
  refine .cons (fun r member => ?_) later
  rw [← Bool.not_eq_true]
  intro isFailure
  have failed : s.hasFailed = true := sound.hasFailed_iff.2 ⟨r, member, isFailure⟩
  rw [ok] at failed
  cases failed

end Course

/-! ## A compile is the course of its deeds -/

namespace Session

variable {s s' : Session}

theorem course_readNode (sound : s.journal.Sound) (ok : s.hasFailed = false) (node : Node)
    (position : Position) : Course s (nodeDeeds s node position) (readNode s node position) := by
  cases node with
  | stop name => exact .step sound ok (.nil _)
  | start tag =>
    refine .step sound ok ?_
    have started := sound_readStart sound tag position
    unfold readNode
    dsimp only [Deed.act]
    split
    · rename_i ends
      exact .step started (by simpa using (Bool.and_eq_true_iff.1 ends).2) (.nil _)
    · exact .nil _

theorem course_readLexemes (lexemes : List Lexeme) {r : Reader} (sound : s.journal.Sound) :
    Course s (lexemeDeeds s r lexemes) (readLexemes s r lexemes) := by
  induction lexemes generalizing s r with
  | nil => exact .nil s
  | cons lexeme rest ih =>
    cases failed : s.hasFailed with
    | true =>
      rw [readLexemes_of_hasFailed failed, lexemeDeeds, if_pos failed]
      exact .nil s
    | false =>
      rw [lexemeDeeds, if_neg (by rw [failed]; exact Bool.false_ne_true)]
      rcases delivered : r.deliver s.scope lexeme with ⟨r', scope, fault | _ | node⟩
      · rw [readLexemes_of_fault failed delivered]
        exact .step sound failed (.step (s := s.withScope scope) sound failed (.nil _))
      · rw [readLexemes_of_finish failed delivered]
        exact .step sound failed (.nil _)
      · rw [readLexemes_cons failed delivered]
        have node' := course_readNode (s := s.withScope scope) sound failed node r'.position
        exact .step sound failed (node'.append (ih (node'.sound sound)))

theorem course_readDocument (sound : s.journal.Sound) (ok : s.hasFailed = false)
    (source : Source) : Course s (documentDeeds s source) (s.readDocument source) := by
  cases source with
  | failing reason => exact .step sound ok (.nil _)
  | bytes content => exact .step sound ok (course_readLexemes _ (sound_act sound .opens))

end Session

namespace Compilation

variable {c : Compilation}

theorem course_supply (sound : c.session.journal.Sound) (ok : c.session.hasFailed = false)
    (source : Option Source) :
    Course c.session (match source with
      | none => [.lacks]
      | some source => c.session.documentDeeds source) (c.supply source).session := by
  cases source with
  | none => exact .step sound ok (.nil _)
  | some source => exact Session.course_readDocument sound ok source

theorem course_run (resolve : Resolver) (limit : Nat) (sound : c.session.journal.Sound) :
    Course c.session (deeds resolve limit c) (run resolve limit c).session := by
  induction limit generalizing c with
  | zero => exact .nil _
  | succ limit ih =>
    unfold deeds run
    cases wanted : c.request? with
    | none => exact .nil _
    | some answer =>
      obtain ⟨c', request⟩ := answer
      obtain ⟨ok, -, -, rfl⟩ := request?_eq_some wanted
      have asked := Session.sound_act sound (.asks request)
      have supplied := course_supply
        (c := ⟨Deed.act (.asks request) c.session, request :: c.requests⟩) asked ok
        (resolve request)
      exact .step sound ok (supplied.append (ih (supplied.sound asked)))

/-- How a compilation ends: it generates if it has not failed, and its outcome is read off the
journal after that. -/
theorem course_finish (sound : c.session.journal.Sound) : ∃ final,
    Course c.session (if c.session.hasFailed then [] else [.generates]) final ∧
      c.finish.journal.reports = final.journal.reports ∧
      c.finish.diagnostic = final.journal.diagnostic ∧
      ((∃ diagnostic, c.finish.result = .error diagnostic) ↔ final.hasFailed = true) := by
  cases failed : c.session.hasFailed with
  | true =>
    have ends : c.finish = ⟨.error c.session.journal.diagnostic, c.requests.reverse,
        c.session.journal⟩ := if_pos failed
    exact ⟨c.session, .nil _, by rw [ends], by rw [ends, Outcome.diagnostic],
      by simp [ends, failed]⟩
  | false =>
    refine ⟨c.session.generate.1, .step sound failed (.nil _), ?_⟩
    unfold finish Outcome.diagnostic
    rw [if_neg (by rw [failed]; exact Bool.false_ne_true)]
    cases stopped : c.session.generate.1.hasFailed with
    | true => simp [stopped]
    | false => exact ⟨by simp [stopped]; rfl, by simp [stopped]; rfl, by simp [stopped]⟩

/-- For all documents, a compile ends with an error exactly if a failure was reported at any moment
of it.  The diagnostic that it ends with is that of the last report among those of the greatest
severity. Each of the things that it does, acting on a tag, opening or asking for a document and
generating among them, it does while no failure has been reported. -/
theorem diagnostics_decide (resolve : Resolver) (limit : Nat) (allowUnsupported : Bool)
    (source : Source) (location : String) :
    let outcome := (run resolve limit (start allowUnsupported source location)).finish
    ((∃ diagnostic, outcome.result = .error diagnostic) ↔
        ∃ r ∈ outcome.journal.reports, r.isFailure = true) ∧
      Decisive outcome.journal.reports.reverse outcome.diagnostic ∧
      ∃ final, Course (Session.start location allowUnsupported)
          (allDeeds resolve limit allowUnsupported source location) final ∧
        final.journal.reports = outcome.journal.reports := by
  intro outcome
  have empty : (Session.start location allowUnsupported).journal.Sound := Journal.sound_empty
  have first := Session.course_readDocument empty rfl source
  have read := course_run (c := start allowUnsupported source location) resolve limit
    (first.sound empty)
  have whole := first.append read
  obtain ⟨final, ends, reports, diagnostic, fails⟩ := course_finish (whole.sound empty)
  have course := whole.append ends
  have sound := course.sound empty
  refine ⟨?_, ?_, final, course, reports.symm⟩
  · rw [fails, reports]
    exact sound.hasFailed_iff
  · rw [reports, diagnostic]
    exact sound

end Compilation

end XsdRecords
