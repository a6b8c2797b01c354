import XsdRecords.Proofs.Session.Grounded

/-! # Sessions and the nodes that led to them

`Traced` tells which nodes of all documents have been read on the way to a session.  What is said of
declarations and of the nodes that were read, and is kept by each node, is `Carried`: a document
keeps it, and it holds of every traced session, between two documents and in the middle of one. -/

namespace XsdRecords.Session

open XsdRecords.Markup (Source)

/-! ## What nodes amount to -/

/-- What is said of the declarations of a session and of the nodes that it has read, and is kept by
every node. -/
structure Carried (P : Session → List Visit → Prop) : Prop where
  untouched {s s' : Session} {visits : List Visit} (holds : P s visits)
    (same : s'.declarations = s.declarations) : P s' visits
  after {v : Visit} {visits : List Visit} (holds : P v.session visits) (lawful : Lawful v.session)
    (ok : v.after.hasFailed = false) : P v.after (visits ++ [v])

namespace Carried

variable {P : Session → List Visit → Prop} (carried : Carried P)

include carried

theorem reading {s s' : Session} {visits : List Visit} (run : Run s visits s')
    (grounded : Grounded s) {before : List Visit} (holds : P s before) :
    P s' (before ++ visits) := by
  -- The induction is on the nodes; each leaves the session `Grounded` for the next.
  induction run generalizing before with
  | nil untouched =>
    rw [List.append_nil]
    exact carried.untouched holds untouched.declarations
  | cons untouched ok later ih =>
    have here := grounded.untouched untouched
    have step := carried.after (carried.untouched holds untouched.declarations) here.lawful ok
    rw [List.append_cons]
    exact ih (here.readNode ok) step

theorem readDocument {s : Session} (grounded : Grounded s) {before : List Visit}
    (holds : P s before) {source : Source} (ok : (s.readDocument source).hasFailed = false) :
    P (s.readDocument source) (before ++ s.visits source) :=
  carried.reading (run_readDocument ok) grounded.beginDocument (carried.untouched holds rfl)

end Carried

/-- A session, and the nodes that were read on the way to it, each without a failure. -/
inductive Traced : Session → List Visit → Prop
  | start (location : String) (allowUnsupported : Bool) :
      Traced (Session.start location allowUnsupported) []
  /-- Between nodes and between documents, nothing is declared, opened or closed. -/
  | untouched {s s' : Session} {visits : List Visit} (traced : Traced s visits)
      (untouched : Untouched s s') : Traced s' visits
  | beginDocument {s : Session} {visits : List Visit} (traced : Traced s visits) :
      Traced s.beginDocument visits
  | node {v : Visit} {visits : List Visit} (traced : Traced v.session visits)
      (ok : v.after.hasFailed = false) : Traced v.after (visits ++ [v])

/-! ## Traced sessions -/

namespace Traced

variable {s s' : Session} {visits : List Visit}

theorem grounded (traced : Traced s visits) : Grounded s := by
  induction traced with
  | start location allowUnsupported => exact grounded_start location allowUnsupported
  | untouched traced untouched ih => exact ih.untouched untouched
  | beginDocument traced ih => exact ih.beginDocument
  | node traced ok ih => exact ih.readNode ok

theorem run {more : List Visit} (run : Run s more s') (traced : Traced s visits) :
    Traced s' (visits ++ more) := by
  induction run generalizing visits with
  | nil untouched =>
    rw [List.append_nil]
    exact traced.untouched untouched
  | cons untouched ok later ih =>
    rw [List.append_cons]
    exact ih (.node (traced.untouched untouched) ok)

theorem readDocument (traced : Traced s visits) {source : Source}
    (ok : (s.readDocument source).hasFailed = false) :
    Traced (s.readDocument source) (visits ++ s.visits source) :=
  traced.beginDocument.run (run_readDocument ok)

/-- Every node of a document is read in a session that is traced. -/
theorem visited (traced : Traced s visits) {source : Source} {before rest : List Visit}
    {v : Visit} (split : s.visits source = before ++ v :: rest) :
    Traced v.session (visits ++ before) := by
  obtain ⟨m, run, between⟩ := run_before split
  exact (traced.beginDocument.run run).untouched between

end Traced

/-- What holds before anything is read and is carried holds of every traced session. -/
theorem Carried.traced {P : Session → List Visit → Prop} (carried : Carried P)
    (fresh : ∀ location allowUnsupported, P (Session.start location allowUnsupported) [])
    {s : Session} {visits : List Visit} (traced : Traced s visits) : P s visits := by
  induction traced with
  | start location allowUnsupported => exact fresh location allowUnsupported
  | untouched traced untouched ih => exact carried.untouched ih untouched.declarations
  | beginDocument traced ih => exact carried.untouched ih rfl
  | node traced ok ih => exact carried.after ih traced.grounded.lawful ok

end XsdRecords.Session
