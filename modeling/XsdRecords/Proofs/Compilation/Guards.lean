import XsdRecords.Proofs.Compilation.Progress
import XsdRecords.Proofs.Compilation.WellFormed
import XsdRecords.Proofs.Generation.Guards

/-! # No compile meets a guard

Documents that break off, at whatever tag, leave elements and types open for the next one, and a
generation may stop at any check.  Still no problem is ever reported that guards the compile against
itself. -/

namespace XsdRecords

open XsdRecords.Markup (Source)

theorem Declaration.Declarations.valued_initial : Declarations.initial.Valued := by
  constructor
  · intro id type h
    rw [element_initial] at h
    cases h
  · intro id base h
    rw [base_initial] at h
    cases h

namespace Compilation

open XsdRecords.Session (Guarded guarded_report guarded_readDocument)

theorem guarded_supply {c : Compilation} (guarded : Guarded c.session) (source : Option Source) :
    Guarded (c.supply source).session := by
  cases source with
  | none => exact guarded_report guarded.unguarded rfl rfl
  | some source => exact guarded_readDocument guarded source

theorem guarded_request {c : Compilation} (guarded : Guarded c.session) (request : Request) :
    Guarded ((moved c.session).note (.requestedDocument request.location request.uri)) :=
  guarded.untouched ⟨⟨rfl, rfl, rfl, rfl⟩, rfl⟩ (Journal.reports_note_of_other rfl) rfl

theorem guarded_run (resolve : Resolver) (limit : Nat) {c : Compilation}
    (guarded : Guarded c.session) : Guarded (run resolve limit c).session := by
  induction limit generalizing c with
  | zero => exact guarded
  | succ limit ih =>
    unfold run
    cases wanted : c.request? with
    | none => exact guarded
    | some answer =>
      obtain ⟨c', request⟩ := answer
      obtain ⟨-, -, -, rfl⟩ := request?_eq_some wanted
      exact ih (guarded_supply (c := ⟨_, request :: c.requests⟩)
        (guarded_request guarded request) _)

theorem guarded_start (allowUnsupported : Bool) (source : Source) (location : String) :
    Guarded (start allowUnsupported source location).session := by
  refine guarded_readDocument ⟨fun r member => ?_, fun _ => ?_⟩ source
  · cases member
  · exact Session.grounded_start location allowUnsupported

theorem unguarded_finish {c : Compilation} (unguarded : c.session.journal.Unguarded)
    (valued : c.session.declarations.Valued) : c.finish.journal.Unguarded := by
  unfold finish
  split
  · exact unguarded
  · have generated : c.session.generate.1.journal.Unguarded :=
      Generation.unguarded_run (g := c.session.generation) valued unguarded
    dsimp only
    split
    · exact generated
    · exact generated.congr (Journal.reports_note_of_other rfl)

/-- Whatever the documents of a compile are, and wherever they come from, none of the problems is
reported that guard the compile against itself: a derivation or enumeration outside a type, a type
without a definition or a field without a type when it is emitted, or a record that the schema refuses. -/
theorem guards_unreported (resolve : Resolver) (limit : Nat) (allowUnsupported : Bool)
    (source : Source) (location : String) :
    (run resolve limit (start allowUnsupported source location)).finish.journal.reports.any
      (·.problem.isGuard) = false := by
  have guarded := guarded_run resolve limit (guarded_start allowUnsupported source location)
  have reached := reached_run resolve limit (c := start allowUnsupported source location)
    (.readDocument (.start location allowUnsupported) source)
  have valued := Declaration.Declarations.Edits.valued reached.edits
    Declaration.Declarations.valued_initial
  have unguarded := unguarded_finish guarded.unguarded valued
  rw [List.any_eq_false]
  intro r member
  rw [unguarded r member]
  exact Bool.false_ne_true

end Compilation

end XsdRecords
