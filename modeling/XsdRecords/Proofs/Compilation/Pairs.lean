import XsdRecords.Proofs.Compilation.Tolerance
import XsdRecords.Proofs.Markup.Respelling
import XsdRecords.Proofs.Session.Pairs
import XsdRecords.Proofs.Session.Positions

/-! # Empty tags mean what pairs of tags mean

A compile of documents in which empty tags are written as pairs goes through twins of the sessions
that it goes through otherwise.  It asks for the same documents and delivers the same result, or it
fails with the same diagnostic, its line and column aside. -/

namespace XsdRecords

open XsdRecords.Markup (Source Spelling)

/-- Outcomes that are the same, but for the line and column of a diagnostic of a failure. -/
inductive Outcome.Alike (o o' : Outcome) : Prop
  | delivers (compiled : Compiled) (here : o.result = .ok compiled)
      (there : o'.result = .ok compiled) (requests : o'.requests = o.requests)
  | fails (d : Diagnostic) (position : Position) (here : o.result = .error d)
      (there : o'.result = .error { d with position }) (requests : o'.requests = o.requests)

namespace Compilation

variable {c c' : Compilation} {resolve resolve' : Resolver}

/-- Compilations that differ in their places alone. -/
structure Twin (c c' : Compilation) : Prop where
  session : c.session.Twin c'.session
  requests : c'.requests = c.requests

theorem Twin.of_variant (ok : c.session.hasFailed = false) (position : Position) :
    Twin c (c.variant c.session.allowUnsupported position) :=
  ⟨.goes ok position rfl, rfl⟩

theorem supply_twin {source source' : Option Source}
    (paired : Option.Rel Source.Paired source source')
    (ok : c.session.hasFailed = false) (position : Position) :
    Twin (c.supply source) ((c.variant c.session.allowUnsupported position).supply source') := by
  refine ⟨?_, by cases paired <;> rfl⟩
  cases paired with
  | none => exact .fails c.session ok _ rfl position rfl rfl
  | some paired => exact Session.readDocument_twin paired ok position

theorem run_twin
    (sources : ∀ request, Option.Rel Source.Paired (resolve request) (resolve' request))
    (limit : Nat) (twin : Twin c c') : Twin (run resolve limit c) (run resolve' limit c') := by
  induction limit generalizing c c' with
  | zero => exact twin
  | succ limit ih =>
    obtain ⟨session', requests'⟩ := c'
    obtain ⟨session, rfl⟩ := twin
    cases session with
    | fails m ok problem isFailure position here there =>
      rw [run_of_hasFailed resolve _ (Session.hasFailed_of_eq_report isFailure here),
        run_of_hasFailed resolve' _ (Session.hasFailed_of_eq_report isFailure there)]
      exact ⟨.fails m ok problem isFailure position here there, rfl⟩
    | goes ok position there =>
      subst there
      have asked := request?_variant c c.session.allowUnsupported position
      rw [show c.variant c.session.allowUnsupported position =
        ⟨c.session.variant c.session.allowUnsupported position, c.requests⟩ from rfl] at asked
      unfold run
      rw [asked]
      cases wanted : c.request? with
      | none => exact .of_variant ok position
      | some answer =>
        obtain ⟨c', request⟩ := answer
        obtain ⟨-, -, -, rfl⟩ := request?_eq_some wanted
        exact ih (supply_twin (c := ⟨(moved c.session).note _, request :: c.requests⟩)
          (sources request) ok position)

theorem finish_twin (twin : Twin c c') : c.finish.Alike c'.finish := by
  obtain ⟨session', requests'⟩ := c'
  obtain ⟨session, rfl⟩ := twin
  cases session with
  | fails m ok problem isFailure position here there =>
    have failed := Session.hasFailed_of_eq_report isFailure here
    have failed' := Session.hasFailed_of_eq_report isFailure there
    have decides := Session.diagnostic_report ok problem isFailure
    have decides' := Session.diagnostic_report (s := m.variant m.allowUnsupported position) ok
      problem isFailure
    rw [← here] at decides
    rw [← there] at decides'
    unfold finish
    rw [if_pos failed, if_pos failed', decides, decides']
    exact .fails _ position rfl rfl rfl
  | goes ok position there =>
    subst there
    have same : finish ⟨c.session.variant c.session.allowUnsupported position, c.requests⟩ =
        c.finish := rfl
    rw [same]
    cases result : c.finish.result with
    | ok compiled => exact .delivers compiled result result rfl
    | error d => exact .fails d d.position result result rfl

/-- Compiles of sources that are paired end alike. -/
theorem finish_of_paired {source source' : Source} (paired : source.Paired source')
    (sources : ∀ request, Option.Rel Source.Paired (resolve request) (resolve' request))
    (limit : Nat) (allowUnsupported : Bool) (location : String) :
    (run resolve limit (start allowUnsupported source location)).finish.Alike
      (run resolve' limit (start allowUnsupported source' location)).finish :=
  finish_twin (run_twin sources limit
    ⟨Session.readDocument_twin (s := Session.start location allowUnsupported) paired rfl {}, rfl⟩)

/-- For every document, location and resolver, writing empty tags as pairs of tags, whichever ones
in the first document and in those that are asked for, makes no difference to how a compile ends.
-/
theorem finish_respell (resolve : Resolver) (limit : Nat) (allowUnsupported : Bool)
    (source : Source) (location : String) (spelling : Spelling)
    (spellings : Request → Spelling) :
    (run resolve limit (start allowUnsupported source location)).finish.Alike
      (run (fun request => (resolve request).map (·.respell (spellings request))) limit
        (start allowUnsupported (source.respell spelling) location)).finish := by
  refine finish_of_paired (source.paired_respell spelling) (fun request => ?_) limit _ _
  cases resolve request with
  | none => exact .none
  | some answer => exact .some (answer.paired_respell _)

end Compilation

end XsdRecords
