import XsdRecords.Proofs.Compilation.Progress
import XsdRecords.Proofs.Compilation.WellFormed
import XsdRecords.Proofs.Session.Variants

/-! # Allowing unsupported constructs changes no result

A compile that delivers a result without unsupported constructs being allowed has met none where
they matter.  It goes through the same states if they are allowed, the option aside, and delivers
the same. -/

namespace XsdRecords

open XsdRecords.Markup (Lexeme Node Reader Source)

/-! ## Reading -/

namespace Session

variable {s : Session}

/-- A session in which unsupported constructs are allowed. -/
def tolerant (s : Session) : Session :=
  { s with allowUnsupported := true }

@[simp] theorem hasFailed_tolerant (s : Session) : s.tolerant.hasFailed = s.hasFailed := rfl

/-- A node that does not fail does the same if more is allowed. -/
theorem readNode_tolerant (node : Node) (position : Position)
    (ok : (s.readNode node position).hasFailed = false) :
    s.tolerant.readNode node position = (s.readNode node position).tolerant := by
  rw [readNode_eq] at ok ⊢
  rw [readNode_eq s]
  obtain ⟨quiet, alike⟩ := (responds_nodeHere node _).goesOn ok
  refine (alike true position fun _ => rfl).trans ?_
  exact congrArg (variant _ true) quiet.position.symm

theorem readLexemes_tolerant (lexemes : List Lexeme) {r : Reader}
    (ok : (readLexemes s r lexemes).hasFailed = false) :
    readLexemes s.tolerant r lexemes = (readLexemes s r lexemes).tolerant := by
  induction lexemes generalizing s r with
  | nil => rfl
  | cons lexeme rest ih =>
    cases failed : s.hasFailed with
    | true =>
      rw [readLexemes_of_hasFailed failed, readLexemes_of_hasFailed (s := s.tolerant) failed]
    | false =>
      rcases delivered : r.deliver s.scope lexeme with ⟨r', scope, fault | _ | node⟩
      · rw [readLexemes_of_fault failed delivered, hasFailed_report_of_fails _ rfl] at ok
        cases ok
      · rw [readLexemes_of_finish failed delivered,
          readLexemes_of_finish (s := s.tolerant) failed delivered]
        rfl
      · rw [readLexemes_cons failed delivered] at ok ⊢
        rw [readLexemes_cons (s := s.tolerant) failed delivered, ← ih ok]
        have going : (readNode (s.withScope scope) node r'.position).hasFailed = false := by
          cases stopped : (readNode (s.withScope scope) node r'.position).hasFailed with
          | false => rfl
          | true =>
            rw [readLexemes_of_hasFailed stopped, stopped] at ok
            cases ok
        exact congrArg (readLexemes · r' rest) (readNode_tolerant node r'.position going)

theorem readDocument_tolerant {source : Source} (ok : (s.readDocument source).hasFailed = false) :
    s.tolerant.readDocument source = (s.readDocument source).tolerant := by
  cases source with
  | failing reason => rfl
  | bytes content => exact readLexemes_tolerant (s := s.beginDocument) _ ok

end Session

/-! ## Compiling -/

namespace Compilation

variable {c : Compilation}

/-- A compilation whose session has another option and is at another place. -/
def variant (c : Compilation) (allowed : Bool) (position : Position) : Compilation :=
  { c with session := c.session.variant allowed position }

/-- Which document is wanted next depends neither on the option nor on the place. -/
theorem request?_variant (c : Compilation) (allowed : Bool) (position : Position) :
    (c.variant allowed position).request? =
      c.request?.map fun (c, request) => (c.variant allowed position, request) := by
  have sameFailed : (c.variant allowed position).session.hasFailed = c.session.hasFailed := rfl
  have advanced : (c.variant allowed position).session.advance? =
      c.session.advance?.map (Session.variant · allowed position) := by
    simp only [Session.advance?, Option.map_map]
    rfl
  unfold request?
  rw [sameFailed, advanced, Option.map_map]
  split
  · rfl
  · rw [Option.map_map]
    rfl

/-- A compilation in which unsupported constructs are allowed. -/
def tolerant (c : Compilation) : Compilation :=
  { c with session := c.session.tolerant }

theorem request?_tolerant (c : Compilation) :
    c.tolerant.request? = c.request?.map fun (c, request) => (c.tolerant, request) := by
  refine (request?_variant c true c.session.position).trans ?_
  cases wanted : c.request? with
  | none => rfl
  | some answer =>
    obtain ⟨c', request⟩ := answer
    obtain ⟨-, -, -, rfl⟩ := request?_eq_some wanted
    rfl

theorem supply_tolerant {source : Option Source}
    (ok : (c.supply source).session.hasFailed = false) :
    c.tolerant.supply source = (c.supply source).tolerant := by
  cases source with
  | none => rfl
  | some source => exact congrArg (Compilation.mk · c.requests) (Session.readDocument_tolerant ok)

/-- A compilation that has failed reads no more. -/
theorem run_of_hasFailed (resolve : Resolver) (limit : Nat) (failed : c.session.hasFailed = true) :
    run resolve limit c = c := by
  cases limit with
  | zero => rfl
  | succ limit => rw [run, request?_of_hasFailed failed]

/-- A compilation that does not fail had not failed before. -/
theorem unfailed_of_run {resolve : Resolver} {limit : Nat}
    (ok : (run resolve limit c).session.hasFailed = false) : c.session.hasFailed = false := by
  refine Bool.eq_false_iff.2 fun failed => ?_
  rw [run_of_hasFailed resolve limit failed, failed] at ok
  cases ok

theorem run_tolerant (resolve : Resolver) (limit : Nat)
    (ok : (run resolve limit c).session.hasFailed = false) :
    run resolve limit c.tolerant = (run resolve limit c).tolerant := by
  induction limit generalizing c with
  | zero => rfl
  | succ limit ih =>
    unfold run at ok ⊢
    rw [request?_tolerant]
    cases wanted : c.request? with
    | none => rfl
    | some answer =>
      obtain ⟨c', request⟩ := answer
      rw [wanted] at ok
      dsimp only [Option.map_some] at ok ⊢
      rw [supply_tolerant (unfailed_of_run ok)]
      exact ih ok

/-- What is generated does not depend on the option. -/
theorem finish_tolerant (c : Compilation) : c.tolerant.finish = c.finish :=
  rfl

/-- For every document, location and resolver, a compile that delivers a result without unsupported
constructs being allowed ends in the same way if they are allowed: with the same result, the same
requests and the same journal. -/
theorem finish_allowUnsupported (resolve : Resolver) (limit : Nat) (source : Source)
    (location : String) (compiled : Compiled)
    (h : (run resolve limit (start false source location)).finish.result = .ok compiled) :
    (run resolve limit (start true source location)).finish =
      (run resolve limit (start false source location)).finish := by
  have ok := hasFailed_of_finish_eq_ok h
  have first := unfailed_of_run ok
  have same : start true source location = (start false source location).tolerant :=
    congrArg (Compilation.mk · [])
      (Session.readDocument_tolerant (s := Session.start location false) first)
  rw [same, run_tolerant resolve limit ok, finish_tolerant]

/-- An extension where it does not count. -/
def annotatedExtension : Source :=
  .bytes (["<x:schema xmlns:x='http://www.w3.org/2001/XMLSchema'>",
    "<x:annotation><x:appinfo><x:extension base='T'/></x:appinfo></x:annotation>",
    "<x:element name='A' type='x:int'/>", "</x:schema>"].flatMap Text.Utf8.encodeText)

set_option maxRecDepth 100000 in
theorem finish_allowUnsupported_annotatedExtension : ∃ compiled,
    (run (Library.resolver []) 1 (start false annotatedExtension "")).finish.result =
        .ok compiled ∧
      (run (Library.resolver []) 1 (start true annotatedExtension "")).finish =
        (run (Library.resolver []) 1 (start false annotatedExtension "")).finish := by
  obtain ⟨compiled, delivers⟩ := exists_eq_ok_of_isOk
    (c := run (Library.resolver []) 1 (start false annotatedExtension "")) (by decide +kernel)
  exact ⟨compiled, delivers, finish_allowUnsupported _ _ _ _ compiled delivers⟩

end Compilation

end XsdRecords
