import XsdRecords.Proofs.Compilation.Guards
import XsdRecords.Proofs.Session.Traced

/-! # The nodes of a compile

What the tags of a compile amount to is said of all its nodes together, document after document. -/

namespace XsdRecords

open XsdRecords.Markup (Source)
open XsdRecords.Session (Guarded Traced Visit)

namespace Compilation

/-- The nodes of the documents that a resolver gives. -/
def visited (resolve : Resolver) : Nat → Compilation → List Visit
  | 0, _ => []
  | limit + 1, c =>
    match c.request? with
    | none => []
    | some (c, request) =>
      (resolve request).elim [] c.session.visits ++
        visited resolve limit (c.supply (resolve request))

/-- What stands in the nodes of some documents stands in those of the first, or after all of
these. -/
theorem exists_split_of_append {first later before after : List Visit} {v : Visit}
    (split : first ++ later = before ++ v :: after) :
    (∃ rest, first = before ++ v :: rest) ∨
      ∃ others, before = first ++ others ∧ later = others ++ v :: after := by
  obtain ⟨others, whole, split⟩ | ⟨others, own, split⟩ := List.append_eq_append_iff.1 split
  · exact .inr ⟨others, whole, split⟩
  · cases others with
    | nil => exact .inr ⟨[], by rw [own, List.append_nil, List.append_nil], split.symm⟩
    | cons _ others =>
      obtain ⟨rfl, -⟩ := List.cons.inj split
      exact .inl ⟨others, own⟩

/-- A document that is supplied is traced by its nodes. -/
theorem traced_supply {c : Compilation} {given : List Visit} (traced : Traced c.session given)
    (source : Option Source) (read : (c.supply source).session.hasFailed = false) :
    Traced (c.supply source).session (given ++ source.elim [] c.session.visits) := by
  cases source with
  | none =>
    rw [hasFailed_supply_none] at read
    cases read
  | some document => exact traced.readDocument read

/-- A node that is read after the first document is one of a later document.  Where this begins, that
is open which the documents before have left open. -/
theorem exists_document_of_visited (resolve : Resolver) (limit : Nat) {c : Compilation}
    {given : List Visit} (traced : c.session.hasFailed = false → Traced c.session given)
    {before after : List Visit} {v : Visit}
    (split : visited resolve limit c = before ++ v :: after) :
    ∃ k < limit, ∃ s earlier source within rest, before = earlier ++ within ∧
      Traced s (given ++ earlier) ∧ s.visits source = within ++ v :: rest ∧
      s.elementStack = (run resolve k c).session.elementStack ∧
      s.typeStack = (run resolve k c).session.typeStack := by
  -- The induction is on the documents; each is traced by its own nodes and those before it.
  induction limit generalizing c given before with
  | zero => simp [visited] at split
  | succ limit ih =>
    unfold visited at split
    cases wanted : c.request? with
    | none => simp [wanted] at split
    | some answer =>
      obtain ⟨asked, request⟩ := answer
      simp only [wanted] at split
      obtain ⟨going, -, -, same⟩ := request?_eq_some wanted
      have here : Traced asked.session given := by
        rw [same]
        exact (traced going).untouched ⟨⟨rfl, rfl, rfl, rfl⟩, rfl⟩
      have next (k : Nat) :
          run resolve (k + 1) c = run resolve k (asked.supply (resolve request)) := by
        rw [run, wanted]
      obtain ⟨rest, own⟩ | ⟨others, whole, split⟩ := exists_split_of_append split
      · cases supplied : resolve request with
        | none => simp [supplied] at own
        | some source =>
          rw [supplied] at own
          refine ⟨0, Nat.succ_pos limit, asked.session, [], source, before, rest, rfl, ?_, own, ?_⟩
          · rw [List.append_nil]
            exact here
          · rw [same]
            exact ⟨rfl, rfl⟩
      · obtain ⟨k, less, s, earlier, source, within, rest, rfl, found⟩ :=
          ih (traced_supply here (resolve request)) split
        refine ⟨k + 1, Nat.succ_lt_succ less, s, _, source, within, rest,
          whole.trans (List.append_assoc _ _ _).symm, ?_⟩
        rw [← List.append_assoc, next]
        exact found

end Compilation

namespace Session.Carried

open XsdRecords.Compilation

variable {P : Session → List Visit → Prop} (carried : Carried P)

include carried

theorem supply {c : Compilation} {visits : List Visit} (guarded : Guarded c.session)
    (ok : c.session.hasFailed = false) (holds : P c.session visits) (source : Option Source)
    (read : (c.supply source).session.hasFailed = false) :
    P (c.supply source).session (visits ++ source.elim [] c.session.visits) := by
  cases source with
  | none =>
    rw [hasFailed_supply_none] at read
    cases read
  | some document => exact carried.readDocument (guarded.grounded ok) holds read

theorem run {c : Compilation} {visits : List Visit} (guarded : Guarded c.session)
    (holds : c.session.hasFailed = false → P c.session visits) (resolve : Resolver) (limit : Nat)
    (ok : (c.run resolve limit).session.hasFailed = false) :
    P (c.run resolve limit).session (visits ++ visited resolve limit c) := by
  induction limit generalizing c visits with
  | zero => simpa [visited, Compilation.run] using holds ok
  | succ limit ih =>
    unfold Compilation.run at ok ⊢
    unfold visited
    cases wanted : c.request? with
    | none =>
      simp only [wanted] at ok
      simpa using holds ok
    | some answer =>
      obtain ⟨c', request⟩ := answer
      obtain ⟨going, -, -, rfl⟩ := request?_eq_some wanted
      simp only [wanted] at ok
      have asked := guarded_request guarded request
      rw [← List.append_assoc]
      exact ih (guarded_supply (c := ⟨_, request :: c.requests⟩) asked (resolve request))
        (carried.supply (c := ⟨_, request :: c.requests⟩) asked going
          (carried.untouched (holds going) rfl) (resolve request)) ok

/-- What holds before the first document is carried to the end of a compile. -/
theorem compile {allowUnsupported : Bool} {location : String}
    (fresh : P (Session.start location allowUnsupported) []) (resolve : Resolver) (limit : Nat)
    (source : Source)
    (ok : ((Compilation.start allowUnsupported source location).run resolve
      limit).session.hasFailed = false) :
    P ((Compilation.start allowUnsupported source location).run resolve limit).session
      ((Session.start location allowUnsupported).visits source ++
        visited resolve limit (Compilation.start allowUnsupported source location)) :=
  carried.run (guarded_start allowUnsupported source location)
    (fun read => carried.readDocument (Session.grounded_start location allowUnsupported) fresh read)
    resolve limit ok

end Session.Carried

end XsdRecords
