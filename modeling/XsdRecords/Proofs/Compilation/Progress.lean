import XsdRecords.Compilation
import XsdRecords.Proofs.Session.Listing

/-! # The progress of a compile

A compile asks for documents one after another, and reads what it is given: `Progress`.  Whatever that
is, the documents that tags have named so far are accounted for, and those asked for are the first of
them: `Kept`. -/

namespace XsdRecords

open XsdRecords.Markup (Source)

/-! ## The start of a compile -/

namespace Session

variable {IsUri : String → Prop}

theorem filed_start (empty : IsUri "") (location : String) (allowUnsupported : Bool) :
    Filed IsUri (start location allowUnsupported) where
  proper := Registry.proper_default
  ordered := Worklist.Ordered.ofTop location
  target {index} inside := by
    obtain rfl : index = 0 := Nat.lt_one_iff.1 inside
    exact ⟨"", empty, rfl⟩

theorem accounted_start (location : String) (allowUnsupported : Bool) :
    Accounted [] (start location allowUnsupported) where
  queue := List.nil_prefix
  first later inside := absurd inside (Nat.not_lt.2 later)
  place member := by cases member
  namer member := by cases member
  top later inside := absurd inside (Nat.not_lt.2 later)
  all _ := rfl
  apart _ _ member := by cases member
  recursive failed := by cases failed

end Session

namespace Compilation

variable {IsUri : String → Prop} {c c' : Compilation} {r : Request} {namings : List Naming}

/-! ## One request -/

/-- A session that moves on to the next document. -/
abbrev moved (s : Session) : Session :=
  { s with worklist := { s.worklist with current := s.worklist.current + 1 } }

/-- A compilation that has not failed asks for the next document, if there is one. -/
theorem request?_eq_some (wanted : c.request? = some (c', r)) :
    c.session.hasFailed = false ∧
      c.session.worklist.current + 1 < c.session.worklist.documents.size ∧
      r = c.session.requestFor (c.session.worklist.current + 1) ∧
      c' = ⟨(moved c.session).note (.requestedDocument r.location r.uri), r :: c.requests⟩ := by
  unfold request? at wanted
  split at wanted
  · cases wanted
  · rename_i ok
    obtain ⟨s, next, same⟩ := Option.map_eq_some_iff.1 wanted
    obtain ⟨worklist, step, rfl⟩ := Option.map_eq_some_iff.1 next
    unfold Worklist.advance? at step
    split at step
    · rename_i inside
      obtain rfl := Option.some.inj step
      obtain ⟨rfl, rfl⟩ := Prod.mk.inj same
      exact ⟨Bool.eq_false_iff.2 ok, inside, rfl, rfl⟩
    · cases step

theorem request?_eq_none_iff : c.request? = none ↔ c.session.hasFailed = true ∨
    ¬c.session.worklist.current + 1 < c.session.worklist.documents.size := by
  unfold request? Session.advance? Worklist.advance?
  cases c.session.hasFailed <;> simp

/-- A compilation whose documents are accounted for, and that has asked for the first of them. -/
structure Kept (IsUri : String → Prop) (namings : List Naming) (c : Compilation) : Prop where
  filed : c.session.Filed IsUri
  reported : c.session.Reported
  accounted (small : c.session.registry.IsSmall) : c.session.Accounted namings
  requests (small : c.session.registry.IsSmall) :
    c.requests.reverse = c.session.queued c.session.worklist.current
  length : c.requests.length = c.session.worklist.current

theorem Kept.request (kept : Kept IsUri namings c) (wanted : c.request? = some (c', r)) :
    Kept IsUri namings c' := by
  obtain ⟨-, inside, rfl, rfl⟩ := request?_eq_some wanted
  have ordered := kept.filed.ordered
  refine ⟨⟨kept.filed.proper, ?_, kept.filed.target⟩, kept.reported, fun small => ?_,
    fun small => ?_, ?_⟩
  · exact ⟨inside, ordered.root, ordered.nested, ordered.parent, ordered.distinct⟩
  · exact (kept.accounted small).stays ordered
      ⟨rfl, Nat.le_succ _, fun _ => rfl, fun _ => rfl, fun _ => rfl⟩ rfl rfl
  · rw [List.reverse_cons, kept.requests small]
    exact (c.session.queued_succ _).symm
  · exact congrArg (· + 1) kept.length

/-- A document that cannot be had fails the compile. -/
theorem hasFailed_supply_none (c : Compilation) : (c.supply none).session.hasFailed = true :=
  Session.hasFailed_report_of_fails _ rfl

theorem Kept.tracked (kept : Kept IsUri namings c) (empty : IsUri "") (source : Option Source)
    (said : ∀ document ∈ source, ∀ v ∈ c.session.visits document, ∀ value ∈ v.node.values,
      IsUri value) :
    c.session.Tracked IsUri (namings ++ source.elim [] c.session.namedIn)
      (c.supply source).session := by
  have here : c.session.Tracked IsUri namings c.session :=
    ⟨kept.filed, .refl, (Worklist.Agrees.refl _).extends, kept.reported, kept.accounted⟩
  cases source with
  | none =>
    have failed : c.session.Tracked IsUri namings (c.supply none).session :=
      here.fails .refl (.refl _) (hasFailed_supply_none c) (Session.failedOtherwise_report rfl rfl)
    simpa using failed
  | some document => exact Session.tracked_readDocument empty (said document rfl) here

theorem Kept.supply (kept : Kept IsUri namings c) (empty : IsUri "") (source : Option Source)
    (said : ∀ document ∈ source, ∀ v ∈ c.session.visits document, ∀ value ∈ v.node.values,
      IsUri value) :
    Kept IsUri (namings ++ source.elim [] c.session.namedIn) (c.supply source) := by
  have tracked := kept.tracked empty source said
  have requests : (c.supply source).requests = c.requests := by cases source <;> rfl
  have inside := kept.filed.ordered.current
  refine ⟨tracked.filed, tracked.reported, tracked.accounted, fun small => ?_, ?_⟩
  · rw [requests, kept.requests (tracked.grows.isSmall small), tracked.extends_.current]
    refine List.map_congr_left fun place less => ?_
    rw [List.mem_range] at less
    have within : place + 1 < c.session.worklist.documents.size := by omega
    exact (kept.filed.requestFor_of_grows small tracked.grows within
      (tracked.extends_.location within) (tracked.extends_.target (Nat.succ_pos place) within)).symm
  · rw [requests, kept.length, tracked.extends_.current]

/-! ## Whole compiles -/

/-- What a compile of a document comes to, whatever it is given when it asks for others; `namings`
are the documents that the tags read so far have named. -/
inductive Progress (allowUnsupported : Bool) (first : Source) (location : String) :
    Compilation → List Naming → Prop
  | start : Progress allowUnsupported first location (start allowUnsupported first location)
      ((Session.start location allowUnsupported).namedIn first)
  | supply {c c' : Compilation} {r : Request} {namings : List Naming}
      (progress : Progress allowUnsupported first location c namings)
      (wanted : c.request? = some (c', r)) (source : Option Source) :
      Progress allowUnsupported first location (c'.supply source)
        (namings ++ source.elim [] c'.session.namedIn)

theorem kept_start (empty : IsUri "") (allowUnsupported : Bool) (source : Source) (location : String)
    (said : ∀ v ∈ (Session.start location allowUnsupported).visits source,
      ∀ value ∈ v.node.values, IsUri value) :
    Kept IsUri ((Session.start location allowUnsupported).namedIn source)
      (start allowUnsupported source location) := by
  have before : Kept IsUri [] { session := Session.start location allowUnsupported } :=
    ⟨Session.filed_start empty location allowUnsupported, fun _ member => (by cases member),
      fun _ => Session.accounted_start location allowUnsupported, fun _ => rfl, rfl⟩
  exact before.supply empty (some source) fun _ same => by
    obtain rfl := Option.some.inj same
    exact said

variable {allowUnsupported : Bool} {first : Source} {location : String}

theorem Progress.kept (progress : Progress allowUnsupported first location c namings) :
    Kept (fun _ => True) namings c := by
  induction progress with
  | start => exact kept_start trivial allowUnsupported first location fun _ _ _ _ => trivial
  | supply progress wanted source ih =>
    exact (ih.request wanted).supply trivial source fun _ _ _ _ _ _ => trivial

/-- The documents that are named in those that a resolver gives. -/
def named (resolve : Resolver) : Nat → Compilation → List Naming
  | 0, _ => []
  | limit + 1, c =>
    match c.request? with
    | none => []
    | some (c, request) =>
      (resolve request).elim [] c.session.namedIn ++
        named resolve limit (c.supply (resolve request))

/-- A compile makes progress with any resolver. -/
theorem Progress.run (progress : Progress allowUnsupported first location c namings)
    (resolve : Resolver) (limit : Nat) : Progress allowUnsupported first location
      (c.run resolve limit) (namings ++ named resolve limit c) := by
  induction limit generalizing c namings with
  | zero => simpa [named, Compilation.run] using progress
  | succ limit ih =>
    unfold Compilation.run named
    cases wanted : c.request? with
    | none => simpa using progress
    | some next =>
      rw [← List.append_assoc]
      exact ih (progress.supply wanted _)

theorem Progress.location_ne {n : Naming}
    (progress : Progress allowUnsupported first location c namings) (member : n ∈ namings) :
    n.request.location ≠ "" := by
  induction progress with
  | start => exact Session.location_of_mem_namedIn member
  | supply progress wanted source ih =>
    obtain old | new := List.mem_append.1 member
    · exact ih old
    · cases source with
      | none => cases new
      | some document => exact Session.location_of_mem_namedIn new

end Compilation

end XsdRecords
