import XsdRecords.Proofs.Compilation.Diagnostics
import XsdRecords.Proofs.Session.Positions

/-! # The place that a failing compile names

The diagnostic of a failing compile names a document and a place.  The place is one of a tag or
fault in this document, or none, with one exception: where a document is not to be had, the place
is that of the last tag of the document that was read before. -/

namespace XsdRecords

open XsdRecords.Markup (Source places)

namespace Compilation

variable {c : Compilation} {resolve : Resolver} {first source : Source} {location : String}

/-- A document that a compile has read, the first or one that was asked for. -/
def HasRead (resolve : Resolver) (first : Source) (location : String) (requests : List Request)
    (name : String) (source : Source) : Prop :=
  (name = location ∧ source = first) ∨
    ∃ request ∈ requests, request.location = name ∧ resolve request = some source

/-- The document that was read last, when some were asked for and given. -/
def lastRead (resolve : Resolver) (first : Source) (requests : List Request) : Source :=
  (requests.filterMap resolve).getLastD first

/-- What is known of the place of a diagnostic: there is none, or it is that of a tag or fault in
the document that is named.  If that document is not to be had, the place is that of the last tag
of the document before it. -/
inductive Located (resolve : Resolver) (first : Source) (location : String)
    (requests : List Request) (d : Diagnostic) : Prop
  | nowhere (position : d.position = {})
  | within (content : List UInt8)
      (read : HasRead resolve first location requests d.source (.bytes content))
      (member : d.position ∈ places content)
  | missing (before : List Request) (request : Request) (last : requests = before ++ [request])
      (none : resolve request = none) (named : d = ⟨.error,
        (lastRead resolve first before).lastPlace, request.location,
        (Problem.unresolvedSchema request.location).message⟩)

/-- A compilation that has asked for some documents: nothing is reported and it stands at the last
tag that it read, or it has failed and its diagnostic is located. -/
structure Placed (resolve : Resolver) (first : Source) (location : String) (c : Compilation) :
    Prop where
  going : c.session.hasFailed = false → c.session.IsInDocument ∧
    c.session.journal.reports = [] ∧ c.session.journal.diagnostic = {} ∧
    c.session.position = (lastRead resolve first c.requests.reverse).lastPlace
  failed : c.session.hasFailed = true →
    Located resolve first location c.requests.reverse c.session.journal.diagnostic

/-- A document that is read while nothing is reported. -/
theorem placed_readDocument {s : Session} (requests : List Request) (inside : s.IsInDocument)
    (reports : s.journal.reports = []) (diagnostic : s.journal.diagnostic = {})
    (read : HasRead resolve first location requests.reverse s.worklist.currentEntry.location source)
    (last : lastRead resolve first requests.reverse = source) :
    Placed resolve first location ⟨s.readDocument source, requests⟩ := by
  have ok : s.hasFailed = false := by
    rw [Session.hasFailed, Journal.hasFailed, diagnostic]
    rfl
  obtain through | fails := Session.readDocument_places inside ok source
  · refine ⟨fun _ => ⟨through.inside, through.reports.trans reports,
      through.diagnostic.trans diagnostic, last ▸ through.position⟩, fun failed => ?_⟩
    rw [through.ok] at failed
    cases failed
  · refine ⟨fun ok => ?_, fun _ => ?_⟩
    · rw [fails.failed] at ok
      cases ok
    · obtain none | ⟨content, rfl, member⟩ := fails.position
      · exact .nowhere none
      · exact .within content (fails.location ▸ read) member

theorem placed_start (resolve : Resolver) (allowUnsupported : Bool) (first : Source)
    (location : String) : Placed resolve first location (start allowUnsupported first location) :=
  placed_readDocument [] Nat.zero_lt_one rfl rfl (.inl ⟨rfl, rfl⟩) rfl

theorem Placed.supply (placed : Placed resolve first location c) {c' : Compilation}
    {request : Request} (wanted : c.request? = some (c', request)) :
    Placed resolve first location (c'.supply (resolve request)) := by
  obtain ⟨ok, inside, named, rfl⟩ := request?_eq_some wanted
  obtain ⟨-, reports, diagnostic, position⟩ := placed.going ok
  have here : (moved c.session).worklist.currentEntry.location = request.location := by
    rw [named]
    rfl
  have requests : (request :: c.requests).reverse = c.requests.reverse ++ [request] :=
    List.reverse_cons
  cases given : resolve request with
  | none =>
    have decides := Session.diagnostic_report
      (s := (moved c.session).note (.requestedDocument request.location request.uri)) ok
      (.unresolvedSchema (moved c.session).worklist.currentEntry.location) rfl
    have stopped := hasFailed_supply_none
      ⟨(moved c.session).note (.requestedDocument request.location request.uri),
        request :: c.requests⟩
    refine ⟨fun ok => ?_, fun _ => .missing c.requests.reverse request requests given ?_⟩
    · rw [stopped] at ok
      cases ok
    · refine decides.trans ?_
      rw [← position, ← here]
      rfl
  | some source =>
    refine placed_readDocument _ inside reports diagnostic ?_ ?_
    · exact .inr ⟨request, by simp, here.symm, given⟩
    · rw [requests, lastRead, List.filterMap_append]
      simp [given]

theorem Placed.run (placed : Placed resolve first location c) (limit : Nat) :
    Placed resolve first location (run resolve limit c) := by
  induction limit generalizing c with
  | zero => exact placed
  | succ limit ih =>
    unfold Compilation.run
    split
    · exact placed
    · rename_i wanted
      exact ih (placed.supply wanted)

/-- What is generated after nothing was reported has a diagnostic without a place. -/
theorem position_generate {s : Session} (reports : s.journal.reports = [])
    (diagnostic : s.journal.diagnostic = {}) : s.generate.1.journal.diagnostic.position = {} := by
  have sound : s.journal.Sound := by
    rw [Journal.Sound, reports, diagnostic]
    exact .none
  have continues := (Generation.continues_run s.generation).journal
  obtain ⟨new, all, placeless⟩ := continues.reports
  have generated : s.generate.1.journal.Sound := sound.extends continues
  obtain empty | ⟨r, member, decides⟩ := Decisive.eq_or_mem generated
  · rw [empty]
  · rw [List.mem_reverse] at member
    have own : r ∈ new ++ s.generation.journal.reports := all ▸ member
    rw [show s.generation.journal.reports = [] from reports, List.append_nil] at own
    rw [decides]
    exact (placeless r own).2

/-- For all documents that a compile is given, if it fails then the line and column of its
diagnostic are zero, or they are those of a tag or fault in a document that was read and whose
location is that of the diagnostic.  The one exception is a document that is asked for and not to
be had: its location is then reported with the line and column of the last tag of the document that
was read before it. -/
theorem diagnostic_located (resolve : Resolver) (limit : Nat) (allowUnsupported : Bool)
    (first : Source) (location : String) (d : Diagnostic)
    (h : (run resolve limit (start allowUnsupported first location)).finish.result = .error d) :
    Located resolve first location
      (run resolve limit (start allowUnsupported first location)).finish.requests d := by
  have placed := (placed_start resolve allowUnsupported first location).run limit
  generalize run resolve limit (start allowUnsupported first location) = c at placed h ⊢
  unfold finish at h ⊢
  split at h
  · rename_i failed
    rw [if_pos failed]
    cases h
    exact placed.failed failed
  · rename_i ok
    rw [if_neg ok]
    obtain ⟨-, reports, diagnostic, -⟩ := placed.going (Bool.eq_false_iff.2 ok)
    have placeless := position_generate reports diagnostic
    dsimp only at h
    split at h
    · cases h
      exact .nowhere placeless
    · cases h

/-- A document that includes one that is not to be had. -/
def includingMissing : Source :=
  .bytes (["<x:schema xmlns:x='http://www.w3.org/2001/XMLSchema'>",
    "<x:include schemaLocation='missing'/>", "</x:schema>"].flatMap Text.Utf8.encodeText)

set_option maxRecDepth 100000 in
theorem diagnostic_located_includingMissing : ∃ d,
    (run (Library.resolver []) 1 (start false includingMissing "main")).finish.result = .error d ∧
      d.source = "missing" ∧ d.position = ⟨1, 91⟩ ∧
      Located (Library.resolver []) includingMissing "main"
        (run (Library.resolver []) 1 (start false includingMissing "main")).finish.requests d := by
  have fails : (run (Library.resolver []) 1
      (start false includingMissing "main")).finish.result.toOption.isSome = false ∧
      (run (Library.resolver []) 1 (start false includingMissing "main")).finish.diagnostic.source =
        "missing" ∧
      (run (Library.resolver []) 1 (start false includingMissing "main")).finish.diagnostic.position =
        ⟨1, 91⟩ := by decide +kernel
  obtain ⟨failed, named, placed⟩ := fails
  unfold Outcome.diagnostic at named placed
  cases result : (run (Library.resolver []) 1
      (start false includingMissing "main")).finish.result with
  | error d =>
    rw [result] at named placed
    exact ⟨d, rfl, named, placed, diagnostic_located _ _ _ _ _ d result⟩
  | ok compiled =>
    rw [result] at failed
    cases failed

end Compilation

end XsdRecords
