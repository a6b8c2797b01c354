import XsdRecords.Proofs.Compilation.DefaultValues
import XsdRecords.Proofs.Compilation.Tolerance
import XsdRecords.Proofs.Generation.Echoes
import XsdRecords.Proofs.Session.RenamedReading

/-! # Prefixes are only abbreviations

A compile of documents whose prefixes are renamed, in each document in a way of its own, goes through
the sessions that it goes through otherwise, in disguise.  It asks for the same documents and ends with
the same schema and target namespace, or with a diagnostic that says the same. -/

namespace XsdRecords

open XsdRecords.Markup (ReaderFault Source)

/-- Diagnostics of one severity that say the same, but for the byte offsets in a fault of markup. -/
structure Diagnostic.Alike (d d' : Diagnostic) : Prop where
  severity : d'.severity = d.severity
  message : d'.message = d.message ∨ ∃ fault fault' : ReaderFault,
    fault'.unplaced = fault.unplaced ∧ d.message = (Problem.markup fault.message).message ∧
      d'.message = (Problem.markup fault'.message).message

/-- Outcomes with the same schema and target namespace, or with diagnostics that say the same. -/
inductive Outcome.Agrees (o o' : Outcome) : Prop
  | delivers {compiled compiled' : Compiled} (here : o.result = .ok compiled)
      (there : o'.result = .ok compiled') (schema : compiled'.schema = compiled.schema)
      (targetNamespace : compiled'.targetNamespace = compiled.targetNamespace)
      (requests : o'.requests = o.requests)
  | fails {d d' : Diagnostic} (here : o.result = .error d) (there : o'.result = .error d')
      (alike : d.Alike d') (requests : o'.requests = o.requests)

/-- What a compile that fails says. -/
def Outcome.complaint? (o : Outcome) : Option String :=
  match o.result with
  | .ok _ => none
  | .error d => some d.message

namespace Session

variable {ρ : Renaming} {s s' : Session} {w : Worklist} {t : Trace}

/-- What is generated does not depend on the prefixes. -/
theorem generate_disguised (renamed : s.worklist.Renamed ρ w) (t : Trace) :
    ∃ t', (s.disguised w t).generate = (s.generate.1.disguised w t', s.generate.2) := by
  have location : w.top.location = s.worklist.top.location := renamed.agrees.location 0
  have echoes : Generation.Echoes
      { declarations := s.declarations, journal := s.journal, source := s.worklist.top.location }
      { declarations := s.declarations, journal := (s.disguised w t).journal,
        source := w.top.location } := by
    rw [location]
    exact ⟨t.events, rfl⟩
  obtain ⟨events, same⟩ := echoes.run
  refine ⟨⟨events, t.attributes, {}⟩, ?_⟩
  have generated : (s.disguised w t).generate =
      (let g := Generation.run
        { declarations := s.declarations, journal := (s.disguised w t).journal,
          source := w.top.location }
      ({ s.disguised w t with declarations := g.declarations, journal := g.journal, position := {} },
        g.schema)) := rfl
  rw [generated, same]
  rfl

end Session

namespace Compilation

variable {ρ : Renaming} {c c' : Compilation} {resolve resolve' : Resolver}

/-- Compilations that have asked for the same, the session of the second being a disguise of that of the
first. -/
structure Matches (c c' : Compilation) : Prop where
  session : ∃ ρ, c.session.Matches ρ c'.session
  requests : c'.requests = c.requests

/-- A compilation that has more documents asks for the next. -/
theorem request?_of_more (ok : c.session.hasFailed = false)
    (more : c.session.worklist.current + 1 < c.session.worklist.documents.size) :
    let request := c.session.requestFor (c.session.worklist.current + 1)
    c.request? = some (⟨(moved c.session).note (.requestedDocument request.location request.uri),
      request :: c.requests⟩, request) := by
  unfold request? Session.advance? Worklist.advance?
  rw [if_neg (by rw [ok]; exact Bool.false_ne_true), if_pos more]
  rfl

section Disguised

variable {w : Worklist} (renamed : c.session.worklist.Renamed ρ w) (t : Trace)

include renamed

/-- A compilation and its disguise want a document or none. -/
theorem request?_disguised_of_none (none : c.request? = none) :
    request? ⟨c.session.disguised w t, c.requests⟩ = Option.none := by
  rw [request?_eq_none_iff] at none ⊢
  show c.session.hasFailed = true ∨ ¬w.current + 1 < w.documents.size
  rw [renamed.agrees.current, renamed.agrees.size]
  exact none

/-- They want the same document, which is fresh in both. -/
theorem request?_disguised_of_some {request : Request} (wanted : c.request? = some (c', request)) :
    ∃ w' t', (∀ σ, c'.session.worklist.Renamed σ w') ∧
      request? ⟨c.session.disguised w t, c.requests⟩ =
        some (⟨c'.session.disguised w' t', c'.requests⟩, request) := by
  obtain ⟨ok, more, rfl, rfl⟩ := request?_eq_some wanted
  have current := renamed.agrees.current
  have more' : w.current + 1 < w.documents.size := by
    rw [current, renamed.agrees.size]
    exact more
  have asked := request?_of_more (c := ⟨c.session.disguised w t, c.requests⟩) ok more'
  have same : (c.session.disguised w t).requestFor (w.current + 1) =
      c.session.requestFor (c.session.worklist.current + 1) := by
    unfold Session.requestFor
    show Request.mk (w.entry (w.current + 1)).location
      (c.session.registry.uri (w.entry (w.current + 1)).target) = _
    rw [current, renamed.agrees.location, renamed.agrees.target]
  dsimp only at asked
  rw [show (c.session.disguised w t).worklist.current = w.current from rfl, same] at asked
  exact ⟨_, ⟨_, t.attributes, t.position⟩, renamed.advance more, asked⟩

end Disguised

/-- Giving a document to both. -/
theorem supply_matches {source source' : Option Source}
    (same : Option.Rel (Source.Renamed ρ) source source')
    (well : ∀ v ∈ source.elim [] c.session.visits, v.node.WellPrefixed)
    (ok : c.session.hasFailed = false) {w : Worklist} (renamed : c.session.worklist.Renamed ρ w)
    (t : Trace) : Matches (c.supply source)
      (supply ⟨c.session.disguised w t, c.requests⟩ source') := by
  cases same with
  | none =>
    have location : w.currentEntry.location = c.session.worklist.currentEntry.location :=
      (congrArg DocumentEntry.location renamed.agrees.currentEntry :)
    refine ⟨⟨ρ, ?_⟩, rfl⟩
    unfold supply
    dsimp only
    rw [show (c.session.disguised w t).worklist = w from rfl, location]
    exact Session.matches_report ok rfl (.same _) w t
  | some same => exact ⟨⟨ρ, Session.readDocument_matches same well ok renamed t⟩, rfl⟩

theorem run_matches
    (sources : ∀ request, ∃ ρ, Option.Rel (Source.Renamed ρ) (resolve request) (resolve' request))
    (limit : Nat) (well : ∀ v ∈ visited resolve limit c, v.node.WellPrefixed)
    (matched : Matches c c') : Matches (run resolve limit c) (run resolve' limit c') := by
  induction limit generalizing c c' with
  | zero => exact matched
  | succ limit ih =>
    obtain ⟨session', requests'⟩ := c'
    obtain ⟨⟨ρ, session⟩, rfl⟩ := matched
    cases session with
    | fails m m' ok ok' isFailure alike here there =>
      rw [run_of_hasFailed resolve _ (Session.hasFailed_of_eq_report isFailure here),
        run_of_hasFailed resolve' _
          (Session.hasFailed_of_eq_report (alike.severity.symm ▸ isFailure) there)]
      exact ⟨⟨ρ, .fails m m' ok ok' isFailure alike here there⟩, rfl⟩
    | goes ok w t renamed there =>
      subst there
      unfold visited at well
      unfold run
      cases wanted : c.request? with
      | none =>
        rw [request?_disguised_of_none renamed t wanted]
        exact ⟨⟨ρ, .goes ok w t renamed rfl⟩, rfl⟩
      | some answer =>
        obtain ⟨c₁, request⟩ := answer
        obtain ⟨w₁, t₁, fresh, wanted'⟩ := request?_disguised_of_some renamed t wanted
        rw [wanted']
        simp only [wanted] at well
        obtain ⟨σ, same⟩ := sources request
        obtain ⟨ok, -, -, rfl⟩ := request?_eq_some wanted
        have supplied := supply_matches same
          (fun v member => well v (List.mem_append_left _ member)) ok (fresh σ) t₁
        exact ih (fun v member => well v (List.mem_append_right _ member)) supplied

theorem finish_agrees (matched : Matches c c') : c.finish.Agrees c'.finish := by
  obtain ⟨session', requests'⟩ := c'
  obtain ⟨⟨ρ, session⟩, rfl⟩ := matched
  cases session with
  | @fails m m' ok ok' p p' isFailure alike here there =>
    have isFailure' : p'.severity.isFailure = true := alike.severity.symm ▸ isFailure
    have decides := Session.diagnostic_report ok p isFailure
    have decides' := Session.diagnostic_report ok' p' isFailure'
    rw [← here] at decides
    rw [← there] at decides'
    unfold finish
    rw [if_pos (Session.hasFailed_of_eq_report isFailure here),
      if_pos (Session.hasFailed_of_eq_report isFailure' there), decides, decides']
    refine .fails rfl rfl ⟨alike.severity, ?_⟩ rfl
    cases alike with
    | same p => exact .inl rfl
    | fault alike => exact .inr ⟨_, _, alike, rfl, rfl⟩
  | goes ok w t renamed there =>
    subst there
    obtain ⟨t', generated⟩ := Session.generate_disguised renamed t
    have target : w.top.target = c.session.worklist.top.target := renamed.agrees.target 0
    unfold finish
    dsimp only
    rw [if_neg (Bool.eq_false_iff.1 ok),
      if_neg (show ¬(c.session.disguised w t).hasFailed = true from Bool.eq_false_iff.1 ok), generated]
    generalize made : c.session.generate = result
    obtain ⟨s, schema⟩ := result
    have worklist : s.worklist = c.session.worklist := (congrArg (·.1.worklist) made).symm
    dsimp only
    rw [show (s.disguised w t').hasFailed = s.hasFailed from rfl]
    split
    · exact .fails rfl rfl ⟨rfl, .inl rfl⟩ rfl
    · refine .delivers rfl rfl rfl ?_ rfl
      show s.registry.uri w.top.target = s.registry.uri s.worklist.top.target
      rw [worklist, target]

/-- Prefixes are only abbreviations.  Let the prefixes of the first document be renamed, and in each
document that is asked for those of that document.  As long as the attributes that are read have
prefixes that stand for what they should, the compile gives the same schema and target namespace, or a
diagnostic of the same severity that says the same, but for byte offsets in a fault of markup.
Documents with an end tag that ends no open tag are left out: the fault spells the prefixes of both
tags, and so `Renamed` does not relate two of them. -/
theorem finish_renamed {source source' : Source} (same : source.Renamed ρ source')
    (sources : ∀ request, ∃ ρ, Option.Rel (Source.Renamed ρ) (resolve request) (resolve' request))
    (limit : Nat) (allowUnsupported : Bool) (location : String)
    (well : ∀ v ∈ (Session.start location allowUnsupported).visits source ++
      visited resolve limit (start allowUnsupported source location), v.node.WellPrefixed) :
    (run resolve limit (start allowUnsupported source location)).finish.Agrees
      (run resolve' limit (start allowUnsupported source' location)).finish := by
  have started : Matches (start allowUnsupported source location)
      (start allowUnsupported source' location) := by
    exact ⟨⟨ρ, Session.readDocument_matches (s := Session.start location allowUnsupported) same
      (fun v member => well v (List.mem_append_left _ member)) rfl (Worklist.renamed_ofTop location)
      ⟨[], [], {}⟩⟩, rfl⟩
  exact finish_agrees
    (run_matches sources limit (fun v member => well v (List.mem_append_right _ member)) started)

/-- A schema with the prefix `p` for the vocabulary. -/
def abbreviated (p : String) : Source :=
  .bytes (["<", p, ":schema xmlns:", p, "='http://www.w3.org/2001/XMLSchema'>",
    "<", p, ":element name='r' type='", p, ":int'/>", "</", p, ":schema>"].flatMap
      Text.Utf8.encodeText)

set_option maxRecDepth 100000 in
/-- With a longer prefix it means the same. -/
theorem finish_renamed_abbreviated :
    (run (Library.resolver []) 1 (start false (abbreviated "x") "")).finish.Agrees
      (run (Library.resolver []) 1 (start false (abbreviated "xs") "")).finish := by
  have same : (abbreviated "x").Renamed (.exchange "x" "xs" (by decide)) (abbreviated "xs") := by
    decide +kernel
  refine finish_renamed same (fun request => ⟨.exchange "x" "xs" (by decide), .none⟩) 1 false "" ?_
  decide +kernel

/-- A schema that refers by an entity, the prefix of which is `p`. -/
def entityAbbreviated (p : String) : Source :=
  .bytes (["<!DOCTYPE x:schema [<!ENTITY t 'int'>]>",
    "<x:schema xmlns:x='http://www.w3.org/2001/XMLSchema' xmlns:", p,
    "='http://www.w3.org/2001/XMLSchema'>",
    "<x:element name='r' type='", p, ":&t;'/>", "</x:schema>"].flatMap Text.Utf8.encodeText)

/-- A schema in which declarations of prefixes are in no namespace, so that the declaration of the
prefix `p` may be taken for an attribute. -/
def declaredType (p : String) : Source :=
  .bytes (["<x:schema xmlns:x='http://www.w3.org/2001/XMLSchema' xmlns:xmlns=''>",
    "<x:element name='r' xmlns:", p, "='x:int'/>", "</x:schema>"].flatMap Text.Utf8.encodeText)

/-- A schema with the prefix `p` for the vocabulary, and one that stands for no namespace. -/
def prefixedType (p : String) : Source :=
  .bytes (["<", p, ":schema xmlns:", p, "='http://www.w3.org/2001/XMLSchema' xmlns:q=''>",
    "<", p, ":element name='r' q:type='x:int'/>", "</", p, ":schema>"].flatMap
      Text.Utf8.encodeText)

set_option maxRecDepth 100000 in
/-- A fault of markup tells how many bytes a prefix has.  If a declaration of a prefix is taken for an
attribute, a renamed one is not, and what refers to a name under another name is not renamed. -/
theorem complaint?_renamed :
    ((entityAbbreviated "p").Renamed (.exchange "p" "pq" (by decide)) (entityAbbreviated "pq") ∧
      (run (Library.resolver []) 1 (start false (entityAbbreviated "p") "")).finish.complaint? =
        some "Schema parser error: at 3..4: unrecognized entity `t`" ∧
      (run (Library.resolver []) 1 (start false (entityAbbreviated "pq") "")).finish.complaint? =
        some "Schema parser error: at 4..5: unrecognized entity `t`") ∧
    ((declaredType "type").Renamed (.exchange "type" "kind" (by decide)) (declaredType "kind") ∧
      (run (Library.resolver []) 1 (start false (declaredType "type") "")).finish.complaint? =
        none ∧
      (run (Library.resolver []) 1 (start false (declaredType "kind") "")).finish.complaint? =
        some "Element definition has no type") ∧
    ((prefixedType "x").Renamed (.exchange "x" "y" (by decide)) (prefixedType "y") ∧
      (run (Library.resolver []) 1 (start false (prefixedType "x") "")).finish.complaint? = none ∧
      (run (Library.resolver []) 1 (start false (prefixedType "y") "")).finish.complaint? =
        some "Undefined type \"int\" referenced from element \"root.r\".") := by
  refine ⟨⟨?_, ?_, ?_⟩, ⟨?_, ?_, ?_⟩, ⟨?_, ?_, ?_⟩⟩
  all_goals decide +kernel

end Compilation

end XsdRecords
