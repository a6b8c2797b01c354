import Mathlib.Data.List.Perm.Subperm
import Mathlib.Data.List.ProdSigma
import XsdRecords.Proofs.Compilation.Progress

/-! # The requests of a compile

A compile asks for documents in the order in which they were named first, for none twice, and for none
after a failure.  A library holds finitely many locations, and its documents say finitely many URIs,
so that with a library a compile comes to an end. -/

namespace XsdRecords.Compilation

open XsdRecords.Markup (Source)

variable {IsUri : String → Prop} {c c' : Compilation} {r : Request} {namings : List Naming}

/-! ## The end of a compile -/

/-- A compile asks for as many documents as it may, or it has ended. -/
theorem length_run (resolve : Resolver) (limit : Nat) (c : Compilation) :
    (run resolve limit c).request? = none ∨
      (run resolve limit c).requests.length = c.requests.length + limit := by
  induction limit generalizing c with
  | zero => exact .inr rfl
  | succ limit ih =>
    unfold run
    split
    · exact .inl ‹_›
    · rename_i next r wanted
      have more : (next.supply (resolve r)).requests.length = c.requests.length + 1 := by
        obtain ⟨-, -, -, rfl⟩ := request?_eq_some wanted
        cases resolve r <;> rfl
      refine (ih (next.supply (resolve r))).imp_right fun length => ?_
      rw [length, more, Nat.add_assoc, Nat.add_comm 1]

/-- Documents that were named are as many as their locations and target namespaces allow. -/
theorem Kept.current_le {uris locations : List String} (kept : Kept (· ∈ uris) namings c)
    (located : ∀ {index : Nat}, 0 < index → index ≤ c.session.worklist.current →
      (c.session.worklist.entry index).location ∈ locations) :
    c.session.worklist.current ≤ locations.length * uris.length := by
  have ordered := kept.filed.ordered
  -- The documents up to the current one inject into the pairs of a location and a number of a URI.
  let key (place : Nat) : String × NamespaceId :=
    ((c.session.worklist.entry (place + 1)).location, (c.session.worklist.entry (place + 1)).target)
  have inside {place : Nat} (member : place ∈ List.range c.session.worklist.current) :
      place + 1 ≤ c.session.worklist.current ∧
        place + 1 < c.session.worklist.documents.size := by
    have less := List.mem_range.1 member
    exact ⟨less, Nat.lt_of_le_of_lt less ordered.current⟩
  have distinct : ((List.range c.session.worklist.current).map key).Nodup := by
    refine List.nodup_range.map_on fun i here j there same => ?_
    obtain ⟨location, target⟩ := Prod.mk.inj same
    obtain less | rfl | more := Nat.lt_trichotomy i j
    · exact absurd target (ordered.distinct (Nat.succ_pos i) (Nat.succ_lt_succ less)
        (inside there).2 location)
    · rfl
    · exact absurd target.symm (ordered.distinct (Nat.succ_pos j) (Nat.succ_lt_succ more)
        (inside here).2 location.symm)
  have allowed : (List.range c.session.worklist.current).map key ⊆
      locations ×ˢ uris.filterMap c.session.registry.id? := by
    intro pair member
    obtain ⟨place, here, rfl⟩ := List.mem_map.1 member
    obtain ⟨uri, said, known⟩ := kept.filed.target (inside here).2
    exact List.mem_product.2 ⟨located (Nat.succ_pos place) (inside here).1,
      List.mem_filterMap.2 ⟨uri, said, known⟩⟩
  have bound := (List.subperm_of_subset distinct allowed).length_le
  rw [List.length_map, List.length_range, List.length_product] at bound
  exact Nat.le_trans bound (Nat.mul_le_mul_left _ (List.length_filterMap_le _ _))

/-- The URIs that a document and those of a library may say. -/
def uris (library : Library) (first : Source) : List String :=
  "" :: (first.values ++ library.flatMap fun (_, source) => source.values)

theorem length_uris_le (library : Library) (first : Source) :
    (uris library first).length ≤
      library.foldl (fun size (_, source) => size + source.size) (first.size + 2) := by
  have sizes (library : Library) (size : Nat) :
      (library.flatMap fun (_, source) => source.values).length + size ≤
        library.foldl (fun size (_, source) => size + source.size) size := by
    induction library generalizing size with
    | nil => simp
    | cons entry rest ih =>
      obtain ⟨location, source⟩ := entry
      have here := Markup.length_values_le source
      have later := ih (size + source.size)
      rw [List.flatMap_cons, List.length_append, List.foldl_cons]
      dsimp only at later ⊢
      omega
  have first' := Markup.length_values_le first
  have all := sizes library (first.size + 2)
  rw [uris, List.length_cons, List.length_append]
  omega

theorem mem_of_resolver {library : Library} {source : Source} (found : library.resolver r = some source) :
    (r.location, source) ∈ library := by
  obtain ⟨before, after, rfl, -⟩ := List.lookup_eq_some_iff.1 found
  exact List.mem_append_right _ List.mem_cons_self

/-- A compile that starts with a document and has asked a library for others. -/
structure Served (library : Library) (first : Source) (c : Compilation) : Prop where
  kept : ∃ namings, Kept (· ∈ uris library first) namings c
  located (ok : c.session.hasFailed = false) {index : Nat} (later : 0 < index)
    (asked : index ≤ c.session.worklist.current) :
    (c.session.worklist.entry index).location ∈ library.map Prod.fst

namespace Served

variable {library : Library} {first : Source}

theorem start (library : Library) (allowUnsupported : Bool) (first : Source) (location : String) :
    Served library first (start allowUnsupported first location) where
  kept := ⟨_, kept_start List.mem_cons_self allowUnsupported first location fun v member _ said =>
    List.mem_cons_of_mem _ (List.mem_append_left _ (Session.values_of_mem_visits member said))⟩
  located _ {index} later asked := by
    have begun : Progress allowUnsupported first location _ _ := .start
    rw [← begun.kept.length] at asked
    exact absurd asked (Nat.not_le.2 later)

theorem supply (served : Served library first c) (wanted : c.request? = some (c', r)) :
    Served library first (c'.supply (library.resolver r)) := by
  obtain ⟨⟨namings, kept⟩, located⟩ := served
  have said : ∀ document ∈ library.resolver r, ∀ v ∈ c'.session.visits document,
      ∀ value ∈ v.node.values, value ∈ uris library first := by
    intro document found v member value said
    refine List.mem_cons_of_mem _ (List.mem_append_right _ ?_)
    exact List.mem_flatMap.2
      ⟨_, mem_of_resolver found, Session.values_of_mem_visits member said⟩
  have next := kept.request wanted
  have tracked := next.tracked List.mem_cons_self _ said
  refine ⟨⟨_, next.supply List.mem_cons_self _ said⟩, fun ok {index} later asked => ?_⟩
  obtain ⟨going, inside, rfl, rfl⟩ := request?_eq_some wanted
  rw [tracked.extends_.current] at asked
  rw [tracked.extends_.location (Nat.lt_of_le_of_lt asked inside)]
  obtain before | rfl := Nat.le_or_eq_of_le_succ asked
  · exact located going later before
  · cases found : library.resolver (c.session.requestFor (c.session.worklist.current + 1)) with
    | none =>
      rw [found, hasFailed_supply_none] at ok
      cases ok
    | some document => exact List.mem_map.2 ⟨_, mem_of_resolver found, rfl⟩

end Served

theorem Served.run {library : Library} {first : Source} (served : Served library first c)
    (limit : Nat) : Served library first (c.run library.resolver limit) := by
  induction limit generalizing c with
  | zero => exact served
  | succ limit ih =>
    unfold Compilation.run
    split
    · exact served
    · rename_i wanted
      exact ih (served.supply wanted)

/-- A compile asks for documents in the order in which tags named them first, for none twice, never
without a location and never after a failure; unless it has failed it asks for all of them.  With a
library it comes to an end. -/
theorem requests_firstNamed (allowUnsupported : Bool) (first : Source) (location : String) :
    (∀ {c : Compilation} {namings : List Naming},
      Progress allowUnsupported first location c namings → c.session.registry.IsSmall →
      c.requests.Nodup ∧
      c.requests.reverse <+: (namings.map Naming.request).eraseDups ∧
      (∀ r ∈ c.requests, r.location ≠ "") ∧
      ((∃ report ∈ c.session.journal.reports, report.problem.severity.isFailure = true) →
        c.request? = none) ∧
      (c.session.hasFailed = false → c.request? = none →
        c.requests.reverse = (namings.map Naming.request).eraseDups)) ∧
    ∀ library : Library, (run library.resolver (library.limit first)
      (start allowUnsupported first location)).request? = none := by
  constructor
  · intro c namings progress small
    have kept := progress.kept
    have accounted := kept.accounted small
    have inside := kept.filed.ordered.current
    have queued : c.requests.reverse <+: c.session.queue := by
      rw [kept.requests small]
      exact Session.queued_prefix (Nat.le_sub_one_of_lt inside)
    refine ⟨?_, queued.trans accounted.queue, fun r asked => ?_, fun ⟨report, member, failure⟩ => ?_,
      fun ok ended => ?_⟩
    · exact List.nodup_reverse.1 ((kept.filed.nodup_queue small).sublist queued.sublist)
    · have named := (queued.trans accounted.queue).subset (List.mem_reverse.2 asked)
      obtain ⟨n, member, rfl⟩ := List.mem_map.1 (List.mem_eraseDups.1 named)
      exact progress.location_ne member
    · exact request?_of_hasFailed (kept.reported report member failure)
    · have last : c.session.worklist.documents.size - 1 = c.session.worklist.current := by
        have none := (request?_eq_none_iff.1 ended).resolve_left (Bool.eq_false_iff.1 ok)
        omega
      rw [accounted.all ok, kept.requests small, Session.queue, last]
  · intro library
    obtain ended | asked := length_run library.resolver (library.limit first)
      (start allowUnsupported first location)
    · exact ended
    · have served := (Served.start library allowUnsupported first location).run
        (library.limit first)
      obtain ⟨⟨namings, kept⟩, located⟩ := served
      -- A compile that goes on after `limit` requests has asked for more pairs than there are.
      by_contra going
      obtain ⟨⟨next, r⟩, wanted⟩ := Option.ne_none_iff_exists'.1 going
      have bound := kept.current_le (located (request?_eq_some wanted).1)
      rw [← kept.length, asked, List.length_map] at bound
      have enough : library.length * (uris library first).length < library.limit first :=
        Nat.lt_succ_of_le (Nat.mul_le_mul_left _ (length_uris_le library first))
      have none : (start allowUnsupported first location).requests.length = 0 := rfl
      omega

/-- A document that includes two others, the first of them twice. -/
def includingTwice : Source :=
  .bytes (["<x:schema xmlns:x='http://www.w3.org/2001/XMLSchema'>", "<x:include schemaLocation='d'/>",
    "<x:include schemaLocation='e'/>", "<x:include schemaLocation='d'/>",
    "</x:schema>"].flatMap Text.Utf8.encodeText)

/-- Two documents, of which the first includes the second. -/
def includedTwice : Library :=
  [("d", .bytes (["<x:schema xmlns:x='http://www.w3.org/2001/XMLSchema'>",
      "<x:include schemaLocation='e'/>", "</x:schema>"].flatMap Text.Utf8.encodeText)),
    ("e", .bytes (Text.Utf8.encodeText "<x:schema xmlns:x='http://www.w3.org/2001/XMLSchema'/>"))]

set_option maxRecDepth 100000 in
theorem requests_firstNamed_includedTwice :
    let c := run includedTwice.resolver 3 (start false includingTwice "")
    c.requests = [⟨"e", ""⟩, ⟨"d", ""⟩] ∧ c.requests.Nodup ∧ ∃ namings,
      Progress false includingTwice "" c namings ∧
        c.requests.reverse = (namings.map Naming.request).eraseDups := by
  have begun : Progress false includingTwice "" _ _ := .start
  have progress := begun.run includedTwice.resolver 3
  have evaluated : (run includedTwice.resolver 3 (start false includingTwice "")).requests =
        [⟨"e", ""⟩, ⟨"d", ""⟩] ∧
      (run includedTwice.resolver 3 (start false includingTwice "")).session.registry.size ≤
        0x40000 ∧
      (run includedTwice.resolver 3 (start false includingTwice "")).session.hasFailed = false ∧
      (run includedTwice.resolver 3 (start false includingTwice "")).request?.isNone = true := by
    decide +kernel
  obtain ⟨asked, small, ok, ended⟩ := evaluated
  obtain ⟨nodup, -, -, -, all⟩ := (requests_firstNamed false includingTwice "").1 progress small
  exact ⟨asked, nodup, _, progress, all ok (Option.isNone_iff_eq_none.1 ended)⟩

end XsdRecords.Compilation
