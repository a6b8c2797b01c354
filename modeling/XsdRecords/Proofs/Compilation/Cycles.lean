import XsdRecords.Proofs.Compilation.Progress

/-! # Recursive inclusion

A compile fails for recursion when a document names one on the way by which it was found itself, from
each document back to the one that named it first: `LedTo`.  Such a failure comes from a cycle of the
documents that name each other, but there are cycles in which every document was found on another
way, and these compile. -/

namespace XsdRecords.Compilation

open XsdRecords.Markup (Source)

variable {c : Compilation} {namings : List Naming} {a b : Request}

/-- One document names another. -/
def Names (namings : List Naming) (a b : Request) : Prop :=
  ∃ n ∈ namings, n.namer = a ∧ n.request = b

/-- The document that named another first. -/
def namer? (namings : List Naming) (request : Request) : Option Request :=
  (namings.find? (·.request = request)).map Naming.namer

/-- A document is on the way by which another was found, or is this document. -/
abbrev LedTo (namings : List Naming) : Request → Request → Prop :=
  Relation.ReflTransGen fun request namer => namer? namings request = some namer

theorem request_of_find? {n : Naming} (found : namings.find? (·.request = a) = some n) :
    n ∈ namings ∧ n.request = a :=
  ⟨List.mem_of_find?_eq_some found, by simpa using List.find?_some found⟩

theorem names_of_namer? (first : namer? namings a = some b) : Names namings b a := by
  obtain ⟨n, found, rfl⟩ := Option.map_eq_some_iff.1 first
  obtain ⟨member, request⟩ := request_of_find? found
  exact ⟨n, member, rfl, request⟩

/-- The way by which a document was found leads to it along the documents that name each other. -/
theorem LedTo.names (ledTo : LedTo namings a b) : Relation.ReflTransGen (Names namings) b a := by
  induction ledTo with
  | refl => exact .refl
  | tail _ first ih => exact .head (names_of_namer? first) ih

/-- Where no document is named by two others, every document that leads to another led to it. -/
theorem ledTo_of_names (alone : ∀ n ∈ namings, ∀ m ∈ namings, n.request = m.request →
      n.namer = m.namer) (names : Relation.ReflTransGen (Names namings) b a) :
    LedTo namings a b := by
  induction names using Relation.ReflTransGen.head_induction_on with
  | refl => exact .refl
  | head step _ ih =>
    obtain ⟨n, member, rfl, rfl⟩ := step
    have found : (namings.find? (·.request = n.request)).isSome :=
      List.find?_isSome.2 ⟨n, member, decide_eq_true rfl⟩
    obtain ⟨m, found⟩ := Option.isSome_iff_exists.1 found
    obtain ⟨member', same⟩ := request_of_find? found
    refine ih.tail ?_
    rw [namer?, found, Option.map_some, alone m member' n member same]

/-! ## The way back in the worklist -/

section

variable {IsUri : String → Prop} {s : Session} (filed : s.Filed IsUri)
  (listed : s.Listed namings)
  (settled : ∀ n ∈ namings, n.place = 0 → n.namer = s.requestFor 0)

include listed settled

theorem namer_eq {n : Naming} (member : n ∈ namings) : n.namer = s.requestFor n.place := by
  obtain own | ⟨first, -⟩ := listed.namer member
  · exact own
  · rw [first]
    exact settled n member first

theorem requestFor_ne_top {index : Nat} (later : 0 < index)
    (inside : index < s.worklist.documents.size) : s.requestFor index ≠ s.requestFor 0 := by
  intro same
  obtain ⟨n, member, first, other⟩ := listed.top later inside same
  exact other (settled n member first)

include filed

theorem ledTo_of_under {index found : Nat} (inside : index < s.worklist.documents.size)
    (under : s.worklist.Under index found) :
    LedTo namings (s.requestFor index) (s.requestFor found) := by
  induction under using Relation.ReflTransGen.head_induction_on with
  | refl => exact .refl
  | @head index parent named _ ih =>
    have less := filed.ordered.parent_lt inside named
    obtain ⟨n, first, place⟩ := listed.first (Nat.zero_lt_of_lt less) inside
    obtain rfl : parent = n.place := Option.some.inj (named.symm.trans place)
    have namer := namer_eq listed settled (request_of_find? first).1
    refine .head ?_ (ih (Nat.lt_trans less inside))
    rw [namer?, first, Option.map_some, namer]

/-- Unless reading has failed, the way by which a document was found is its way back in the
worklist. -/
theorem under_of_ledTo (all : ∀ n ∈ namings, ∃ index, 0 < index ∧
      index < s.worklist.documents.size ∧ s.requestFor index = n.request)
    {index : Nat} (inside : index < s.worklist.documents.size)
    (ledTo : LedTo namings (s.requestFor index) a) :
    ∃ found, found < s.worklist.documents.size ∧ s.worklist.Under index found ∧
      s.requestFor found = a := by
  induction ledTo with
  | refl => exact ⟨index, inside, .refl, rfl⟩
  | tail _ first ih =>
    obtain ⟨here, within, under, rfl⟩ := ih
    obtain ⟨n, found, rfl⟩ := Option.map_eq_some_iff.1 first
    obtain ⟨member, request⟩ := request_of_find? found
    have later : 0 < here := by
      refine Nat.pos_of_ne_zero ?_
      rintro rfl
      obtain ⟨other, later, inside, same⟩ := all n member
      exact requestFor_ne_top listed settled later inside (same.trans request)
    obtain ⟨m, found', parent⟩ := listed.first later within
    obtain rfl : n = m := Option.some.inj (found.symm.trans found')
    exact ⟨n.place, Nat.lt_of_le_of_lt (listed.place member) filed.ordered.current,
      under.tail parent, (namer_eq listed settled member).symm⟩

end

/-! ## Failures for recursion -/

/-- A compile that can fail for recursion alone fails exactly if a document names one that led to it.
Then documents name each other in a cycle that the first leads to; where no document is named by two
others, the compile fails at every such cycle. -/
theorem recursion_iff_ledTo {allowUnsupported : Bool} {first : Source} {location : String}
    (progress : Progress allowUnsupported first location c namings)
    (small : c.session.registry.IsSmall)
    (settled : ∀ n ∈ namings, n.place = 0 → n.namer = c.session.requestFor 0)
    (only : ∀ report ∈ c.session.journal.reports, report.problem.severity.isFailure = true →
      report.problem.isRecursion = true) :
    (c.session.hasFailed = true ↔ ∃ n ∈ namings, LedTo namings n.namer n.request) ∧
    (c.session.hasFailed = true → ∃ request,
      Relation.ReflTransGen (Names namings) (c.session.requestFor 0) request ∧
        Relation.TransGen (Names namings) request request) ∧
    ((∀ n ∈ namings, ∀ m ∈ namings, n.request = m.request → n.namer = m.namer) →
      ∀ {request}, Relation.TransGen (Names namings) request request →
        c.session.hasFailed = true) := by
  have kept := progress.kept
  have filed := kept.filed
  have accounted := kept.accounted small
  have listed := accounted.toListed
  have within {n : Naming} (member : n ∈ namings) :
      n.place < c.session.worklist.documents.size :=
    Nat.lt_of_le_of_lt (listed.place member) filed.ordered.current
  have recursive (failed : c.session.hasFailed = true) :
      ∃ n ∈ namings, LedTo namings n.namer n.request := by
    obtain ⟨report, member, failure, other⟩ | ⟨n, member, index, under, same⟩ :=
      accounted.recursive failed
    · rw [only report member failure] at other
      cases other
    · refine ⟨n, member, ?_⟩
      rw [namer_eq listed settled member, ← same]
      exact ledTo_of_under filed listed settled (within member) under
  have fails {n : Naming} (member : n ∈ namings) (ledTo : LedTo namings n.namer n.request) :
      c.session.hasFailed = true := by
    rw [← Bool.not_eq_false]
    intro ok
    obtain ⟨index, later, inside, same, apart⟩ := accounted.apart ok member
    rw [namer_eq listed settled member] at ledTo
    obtain ⟨found, inside', under, same'⟩ := under_of_ledTo filed listed settled
      (fun m member => by
        obtain ⟨index, later, inside, same, -⟩ := accounted.apart ok member
        exact ⟨index, later, inside, same⟩) (within member) ledTo
    obtain rfl | later' := Nat.eq_zero_or_pos found
    · exact requestFor_ne_top listed settled later inside (same.trans same'.symm)
    · obtain rfl := filed.requestFor_injective small later later' inside inside'
        (same.trans same'.symm)
      exact apart under
  refine ⟨⟨recursive, fun ⟨n, member, ledTo⟩ => fails member ledTo⟩, fun failed => ?_,
    fun alone request cycle => ?_⟩
  -- The way by which the namer was found, turned round, leads to the cycle and goes along it.
  · obtain ⟨n, member, ledTo⟩ := recursive failed
    have start := ledTo_of_under filed listed settled (within member)
      (filed.ordered.under_zero (within member))
    rw [← namer_eq listed settled member] at start
    have last : Names namings n.namer n.request := ⟨n, member, rfl, rfl⟩
    exact ⟨n.request, (LedTo.names start).tail last, .tail' (LedTo.names ledTo) last⟩
  · obtain ⟨last, path, n, member, rfl, rfl⟩ := Relation.TransGen.tail'_iff.1 cycle
    exact fails member (ledTo_of_names alone path)

/-- Two documents that include each other. -/
def cyclic : Library :=
  [("b", .bytes (["<x:schema xmlns:x='http://www.w3.org/2001/XMLSchema'>",
      "<x:include schemaLocation='c'/>", "</x:schema>"].flatMap Text.Utf8.encodeText)),
    ("c", .bytes (["<x:schema xmlns:x='http://www.w3.org/2001/XMLSchema'>",
      "<x:include schemaLocation='b'/>", "</x:schema>"].flatMap Text.Utf8.encodeText))]

/-- A document that includes the first of them. -/
def includingOne : Source :=
  .bytes (["<x:schema xmlns:x='http://www.w3.org/2001/XMLSchema'>", "<x:include schemaLocation='b'/>",
    "</x:schema>"].flatMap Text.Utf8.encodeText)

/-- A document that includes both. -/
def includingBoth : Source :=
  .bytes (["<x:schema xmlns:x='http://www.w3.org/2001/XMLSchema'>", "<x:include schemaLocation='b'/>",
    "<x:include schemaLocation='c'/>", "</x:schema>"].flatMap Text.Utf8.encodeText)

/-- All that the tags of a document name, and of those that it leads to. -/
def allNamed (source : Source) : List Naming :=
  (Session.start "a" false).namedIn source ++ named cyclic.resolver 3 (start false source "a")

set_option maxRecDepth 100000 in
theorem recursion_iff_ledTo_includingOne :
    let c := run cyclic.resolver 3 (start false includingOne "a")
    c.session.hasFailed = true ∧
      ∃ n ∈ allNamed includingOne, LedTo (allNamed includingOne) n.namer n.request := by
  have begun : Progress false includingOne "a" _ _ := .start
  have progress := begun.run cyclic.resolver 3
  have evaluated :
      (run cyclic.resolver 3 (start false includingOne "a")).session.hasFailed = true ∧
      (run cyclic.resolver 3 (start false includingOne "a")).session.registry.size ≤ 0x40000 ∧
      (∀ n ∈ allNamed includingOne, n.place = 0 → n.namer =
        (run cyclic.resolver 3 (start false includingOne "a")).session.requestFor 0) ∧
      ∀ report ∈ (run cyclic.resolver 3 (start false includingOne "a")).session.journal.reports,
        report.problem.severity.isFailure = true → report.problem.isRecursion = true := by
    decide +kernel
  obtain ⟨failed, small, settled, only⟩ := evaluated
  exact ⟨failed, (recursion_iff_ledTo progress small settled only).1.1 failed⟩

set_option maxRecDepth 100000 in
/-- The cycle of two documents fails the compile of a document that includes one of them, but not that
of a document that includes both. -/
theorem cycle_accepted_includingBoth :
    let c := run cyclic.resolver 3 (start false includingBoth "a")
    c.request? = none ∧ c.session.hasFailed = false ∧
      (∃ request, Relation.ReflTransGen (Names (allNamed includingBoth)) (c.session.requestFor 0)
        request ∧ Relation.TransGen (Names (allNamed includingBoth)) request request) ∧
      ∃ report ∈ (run cyclic.resolver 3 (start false includingOne "a")).session.journal.reports,
        report.problem.isRecursion = true := by
  have evaluated :
      (run cyclic.resolver 3 (start false includingBoth "a")).request?.isNone = true ∧
      (run cyclic.resolver 3 (start false includingBoth "a")).session.hasFailed = false ∧
      (run cyclic.resolver 3 (start false includingBoth "a")).session.requestFor 0 = ⟨"a", ""⟩ ∧
      allNamed includingBoth = [⟨0, ⟨"a", ""⟩, ⟨"b", ""⟩⟩, ⟨0, ⟨"a", ""⟩, ⟨"c", ""⟩⟩,
        ⟨1, ⟨"b", ""⟩, ⟨"c", ""⟩⟩, ⟨2, ⟨"c", ""⟩, ⟨"b", ""⟩⟩] ∧
      ∃ report ∈ (run cyclic.resolver 3 (start false includingOne "a")).session.journal.reports,
        report.problem.isRecursion = true := by
    decide +kernel
  obtain ⟨ended, ok, top, all, recursive⟩ := evaluated
  refine ⟨Option.isNone_iff_eq_none.1 ended, ok, ⟨⟨"b", ""⟩, ?_, ?_⟩, recursive⟩
  · rw [top, all]
    exact .single ⟨_, List.mem_cons_self, rfl, rfl⟩
  · rw [all]
    exact .tail (.single ⟨⟨1, ⟨"b", ""⟩, ⟨"c", ""⟩⟩, by simp, rfl, rfl⟩)
      ⟨⟨2, ⟨"c", ""⟩, ⟨"b", ""⟩⟩, by simp, rfl, rfl⟩

end XsdRecords.Compilation
