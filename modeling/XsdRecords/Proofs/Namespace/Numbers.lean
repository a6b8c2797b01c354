import Mathlib.Data.List.Basic
import Mathlib.Data.List.Induction
import XsdRecords.Proofs.Namespace.Registry

/-! # The numbers of a history

URIs are registered one after another.  Each registration answers the number that the registry has
for the URI ever after, and the URIs without a fixed number are numbered in the order in which they
were first met.  Their numbers count up towards the fixed ones: different URIs have different
numbers, and each number leads back to its URI, exactly as long as no more than 262144 of them are
registered, and none of them has the number of made-up names exactly as long as 261144 are. -/

namespace XsdRecords

/-- An entry at the end of a list is a new one exactly if it is not among those before. -/
theorem eraseDups_concat {α : Type} [DecidableEq α] (l : List α) (a : α) :
    (l ++ [a]).eraseDups = if a ∈ l then l.eraseDups else l.eraseDups ++ [a] := by
  rw [List.eraseDups_append]
  by_cases member : a ∈ l <;> simp [List.removeAll, List.eraseDups_cons, member]

namespace Registry

variable {r : Registry} {uri : String} {id : NamespaceId}

/-- Whether a URI gets its number from a registry: it is not empty and its number is not fixed. -/
def isNumbered (uri : String) : Bool :=
  uri ≠ "" && fixedNamespaces.all fun (_, known) => known ≠ uri

/-- Registers URIs one after another and collects the numbers that this answers. -/
def registerAll (r : Registry) : List String → Registry × List NamespaceId
  | [] => (r, [])
  | uri :: rest =>
    let (r, id) := r.register uri
    let (r, ids) := r.registerAll rest
    (r, id :: ids)

/-- The registry that knew nothing before these URIs were registered. -/
def ofHistory (uris : List String) : Registry :=
  (registerAll default uris).1

/-- The numbers that the registrations of a history were answered. -/
def answers (uris : List String) : List NamespaceId :=
  (registerAll default uris).2

theorem registerAll_concat (r : Registry) (uris : List String) (uri : String) :
    (r.registerAll (uris ++ [uri])).1 = ((r.registerAll uris).1.register uri).1 := by
  induction uris generalizing r with
  | nil => rfl
  | cons first rest ih => exact ih (r.register first).1

theorem grows_registerAll (r : Registry) (uris : List String) :
    r.Grows (r.registerAll uris).1 := by
  induction uris generalizing r with
  | nil => exact .refl
  | cons first rest ih => exact (r.grows_register first).trans (ih _)

theorem proper_ofHistory (uris : List String) : (ofHistory uris).Proper :=
  (grows_registerAll default uris).proper proper_default

/-- What a registration was answered stays the number of the URI. -/
theorem answers_registerAll (r : Registry) (uris : List String) :
    (r.registerAll uris).2.map some = uris.map (r.registerAll uris).1.id? := by
  induction uris generalizing r with
  | nil => rfl
  | cons first rest ih =>
    have kept := (grows_registerAll (r.register first).1 rest).id? (id?_register r first)
    exact congrArg₂ List.cons kept.symm (ih (r.register first).1)

/-! ## Which URIs are numbered -/

theorem isNumbered_iff :
    isNumbered uri = true ↔ uri ≠ "" ∧ ∀ entry ∈ fixedNamespaces, entry.2 ≠ uri := by
  simp [isNumbered]

/-- The number of a URI that is numbered is told by its place. -/
theorem id?_of_isNumbered (numbered : isNumbered uri = true) :
    r.id? uri = r.places[uri]?.map .ofCount := by
  obtain ⟨named, unfixed⟩ := isNumbered_iff.1 numbered
  have none : fixedNamespaces.find? (fun (_, known) => known = uri) = none := by
    rw [List.find?_eq_none]
    intro entry member same
    exact unfixed entry member (of_decide_eq_true same)
  rw [id?, if_neg named, none]

/-- The other URIs have their numbers from the start. -/
theorem isSome_id?_of_not_isNumbered (other : ¬isNumbered uri = true) (r : Registry) :
    (r.id? uri).isSome = true := by
  by_cases empty : uri = ""
  · rw [empty, id?_empty]
    rfl
  · rw [isNumbered_iff, not_and] at other
    obtain ⟨entry, member, same⟩ : ∃ entry ∈ fixedNamespaces, entry.2 = uri := by
      simpa using other empty
    rw [← same, id?_of_mem_fixedNamespaces member]
    rfl

theorem mem_uris_iff : uri ∈ r.uris.toList ↔ ∃ place, r.places[uri]? = some place := by
  rw [List.mem_iff_getElem?]
  simp only [Array.getElem?_toList, getElem?_places]

/-- A URI has no number exactly if it is to be numbered and is not registered yet. -/
theorem id?_eq_none_iff : r.id? uri = none ↔ isNumbered uri = true ∧ uri ∉ r.uris.toList := by
  by_cases numbered : isNumbered uri = true
  · rw [id?_of_isNumbered numbered, Option.map_eq_none_iff, mem_uris_iff, not_exists,
      and_iff_right numbered, Option.eq_none_iff_forall_ne_some]
  · have known := isSome_id?_of_not_isNumbered numbered r
    refine iff_of_false (fun none => ?_) fun both => numbered both.1
    rw [none] at known
    cases known

/-- The URIs with places are those to be numbered, in the order in which they were first met. -/
theorem uris_ofHistory (uris : List String) :
    (ofHistory uris).uris.toList = (uris.filter isNumbered).eraseDups := by
  induction uris using List.reverseRecOn with
  | nil => rfl
  | append_singleton uris uri ih =>
    rw [ofHistory, registerAll_concat, ← ofHistory, List.filter_append]
    cases known : (ofHistory uris).id? uri with
    | none =>
      obtain ⟨numbered, new⟩ := id?_eq_none_iff.1 known
      rw [ih, List.mem_eraseDups] at new
      rw [register_of_new known, uris_push, Array.toList_push, ih, List.filter_singleton, numbered,
        cond_true, eraseDups_concat, if_neg new]
    | some id =>
      rw [register_of_id? known, ih]
      by_cases numbered : isNumbered uri = true
      · have met : uri ∈ uris.filter isNumbered := by
          rw [← List.mem_eraseDups, ← ih]
          by_contra new
          rw [id?_eq_none_iff.2 ⟨numbered, new⟩] at known
          cases known
        rw [List.filter_singleton, numbered, cond_true, eraseDups_concat, if_pos met]
      · rw [List.filter_singleton, Bool.eq_false_iff.2 numbered, cond_false, List.append_nil]

theorem isNumbered_of_place {uris : List String} {place : Nat}
    (found : (ofHistory uris).uris[place]? = some uri) : isNumbered uri = true := by
  have member : uri ∈ (ofHistory uris).uris.toList :=
    List.mem_iff_getElem?.2 ⟨place, by rwa [Array.getElem?_toList]⟩
  rw [uris_ofHistory, List.mem_eraseDups] at member
  exact (List.mem_filter.1 member).2

/-! ## How far numbers can be told apart -/

/-- Different URIs have different numbers. -/
def IsInjective (r : Registry) : Prop :=
  ∀ {uri uri' : String} {id : NamespaceId}, r.id? uri = some id → r.id? uri' = some id → uri = uri'

/-- Every number leads back to its URI. -/
def LeadsBack (r : Registry) : Prop :=
  ∀ {uri : String} {id : NamespaceId}, r.id? uri = some id → r.uri id = uri

/-- The numbers that are not to be given to a URI: that of no namespace, that of made-up names, and
the fixed ones. -/
def reservedNumbers : List NamespaceId :=
  .none :: .anonymous :: fixedNamespaces.map (·.1)

/-- No URI that is numbered has a reserved number. -/
def IsUnreserved (r : Registry) : Prop :=
  ∀ {uri : String} {id : NamespaceId}, isNumbered uri = true → r.id? uri = some id →
    id ∉ reservedNumbers

theorem LeadsBack.isInjective (back : r.LeadsBack) : r.IsInjective := fun known known' => by
  rw [← back known, ← back known']

/-- The URI that is met when 262144 others have places gets the first of the fixed numbers. -/
theorem exists_collision {uris : List String} (large : ¬(ofHistory uris).IsSmall) :
    ∃ uri, isNumbered uri = true ∧ (ofHistory uris).id? uri = some .xmlns := by
  rw [IsSmall, Nat.not_le] at large
  have found := Array.getElem?_eq_getElem large
  have number : NamespaceId.ofCount 0x40000 = .xmlns := by decide +kernel
  exact ⟨_, isNumbered_of_place found, number ▸ proper_ofHistory uris found⟩

theorem isInjective_ofHistory_iff (uris : List String) :
    (ofHistory uris).IsInjective ↔ (ofHistory uris).IsSmall := by
  refine ⟨fun injective => ?_, fun small => LeadsBack.isInjective fun known => uri_of_id? small known⟩
  by_contra large
  obtain ⟨uri, numbered, known⟩ := exists_collision large
  have member : (NamespaceId.xmlns, "http://www.w3.org/2000/xmlns/") ∈ fixedNamespaces :=
    List.mem_cons_self
  have same := injective known (id?_of_mem_fixedNamespaces member _)
  rw [same] at numbered
  exact absurd numbered (by decide)

theorem leadsBack_ofHistory_iff (uris : List String) :
    (ofHistory uris).LeadsBack ↔ (ofHistory uris).IsSmall :=
  ⟨fun back => (isInjective_ofHistory_iff uris).1 back.isInjective,
    fun small _ _ known => uri_of_id? small known⟩

theorem isUnreserved_ofHistory_iff (uris : List String) :
    (ofHistory uris).IsUnreserved ↔ (ofHistory uris).size ≤ 261144 := by
  constructor
  · intro unreserved
    by_contra large
    -- The URI that is met when 261144 others have places gets the number of made-up names.
    have bound : 261144 < (ofHistory uris).uris.size := Nat.lt_of_not_le large
    have found := Array.getElem?_eq_getElem bound
    have known := proper_ofHistory uris found
    rw [ofCount_of_lt (by omega)] at known
    exact unreserved (isNumbered_of_place found) known (List.mem_cons_of_mem _ List.mem_cons_self)
  · intro small uri id numbered known
    rw [id?_of_isNumbered numbered] at known
    obtain ⟨place, placed, rfl⟩ := Option.map_eq_some_iff.1 known
    have inside := (Array.getElem?_eq_some_iff.1 (((ofHistory uris).getElem?_places uri place).1
      placed)).1
    have less : place < 261144 := Nat.lt_of_lt_of_le inside small
    rw [ofCount_of_lt (by omega)]
    simp only [reservedNumbers, fixedNamespaces, List.map_cons, List.map_nil, List.mem_cons,
      List.not_mem_nil, or_false, NamespaceId.none, NamespaceId.anonymous, NamespaceId.xmlns,
      NamespaceId.xml, NamespaceId.xmlSchema, NamespaceId.xmlSchemaInstance,
      NamespaceId.annotations, NamespaceId.firstFixed, NamespaceId.mk.injEq]
    omega

/-- Whatever is registered in whatever order, a URI is answered the same number each time, and the
registry has this number for it from then on; the empty URI and those with fixed numbers have
theirs, and all others are numbered in the order in which they were first met.  Different URIs have
different numbers, and every number leads back to its URI, exactly as long as at most 262144 URIs
are numbered, and none of these has a reserved number exactly as long as at most 261144 are. -/
theorem ofHistory_numbers (uris : List String) :
    (answers uris).map some = uris.map (ofHistory uris).id? ∧
      (∀ {r : Registry} {uri : String} {id : NamespaceId}, (ofHistory uris).Grows r →
        (ofHistory uris).id? uri = some id → r.id? uri = some id) ∧
      (ofHistory uris).id? "" = some .none ∧
      (∀ entry ∈ fixedNamespaces, (ofHistory uris).id? entry.2 = some entry.1 ∧
        (ofHistory uris).uri entry.1 = entry.2) ∧
      (ofHistory uris).uris.toList = (uris.filter isNumbered).eraseDups ∧
      (∀ {place : Nat} {uri : String}, (ofHistory uris).uris[place]? = some uri →
        (ofHistory uris).id? uri = some (.ofCount place)) ∧
      ((ofHistory uris).IsInjective ↔ (uris.filter isNumbered).eraseDups.length ≤ 262144) ∧
      ((ofHistory uris).LeadsBack ↔ (uris.filter isNumbered).eraseDups.length ≤ 262144) ∧
      ((ofHistory uris).IsUnreserved ↔ (uris.filter isNumbered).eraseDups.length ≤ 261144) := by
  have numbered := uris_ofHistory uris
  have size : (uris.filter isNumbered).eraseDups.length = (ofHistory uris).size := by
    rw [← numbered, Array.length_toList, size]
  have fixed (entry : NamespaceId × String) (member : entry ∈ fixedNamespaces) :
      (ofHistory uris).uri entry.1 = entry.2 := by
    rw [Registry.uri, find?_fixedNamespaces member]
  rw [size]
  exact ⟨answers_registerAll default uris, fun grows known => grows.id? known, id?_empty _,
    fun entry member => ⟨id?_of_mem_fixedNamespaces member _, fixed entry member⟩, numbered,
    fun found => proper_ofHistory uris found, isInjective_ofHistory_iff uris,
    leadsBack_ofHistory_iff uris, isUnreserved_ofHistory_iff uris⟩

end Registry

end XsdRecords
