import Mathlib.Data.List.Nodup
import XsdRecords.Proofs.Session.Documents

/-! # The documents that tags name

A document is named by its location and the URI of its target namespace.  As long as the numbers of
namespaces are small, each of them leads back to its URI, and what a step does to the documents of a
session it does to their names: they stay, the first gets its target namespace, or one is added. -/

namespace XsdRecords

/-- That a tag of the document at a place, of this location and target namespace, names another. -/
structure Naming where
  place : Nat
  namer : Request
  request : Request
  deriving DecidableEq, Repr

namespace Session

open XsdRecords.Markup (Node Source)

variable {IsUri : String → Prop} {s s' : Session} {index : Nat}

/-- The location and the target namespace of the document at a place. -/
def requestFor (s : Session) (index : Nat) : Request :=
  ⟨(s.worklist.entry index).location, s.registry.uri (s.worklist.entry index).target⟩

/-- The first documents that were named. -/
def queued (s : Session) (count : Nat) : List Request :=
  (List.range count).map fun place => s.requestFor (place + 1)

/-- The documents that were named. -/
def queue (s : Session) : List Request :=
  s.queued (s.worklist.documents.size - 1)

/-- The document that a node names, and where it does. -/
def naming (s : Session) (node : Node) : List Naming :=
  (names? s node).toList.map fun request =>
    ⟨s.worklist.current, s.requestFor s.worklist.current, request⟩

/-- The documents that a document names. -/
def namedIn (s : Session) (source : Source) : List Naming :=
  (s.visits source).flatMap fun v => v.session.naming v.node

/-- A tag without a location names no document. -/
theorem location_of_mem_namedIn {s : Session} {source : Source} {n : Naming}
    (member : n ∈ s.namedIn source) : n.request.location ≠ "" := by
  obtain ⟨v, -, member⟩ := List.mem_flatMap.1 member
  obtain ⟨request, named, rfl⟩ := List.mem_map.1 member
  obtain ⟨tag, -, naming⟩ := Option.bind_eq_some_iff.1 (Option.mem_toList.1 named)
  exact (start_of_naming? naming).1

theorem queued_succ (s : Session) (count : Nat) :
    s.queued (count + 1) = s.queued count ++ [s.requestFor (count + 1)] := by
  simp only [queued, List.range_succ, List.map_append, List.map_singleton]

theorem mem_queue {request : Request} : request ∈ s.queue ↔
    ∃ index, 0 < index ∧ index < s.worklist.documents.size ∧ s.requestFor index = request := by
  simp only [queue, queued, List.mem_map, List.mem_range]
  constructor
  · rintro ⟨place, inside, same⟩
    exact ⟨place + 1, Nat.succ_pos place, by omega, same⟩
  · rintro ⟨index, later, inside, same⟩
    exact ⟨index - 1, by omega, by rwa [Nat.sub_add_cancel later]⟩

theorem queued_prefix {count : Nat} (less : count ≤ s.worklist.documents.size - 1) :
    s.queued count <+: s.queue := by
  rw [queue, queued, queued, ← Nat.min_eq_left less, ← List.take_range, List.map_take]
  exact List.take_prefix _ _

/-! ## Numbers and URIs -/

namespace Filed

variable (filed : Filed IsUri s) (small : s.registry.IsSmall)

include filed small

theorem id?_requestFor (inside : index < s.worklist.documents.size) :
    s.registry.id? (s.requestFor index).uri = some (s.worklist.entry index).target := by
  obtain ⟨uri, -, known⟩ := filed.target inside
  rwa [requestFor, Registry.uri_of_id? small known]

theorem register_of_requestFor {request : Request} (inside : index < s.worklist.documents.size)
    (same : s.requestFor index = request) : (s.worklist.entry index).location = request.location ∧
      (s.worklist.entry index).target = (s.registry.register request.uri).2 := by
  have known := filed.id?_requestFor small inside
  rw [same] at known
  rw [Registry.register_of_id? known]
  exact ⟨congrArg Request.location same, rfl⟩

/-- No two documents that were named have both location and target namespace in common. -/
theorem requestFor_injective {i j : Nat} (later : 0 < i) (later' : 0 < j)
    (inside : i < s.worklist.documents.size) (inside' : j < s.worklist.documents.size)
    (same : s.requestFor i = s.requestFor j) : i = j := by
  obtain ⟨location, target⟩ := filed.register_of_requestFor small inside same
  obtain ⟨-, target'⟩ := filed.register_of_requestFor small inside' rfl
  have targets := target.trans target'.symm
  obtain less | rfl | more := Nat.lt_trichotomy i j
  · exact absurd targets (filed.ordered.distinct later less inside' location)
  · rfl
  · exact absurd targets.symm (filed.ordered.distinct later' more inside location.symm)

end Filed

theorem Filed.nodup_queue (filed : Filed IsUri s) (small : s.registry.IsSmall) :
    s.queue.Nodup := by
  refine List.nodup_range.map_on fun i inside j inside' same => ?_
  rw [List.mem_range] at inside inside'
  have places := filed.requestFor_injective small (Nat.succ_pos i) (Nat.succ_pos j) (by omega)
    (by omega) same
  omega

/-! ## Sessions with the same documents -/

/-- The documents of a session and what named them are the same in another. -/
structure Stays (s s' : Session) : Prop where
  size : s'.worklist.documents.size = s.worklist.documents.size
  current : s.worklist.current ≤ s'.worklist.current
  parent (index : Nat) : (s'.worklist.entry index).parent = (s.worklist.entry index).parent
  location (index : Nat) : (s'.worklist.entry index).location = (s.worklist.entry index).location
  request {index : Nat} (inside : index < s.worklist.documents.size) :
    s'.requestFor index = s.requestFor index

/-- What is filed keeps its URI while the registry grows. -/
theorem Filed.requestFor_of_grows (filed : Filed IsUri s) (small : s'.registry.IsSmall)
    (grows : s.registry.Grows s'.registry) (inside : index < s.worklist.documents.size)
    (location : (s'.worklist.entry index).location = (s.worklist.entry index).location)
    (target : (s'.worklist.entry index).target = (s.worklist.entry index).target) :
    s'.requestFor index = s.requestFor index := by
  have known := grows.id? (filed.id?_requestFor (grows.isSmall small) inside)
  rw [Session.requestFor, location, target, Registry.uri_of_id? small known]
  rfl

theorem Filed.stays (filed : Filed IsUri s) (small : s'.registry.IsSmall)
    (grows : s.registry.Grows s'.registry) (agrees : s.worklist.Agrees s'.worklist) :
    Stays s s' where
  size := agrees.size
  current := Nat.le_of_eq agrees.current.symm
  parent := agrees.parent
  location := agrees.location
  request {index} inside :=
    filed.requestFor_of_grows small grows inside (agrees.location index) (agrees.target index)

theorem queue_of_requestFor (size : s'.worklist.documents.size = s.worklist.documents.size)
    (requests : ∀ {index : Nat}, 0 < index → index < s.worklist.documents.size →
      s'.requestFor index = s.requestFor index) : s'.queue = s.queue := by
  rw [queue, queue, size]
  refine List.map_congr_left fun place inside => ?_
  rw [List.mem_range] at inside
  exact requests (Nat.succ_pos place) (by omega)

namespace Stays

variable (stays : Stays s s')

include stays

theorem queue : s'.queue = s.queue :=
  queue_of_requestFor stays.size fun _ => stays.request

theorem under : s'.worklist.Under = s.worklist.Under := by
  unfold Worklist.Under
  simp only [stays.parent]

end Stays

/-- The first document gets its target namespace; all others stay as they are. -/
structure Targets (s s' : Session) : Prop where
  first : s.worklist.current = 0
  size : s'.worklist.documents.size = s.worklist.documents.size
  current : s'.worklist.current = s.worklist.current
  parent (index : Nat) : (s'.worklist.entry index).parent = (s.worklist.entry index).parent
  location (index : Nat) : (s'.worklist.entry index).location = (s.worklist.entry index).location
  request {index : Nat} (later : 0 < index) (inside : index < s.worklist.documents.size) :
    s'.requestFor index = s.requestFor index
  before : s.requestFor 0 = ⟨(s.worklist.entry 0).location, ""⟩
  other : s'.requestFor 0 ≠ s.requestFor 0

theorem Filed.stays_or_targets (filed : Filed IsUri s) (small : s'.registry.IsSmall) {uri : String}
    (opens : OpensSchema s uri s') : Stays s s' ∨ Targets s s' := by
  have grows : s.registry.Grows s'.registry := opens.registry ▸ s.registry.grows_register uri
  obtain same | ⟨isTop, f, changed, retargets⟩ := opens.worklist
  · exact .inl (filed.stays small grows (same ▸ .refl _))
  have first := filed.current_of_kind isTop
  have inside := Nat.zero_lt_of_lt filed.ordered.current
  have size : s'.worklist.documents.size = s.worklist.documents.size := by
    rw [changed, Worklist.size_modifyCurrent]
  have current : s'.worklist.current = s.worklist.current := by
    rw [changed, Worklist.current_modifyCurrent]
  have others {index : Nat} (later : 0 < index) :
      s'.worklist.entry index = s.worklist.entry index := by
    rw [changed, Worklist.entry_modifyCurrent_of_ne (first ▸ Nat.ne_of_gt later)]
  have top : s'.worklist.entry 0 = f (s.worklist.entry 0) := by
    have entry := Worklist.currentEntry_modifyCurrent filed.ordered.current f
    rwa [← changed, Worklist.currentEntry, Worklist.currentEntry, current, first] at entry
  have top := top ▸ retargets (s.worklist.entry 0)
  have parent (index : Nat) :
      (s'.worklist.entry index).parent = (s.worklist.entry index).parent := by
    obtain rfl | later := Nat.eq_zero_or_pos index
    · exact top.parent
    · rw [others later]
  have location (index : Nat) :
      (s'.worklist.entry index).location = (s.worklist.entry index).location := by
    obtain rfl | later := Nat.eq_zero_or_pos index
    · exact top.location
    · rw [others later]
  have request {index : Nat} (later : 0 < index) (inside : index < s.worklist.documents.size) :
      s'.requestFor index = s.requestFor index :=
    filed.requestFor_of_grows small grows inside (location index) (by rw [others later])
  by_cases same : s'.requestFor 0 = s.requestFor 0
  · refine .inl ⟨size, Nat.le_of_eq current.symm, parent, location, fun {index} inside => ?_⟩
    obtain rfl | later := Nat.eq_zero_or_pos index
    · exact same
    · exact request later inside
  · refine .inr ⟨first, size, current, parent, location, request, ?_, same⟩
    obtain still | ⟨none, -⟩ := top.target
    · exact absurd (filed.requestFor_of_grows small grows inside (location 0) still) same
    · rw [requestFor, none, Registry.uri_none]

/-- A document that was not named before is named. -/
structure Adds (s : Session) (request : Request) (s' : Session) : Prop where
  size : s'.worklist.documents.size = s.worklist.documents.size + 1
  current : s'.worklist.current = s.worklist.current
  entry {index : Nat} (inside : index < s.worklist.documents.size) :
    s'.worklist.entry index = s.worklist.entry index
  parent : (s'.worklist.entry s.worklist.documents.size).parent = some s.worklist.current
  old {index : Nat} (inside : index < s.worklist.documents.size) :
    s'.requestFor index = s.requestFor index
  last : s'.requestFor s.worklist.documents.size = request
  isNew {index : Nat} (inside : index < s.worklist.documents.size) :
    s.requestFor index ≠ request

section Adds

variable {request : Request} (adds : Adds s request s')

include adds

theorem Adds.not_mem_queue : request ∉ s.queue := by
  rw [mem_queue]
  rintro ⟨index, -, inside, same⟩
  exact adds.isNew inside same

theorem Adds.under (ordered : s.worklist.Ordered) {found : Nat}
    (inside : index < s.worklist.documents.size) (under : s'.worklist.Under index found) :
    s.worklist.Under index found := by
  induction under using Relation.ReflTransGen.head_induction_on with
  | refl => exact .refl
  | head named _ ih =>
    rw [adds.entry inside] at named
    exact .head named (ih (Nat.lt_trans (ordered.parent_lt inside named) inside))

theorem Adds.queue (inside : s.worklist.current < s.worklist.documents.size) :
    s'.queue = s.queue ++ [request] := by
  obtain ⟨last, size⟩ := Nat.exists_eq_add_of_lt inside
  have size : s.worklist.documents.size - 1 + 1 = s.worklist.documents.size := by omega
  rw [Session.queue, adds.size, Nat.add_sub_cancel, ← size, queued_succ, size, adds.last,
    Session.queue]
  congr 1
  refine List.map_congr_left fun place less => adds.old ?_
  rw [List.mem_range] at less
  omega

end Adds

theorem Filed.stays_or_adds (filed : Filed IsUri s) (small : s'.registry.IsSmall)
    {request : Request} (registry : s'.registry = (s.registry.register request.uri).1)
    (queues : Queues s.worklist request.location (s.registry.register request.uri).2 s'.worklist) :
    (Stays s s' ∧ ∃ index, 0 < index ∧ index < s.worklist.documents.size ∧
      s.requestFor index = request ∧ ¬s.worklist.Under s.worklist.current index) ∨
    Adds s request s' := by
  have grows : s.registry.Grows s'.registry := registry ▸ s.registry.grows_register request.uri
  have known : s'.registry.uri (s.registry.register request.uri).2 = request.uri :=
    Registry.uri_of_id? small (registry ▸ Registry.id?_register _ _)
  cases queues with
  | known diamond same =>
    have stays := filed.stays small grows (same ▸ .refl _)
    obtain ⟨found, here, later, apart⟩ := filed.ordered.not_under_of_classify_diamond diamond
    obtain ⟨inside, location, target⟩ := Worklist.find?_eq_some here
    refine .inl ⟨stays, found, later, inside, ?_, apart⟩
    rw [← stays.request inside, requestFor, same, location, target, known]
  | new isNew kind nested bindings pushed =>
    have isNew := Worklist.classify_eq_new_iff.1 isNew
    have old {index : Nat} (inside : index < s.worklist.documents.size) :
        s'.worklist.entry index = s.worklist.entry index := by
      rw [pushed, Worklist.entry_push _ inside]
    have last := Worklist.entry_push_size (w := s.worklist)
      ⟨kind, some s.worklist.current, request.location, (s.registry.register request.uri).2, bindings⟩
    rw [← pushed] at last
    refine .inr ⟨by rw [pushed, Worklist.size_push], by rw [pushed, Worklist.current_push], old,
      by rw [last], fun inside => ?_, ?_, fun {index} inside same => ?_⟩
    · exact filed.requestFor_of_grows small grows inside (by rw [old inside]) (by rw [old inside])
    · rw [requestFor, last, known]
    · obtain ⟨location, target⟩ :=
        filed.register_of_requestFor (grows.isSmall small) inside same
      exact Worklist.not_of_find?_eq_none isNew inside location target

end Session

end XsdRecords
