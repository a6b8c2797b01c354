import Mathlib.Data.List.Dedup
import Mathlib.Data.List.Induction
import Mathlib.Data.List.Sort
import XsdRecords.Layout.RecordSchema
import XsdRecords.Proofs.Text.Bytes

/-! # What becomes of a list of enumerators

An enumeration takes enumerators one after another and leaves out each whose name or id is taken.
In alphabetical order nothing is left of their ids and of the order they came in: the enumeration is
that of the set of its names. -/

namespace XsdRecords.Layout

/-! ## Enumerators one after another -/

/-- The enumerators with one more, unless its name or its id is taken. -/
def enroll (taken : List Enumerator) (entry : String × Int) : List Enumerator :=
  if taken.any fun x => x.name = entry.1 || x.id = entry.2 then taken
  else taken ++ [⟨entry.1, entry.2⟩]

/-- What an enumeration takes of a list of enumerators. -/
def enrolled (entries : List (String × Int)) : List Enumerator :=
  entries.foldl enroll []

theorem enrolled_append_singleton (entries : List (String × Int)) (entry : String × Int) :
    enrolled (entries ++ [entry]) = enroll (enrolled entries) entry := by
  rw [enrolled, List.foldl_append]
  rfl

theorem any_taken_iff {taken : List Enumerator} {entry : String × Int} :
    (taken.any fun x => x.name = entry.1 || x.id = entry.2) = true ↔
      ∃ x ∈ taken, x.name = entry.1 ∨ x.id = entry.2 := by
  simp only [List.any_eq_true, Bool.or_eq_true, decide_eq_true_eq]

/-- An enumerator is left out exactly if its name or its id is taken. -/
theorem enroll_eq_self_iff {taken : List Enumerator} {entry : String × Int} :
    enroll taken entry = taken ↔ ∃ x ∈ taken, x.name = entry.1 ∨ x.id = entry.2 := by
  rw [← any_taken_iff, enroll]
  split
  · rename_i isTaken
    exact iff_of_true rfl isTaken
  · rename_i free
    refine iff_of_false (fun same => ?_) free
    exact List.cons_ne_nil _ _ (List.append_right_eq_self.1 same)

theorem enroll_of_ne_self {taken : List Enumerator} {entry : String × Int}
    (takes : enroll taken entry ≠ taken) : enroll taken entry = taken ++ [⟨entry.1, entry.2⟩] := by
  unfold enroll at takes ⊢
  split at takes
  · exact absurd rfl takes
  · rename_i free
    rw [if_neg free]

theorem prefix_enroll (taken : List Enumerator) (entry : String × Int) :
    taken <+: enroll taken entry := by
  unfold enroll
  split
  · exact List.prefix_refl _
  · exact List.prefix_append _ _

theorem prefix_foldl_enroll (entries : List (String × Int)) (taken : List Enumerator) :
    taken <+: entries.foldl enroll taken := by
  induction entries generalizing taken with
  | nil => exact List.prefix_refl _
  | cons entry rest ih => exact (prefix_enroll taken entry).trans (ih _)

/-- Later enumerators change nothing of those before. -/
theorem prefix_enrolled (before after : List (String × Int)) :
    enrolled before <+: enrolled (before ++ after) := by
  rw [enrolled, enrolled, List.foldl_append]
  exact prefix_foldl_enroll after _

theorem Enumeration.enroll_of_add {e changed : Enumeration} {name : String} {id : Int}
    (added : e.add name id = .ok changed) :
    changed = { e with enumerators := enroll e.enumerators (name, id) } := by
  obtain ⟨free, rfl⟩ := Enumeration.add_eq_ok_iff.1 added
  rw [enroll, if_neg]
  rw [any_taken_iff]
  rintro ⟨x, member, same | same⟩
  · exact (free x member).1 same
  · exact (free x member).2 same

theorem Enumeration.enroll_of_refused {e : Enumeration} {name : String} {id : Int}
    {fault : SchemaFault} (refused : e.add name id = .error fault) :
    enroll e.enumerators (name, id) = e.enumerators := by
  unfold Enumeration.add at refused
  split at refused
  · rename_i taken
    rw [enroll, if_pos taken]
  · cases refused

/-- What is taken is among the enumerators, and no two that are taken share their names or ids. -/
theorem enrolled_of_mem {entries : List (String × Int)} {x : Enumerator}
    (member : x ∈ enrolled entries) : (x.name, x.id) ∈ entries := by
  induction entries using List.reverseRecOn with
  | nil => cases member
  | append_singleton entries entry ih =>
    rw [enrolled_append_singleton, enroll] at member
    split at member
    · exact List.mem_append_left _ (ih member)
    · obtain old | new := List.mem_append.1 member
      · exact List.mem_append_left _ (ih old)
      · rw [List.mem_singleton.1 new]
        exact List.mem_append_right _ List.mem_cons_self

theorem pairwise_enrolled (entries : List (String × Int)) :
    (enrolled entries).Pairwise fun x y => x.name ≠ y.name ∧ x.id ≠ y.id := by
  induction entries using List.reverseRecOn with
  | nil => exact .nil
  | append_singleton entries entry ih =>
    rw [enrolled_append_singleton, enroll]
    split
    · exact ih
    · rename_i free
      refine List.pairwise_append.2 ⟨ih, List.pairwise_singleton _ _, fun x member y same => ?_⟩
      rw [List.mem_singleton.1 same]
      exact ⟨fun name => free (any_taken_iff.2 ⟨x, member, .inl name⟩),
        fun id => free (any_taken_iff.2 ⟨x, member, .inr id⟩)⟩

theorem nodup_names_enrolled (entries : List (String × Int)) :
    ((enrolled entries).map (·.name)).Nodup :=
  List.pairwise_map.2 ((pairwise_enrolled entries).imp And.left)

/-- No name is lost if ids only grow. -/
theorem mem_names_enrolled {entries : List (String × Int)}
    (increasing : entries.Pairwise fun a b => a.2 < b.2) {name : String} :
    name ∈ (enrolled entries).map (·.name) ↔ name ∈ entries.map (·.1) := by
  induction entries using List.reverseRecOn with
  | nil => rfl
  | append_singleton entries entry ih =>
    obtain ⟨before, -, below⟩ := List.pairwise_append.1 increasing
    rw [enrolled_append_singleton, enroll, List.map_append, List.mem_append, ← ih before]
    split
    · rename_i isTaken
      obtain ⟨x, member, same | same⟩ := any_taken_iff.1 isTaken
      · have known : entry.1 ∈ (enrolled entries).map (·.name) :=
          List.mem_map.2 ⟨x, member, same⟩
        exact ⟨.inl, fun h => h.elim id fun new => List.mem_singleton.1 new ▸ known⟩
      · exact absurd same (Int.ne_of_lt (below _ (enrolled_of_mem member) _ List.mem_cons_self))
    · rw [List.map_append, List.mem_append]
      rfl

/-! ## Enumerators in alphabetical order -/

/-- The distinct ones among names, in alphabetical order. -/
def alphabetical (names : List String) : List String :=
  names.dedup.mergeSort (· ≤ ·)

/-- The enumerators of some names, numbered from zero. -/
def counted (names : List String) : List Enumerator :=
  names.zipIdx.map fun (name, id) => ⟨name, id⟩

theorem mem_alphabetical {names : List String} {name : String} :
    name ∈ alphabetical names ↔ name ∈ names := by
  rw [alphabetical, List.mem_mergeSort, List.mem_dedup]

theorem pairwise_alphabetical (names : List String) : (alphabetical names).Pairwise (· < ·) := by
  have sorted : (alphabetical names).Pairwise (· ≤ ·) := List.pairwise_mergeSort' (· ≤ ·) _
  have distinct : (alphabetical names).Nodup :=
    (List.mergeSort_perm _ _).nodup_iff.2 (List.nodup_dedup names)
  exact sorted.imp₂ (fun _ _ le ne => lt_of_le_of_ne le ne) distinct

/-- The names come in the order of their bytes. -/
theorem pairwise_encodeText_alphabetical (names : List String) :
    (alphabetical names).Pairwise fun a b => Text.Utf8.encodeText a < Text.Utf8.encodeText b :=
  (pairwise_alphabetical names).imp Text.Utf8.encodeText_lt_iff.2

/-- There is one such list only. -/
theorem alphabetical_eq {names sorted : List String} (less : sorted.Pairwise (· < ·))
    (same : ∀ name, name ∈ names ↔ name ∈ sorted) : alphabetical names = sorted :=
  (pairwise_alphabetical names).eq_of_mem_iff less fun name => mem_alphabetical.trans (same name)

/-- Neither order nor repetition of names matters. -/
theorem alphabetical_congr {names names' : List String}
    (same : ∀ name, name ∈ names' ↔ name ∈ names) : alphabetical names' = alphabetical names :=
  alphabetical_eq (pairwise_alphabetical names) fun name => (same name).trans mem_alphabetical.symm

theorem alphabetical_of_nodup {names : List String} (distinct : names.Nodup) :
    alphabetical names = names.mergeSort (· ≤ ·) := by
  rw [alphabetical, List.dedup_eq_self.2 distinct]

theorem names_counted (names : List String) : (counted names).map (·.name) = names := by
  rw [counted, List.map_map]
  exact List.zipIdx_map_fst 0 names

theorem ids_counted (names : List String) :
    (counted names).map (·.id) = (List.range names.length).map Int.ofNat := by
  rw [counted, List.map_map, List.range_eq_range', ← List.zipIdx_map_snd 0 names, List.map_map]
  rfl

theorem nodup_ids_counted (names : List String) : ((counted names).map (·.id)).Nodup := by
  rw [ids_counted]
  exact List.nodup_range.map fun _ _ => Int.ofNat.inj

/-- Enumerators are made of their names and their ids. -/
theorem zipWith_mk_map (enumerators : List Enumerator) :
    List.zipWith Enumerator.mk (enumerators.map (·.name)) (enumerators.map (·.id)) =
      enumerators := by
  rw [List.zipWith_map, List.zipWith_self, List.map_id']

theorem Enumeration.enumerators_alphabetize {e : Enumeration}
    (distinct : (e.enumerators.map (·.name)).Nodup) :
    e.alphabetize.enumerators = counted (alphabetical (e.enumerators.map (·.name))) := by
  have sorted : (e.enumerators.map (·.name)).mergeSort (· ≤ ·) =
      (e.enumerators.mergeSort fun a b => a.name ≤ b.name).map (·.name) :=
    (List.map_mergeSort (f := Enumerator.name) fun _ _ _ _ => rfl).symm
  rw [alphabetical_of_nodup distinct, sorted, counted, List.zipIdx_map, List.map_map]
  rfl

/-! ## Looking up -/

theorem find?_eq_some_iff_of_nodup {κ : Type} [DecidableEq κ] {key : Enumerator → κ}
    {enumerators : List Enumerator} (distinct : (enumerators.map key).Nodup) {k : κ}
    {x : Enumerator} :
    enumerators.find? (key · = k) = some x ↔ x ∈ enumerators ∧ key x = k := by
  refine ⟨fun found => ⟨List.mem_of_find?_eq_some found, ?_⟩, fun ⟨member, same⟩ => ?_⟩
  · simpa using List.find?_some found
  · cases found : enumerators.find? (key · = k) with
    | none =>
      have missing := List.find?_eq_none.1 found x member
      rw [decide_eq_true same] at missing
      exact absurd rfl missing
    | some y =>
      have matching : key y = k := by simpa using List.find?_some found
      rw [List.inj_on_of_nodup_map distinct (List.mem_of_find?_eq_some found) member
        (matching.trans same.symm)]

namespace Enumeration

variable {e : Enumeration} {name : String} {id : Int}

theorem idOf?_eq_some_iff (distinct : (e.enumerators.map (·.name)).Nodup) :
    e.idOf? name = some id ↔ ⟨name, id⟩ ∈ e.enumerators := by
  rw [idOf?, Option.map_eq_some_iff]
  simp only [find?_eq_some_iff_of_nodup distinct]
  constructor
  · rintro ⟨x, ⟨member, rfl⟩, rfl⟩
    exact member
  · exact fun member => ⟨_, ⟨member, rfl⟩, rfl⟩

theorem nameOf?_eq_some_iff (distinct : (e.enumerators.map (·.id)).Nodup) :
    e.nameOf? id = some name ↔ ⟨name, id⟩ ∈ e.enumerators := by
  rw [nameOf?, Option.map_eq_some_iff]
  simp only [find?_eq_some_iff_of_nodup distinct]
  constructor
  · rintro ⟨x, ⟨member, rfl⟩, rfl⟩
    exact member
  · exact fun member => ⟨_, ⟨member, rfl⟩, rfl⟩

end Enumeration

end XsdRecords.Layout
