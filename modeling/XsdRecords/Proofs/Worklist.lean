import Mathlib.Logic.Relation
import XsdRecords.Worklist

/-! # The documents of a worklist

A worklist changes its current entry or grows at its end; all other entries stay.  Every document
but the first is named by one before it, so that the walk from a document back along those that
named it ends at the first. -/

namespace XsdRecords.Worklist

variable {w w' : Worklist} {e : DocumentEntry} {index found limit : Nat}

/-! ## Entries -/

@[simp] theorem entry_modifyCurrent_of_ne (other : index ≠ w.current)
    (f : DocumentEntry → DocumentEntry) : (w.modifyCurrent f).entry index = w.entry index := by
  simp [entry, modifyCurrent, Array.getD_eq_getD_getElem?, Array.getElem?_modify, Ne.symm other]

/-- What holds of an entry and of what the current one is changed to, holds after the change. -/
theorem entry_modifyCurrent_of {P : DocumentEntry → Prop} {f : DocumentEntry → DocumentEntry}
    (before : P (w.entry index)) (changed : index = w.current → P (f w.currentEntry)) :
    P ((w.modifyCurrent f).entry index) := by
  by_cases same : index = w.current
  · subst same
    by_cases inside : w.current < w.documents.size
    · have current := currentEntry_modifyCurrent inside f
      rw [currentEntry, current_modifyCurrent] at current
      rw [current]
      exact changed rfl
    · have unchanged : w.modifyCurrent f = w := by
        simp only [modifyCurrent, Array.modify, Array.modifyM, inside, dite_false]
        rfl
      rwa [unchanged]
  · rwa [entry_modifyCurrent_of_ne same]

theorem entry_push_eq (w : Worklist) (e : DocumentEntry) (index : Nat) :
    (w.push e).entry index = if index = w.documents.size then e else w.entry index := by
  simp only [entry, push, Array.getD_eq_getD_getElem?, Array.getElem?_push]
  split <;> rfl

theorem entry_push (e : DocumentEntry) (inside : index < w.documents.size) :
    (w.push e).entry index = w.entry index := by
  rw [entry_push_eq, if_neg (Nat.ne_of_lt inside)]

theorem entry_push_size (e : DocumentEntry) : (w.push e).entry w.documents.size = e := by
  rw [entry_push_eq, if_pos rfl]

@[simp] theorem size_push (w : Worklist) (e : DocumentEntry) :
    (w.push e).documents.size = w.documents.size + 1 :=
  Array.size_push e

@[simp] theorem current_push (w : Worklist) (e : DocumentEntry) :
    (w.push e).current = w.current := rfl

theorem entry_eq_getElem (inside : index < w.documents.size) :
    w.entry index = w.documents[index] := by
  simp [entry, Array.getD_eq_getD_getElem?, inside]

/-- Worklists whose documents differ in nothing but the prefixes in scope. -/
structure Agrees (w w' : Worklist) : Prop where
  current : w'.current = w.current
  size : w'.documents.size = w.documents.size
  entry (index : Nat) : { w'.entry index with bindings := {} } = { w.entry index with bindings := {} }

theorem Agrees.refl (w : Worklist) : w.Agrees w :=
  ⟨rfl, rfl, fun _ => rfl⟩

theorem Agrees.symm (agrees : w.Agrees w') : w'.Agrees w :=
  ⟨agrees.current.symm, agrees.size.symm, fun index => (agrees.entry index).symm⟩

theorem Agrees.trans {w'' : Worklist} (first : w.Agrees w') (second : w'.Agrees w'') : w.Agrees w'' :=
  ⟨second.current.trans first.current, second.size.trans first.size,
    fun index => (second.entry index).trans (first.entry index)⟩

section Agrees

variable (agrees : w.Agrees w')

include agrees

theorem Agrees.kind (index : Nat) : (w'.entry index).kind = (w.entry index).kind :=
  (congrArg DocumentEntry.kind (agrees.entry index) :)

theorem Agrees.parent (index : Nat) : (w'.entry index).parent = (w.entry index).parent :=
  (congrArg DocumentEntry.parent (agrees.entry index) :)

theorem Agrees.location (index : Nat) : (w'.entry index).location = (w.entry index).location :=
  (congrArg DocumentEntry.location (agrees.entry index) :)

theorem Agrees.target (index : Nat) : (w'.entry index).target = (w.entry index).target :=
  (congrArg DocumentEntry.target (agrees.entry index) :)

theorem Agrees.currentEntry :
    { w'.currentEntry with bindings := {} } = { w.currentEntry with bindings := {} } := by
  unfold Worklist.currentEntry
  rw [agrees.current]
  exact agrees.entry w.current

theorem Agrees.find? (location : String) (target : NamespaceId) :
    w'.find? location target = w.find? location target := by
  have same : w'.documents.map (fun e => { e with bindings := {} }) =
      w.documents.map fun e => { e with bindings := {} } := by
    refine Array.ext (by simp [agrees.size]) fun index here there => ?_
    rw [Array.size_map] at here there
    have entry := agrees.entry index
    rw [entry_eq_getElem here, entry_eq_getElem there] at entry
    simpa using entry
  have found (w : Worklist) : w.find? location target =
      (w.documents.map fun e => { e with bindings := {} }).findIdx? fun e =>
        e.location = location && e.target = target := by
    rw [Array.findIdx?_map]
    rfl
  rw [found, found, same]

theorem Agrees.ancestors (limit index : Nat) :
    w'.ancestors limit index = w.ancestors limit index := by
  induction limit generalizing index with
  | zero => rfl
  | succ limit ih =>
    rw [Worklist.ancestors, Worklist.ancestors, agrees.parent]
    cases (w.entry index).parent with
    | none => rfl
    | some parent => exact congrArg (index :: ·) (ih parent)

theorem Agrees.classify (location : String) (target : NamespaceId) :
    w'.classify location target = w.classify location target := by
  unfold Worklist.classify
  rw [agrees.find?, agrees.size, agrees.current]
  simp only [agrees.ancestors]

end Agrees

theorem agrees_modifyCurrent (inside : w.current < w.documents.size) (bindings : Bindings) :
    w.Agrees (w.modifyCurrent fun e => { e with bindings }) where
  current := rfl
  size := size_modifyCurrent w _
  entry index := by
    by_cases same : index = w.current
    · rw [same]
      have changed := currentEntry_modifyCurrent inside fun e => { e with bindings }
      rw [currentEntry, current_modifyCurrent] at changed
      rw [changed]
      rfl
    · rw [entry_modifyCurrent_of_ne same]

/-- A worklist with the same documents and perhaps some more; the first may have got a target
namespace. -/
structure Extends (w w' : Worklist) : Prop where
  current : w'.current = w.current
  size : w.documents.size ≤ w'.documents.size
  location {index : Nat} (inside : index < w.documents.size) :
    (w'.entry index).location = (w.entry index).location
  target {index : Nat} (later : 0 < index) (inside : index < w.documents.size) :
    (w'.entry index).target = (w.entry index).target

theorem Extends.trans {w'' : Worklist} (first : w.Extends w') (second : w'.Extends w'') :
    w.Extends w'' where
  current := second.current.trans first.current
  size := Nat.le_trans first.size second.size
  location inside := (second.location (Nat.lt_of_lt_of_le inside first.size)).trans
    (first.location inside)
  target later inside := (second.target later (Nat.lt_of_lt_of_le inside first.size)).trans
    (first.target later inside)

theorem Agrees.extends (agrees : w.Agrees w') : w.Extends w' where
  current := agrees.current
  size := Nat.le_of_eq agrees.size.symm
  location {index} _ := agrees.location index
  target {index} _ _ := agrees.target index

theorem extends_push (w : Worklist) (e : DocumentEntry) : w.Extends (w.push e) where
  current := rfl
  size := by
    rw [size_push]
    exact Nat.le_succ _
  location inside := by rw [entry_push e inside]
  target _ inside := by rw [entry_push e inside]

theorem extends_modifyCurrent {f : DocumentEntry → DocumentEntry} (first : w.current = 0)
    (location : ∀ e, (f e).location = e.location) : w.Extends (w.modifyCurrent f) where
  current := rfl
  size := Nat.le_of_eq (size_modifyCurrent w f).symm
  location {index} inside := by
    by_cases here : index = w.current
    · subst here
      have changed := currentEntry_modifyCurrent inside f
      rw [currentEntry, current_modifyCurrent] at changed
      rw [changed, location, currentEntry]
    · rw [entry_modifyCurrent_of_ne here]
  target later _ := by
    rw [entry_modifyCurrent_of_ne]
    exact first ▸ Nat.ne_of_gt later

/-! ## Finding a document -/

theorem find?_eq_some {location : String} {target : NamespaceId}
    (h : w.find? location target = some found) :
    found < w.documents.size ∧ (w.entry found).location = location ∧
      (w.entry found).target = target := by
  obtain ⟨inside, same, -⟩ := Array.findIdx?_eq_some_iff_getElem.1 h
  simp only [Bool.and_eq_true, decide_eq_true_eq] at same
  exact ⟨inside, entry_eq_getElem inside ▸ same.1, entry_eq_getElem inside ▸ same.2⟩

theorem not_of_find?_eq_none {location : String} {target : NamespaceId}
    (h : w.find? location target = none) (inside : index < w.documents.size)
    (same : (w.entry index).location = location) : (w.entry index).target ≠ target := by
  intro also
  rw [entry_eq_getElem inside] at same also
  have unlike := Array.findIdx?_eq_none_iff.1 h _ (Array.getElem_mem inside)
  simp [same, also] at unlike

/-! ## The way back to the first document -/

/-- A document is on the way from another back to the first. -/
abbrev Under (w : Worklist) : Nat → Nat → Prop :=
  Relation.ReflTransGen fun index parent => (w.entry index).parent = some parent

theorem under_of_mem_ancestors (h : found ∈ w.ancestors limit index) : w.Under index found := by
  induction limit generalizing index with
  | zero => cases h
  | succ limit ih =>
    rw [ancestors, List.mem_cons] at h
    obtain rfl | h := h
    · exact .refl
    · split at h
      · rename_i parent named
        exact .head named (ih h)
      · cases h

theorem under_of_classify_recursive {location : String} {target : NamespaceId}
    (h : w.classify location target = .recursive) :
    ∃ found, w.find? location target = some found ∧ w.Under w.current found := by
  unfold classify at h
  split at h
  · cases h
  · rename_i found known
    split at h
    · rename_i on
      simp only [List.contains_eq_mem, decide_eq_true_eq] at on
      exact ⟨found, known, under_of_mem_ancestors on⟩
    · cases h

/-- A worklist whose first document alone is the top-level one, all others being different and each
named by one before it. -/
structure Ordered (w : Worklist) : Prop where
  current : w.current < w.documents.size
  root : (w.entry 0).parent = none
  nested {index : Nat} (later : 0 < index) (inside : index < w.documents.size) :
    (w.entry index).kind ≠ .topLevel
  parent {index : Nat} (later : 0 < index) (inside : index < w.documents.size) :
    ∃ parent < index, (w.entry index).parent = some parent
  distinct {i j : Nat} (later : 0 < i) (less : i < j) (inside : j < w.documents.size)
    (same : (w.entry i).location = (w.entry j).location) :
    (w.entry i).target ≠ (w.entry j).target

namespace Ordered

section

variable (ordered : w.Ordered)

include ordered

theorem parent_lt {parent : Nat} (inside : index < w.documents.size)
    (named : (w.entry index).parent = some parent) : parent < index := by
  obtain rfl | later := Nat.eq_zero_or_pos index
  · rw [ordered.root] at named
    cases named
  · obtain ⟨other, less, same⟩ := ordered.parent later inside
    rw [named] at same
    obtain rfl := Option.some.inj same
    exact less

theorem le_of_under (under : w.Under index found) (inside : index < w.documents.size) :
    found ≤ index := by
  induction under using Relation.ReflTransGen.head_induction_on with
  | refl => exact Nat.le_refl _
  | head named _ ih =>
    have less := ordered.parent_lt inside named
    exact Nat.le_trans (ih (Nat.lt_trans less inside)) (Nat.le_of_lt less)

theorem mem_ancestors (under : w.Under index found) (inside : index < w.documents.size)
    (enough : index < limit) : found ∈ w.ancestors limit index := by
  -- Places get smaller along the way back, so that a limit above the first of them is enough.
  induction under using Relation.ReflTransGen.head_induction_on generalizing limit with
  | refl =>
    obtain ⟨limit, rfl⟩ := Nat.exists_eq_add_of_lt enough
    exact List.mem_cons_self
  | head named _ ih =>
    have less := ordered.parent_lt inside named
    cases limit with
    | zero => cases enough
    | succ limit =>
      rw [ancestors, named]
      exact List.mem_cons_of_mem _ (ih (Nat.lt_trans less inside) (by omega))

/-- Every document goes back to the first. -/
theorem under_zero (inside : index < w.documents.size) : w.Under index 0 := by
  induction index using Nat.strongRecOn with
  | ind index ih =>
    obtain rfl | later := Nat.eq_zero_or_pos index
    · exact .refl
    · obtain ⟨parent, less, named⟩ := ordered.parent later inside
      exact .head named (ih parent less (Nat.lt_trans less inside))

/-- A document that was named before and is not on the way to the current one is not the first. -/
theorem not_under_of_classify_diamond {location : String} {target : NamespaceId}
    (h : w.classify location target = .diamond) :
    ∃ found, w.find? location target = some found ∧ 0 < found ∧ ¬w.Under w.current found := by
  unfold classify at h
  split at h
  · cases h
  · rename_i found known
    split at h
    · cases h
    · rename_i off
      simp only [List.contains_eq_mem, decide_eq_true_eq] at off
      have apart : ¬w.Under w.current found := fun under =>
        off (ordered.mem_ancestors under ordered.current ordered.current)
      refine ⟨found, known, Nat.pos_of_ne_zero ?_, apart⟩
      rintro rfl
      exact apart (ordered.under_zero ordered.current)

/-! ## What keeps the order -/

theorem agrees (agrees : w.Agrees w') : w'.Ordered where
  current := by
    rw [agrees.current, agrees.size]
    exact ordered.current
  root := (agrees.parent 0).trans ordered.root
  nested later inside := by
    rw [agrees.kind]
    exact ordered.nested later (agrees.size ▸ inside)
  parent {index} later inside := by
    rw [agrees.parent]
    exact ordered.parent later (agrees.size ▸ inside)
  distinct later less inside := by
    simp only [agrees.location, agrees.target]
    exact ordered.distinct later less (agrees.size ▸ inside)

/-- The first document may change its target namespace. -/
theorem modifyCurrent {f : DocumentEntry → DocumentEntry} (first : w.current = 0)
    (parent : ∀ e, (f e).parent = e.parent) : (w.modifyCurrent f).Ordered := by
  have others {index : Nat} (later : 0 < index) :
      (w.modifyCurrent f).entry index = w.entry index :=
    entry_modifyCurrent_of_ne (first ▸ Nat.ne_of_gt later) f
  refine {
    current := ?current, root := ?root, nested := ?nested, parent := ?parent,
    distinct := ?distinct }
  case current =>
    rw [size_modifyCurrent]
    exact ordered.current
  case root =>
    have changed := currentEntry_modifyCurrent ordered.current f
    rw [currentEntry, current_modifyCurrent, first] at changed
    rw [changed, parent, currentEntry, first]
    exact ordered.root
  case nested =>
    intro index later inside
    rw [others later]
    exact ordered.nested later (size_modifyCurrent w f ▸ inside)
  case parent =>
    intro index later inside
    rw [others later]
    exact ordered.parent later (size_modifyCurrent w f ▸ inside)
  case distinct =>
    intro i j later less inside
    rw [others later, others (Nat.lt_trans later less)]
    exact ordered.distinct later less (size_modifyCurrent w f ▸ inside)

theorem push (isNew : w.find? e.location e.target = none) (nested : e.kind ≠ .topLevel)
    (parent : e.parent = some w.current) : (w.push e).Ordered := by
  have split {index : Nat} (inside : index < (w.push e).documents.size) :
      index < w.documents.size ∨ index = w.documents.size := by
    rw [size_push] at inside
    omega
  refine {
    current := ?current, root := ?root, nested := ?nested, parent := ?parent,
    distinct := ?distinct }
  case current =>
    rw [current_push, size_push]
    exact Nat.lt_succ_of_lt ordered.current
  case root =>
    rw [entry_push e (Nat.zero_lt_of_lt ordered.current)]
    exact ordered.root
  case nested =>
    intro index later inside
    obtain old | rfl := split inside
    · rw [entry_push e old]
      exact ordered.nested later old
    · rw [entry_push_size]
      exact nested
  case parent =>
    intro index later inside
    obtain old | rfl := split inside
    · rw [entry_push e old]
      exact ordered.parent later old
    · rw [entry_push_size]
      exact ⟨w.current, ordered.current, parent⟩
  case distinct =>
    intro i j later less inside
    obtain old | rfl := split inside
    · rw [entry_push e old, entry_push e (Nat.lt_trans less old)]
      exact ordered.distinct later less old
    · rw [entry_push_size, entry_push e less]
      exact not_of_find?_eq_none isNew less

end

theorem ofTop (location : String) : (ofTop (.topLevel location)).Ordered where
  current := Nat.zero_lt_one
  root := rfl
  nested later inside := absurd inside (Nat.not_lt.2 later)
  parent later inside := absurd inside (Nat.not_lt.2 later)
  distinct _ less inside := absurd inside (Nat.not_lt.2 (Nat.zero_lt_of_lt less))

end Ordered

end XsdRecords.Worklist
