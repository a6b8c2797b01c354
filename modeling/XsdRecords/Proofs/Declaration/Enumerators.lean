import XsdRecords.Declaration.Basic
import XsdRecords.Proofs.Layout.Enumerators

/-! # The ids of enumerators

An enumerator without an id of its own gets the one after the last, up to the largest there is.
Without any ids of their own enumerators are numbered from zero, so that none is left out for its
id, unless there are more than there are ids. -/

namespace XsdRecords.Declaration

open XsdRecords.Layout (Enumerator enrolled enrolled_append_singleton enroll_eq_self_iff)
open XsdRecords.Number (IntegerRange succInt32)

/-! ## One enumerator after another -/

/-- The id after the last one. -/
def nextNumber (enumerators : List (String × Int)) : Int :=
  match enumerators.getLast? with
  | none => 0
  | some (_, last) => succInt32 last

/-- Enumerators with one more, which has an id of its own or the next one. -/
def number (enumerators : List (String × Int)) (entry : String × Option Int) :
    List (String × Int) :=
  enumerators ++ [(entry.1, entry.2.getD (nextNumber enumerators))]

/-- The enumerators of some literals, each with its id if it has one. -/
def numbered (entries : List (String × Option Int)) : List (String × Int) :=
  entries.foldl number []

theorem TypeDef.enumerators_addEnumerator (t : TypeDef) (value : String) (id : Option Int) :
    (t.addEnumerator value id).enumerators = number t.enumerators (value, id) := rfl

theorem numbered_append_singleton (entries : List (String × Option Int))
    (entry : String × Option Int) :
    numbered (entries ++ [entry]) = number (numbered entries) entry := by
  rw [numbered, List.foldl_append]
  rfl

theorem names_numbered (entries : List (String × Option Int)) :
    (numbered entries).map (·.1) = entries.map (·.1) := by
  induction entries using List.reverseRecOn with
  | nil => rfl
  | append_singleton entries entry ih =>
    rw [numbered_append_singleton, number, List.map_append, ih, List.map_append]
    rfl

/-- What comes later changes nothing of the enumerators before. -/
theorem numbered_append (before after : List (String × Option Int)) :
    ∃ rest, numbered (before ++ after) = numbered before ++ rest := by
  induction after using List.reverseRecOn with
  | nil => exact ⟨[], by rw [List.append_nil, List.append_nil]⟩
  | append_singleton after entry ih =>
    obtain ⟨rest, earlier⟩ := ih
    rw [← List.append_assoc, numbered_append_singleton, number, earlier, List.append_assoc]
    exact ⟨_, rfl⟩

/-! ## Ids that come of themselves -/

/-- Enumerators numbered from zero, as far as there are ids. -/
def automatic (entries : List (String × Option Int)) : List (String × Int) :=
  entries.zipIdx.map fun (entry, place) => (entry.1, min (place : Int) IntegerRange.int32.high)

theorem automatic_append_singleton (entries : List (String × Option Int))
    (entry : String × Option Int) :
    automatic (entries ++ [entry]) =
      automatic entries ++ [(entry.1, min (entries.length : Int) IntegerRange.int32.high)] := by
  rw [automatic, List.zipIdx_append, List.map_append, Nat.zero_add]
  rfl

theorem nextNumber_automatic (entries : List (String × Option Int)) :
    nextNumber (automatic entries) = min (entries.length : Int) IntegerRange.int32.high := by
  cases entries using List.reverseRecOn with
  | nil => rfl
  | append_singleton entries entry =>
    rw [automatic_append_singleton, nextNumber, List.getLast?_concat, List.length_append]
    simp only [succInt32, List.length_singleton]
    omega

theorem numbered_eq_automatic {entries : List (String × Option Int)}
    (none : ∀ entry ∈ entries, entry.2 = none) : numbered entries = automatic entries := by
  induction entries using List.reverseRecOn with
  | nil => rfl
  | append_singleton entries entry ih =>
    rw [numbered_append_singleton, number,
      ih fun e member => none e (List.mem_append_left _ member),
      none entry (List.mem_append_right _ List.mem_cons_self), Option.getD_none,
      nextNumber_automatic, automatic_append_singleton]

/-- As long as there are ids, they grow. -/
theorem pairwise_automatic {entries : List (String × Option Int)}
    (few : (entries.length : Int) ≤ IntegerRange.int32.high + 1) :
    (automatic entries).Pairwise fun a b => a.2 < b.2 := by
  induction entries using List.reverseRecOn with
  | nil => exact .nil
  | append_singleton entries entry ih =>
    rw [List.length_append, List.length_singleton] at few
    rw [automatic_append_singleton, List.pairwise_append]
    refine ⟨ih (by omega), List.pairwise_singleton _ _, fun a member b new => ?_⟩
    obtain ⟨⟨e, place⟩, inside, rfl⟩ := List.mem_map.1 member
    obtain ⟨-, below, -⟩ := List.mem_zipIdx inside
    rw [List.mem_singleton.1 new]
    dsimp only
    omega

/-- No literal is lost where none has an id of its own and there are enough ids. -/
theorem mem_names_enrolled_numbered {entries : List (String × Option Int)}
    (none : ∀ entry ∈ entries, entry.2 = none)
    (few : (entries.length : Int) ≤ IntegerRange.int32.high + 1) {name : String} :
    name ∈ (enrolled (numbered entries)).map (·.name) ↔ name ∈ entries.map (·.1) := by
  have increasing : (numbered entries).Pairwise fun a b => a.2 < b.2 := by
    rw [numbered_eq_automatic none]
    exact pairwise_automatic few
  rw [Layout.mem_names_enrolled increasing, names_numbered]

/-! ## Lost literals -/

/-- Whether an enumeration leaves out an enumerator that comes after others. -/
def LeftOut (before : List (String × Option Int)) (entry : String × Option Int) : Prop :=
  enrolled (numbered (before ++ [entry])) = enrolled (numbered before)

variable {before : List (String × Option Int)} {entry : String × Option Int}

theorem enrolled_numbered_append_singleton :
    enrolled (numbered (before ++ [entry])) =
      Layout.enroll (enrolled (numbered before))
        (entry.1, entry.2.getD (nextNumber (numbered before))) := by
  rw [numbered_append_singleton, number, enrolled_append_singleton]

/-- An enumerator is left out if its literal is taken, or the id that it has or gets. -/
theorem leftOut_iff : LeftOut before entry ↔ ∃ x ∈ enrolled (numbered before),
    x.name = entry.1 ∨ x.id = entry.2.getD (nextNumber (numbered before)) := by
  rw [LeftOut, enrolled_numbered_append_singleton]
  exact enroll_eq_self_iff

/-- What is not left out is there to stay. -/
theorem mem_names_of_not_leftOut (takes : ¬LeftOut before entry)
    (after : List (String × Option Int)) :
    entry.1 ∈ (enrolled (numbered (before ++ entry :: after))).map (·.name) := by
  -- What comes later is numbered after the entry, and only added to what is taken by then.
  obtain ⟨rest, later⟩ := numbered_append (before ++ [entry]) after
  have stays := Layout.prefix_enrolled (numbered (before ++ [entry])) rest
  rw [← later, ← List.append_cons] at stays
  refine (stays.map (·.name)).subset ?_
  rw [LeftOut, enrolled_numbered_append_singleton] at takes
  rw [enrolled_numbered_append_singleton, Layout.enroll_of_ne_self takes, List.map_append]
  exact List.mem_append_right _ List.mem_cons_self

/-- An enumerator that gets an id that no other has is left out for its literal only. -/
theorem mem_names_of_leftOut {literal : String}
    (free : nextNumber (numbered before) ∉ (numbered before).map (·.2))
    (lost : LeftOut before (literal, none)) : literal ∈ before.map (·.1) := by
  obtain ⟨x, taken, same⟩ := leftOut_iff.1 lost
  have given := Layout.enrolled_of_mem taken
  rw [← names_numbered]
  obtain name | id := same
  · exact List.mem_map.2 ⟨_, given, name⟩
  · exact absurd (List.mem_map.2 ⟨_, given, id⟩) free

/-- One enumerator over and over, and two more. -/
def overflowing (many : Nat) : List (String × Option Int) :=
  List.replicate many ("a", none) ++ [("b", none)] ++ [("c", none)]

theorem none_of_mem_overflowing {many : Nat} (member : entry ∈ overflowing many) :
    entry.2 = none := by
  simp only [overflowing, List.mem_append, List.mem_replicate, List.mem_singleton] at member
  obtain (⟨-, rfl⟩ | rfl) | rfl := member <;> rfl

theorem automatic_overflowing {many : Nat} (all : (many : Int) = IntegerRange.int32.high) :
    automatic (overflowing many) = automatic (List.replicate many ("a", none)) ++
      [("b", IntegerRange.int32.high)] ++ [("c", IntegerRange.int32.high)] := by
  have last : min (many : Int) IntegerRange.int32.high = IntegerRange.int32.high := by omega
  have beyond : min ((many + 1 : Nat) : Int) IntegerRange.int32.high = IntegerRange.int32.high := by
    omega
  rw [overflowing, automatic_append_singleton, automatic_append_singleton, List.length_append,
    List.length_replicate, List.length_singleton, last, beyond]

/-- The last two share the largest id, so that one of their literals is lost. -/
theorem not_mem_names_enrolled_overflowing {many : Nat}
    (all : (many : Int) = IntegerRange.int32.high) :
    "c" ∉ (enrolled (numbered (overflowing many))).map (·.name) := by
  have before (x : Enumerator)
      (taken : x ∈ enrolled (automatic (List.replicate many ("a", none)))) :
      x.name = "a" ∧ x.id < IntegerRange.int32.high := by
    obtain ⟨⟨entry, place⟩, inside, same⟩ := List.mem_map.1 (Layout.enrolled_of_mem taken)
    obtain ⟨-, below, found⟩ := List.mem_zipIdx inside
    rw [List.length_replicate] at below
    rw [List.getElem_replicate] at found
    simp only [found, Prod.mk.injEq] at same
    exact ⟨same.1.symm, by omega⟩
  rw [numbered_eq_automatic fun _ => none_of_mem_overflowing, automatic_overflowing all,
    enrolled_append_singleton, enrolled_append_singleton]
  generalize enrolled (automatic (List.replicate many ("a", none))) = taken at before
  have second : Layout.enroll taken ("b", IntegerRange.int32.high) =
      taken ++ [⟨"b", IntegerRange.int32.high⟩] := by
    rw [Layout.enroll, if_neg]
    rw [Layout.any_taken_iff]
    rintro ⟨x, member, same | same⟩
    · exact absurd ((before x member).1.symm.trans same) (by decide)
    · exact Int.ne_of_lt (before x member).2 same
  have third : Layout.enroll (taken ++ [⟨"b", IntegerRange.int32.high⟩])
      ("c", IntegerRange.int32.high) = taken ++ [⟨"b", IntegerRange.int32.high⟩] :=
    enroll_eq_self_iff.2 ⟨_, List.mem_append_right _ List.mem_cons_self, .inr rfl⟩
  rw [second, third, List.map_append, List.mem_append, not_or]
  refine ⟨fun old => ?_, by decide⟩
  obtain ⟨x, member, same⟩ := List.mem_map.1 old
  exact absurd ((before x member).1.symm.trans same) (by decide)

/-- With more enumerators than ids a literal may be lost though none has an id of its own. -/
theorem exists_lost : ∃ entries : List (String × Option Int), (∀ entry ∈ entries, entry.2 = none) ∧
    ∃ name ∈ entries.map (·.1), name ∉ (enrolled (numbered entries)).map (·.name) := by
  refine ⟨overflowing IntegerRange.int32.high.toNat, fun _ => none_of_mem_overflowing, "c", ?_,
    not_mem_names_enrolled_overflowing (Int.toNat_of_nonneg (by decide))⟩
  rw [overflowing, List.map_append, List.mem_append]
  exact .inr List.mem_cons_self

end XsdRecords.Declaration
