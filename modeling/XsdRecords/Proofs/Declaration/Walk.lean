import Mathlib.Data.Fintype.Pigeonhole
import XsdRecords.Proofs.Declaration.Edit
import XsdRecords.Proofs.Declaration.Shape

/-! # Walks along bases

Where each thing has at most one link to another, a start leads to a chain.  `follow` has no bound on
its length.  If what has a link lies in one of finitely many places, a chain meets whatever it meets
before it is longer than there are places, and it either ends or runs into a cycle.

A walk along the bases of a type is such a chain, cut off after as many types as there are.  It misses
none: what is reached by more steps was reached before, on cyclic bases too.  What is found on a walk
therefore does not depend on where it is cut off. -/

namespace XsdRecords.Declaration

/-! ## Chains of links -/

section Chain

variable {α : Type} (next : α → Option α)

/-- What is reached from a start by a number of links. -/
def follow (start : α) : Nat → Option α
  | 0 => some start
  | steps + 1 => (follow start steps).bind next

variable {next} {start a b : α} {steps : Nat}

theorem follow_add (next : α → Option α) (start : α) (first second : Nat) :
    follow next start (first + second) =
      (follow next start first).bind fun a => follow next a second := by
  induction second with
  | zero =>
    cases follow next start first with
    | none => rfl
    | some a => rfl
  | succ second ih =>
    rw [← Nat.add_assoc, follow, ih, Option.bind_assoc]
    rfl

theorem follow_succ (next : α → Option α) (start : α) (steps : Nat) :
    follow next start (steps + 1) = (next start).bind fun a => follow next a steps := by
  rw [Nat.add_comm, follow_add]
  rfl

/-- On the way to what is reached, something is reached by every smaller number of links. -/
theorem exists_follow_of_le (reached : follow next start steps = some b) {fewer : Nat}
    (le : fewer ≤ steps) :
    ∃ a, follow next start fewer = some a ∧ follow next a (steps - fewer) = some b := by
  rw [← Nat.add_sub_cancel' le, follow_add] at reached
  exact Option.bind_eq_some_iff.1 reached

/-- A chain that comes to the same thing twice never ends. -/
theorem follow_ne_none_of_repeated {i j : Nat} (less : i < j) (first : follow next start i = some a)
    (again : follow next start j = some a) : follow next start steps ≠ none := by
  have round : follow next a (j - i) = some a := by
    have onwards := follow_add next start i (j - i)
    rw [Nat.add_sub_cancel' (Nat.le_of_lt less), again, first] at onwards
    exact onwards.symm
  have rounds (times : Nat) : follow next start (i + times * (j - i)) = some a := by
    induction times with
    | zero => rwa [Nat.zero_mul, Nat.add_zero]
    | succ times ih => rw [Nat.succ_mul, ← Nat.add_assoc, follow_add, ih, Option.bind_some, round]
  have far : steps ≤ i + steps * (j - i) :=
    (Nat.le_mul_of_pos_right steps (Nat.sub_pos_of_lt less)).trans (Nat.le_add_left _ _)
  obtain ⟨b, here, -⟩ := exists_follow_of_le (rounds steps) far
  rw [here]
  exact Option.some_ne_none b

section Places

variable {place : α → Nat} (injective : Function.Injective place) {size : Nat}
  (linked : ∀ a b, next a = some b → place a < size)

include injective linked

omit injective in
/-- What is met on the way to something inside is inside itself. -/
theorem place_lt (inside : place b < size) (reached : follow next start steps = some b)
    {fewer : Nat} (le : fewer ≤ steps) :
    ∃ a, follow next start fewer = some a ∧ place a < size := by
  obtain ⟨a, here, onwards⟩ := exists_follow_of_le reached le
  refine ⟨a, here, ?_⟩
  cases left : steps - fewer with
  | zero =>
    rw [left] at onwards
    rwa [Option.some.inj onwards]
  | succ more =>
    rw [left, follow_succ] at onwards
    obtain ⟨c, link, -⟩ := Option.bind_eq_some_iff.1 onwards
    exact linked a c link

/-- What is reached by as many links as there are places, or more, is reached past something that is
met twice. -/
theorem exists_repeated (inside : place b < size) (reached : follow next start steps = some b)
    (long : size ≤ steps) : ∃ i j a, i < j ∧ j ≤ steps ∧ follow next start i = some a ∧
      follow next start j = some a := by
  have met (k : Fin (steps + 1)) : ∃ p : Fin size, ∃ a, follow next start k = some a ∧
      place a = p := by
    obtain ⟨a, here, bound⟩ := place_lt linked inside reached (Nat.le_of_lt_succ k.isLt)
    exact ⟨⟨place a, bound⟩, a, here, rfl⟩
  choose places things here at_place using met
  obtain ⟨i, j, ne, same⟩ := Fintype.exists_ne_map_eq_of_card_lt places (by simp; omega)
  have again : things j = things i := injective (by rw [at_place, at_place, same])
  have twice : follow next start j = some (things i) := again ▸ here j
  rcases Nat.lt_or_gt_of_ne (Fin.val_ne_of_ne ne) with less | less
  · exact ⟨i, j, things i, less, Nat.le_of_lt_succ j.isLt, here i, twice⟩
  · exact ⟨j, i, things i, less, Nat.le_of_lt_succ i.isLt, twice, here i⟩

/-- What is reached at all is reached by fewer links than there are places. -/
theorem exists_follow_lt (inside : place b < size) (reached : follow next start steps = some b) :
    ∃ fewer < size, follow next start fewer = some b := by
  induction steps using Nat.strong_induction_on with
  | _ steps ih =>
    by_cases few : steps < size
    · exact ⟨steps, few, reached⟩
    -- What lies between the two times that something is met can be left out.
    · obtain ⟨i, j, a, less, le, first, again⟩ :=
        exists_repeated injective linked inside reached (Nat.le_of_not_lt few)
      obtain ⟨c, second, onwards⟩ := exists_follow_of_le reached le
      obtain rfl := Option.some.inj (again.symm.trans second)
      refine ih (i + (steps - j)) (by omega) ?_
      rw [follow_add, first]
      exact onwards

/-- A chain that comes to nothing twice ends. -/
theorem exists_last_of_unrepeated
    (unrepeated : ∀ i j a, follow next start i = some a → follow next start j = some a → i = j) :
    ∃ steps last, follow next start steps = some last ∧ next last = none := by
  by_contra endless
  have goes (steps : Nat) : ∃ a, follow next start steps = some a := by
    induction steps with
    | zero => exact ⟨start, rfl⟩
    | succ steps ih =>
      obtain ⟨a, here⟩ := ih
      obtain ⟨b, link⟩ : ∃ b, next a = some b :=
        Option.ne_none_iff_exists'.1 fun none => endless ⟨steps, a, here, none⟩
      exact ⟨b, by rw [follow, here, Option.bind_some, link]⟩
  obtain ⟨a, here⟩ := goes size
  obtain ⟨b, further⟩ := goes (size + 1)
  rw [follow, here, Option.bind_some] at further
  obtain ⟨fewer, less, before⟩ := exists_follow_lt injective linked (linked a b further) here
  exact Nat.ne_of_lt less (unrepeated fewer size a before here)

end Places

end Chain

/-! ## Bases -/

namespace Declarations

variable {d : Declarations}

/-- Bases that are among the types there are. -/
def BasesInRange (d : Declarations) : Prop :=
  ∀ id base, (d.type id).base = some base → base.index < d.types.size

theorem InRange.bases (inRange : d.InRange) : d.BasesInRange :=
  fun _ _ => inRange.base

/-- The type that is reached from a type by a number of steps to bases. -/
def ancestor (d : Declarations) (id : TypeId) : Nat → Option TypeId
  | 0 => some id
  | steps + 1 => (d.ancestor id steps).bind fun t => (d.type t).base

theorem ancestor_eq_follow (d : Declarations) (id : TypeId) (steps : Nat) :
    d.ancestor id steps = follow (fun t => (d.type t).base) id steps := by
  induction steps with
  | zero => rfl
  | succ steps ih => rw [ancestor, follow, ih]

theorem ancestor_add (d : Declarations) (id : TypeId) (first second : Nat) :
    d.ancestor id (first + second) = (d.ancestor id first).bind fun t => d.ancestor t second := by
  simp only [ancestor_eq_follow, follow_add]

theorem ancestor_succ (d : Declarations) (id : TypeId) (steps : Nat) :
    d.ancestor id (steps + 1) = (d.type id).base.bind fun base => d.ancestor base steps := by
  simp only [ancestor_eq_follow, follow_succ]

theorem getElem?_baseChainWithin (d : Declarations) (limit : Nat) (id : TypeId) (steps : Nat) :
    (d.baseChainWithin limit id)[steps]? = if steps < limit then d.ancestor id steps else none := by
  induction limit generalizing id steps with
  | zero => rfl
  | succ limit ih =>
    cases steps with
    | zero => rfl
    | succ steps =>
      rw [baseChainWithin, List.getElem?_cons_succ, ancestor_succ]
      cases (d.type id).base with
      | none => simp
      | some base => simp [ih]

theorem mem_baseChainWithin_iff {limit : Nat} {id other : TypeId} :
    other ∈ d.baseChainWithin limit id ↔ ∃ steps < limit, d.ancestor id steps = some other := by
  simp only [List.mem_iff_getElem?, getElem?_baseChainWithin, Option.ite_none_right_eq_some]

/-- Walks that stay among the types there are. -/
theorem ancestor_lt (inRange : d.BasesInRange) {id other : TypeId} (bound : id.index < d.types.size)
    {steps : Nat} (reached : d.ancestor id steps = some other) : other.index < d.types.size := by
  cases steps with
  | zero =>
    rw [← Option.some.inj reached]
    exact bound
  | succ steps =>
    obtain ⟨t, -, base⟩ := Option.bind_eq_some_iff.1 reached
    exact inRange _ _ base

theorem index_injective : Function.Injective TypeId.index := by
  rintro ⟨i⟩ ⟨j⟩ same
  exact congrArg TypeId.mk same

/-- A type that has a base is in its place. -/
theorem lt_size_of_base {id base : TypeId} (own : (d.type id).base = some base) :
    id.index < d.types.size := by
  refine lt_size_of_ne_blank fun blank => ?_
  rw [blank] at own
  cases own

/-- A walk meets each type that is reached at all, on cyclic bases too. -/
theorem mem_baseChain_iff {id other : TypeId} (inside : other.index < d.types.size) :
    other ∈ d.baseChain id ↔ ∃ steps, d.ancestor id steps = some other := by
  refine mem_baseChainWithin_iff.trans ⟨fun ⟨steps, _, reached⟩ => ⟨steps, reached⟩, ?_⟩
  rintro ⟨steps, reached⟩
  simp only [ancestor_eq_follow] at reached ⊢
  exact exists_follow_lt index_injective (fun _ _ => lt_size_of_base) inside reached

/-- What is reached at all is reached in fewer steps than there are types. -/
theorem exists_ancestor_lt_size (inRange : d.BasesInRange) {id other : TypeId}
    (bound : id.index < d.types.size) {steps : Nat} (reached : d.ancestor id steps = some other) :
    ∃ fewer < d.types.size, d.ancestor id fewer = some other :=
  mem_baseChainWithin_iff.1 ((mem_baseChain_iff (ancestor_lt inRange bound reached)).2
    ⟨steps, reached⟩)

theorem baseChainWithin_isPrefixOf (d : Declarations) (id : TypeId) {limit more : Nat}
    (h : limit ≤ more) : d.baseChainWithin limit id <+: d.baseChainWithin more id := by
  induction limit generalizing id more with
  | zero => exact List.nil_prefix
  | succ limit ih =>
    cases more with
    | zero => omega
    | succ more =>
      rw [baseChainWithin, baseChainWithin]
      refine (List.prefix_cons_inj id).2 ?_
      cases (d.type id).base with
      | none => exact List.nil_prefix
      | some base => exact ih base (Nat.le_of_succ_le_succ h)

/-- A longer walk meets no other types. -/
theorem mem_baseChain_of_mem_baseChainWithin (inRange : d.BasesInRange) {id other : TypeId}
    (bound : id.index < d.types.size) {limit : Nat}
    (member : other ∈ d.baseChainWithin limit id) : other ∈ d.baseChain id := by
  obtain ⟨steps, -, reached⟩ := mem_baseChainWithin_iff.1 member
  exact (mem_baseChain_iff (ancestor_lt inRange bound reached)).2 ⟨steps, reached⟩

/-- What is found first on a walk is found first on every longer one. -/
theorem findSome?_baseChainWithin (inRange : d.BasesInRange) {id : TypeId}
    (bound : id.index < d.types.size) {limit : Nat} (h : d.types.size ≤ limit) {α : Type}
    (f : TypeId → Option α) :
    (d.baseChainWithin limit id).findSome? f = (d.baseChain id).findSome? f := by
  obtain ⟨rest, whole⟩ := baseChainWithin_isPrefixOf d id h
  rw [← whole, List.findSome?_append]
  change (List.findSome? f (d.baseChain id)).or _ = _
  cases found : (d.baseChain id).findSome? f with
  | some a => rfl
  | none =>
    rw [Option.none_or, List.findSome?_eq_none_iff]
    intro other member
    refine List.findSome?_eq_none_iff.1 found other ?_
    have met : other ∈ d.baseChainWithin limit id := by
      rw [← whole]
      exact List.mem_append_right _ member
    exact mem_baseChain_of_mem_baseChainWithin inRange bound met

/-- Whether something is met on a walk does not depend on where it is cut off. -/
theorem any_baseChainWithin (inRange : d.BasesInRange) {id : TypeId}
    (bound : id.index < d.types.size) {limit : Nat} (h : d.types.size ≤ limit)
    (p : TypeId → Bool) : (d.baseChainWithin limit id).any p = (d.baseChain id).any p := by
  rw [Bool.eq_iff_iff, List.any_eq_true, List.any_eq_true]
  constructor
  · rintro ⟨other, member, holds⟩
    exact ⟨other, mem_baseChain_of_mem_baseChainWithin inRange bound member, holds⟩
  · rintro ⟨other, member, holds⟩
    exact ⟨other, (baseChainWithin_isPrefixOf d id h).subset member, holds⟩

end Declarations

/-! ## Walks in other declarations -/

/-- What walks along bases read off a type. -/
def TypeDef.stem (t : TypeDef) : TypeDef :=
  { symbol := ⟨.none, ""⟩
    base := t.base
    builtin := t.builtin
    isList := t.isList
    isChoice := t.isChoice }

/-- What is read off the stem of a type is the same for types of the same stem. -/
theorem TypeDef.get_of_stem {α : Type} (get : TypeDef → α) (keeps : ∀ t : TypeDef, get t.stem = get t)
    {t t' : TypeDef} (same : t'.stem = t.stem) : get t' = get t := by
  rw [← keeps, same, keeps]

namespace Declarations

/-- Declarations with more types, where those there were have the stems they had. -/
structure KeepsStems (d d' : Declarations) : Prop where
  size : d.types.size ≤ d'.types.size
  stem {id : TypeId} : id.index < d.types.size → (d'.type id).stem = (d.type id).stem

namespace KeepsStems

variable {d d' : Declarations} (keeps : KeepsStems d d') (bases : d.BasesInRange)
  {id original : TypeId} (bound : original.index < d.types.size)
  (same : (d'.type id).stem = (d.type original).stem)

include keeps bases bound same

/-- The stems met on a walk from a type are those met on the walk from an old type of its stem. -/
theorem stems (limit : Nat) : (d'.baseChainWithin limit id).map (fun t => (d'.type t).stem) =
    (d.baseChainWithin limit original).map fun t => (d.type t).stem := by
  induction limit generalizing id original with
  | zero => rfl
  | succ limit ih =>
    have base : (d'.type id).base = (d.type original).base :=
      TypeDef.get_of_stem TypeDef.base (fun _ => rfl) same
    rw [baseChainWithin, baseChainWithin, List.map_cons, List.map_cons, same, base]
    cases h : (d.type original).base with
    | none => rfl
    | some next =>
      have nextBound := bases original next h
      exact congrArg _ (ih nextBound (keeps.stem nextBound))

theorem builtin : d'.builtin id = d.builtin original := by
  have walk (e : Declarations) (l : List TypeId) : l.findSome? (fun t => (e.type t).builtin) =
      (l.map fun t => (e.type t).stem).findSome? TypeDef.builtin := by
    rw [List.findSome?_map]
    rfl
  rw [Declarations.builtin, Declarations.builtin, ← findSome?_baseChainWithin bases bound keeps.size,
    walk d', walk d, ← keeps.stems bases bound same]
  rfl

theorem isComplex : d'.isComplex id = d.isComplex original := by
  rw [Declarations.isComplex, Declarations.isComplex, keeps.builtin bases bound same]

theorem any (p : TypeDef → Bool) (reads : ∀ t : TypeDef, p t.stem = p t) :
    (d'.baseChain id).any (fun t => p (d'.type t)) =
      (d.baseChain original).any fun t => p (d.type t) := by
  have walk (e : Declarations) (l : List TypeId) : l.any (fun t => p (e.type t)) =
      (l.map fun t => (e.type t).stem).any p := by
    simp only [List.any_map, Function.comp_def, reads]
  rw [← any_baseChainWithin bases bound keeps.size, walk d', walk d, ← keeps.stems bases bound same]
  rfl

theorem isList : d'.isList id = d.isList original :=
  keeps.any bases bound same TypeDef.isList fun _ => rfl

theorem isChoice : d'.isChoice id = d.isChoice original :=
  keeps.any bases bound same TypeDef.isChoice fun _ => rfl

theorem elemType : d'.elemType id = d.elemType original := by
  simp only [Declarations.elemType, keeps.builtin bases bound same, keeps.isList bases bound same]

end KeepsStems

end Declarations

end XsdRecords.Declaration
