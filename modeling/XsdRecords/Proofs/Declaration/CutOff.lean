import XsdRecords.Proofs.Declaration.Lineage

/-! # Walks that are cut off miss nothing

Walks along bases and along references are cut off after as many types, or elements, as there are.
A chain without a cycle is never longer than that, and a chain with a cycle has met everything by
then. What is found is therefore what there is to find on the whole chain: `Exhaustive` for bases,
and `elementType_eq_of_last` and `elementType_eq_none_of_repeated` for references. -/

namespace XsdRecords.Declaration.Declarations

variable {d : Declarations}

/-! ## Bases -/

/-- The walk from a type lists the first of its ancestors, as many as there are types, and what is
looked up on it is what all ancestors have. -/
structure Exhaustive (d : Declarations) (id : TypeId) : Prop where
  getElem? (steps : Nat) : (d.baseChain id)[steps]? =
    if steps < d.types.size then d.ancestor id steps else none
  mem {t : TypeId} : t.index < d.types.size →
    (t ∈ d.baseChain id ↔ ∃ steps, d.ancestor id steps = some t)
  derivesFrom {t : TypeId} : t.index < d.types.size →
    (d.derivesFrom id t = true ↔ ∃ steps, d.ancestor id steps = some t)
  builtin : d.Nearest TypeDef.builtin id (d.builtin id)
  maxValue : d.Nearest TypeDef.ownMaxValue? id
    (if d.maxValue id = 0 then none else some (d.maxValue id))
  isList : d.isList id = true ↔
    ∃ steps t, d.ancestor id steps = some t ∧ (d.type t).isList = true
  isChoice : d.isChoice id = true ↔
    ∃ steps t, d.ancestor id steps = some t ∧ (d.type t).isChoice = true

theorem exhaustive (d : Declarations) (id : TypeId) : d.Exhaustive id where
  getElem? := getElem?_baseChainWithin d d.types.size id
  mem := mem_baseChain_iff
  derivesFrom inside := by
    rw [Declarations.derivesFrom, List.contains_iff_mem, mem_baseChain_iff inside]
  builtin := nearest_findSome? d id TypeDef.builtin rfl
  maxValue := by
    rw [Declarations.maxValue, find?_ne_zero_eq]
    exact nearest_findSome? d id TypeDef.ownMaxValue? rfl
  isList := any_baseChain_iff d id TypeDef.isList rfl
  isChoice := any_baseChain_iff d id TypeDef.isChoice rfl

/-! ## References -/

/-- The element that is reached from an element by a number of references. -/
def referent (d : Declarations) (id : ElementId) : Nat → Option ElementId :=
  follow (fun e => (d.element e).reference) id

theorem elementId_index_injective : Function.Injective ElementId.index := by
  rintro ⟨i⟩ ⟨j⟩ same
  exact congrArg ElementId.mk same

theorem element_of_size_le {id : ElementId} (outside : d.elements.size ≤ id.index) :
    d.element id = {} := by
  simp [element, Array.getD_eq_getD_getElem?, outside]

/-- An element that refers to another is in its place. -/
theorem lt_size_of_reference {id other : ElementId}
    (own : (d.element id).reference = some other) : id.index < d.elements.size := by
  refine Nat.lt_of_not_le fun outside => ?_
  rw [element_of_size_le outside] at own
  cases own

/-- A walk along references comes to their end, if it is long enough. -/
theorem elementTypeWithin_of_last {id last : ElementId} {steps : Nat}
    (reached : d.referent id steps = some last) (isLast : (d.element last).reference = none)
    (limit : Nat) : d.elementTypeWithin limit id =
      if steps < limit then (d.element last).directType else none := by
  induction limit generalizing id steps with
  | zero => rfl
  | succ limit ih =>
    unfold elementTypeWithin
    cases steps with
    | zero =>
      obtain rfl := Option.some.inj reached
      rw [isLast, if_pos (Nat.succ_pos limit)]
    | succ steps =>
      rw [referent, follow_succ] at reached
      obtain ⟨next, link, reached⟩ := Option.bind_eq_some_iff.1 reached
      simp only [link, ih reached, Nat.add_lt_add_iff_right]

/-- A walk along references that never end finds nothing. -/
theorem elementTypeWithin_of_endless {id : ElementId}
    (endless : ∀ steps, d.referent id steps ≠ none) (limit : Nat) :
    d.elementTypeWithin limit id = none := by
  induction limit generalizing id with
  | zero => rfl
  | succ limit ih =>
    have link : (d.element id).reference ≠ none := endless 1
    obtain ⟨next, link⟩ := Option.ne_none_iff_exists'.1 link
    have later (steps : Nat) : d.referent next steps ≠ none := by
      have further := endless (steps + 1)
      rwa [referent, follow_succ, link, Option.bind_some] at further
    unfold elementTypeWithin
    simp only [link, ih later]

/-- The type of an element is the one that the last element has which its references lead to. -/
theorem elementType_eq_of_last {id last : ElementId} {steps : Nat}
    (reached : d.referent id steps = some last) (isLast : (d.element last).reference = none) :
    d.elementType id = (d.element last).directType := by
  rw [elementType, elementTypeWithin_of_last reached isLast]
  split
  · rfl
  · rename_i long
    by_cases inside : last.index < d.elements.size
    · obtain ⟨fewer, less, here⟩ :=
        exists_follow_lt elementId_index_injective (fun _ _ => lt_size_of_reference) inside reached
      have further : fewer < steps := by omega
      obtain ⟨a, before, -⟩ := exists_follow_of_le reached (Nat.add_one_le_iff.2 further)
      rw [follow, here, Option.bind_some, isLast] at before
      cases before
    · rw [element_of_size_le (Nat.le_of_not_lt inside)]

/-- An element whose references run into a cycle has no type. -/
theorem elementType_eq_none_of_repeated {id e : ElementId} {i j : Nat} (less : i < j)
    (first : d.referent id i = some e) (again : d.referent id j = some e) :
    d.elementType id = none :=
  elementTypeWithin_of_endless (fun _ => follow_ne_none_of_repeated less first again) _

/-! ## All declarations -/

/-- Whatever the links are, cycles included, the walk from a type meets every type that its bases
lead to, and finds what the whole chain has.  An element has the type of the last element that its
references lead to, where they come to no element twice, and otherwise none. -/
theorem walks_exhaustive (d : Declarations) :
    (∀ id, d.Exhaustive id) ∧
      (∀ id, (∀ i j e, d.referent id i = some e → d.referent id j = some e → i = j) →
        ∃ steps last, d.referent id steps = some last ∧ (d.element last).reference = none ∧
          d.elementType id = (d.element last).directType) ∧
      ∀ id i j e, i < j → d.referent id i = some e → d.referent id j = some e →
        d.elementType id = none := by
  refine ⟨d.exhaustive, fun id unrepeated => ?_, fun _ _ _ _ => elementType_eq_none_of_repeated⟩
  obtain ⟨steps, last, reached, isLast⟩ := exists_last_of_unrepeated elementId_index_injective
    (fun _ _ => lt_size_of_reference) unrepeated
  exact ⟨steps, last, reached, isLast, elementType_eq_of_last reached isLast⟩

/-- Two types that are each other's bases, of which the second is a choice, two elements that refer
to each other, and one that refers to one with a type. -/
def knot : Declarations where
  types := #[
    { symbol := ⟨.none, "A"⟩, base := some ⟨1⟩ },
    { symbol := ⟨.none, "B"⟩, base := some ⟨0⟩, isChoice := true }]
  elements := #[
    { reference := some ⟨1⟩ },
    { reference := some ⟨0⟩ },
    { reference := some ⟨3⟩ },
    { directType := some ⟨1⟩ }]

/-- The first type of the knot has the second among its bases and is a choice by it, the elements on
the cycle have no type, and the one before the end of its references has the type of the last. -/
theorem walks_exhaustive_knot : knot.isChoice ⟨0⟩ = true ∧ ⟨1⟩ ∈ knot.baseChain ⟨0⟩ ∧
    knot.elementType ⟨0⟩ = none ∧ knot.elementType ⟨2⟩ = some ⟨1⟩ := by
  obtain ⟨bases, ends, cycles⟩ := walks_exhaustive knot
  refine ⟨(bases ⟨0⟩).isChoice.2 ⟨1, ⟨1⟩, rfl, rfl⟩, ((bases ⟨0⟩).mem (by decide)).2 ⟨1, rfl⟩,
    cycles ⟨0⟩ 0 2 ⟨0⟩ (by decide) rfl rfl, ?_⟩
  have steps (i : Nat) (e : ElementId) (h : knot.referent ⟨2⟩ i = some e) :
      i = 0 ∧ e = ⟨2⟩ ∨ i = 1 ∧ e = ⟨3⟩ := by
    match i with
    | 0 => exact .inl ⟨rfl, (Option.some.inj h).symm⟩
    | 1 => exact .inr ⟨rfl, (Option.some.inj h).symm⟩
    | i + 2 =>
      rw [referent, Nat.add_comm, follow_add] at h
      cases h
  obtain ⟨i, last, reached, isLast, same⟩ := ends ⟨2⟩ fun i j e first second => by
    rcases steps i e first with ⟨rfl, rfl⟩ | ⟨rfl, rfl⟩ <;>
      rcases steps j _ second with ⟨rfl, other⟩ | ⟨rfl, other⟩ <;> first | rfl | cases other
  rw [same]
  rcases steps i last reached with ⟨-, rfl⟩ | ⟨-, rfl⟩
  · cases isLast
  · rfl

end XsdRecords.Declaration.Declarations
