import XsdRecords.Proofs.Declaration.Shape
import XsdRecords.Proofs.Declaration.Walk

/-! # Bases without a cycle

A type gets a base only where it is not itself among the ancestors of that base, and a new type is
the base of no other.  No type therefore ever becomes an ancestor of its own: `Acyclic`.  Where that
is so, a walk lists each ancestor once, down to one without a base, and what is looked up on it is
that of the nearest ancestor that has it: `Lineage`. -/

namespace XsdRecords.Declaration

/-- The largest value of a type, if it has one of its own. -/
def TypeDef.ownMaxValue? (t : TypeDef) : Option Nat :=
  if t.maxValue = 0 then none else some t.maxValue

namespace Declarations

variable {d d' : Declarations}

/-- No type is one of its own proper ancestors. -/
def Acyclic (d : Declarations) : Prop :=
  ∀ id steps, d.ancestor id (steps + 1) ≠ some id

/-! ## What keeps bases acyclic -/

/-- A walk meets the same types where those it meets have the same bases. -/
theorem ancestor_congr {id : TypeId} {steps : Nat}
    (same : ∀ fewer < steps, ∀ t, d.ancestor id fewer = some t →
      (d'.type t).base = (d.type t).base) :
    d'.ancestor id steps = d.ancestor id steps := by
  induction steps with
  | zero => rfl
  | succ steps ih =>
    rw [ancestor, ancestor, ih fun fewer less => same fewer (Nat.lt_succ_of_lt less)]
    cases here : d.ancestor id steps with
    | none => rfl
    | some t => exact same steps (Nat.lt_succ_self steps) t here

theorem Acyclic.congr (acyclic : d.Acyclic)
    (same : ∀ id, (d'.type id).base = (d.type id).base) : d'.Acyclic := by
  intro id steps
  rw [ancestor_congr fun _ _ t _ => same t]
  exact acyclic id steps

theorem Acyclic.addType (acyclic : d.Acyclic) (bases : d.BasesInRange) {t : TypeDef}
    (bound : ∀ base, t.base = some base → base.index < d.types.size) :
    (d.addType t).1.Acyclic := by
  have old {id : TypeId} (inside : id.index < d.types.size) (steps : Nat) :
      (d.addType t).1.ancestor id steps = d.ancestor id steps :=
    ancestor_congr fun fewer _ other reached => by
      rw [type_addType, if_neg (Nat.ne_of_lt (ancestor_lt bases inside reached))]
  intro id steps cycle
  by_cases inside : id.index < d.types.size
  · rw [old inside] at cycle
    exact acyclic id steps cycle
  · rw [ancestor_succ] at cycle
    obtain ⟨base, own, reached⟩ := Option.bind_eq_some_iff.1 cycle
    have baseInside : base.index < d.types.size := by
      rw [type_addType] at own
      split at own
      · exact bound base own
      · exact bases id base own
    rw [old baseInside] at reached
    exact inside (ancestor_lt bases baseInside reached)

/-- A new base of a type closes no cycle if the type is not among the ancestors of the base. -/
theorem Acyclic.derive (acyclic : d.Acyclic) (bases : d.BasesInRange) {id base : TypeId}
    {f : TypeDef → TypeDef} (inRange : base.index < d.types.size)
    (new : ∀ t, (f t).base = some base) (fresh : d.derivesFrom base id = false) :
    (d.modifyType id f).Acyclic := by
  by_cases bound : id.index < d.types.size
  swap
  · rwa [modifyType_of_size_le bound]
  have elsewhere {t : TypeId} (ne : t ≠ id) :
      (d.type t).base = ((d.modifyType id f).type t).base := by
    rw [type_modifyType_of_ne (Ne.symm ne)]
  -- A shortest way from the base to the type would be one along the old bases.
  have away (steps : Nat) : (d.modifyType id f).ancestor base steps ≠ some id := by
    induction steps using Nat.strong_induction_on with
    | _ steps ih =>
      intro reached
      rw [← ancestor_congr fun fewer less t here =>
        elsewhere fun own => ih fewer less (own ▸ here)] at reached
      have member : id ∈ d.baseChain base :=
        mem_baseChainWithin_iff.2 (exists_ancestor_lt_size bases inRange reached)
      rw [derivesFrom, List.contains_iff_mem.2 member] at fresh
      cases fresh
  have noReturn (steps : Nat) : (d.modifyType id f).ancestor id (steps + 1) ≠ some id := by
    rw [ancestor_succ, type_modifyType bound, new]
    exact away steps
  intro start steps cycle
  by_cases passes : ∃ k ≤ steps, (d.modifyType id f).ancestor start k = some id
  · obtain ⟨k, le, here⟩ := passes
    have onwards := ancestor_add (d.modifyType id f) start k (steps + 1 - k)
    rw [Nat.add_sub_cancel' (Nat.le_succ_of_le le), cycle, here] at onwards
    have round := ancestor_add (d.modifyType id f) id (steps + 1 - k) k
    rw [Nat.sub_add_cancel (Nat.le_succ_of_le le), ← Option.bind_some (f := fun t =>
      (d.modifyType id f).ancestor t (steps + 1 - k)), ← onwards] at round
    exact noReturn steps (round.trans here)
  · rw [← ancestor_congr fun fewer less t here =>
      elsewhere fun own => passes ⟨fewer, Nat.lt_succ_iff.1 less, own ▸ here⟩] at cycle
    exact acyclic start steps cycle

/-- No edit closes a cycle of bases. -/
theorem Edit.acyclic (edit : Edit d d') (bases : d.BasesInRange) (acyclic : d.Acyclic) :
    d'.Acyclic := by
  cases edit with
  | mint | addElement | addRoot | addRootAttribute | refer | typed | form =>
    exact acyclic.congr fun _ => rfl
  | addType => exact acyclic.addType bases fun _ h => by cases h
  | complex own | preserve own | choose own | enumerate own | addField own =>
    exact acyclic.congr fun id => get_type_modifyType TypeDef.base d own id fun _ => rfl
  | derive own base isList inRange fresh => exact acyclic.derive bases inRange (fun _ => rfl) fresh

/-! ## What keeps the links of declarations in order -/

/-- Declarations, not without any type, whose links lead to what there is and whose bases close no
cycle. -/
structure WellBased (d : Declarations) : Prop where
  inRange : d.InRange
  acyclic : d.Acyclic
  some_type : 0 < d.types.size

theorem WellBased.edit (wellBased : d.WellBased) (edit : Edit d d') : d'.WellBased where
  inRange := wellBased.inRange.edit edit
  acyclic := edit.acyclic wellBased.inRange.bases wellBased.acyclic
  some_type := Nat.lt_of_lt_of_le wellBased.some_type edit.size_types_le

theorem WellBased.edits (wellBased : d.WellBased) (edits : Edits d d') : d'.WellBased := by
  induction edits with
  | refl => exact wellBased
  | tail _ edit ih => exact ih.edit edit

/-- A change of a type that leaves its base alone. -/
theorem WellBased.modifyType (wellBased : d.WellBased) (id : TypeId) {f : TypeDef → TypeDef}
    (base : ∀ t, (f t).base = t.base) : (d.modifyType id f).WellBased := by
  have same (other : TypeId) : ((d.modifyType id f).type other).base = (d.type other).base :=
    get_type_modifyType TypeDef.base d id other base
  have size : (d.modifyType id f).types.size = d.types.size := size_modifyType d id f
  refine ⟨⟨fun h => ?_, wellBased.inRange.roots, wellBased.inRange.rootAttributes, fun h => ?_,
    fun h => ?_⟩, wellBased.acyclic.congr same, ?_⟩
  · rw [size]
    exact wellBased.inRange.types h
  · rw [same] at h
    rw [size]
    exact wellBased.inRange.base h
  · rw [size]
    exact wellBased.inRange.directType h
  · rw [size]
    exact wellBased.some_type

/-- An element may get any type that there is. -/
theorem WellBased.retype (wellBased : d.WellBased) (id : ElementId) {type : TypeId}
    (bound : type.index < d.types.size) :
    (d.modifyElement id fun e => { e with directType := some type }).WellBased := by
  have elements : (d.modifyElement id fun e => { e with directType := some type }).elements.size =
      d.elements.size := size_modifyElement d id _
  refine ⟨⟨wellBased.inRange.types, fun h => ?_, fun h => ?_, wellBased.inRange.base,
    fun {other type'} h => ?_⟩, wellBased.acyclic.congr fun _ => rfl, wellBased.some_type⟩
  · rw [elements]
    exact wellBased.inRange.roots h
  · rw [elements]
    exact wellBased.inRange.rootAttributes h
  · refine element_modifyElement_of
      (P := fun e => e.directType = some type' → type'.index < d.types.size)
      wellBased.inRange.directType (fun _ h => ?_) h
    exact Option.some.inj h ▸ bound

/-- A copy of a type shares its base, and is the base of none. -/
theorem WellBased.cloneType (wellBased : d.WellBased) (id : TypeId) :
    (d.cloneType id).1.WellBased := by
  have minted := wellBased.edit .mint
  have bound (base : TypeId) (own : (d.type id).base = some base) :
      base.index < d.anonymousSymbol.1.types.size := wellBased.inRange.base own
  exact ⟨minted.inRange.addType bound, minted.acyclic.addType minted.inRange.bases bound,
    Nat.lt_of_lt_of_le minted.some_type (by simp [Declarations.cloneType, Declarations.addType])⟩

/-! ## Walks on acyclic bases -/

/-- A walk comes to a type only once. -/
theorem Acyclic.steps_inj (acyclic : d.Acyclic) {id t : TypeId} {i j : Nat}
    (first : d.ancestor id i = some t) (second : d.ancestor id j = some t) : i = j := by
  have once {i j : Nat} (first : d.ancestor id i = some t) (second : d.ancestor id j = some t) :
      j ≤ i := by
    apply Nat.le_of_not_lt
    intro less
    obtain ⟨steps, rfl⟩ := Nat.exists_eq_add_of_lt less
    rw [Nat.add_assoc, ancestor_add, first] at second
    exact acyclic t steps second
  exact Nat.le_antisymm (once second first) (once first second)

/-- A walk is shorter than there are types. -/
theorem Acyclic.steps_lt (acyclic : d.Acyclic) (bases : d.BasesInRange)
    (some_type : 0 < d.types.size) {id t : TypeId} {steps : Nat}
    (reached : d.ancestor id steps = some t) : steps < d.types.size := by
  by_cases inside : id.index < d.types.size
  · obtain ⟨fewer, less, again⟩ := exists_ancestor_lt_size bases inside reached
    rwa [acyclic.steps_inj reached again]
  · cases steps with
    | zero => exact some_type
    | succ steps =>
      rw [ancestor_succ, type_of_size_le (Nat.le_of_not_lt inside)] at reached
      cases reached

/-- What `get` reads off the nearest of a type and its ancestors that has something to read. -/
def Nearest {α : Type} (d : Declarations) (get : TypeDef → Option α) (id : TypeId) :
    Option α → Prop
  | some a => ∃ steps t, d.ancestor id steps = some t ∧ get (d.type t) = some a ∧
      ∀ fewer < steps, ∀ nearer, d.ancestor id fewer = some nearer → get (d.type nearer) = none
  | none => ∀ steps t, d.ancestor id steps = some t → get (d.type t) = none

/-- The walk from a type lists its ancestors, and what is looked up on the walk is what they have. -/
structure Lineage (d : Declarations) (id : TypeId) : Prop where
  nodup : (d.baseChain id).Nodup
  getElem? (steps : Nat) : (d.baseChain id)[steps]? = d.ancestor id steps
  getLast? : (d.baseChain id).getLast? = some (d.mostBase id)
  root : (d.type (d.mostBase id)).base = none
  builtin : d.Nearest TypeDef.builtin id (d.builtin id)
  maxValue : d.Nearest TypeDef.ownMaxValue? id
    (if d.maxValue id = 0 then none else some (d.maxValue id))
  isList : d.isList id = true ↔
    ∃ steps t, d.ancestor id steps = some t ∧ (d.type t).isList = true
  isChoice : d.isChoice id = true ↔
    ∃ steps t, d.ancestor id steps = some t ∧ (d.type t).isChoice = true

/-! ## What is found on a walk -/

/-- What is looked up on a walk is that of the nearest ancestor that has it, however far the ancestors
go.  A place without a type has nothing. -/
theorem nearest_findSome? {α : Type} (d : Declarations) (id : TypeId) (get : TypeDef → Option α)
    (blank : get { symbol := ⟨.none, ""⟩ } = none) :
    d.Nearest get id ((d.baseChain id).findSome? fun t => get (d.type t)) := by
  cases found : (d.baseChain id).findSome? fun t => get (d.type t) with
  | none =>
    intro steps t reached
    by_cases inside : t.index < d.types.size
    · exact List.findSome?_eq_none_iff.1 found t ((mem_baseChain_iff inside).2 ⟨steps, reached⟩)
    · rw [type_of_size_le (Nat.le_of_not_lt inside), blank]
  | some a =>
    obtain ⟨nearer, t, farther, whole, own, none⟩ := List.findSome?_eq_some_iff.1 found
    have here : (d.baseChain id)[nearer.length]? = some t := by
      rw [whole, List.getElem?_append_right (Nat.le_refl _), Nat.sub_self]
      rfl
    rw [baseChain, getElem?_baseChainWithin, Option.ite_none_right_eq_some] at here
    refine ⟨nearer.length, t, here.2, own, fun fewer less other reached => none other ?_⟩
    have early : (d.baseChain id)[fewer]? = some other := by
      rw [baseChain, getElem?_baseChainWithin, if_pos (less.trans here.1), reached]
    rw [whole, List.getElem?_append_left less] at early
    exact List.mem_of_getElem? early

/-- Something holds of a type on a walk exactly if it holds of an ancestor, however far away. -/
theorem any_baseChain_iff (d : Declarations) (id : TypeId) (p : TypeDef → Bool)
    (blank : p { symbol := ⟨.none, ""⟩ } = false) :
    ((d.baseChain id).any fun t => p (d.type t)) = true ↔
      ∃ steps t, d.ancestor id steps = some t ∧ p (d.type t) = true := by
  rw [List.any_eq_true]
  constructor
  · rintro ⟨t, member, holds⟩
    obtain ⟨steps, -, reached⟩ := mem_baseChainWithin_iff.1 member
    exact ⟨steps, t, reached, holds⟩
  · rintro ⟨steps, t, reached, holds⟩
    refine ⟨t, (mem_baseChain_iff (lt_size_of_ne_blank fun none => ?_)).2 ⟨steps, reached⟩, holds⟩
    rw [none, blank] at holds
    cases holds

/-- The largest value looked up in a list is the first that is not zero. -/
theorem find?_ne_zero_eq {α : Type} (l : List α) (value : α → Nat) :
    (if ((l.map value).find? (· ≠ 0)).getD 0 = 0 then none
      else some (((l.map value).find? (· ≠ 0)).getD 0)) =
      l.findSome? fun a => if value a = 0 then none else some (value a) := by
  induction l with
  | nil => rfl
  | cons a rest ih =>
    by_cases zero : value a = 0
    · simpa [zero] using ih
    · simp [zero]

theorem Acyclic.lineage (acyclic : d.Acyclic) (bases : d.BasesInRange)
    (some_type : 0 < d.types.size) (id : TypeId) : d.Lineage id := by
  have lists (steps : Nat) : (d.baseChain id)[steps]? = d.ancestor id steps := by
    rw [baseChain, getElem?_baseChainWithin]
    split
    · rfl
    · rename_i long
      cases reached : d.ancestor id steps with
      | none => rfl
      | some t => exact absurd (acyclic.steps_lt bases some_type reached) long
  have last : (d.baseChain id).getLast? = some (d.mostBase id) := by
    have nonempty : d.baseChain id ≠ [] := fun empty => by
      have first := lists 0
      rw [empty] at first
      cases first
    rw [mostBase, List.getLastD_eq_getLast?, List.getLast?_eq_some_getLast nonempty]
    rfl
  refine ⟨?_, lists, last, ?_, nearest_findSome? d id _ rfl, ?_, any_baseChain_iff d id _ rfl,
    any_baseChain_iff d id _ rfl⟩
  · rw [List.nodup_iff_getElem?_ne_getElem?]
    intro i j less inside same
    rw [List.getElem?_eq_getElem inside, lists] at same
    have second := lists j
    rw [List.getElem?_eq_getElem inside] at second
    exact Nat.ne_of_lt less (acyclic.steps_inj same second.symm)
  · rw [List.getLast?_eq_getElem?, lists] at last
    have beyond := lists ((d.baseChain id).length - 1 + 1)
    rw [ancestor, last, List.getElem?_eq_none (by omega)] at beyond
    exact beyond.symm
  · rw [Declarations.maxValue, find?_ne_zero_eq]
    exact nearest_findSome? d id TypeDef.ownMaxValue? rfl

end Declarations

end XsdRecords.Declaration
