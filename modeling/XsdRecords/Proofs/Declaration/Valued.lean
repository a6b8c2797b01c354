import XsdRecords.Proofs.Declaration.Shape
import XsdRecords.Proofs.Declaration.Walk

/-! # No element is of a built-in type without values

A type is looked up before an element gets it or another type derives from it, and a built-in type
without values is refused there.  So no chain of bases that starts at an element leads to one. -/

namespace XsdRecords.Declaration.Declarations

open XsdRecords.Layout (ElemType)
open XsdRecords.Vocabulary (Builtin)

variable {d d' : Declarations}

/-- Neither an element has a type that is a built-in one without values, nor a type such a base. -/
structure Valued (d : Declarations) : Prop where
  directType {id : ElementId} {type : TypeId} :
    (d.element id).directType = some type → (d.type type).isVoid = false
  base {id base : TypeId} : (d.type id).base = some base → (d.type base).isVoid = false

theorem isVoid_eq_false_iff {t : TypeDef} :
    t.isVoid = false ↔ ∀ b, t.builtin = some b → b.elemType ≠ .void := by
  simp [TypeDef.isVoid, Option.any_eq_false]

/-! ## Edits -/

/-- No edit makes a type one without values. -/
theorem Edit.isVoid (edit : Edit d d') {id : TypeId} (valued : (d.type id).isVoid = false) :
    (d'.type id).isVoid = false := by
  cases edit with
  | mint | addElement | addRoot | addRootAttribute | refer | typed | form => exact valued
  | addType =>
    rw [type_addType]
    split
    · rfl
    · exact valued
  | complex own | addField own =>
    exact type_modifyType_of (P := fun t => t.isVoid = false) valued fun _ => rfl
  | preserve own | choose own | derive own | enumerate own =>
    exact type_modifyType_of (P := fun t => t.isVoid = false) valued fun same => same ▸ valued

theorem Edit.valued (edit : Edit d d') (valued : d.Valued) : d'.Valued := by
  have added {id : ElementId} {type : TypeId}
      (h : (d.addElement.1.element id).directType = some type) : (d.type type).isVoid = false := by
    rw [element_addElement] at h
    split at h
    · cases h
    · exact valued.directType h
  constructor
  · intro id type h
    refine edit.isVoid ?_
    revert h
    cases edit with
    | mint | addType | complex | preserve | choose | derive | enumerate | addField =>
      exact valued.directType
    | addElement | addRoot | addRootAttribute => exact added
    | refer own target =>
      exact element_modifyElement_of
        (P := fun e => e.directType = some type → (d.type type).isVoid = false)
        valued.directType fun _ => valued.directType
    | typed own other f bound directType reference real =>
      refine element_modifyElement_of
        (P := fun e => e.directType = some type → (d.type type).isVoid = false)
        valued.directType fun _ h => ?_
      rw [directType] at h
      rwa [← Option.some.inj h]
    | form own f directType =>
      refine element_modifyElement_of
        (P := fun e => e.directType = some type → (d.type type).isVoid = false)
        valued.directType fun _ h => ?_
      rw [directType] at h
      exact valued.directType h
  · intro id base h
    refine edit.isVoid ?_
    revert h
    cases edit with
    | mint | addElement | addRoot | addRootAttribute | refer | typed | form => exact valued.base
    | addType =>
      rw [type_addType]
      split
      · intro h
        cases h
      · exact valued.base
    | complex own | preserve own | choose own | enumerate own | addField own =>
      exact type_modifyType_of (P := fun t => t.base = some base → (d.type base).isVoid = false)
        valued.base fun _ => valued.base
    | derive own other isList bound acyclic real =>
      refine type_modifyType_of (P := fun t => t.base = some base → (d.type base).isVoid = false)
        valued.base fun _ h => ?_
      rwa [← Option.some.inj h]

theorem Edits.valued (edits : Edits d d') (valued : d.Valued) : d'.Valued := by
  induction edits with
  | refl => exact valued
  | tail _ edit ih => exact edit.valued ih

/-! ## Elements and their types -/

/-- The type of an element is that of an element, perhaps of another one. -/
theorem exists_directType_of_elementType {id : ElementId} {type : TypeId}
    (typed : d.elementType id = some type) : ∃ id', (d.element id').directType = some type := by
  unfold elementType at typed
  generalize d.elements.size = limit at typed
  induction limit generalizing id with
  | zero => cases typed
  | succ limit ih =>
    unfold elementTypeWithin at typed
    split at typed
    · exact ih typed
    · exact ⟨id, typed⟩

/-- A chain of bases starts at a type and goes on with bases. -/
theorem base_of_mem_baseChain {id type : TypeId} (member : type ∈ d.baseChain id) :
    type = id ∨ ∃ id', (d.type id').base = some type := by
  unfold baseChain at member
  generalize d.types.size = limit at member
  induction limit generalizing id with
  | zero => cases member
  | succ limit ih =>
    unfold baseChainWithin at member
    rcases List.mem_cons.1 member with own | later
    · exact .inl own
    · split at later
      · rename_i base own
        rcases ih later with rfl | above
        · exact .inr ⟨id, own⟩
        · exact .inr above
      · cases later

/-- The built-in type of an element has values. -/
theorem Valued.builtin (valued : d.Valued) {id : ElementId} {type : TypeId} {b : Builtin}
    (typed : d.elementType id = some type) (built : d.builtin type = some b) :
    b.elemType ≠ .void := by
  obtain ⟨nearest, member, own⟩ := List.exists_of_findSome?_eq_some built
  refine isVoid_eq_false_iff.1 ?_ b own
  rcases base_of_mem_baseChain member with rfl | ⟨id', base⟩
  · obtain ⟨id', direct⟩ := exists_directType_of_elementType typed
    exact valued.directType direct
  · exact valued.base base

theorem widenToArray_ne_void {t : ElemType} (valued : t ≠ .void) : t.widenToArray ≠ .void := by
  unfold ElemType.widenToArray
  split
  · exact valued
  · assumption

/-- An element whose built-in type is known has values. -/
theorem Valued.elementElemType (valued : d.Valued) {id : ElementId} {type : TypeId} {b : Builtin}
    (typed : d.elementType id = some type) (built : d.builtin type = some b) :
    d.elementElemType id ≠ .void := by
  have own := valued.builtin typed built
  have values : d.elemType type ≠ .void := by
    simp only [Declarations.elemType, built]
    split
    · exact widenToArray_ne_void own
    · exact own
  simp only [Declarations.elementElemType, typed]
  split
  · exact widenToArray_ne_void values
  · exact values

/-! ## Changes that a generation makes -/

theorem Valued.congr (valued : d.Valued)
    (directType : ∀ id, (d'.element id).directType = (d.element id).directType)
    (base : ∀ id, (d'.type id).base = (d.type id).base)
    (isVoid : ∀ id, (d'.type id).isVoid = (d.type id).isVoid) : d'.Valued where
  directType h := by
    rw [isVoid]
    exact valued.directType (directType _ ▸ h)
  base h := by
    rw [isVoid]
    exact valued.base (base _ ▸ h)

theorem Valued.sameShape (valued : d.Valued) (same : d.SameShape d') : d'.Valued :=
  valued.congr (fun id => by rw [same.element]) same.base
    (same.ofCore TypeDef.isVoid fun _ => rfl)

end XsdRecords.Declaration.Declarations
