import Mathlib.Logic.Relation
import XsdRecords.Proofs.Declaration.Shape

/-! # What reading does to declarations

Reading changes declarations by a few kinds of edits.  `Edit` lists them, each with what is known
when it is made, so that an invariant of reading need only be kept by each of them. -/

namespace XsdRecords.Declaration

/-- Whether a type is itself a built-in type that has no values. -/
def TypeDef.isVoid (t : TypeDef) : Bool :=
  t.builtin.any (·.elemType = .void)

namespace Declarations

open XsdRecords.Vocabulary (Builtin)

/-! ## Edits -/

/-- One edit of declarations. -/
inductive Edit (d : Declarations) : Declarations → Prop
  | mint : Edit d d.anonymousSymbol.1
  | addElement : Edit d d.addElement.1
  | addType (s : Symbol) (new : d.typeTable.find? s = none) :
      Edit d (d.addType { symbol := s }).1
  | addRoot (s : Symbol) (new : d.roots.find? s = none) :
      Edit d { d.addElement.1 with roots := d.roots.insert s d.addElement.2 }
  | addRootAttribute (s : Symbol) (new : d.rootAttributes.find? s = none) :
      Edit d { d.addElement.1 with
        rootAttributes := d.rootAttributes.insert s d.addElement.2 }
  | refer (id target : ElementId) (isField : ∀ s, d.roots.find? s ≠ some id) :
      Edit d (d.modifyElement id fun e => { e with reference := some target })
  | typed (id : ElementId) (type : TypeId) (f : Element → Element)
      (inRange : type.index < d.types.size)
      (directType : ∀ e, (f e).directType = some type)
      (reference : ∀ e, (f e).reference = e.reference)
      (valued : (d.type type).isVoid = false) : Edit d (d.modifyElement id f)
  | form (id : ElementId) (f : Element → Element)
      (directType : ∀ e, (f e).directType = e.directType)
      (reference : ∀ e, (f e).reference = e.reference)
      (isUntagged : ∀ e, (f e).isUntagged = e.isUntagged) : Edit d (d.modifyElement id f)
  | complex (id : TypeId) :
      Edit d (d.modifyType id fun t => { t with builtin := some Builtin.complexType })
  | preserve (id : TypeId) : Edit d (d.modifyType id fun t => { t with preserveEnumIds := true })
  | choose (id : TypeId) (isChoice : Bool) : Edit d (d.modifyType id fun t => { t with isChoice })
  | derive (id base : TypeId) (isList : Bool) (inRange : base.index < d.types.size)
      (acyclic : d.derivesFrom base id = false) (valued : (d.type base).isVoid = false) :
      Edit d (d.modifyType id fun t =>
        { t with base := some base, isList := t.isList || isList })
  | enumerate (id : TypeId) (value : String) (number : Option Int) :
      Edit d (d.modifyType id (·.addEnumerator value number))
  | addField (id : TypeId) (name : String) (element : ElementId) :
      Edit d (d.addField id name element)

/-- Edits one after another. -/
abbrev Edits : Declarations → Declarations → Prop :=
  Relation.ReflTransGen Edit

/-! ## Elements and types after an edit -/

theorem element_addElement (d : Declarations) (id : ElementId) :
    d.addElement.1.element id = if id.index = d.elements.size then {} else d.element id := by
  simp only [element, addElement, Array.getD_eq_getD_getElem?, Array.getElem?_push]
  split <;> rfl

theorem type_addType (d : Declarations) (t : TypeDef) (id : TypeId) :
    (d.addType t).1.type id = if id.index = d.types.size then t else d.type id := by
  simp only [type, addType, Array.getD_eq_getD_getElem?, Array.getElem?_push]
  split <;> rfl

@[simp] theorem size_modifyElement (d : Declarations) (id : ElementId) (f : Element → Element) :
    (d.modifyElement id f).elements.size = d.elements.size :=
  Array.size_modify

/-- What holds of an element and of what it is changed to, holds after the change. -/
theorem element_modifyElement_of {P : Element → Prop} {d : Declarations} {id other : ElementId}
    {f : Element → Element} (before : P (d.element other))
    (changed : other = id → P (f (d.element id))) : P ((d.modifyElement id f).element other) := by
  by_cases same : other = id
  · subst same
    by_cases bound : other.index < d.elements.size
    · rw [element_modifyElement bound]
      exact changed rfl
    · have unchanged : d.modifyElement other f = d := by
        simp only [modifyElement, Array.modify, Array.modifyM, bound, dite_false]
        rfl
      rwa [unchanged]
  · rwa [element_modifyElement_of_ne (Ne.symm same)]

/-- What a change of one element leaves as it is, it leaves so for every element. -/
theorem get_element_modifyElement {α : Type} (get : Element → α) (d : Declarations)
    (id other : ElementId) {f : Element → Element} (keeps : ∀ e, get (f e) = get e) :
    get ((d.modifyElement id f).element other) = get (d.element other) :=
  element_modifyElement_of (P := fun e => get e = get (d.element other)) rfl
    fun own => own ▸ keeps _

/-- What holds of every type and is kept by every change of one, an edit keeps. -/
theorem Edit.forall_type {P : TypeDef → Prop} {d d' : Declarations} (edit : Edit d d')
    (all : ∀ id, P (d.type id)) (fresh : ∀ symbol, P { symbol })
    (complex : ∀ t, P t → P { t with builtin := some Builtin.complexType })
    (preserve : ∀ t, P t → P { t with preserveEnumIds := true })
    (choose : ∀ t isChoice, P t → P { t with isChoice })
    (derive : ∀ t base isList, base.index < d.types.size → P t →
      P { t with base := some base, isList := t.isList || isList })
    (enumerate : ∀ t value number, P t → P (t.addEnumerator value number))
    (addField : ∀ t name element, P t →
      P { t with fields := t.fields ++ [(name, element)], builtin := some Builtin.complexType }) :
    ∀ id, P (d'.type id) := by
  intro id
  cases edit with
  | mint | addElement | addRoot | addRootAttribute | refer | typed | form => exact all id
  | addType s =>
    rw [type_addType]
    split
    · exact fresh s
    · exact all id
  | complex own => exact type_modifyType_of (all id) fun _ => complex _ (all own)
  | preserve own => exact type_modifyType_of (all id) fun _ => preserve _ (all own)
  | choose own b => exact type_modifyType_of (all id) fun _ => choose _ b (all own)
  | derive own base isList inRange =>
    exact type_modifyType_of (all id) fun _ => derive _ base isList inRange (all own)
  | enumerate own value number =>
    exact type_modifyType_of (all id) fun _ => enumerate _ value number (all own)
  | addField own name element =>
    exact type_modifyType_of (all id) fun _ => addField _ name element (all own)

/-- No edit takes a type away. -/
theorem Edit.size_types_le {d d' : Declarations} (edit : Edit d d') :
    d.types.size ≤ d'.types.size := by
  cases edit with
  | mint | addElement | addRoot | addRootAttribute | refer | typed | form => exact Nat.le_refl _
  | addType => exact Nat.le_of_lt (by simp [Declarations.addType])
  | complex | preserve | choose | derive | enumerate | addField =>
    exact Nat.le_of_eq Array.size_modify.symm

/-- No edit takes an element away. -/
theorem Edit.size_elements_le {d d' : Declarations} (edit : Edit d d') :
    d.elements.size ≤ d'.elements.size := by
  cases edit with
  | mint | addType | complex | preserve | choose | derive | enumerate | addField =>
    exact Nat.le_refl _
  | addElement | addRoot | addRootAttribute =>
    exact Nat.le_of_lt (by simp [Declarations.addElement])
  | refer | typed | form => exact Nat.le_of_eq Array.size_modify.symm

/-! ## Invariants of reading -/

/-- Declarations that nothing was generated from: no type has an output or the name of one, and the
built-in types are those of the table. -/
structure Pristine (d : Declarations) : Prop where
  record (id : TypeId) : (d.type id).record = none
  enumeration (id : TypeId) : (d.type id).enumeration = none
  override (id : TypeId) : (d.type id).overrideSymbol = none
  builtin {id : TypeId} {b : Builtin} : (d.type id).builtin = some b →
    b ∈ Builtin.all ∨ b = Builtin.complexType

/-- Tables, bases and elements that point to what there is. -/
structure InRange (d : Declarations) : Prop where
  types {s : Symbol} {id : TypeId} : d.typeTable.find? s = some id → id.index < d.types.size
  roots {s : Symbol} {id : ElementId} : d.roots.find? s = some id → id.index < d.elements.size
  rootAttributes {s : Symbol} {id : ElementId} :
    d.rootAttributes.find? s = some id → id.index < d.elements.size
  base {id base : TypeId} : (d.type id).base = some base → base.index < d.types.size
  directType {id : ElementId} {type : TypeId} :
    (d.element id).directType = some type → type.index < d.types.size

/-- Top-level elements that are distinct and refer to no other. -/
structure Rooted (d : Declarations) : Prop where
  reference {s : Symbol} {id : ElementId} :
    d.roots.find? s = some id → (d.element id).reference = none
  injective {s s' : Symbol} {id : ElementId} :
    d.roots.find? s = some id → d.roots.find? s' = some id → s = s'

/-- A type with fields is complex itself. -/
def HasComplexFields (d : Declarations) : Prop :=
  ∀ id, (d.type id).fields ≠ [] → (d.type id).builtin = some Builtin.complexType

theorem HasComplexFields.edit {d d' : Declarations} (complex : d.HasComplexFields)
    (edit : Edit d d') : d'.HasComplexFields :=
  edit.forall_type (P := fun t => t.fields ≠ [] → t.builtin = some Builtin.complexType)
    complex (fun _ h => absurd rfl h) (fun _ _ _ => rfl) (fun _ h => h) (fun _ _ h => h)
    (fun _ _ _ _ h => h) (fun _ _ _ h => h) (fun _ _ _ _ _ => rfl)

theorem Pristine.edit {d d' : Declarations} (pristine : d.Pristine) (edit : Edit d d') :
    d'.Pristine := by
  have all := edit.forall_type
    (P := fun t => t.record = none ∧ t.enumeration = none ∧ t.overrideSymbol = none ∧
      ∀ b, t.builtin = some b → b ∈ Builtin.all ∨ b = Builtin.complexType)
    (fun id => ⟨pristine.record id, pristine.enumeration id, pristine.override id,
      fun _ => pristine.builtin⟩)
    (fun _ => ⟨rfl, rfl, rfl, fun _ h => by cases h⟩)
    (fun _ ⟨r, e, o, _⟩ => ⟨r, e, o, fun _ h => .inr (Option.some.inj h).symm⟩)
    (fun _ h => h) (fun _ _ h => h) (fun _ _ _ _ h => h) (fun _ _ _ h => h)
    (fun _ _ _ ⟨r, e, o, _⟩ => ⟨r, e, o, fun _ h => .inr (Option.some.inj h).symm⟩)
  exact ⟨fun id => (all id).1, fun id => (all id).2.1, fun id => (all id).2.2.1,
    fun {id} _ => (all id).2.2.2 _⟩

theorem InRange.addType {d : Declarations} (inRange : d.InRange) {t : TypeDef}
    (bound : ∀ base, t.base = some base → base.index < d.types.size) :
    (d.addType t).1.InRange := by
  refine ⟨fun {s id} found => ?_, inRange.roots, inRange.rootAttributes, fun {id base} h => ?_,
    fun {id type} h => ?_⟩
  · simp only [Declarations.addType, SymbolTable.find?_insert] at found
    split at found
    · obtain rfl := Option.some.inj found
      simp [Declarations.addType]
    · exact Nat.lt_trans (inRange.types found) (by simp [Declarations.addType])
  · rw [type_addType] at h
    have old : base.index < d.types.size := by
      split at h
      · exact bound base h
      · exact inRange.base h
    exact Nat.lt_trans old (by simp [Declarations.addType])
  · exact Nat.lt_trans (inRange.directType h) (by simp [Declarations.addType])

theorem InRange.edit {d d' : Declarations} (inRange : d.InRange) (edit : Edit d d') :
    d'.InRange := by
  have types := edit.size_types_le
  have elements := edit.size_elements_le
  have base := edit.forall_type
    (P := fun t => ∀ base, t.base = some base → base.index < d'.types.size)
    (fun _ _ h => Nat.lt_of_lt_of_le (inRange.base h) types) (fun _ _ h => by cases h)
    (fun _ h => h) (fun _ h => h) (fun _ _ h => h)
    (fun _ _ _ own _ _ h => by
      obtain rfl := Option.some.inj h
      exact Nat.lt_of_lt_of_le own types)
    (fun _ _ _ h => h) (fun _ _ _ h => h)
  refine ⟨fun {s id} found => ?_, fun {s id} found => ?_, fun {s id} found => ?_,
    fun {id b} h => base id b h, fun {id type} h => ?_⟩
  · cases edit with
    | addType own => exact (inRange.addType fun _ h => by cases h).types found
    | _ => exact Nat.lt_of_lt_of_le (inRange.types found) types
  · cases edit with
    | addRoot own =>
      rw [SymbolTable.find?_insert] at found
      split at found
      · obtain rfl := Option.some.inj found
        simp [addElement]
      · exact Nat.lt_of_lt_of_le (inRange.roots found) elements
    | _ => exact Nat.lt_of_lt_of_le (inRange.roots found) elements
  · cases edit with
    | addRootAttribute own =>
      rw [SymbolTable.find?_insert] at found
      split at found
      · obtain rfl := Option.some.inj found
        simp [addElement]
      · exact Nat.lt_of_lt_of_le (inRange.rootAttributes found) elements
    | _ => exact Nat.lt_of_lt_of_le (inRange.rootAttributes found) elements
  · have added {id : ElementId} (h : (d.addElement.1.element id).directType = some type) :
        type.index < d.types.size := by
      rw [element_addElement] at h
      split at h
      · cases h
      · exact inRange.directType h
    refine Nat.lt_of_lt_of_le ?_ types
    cases edit with
    | mint | addType | complex | preserve | choose | derive | enumerate | addField =>
      exact inRange.directType h
    | addElement | addRoot | addRootAttribute => exact added h
    | refer own target =>
      exact element_modifyElement_of
        (P := fun e => e.directType = some type → type.index < d.types.size)
        inRange.directType (fun _ => inRange.directType) h
    | typed own other f other_lt directType =>
      refine element_modifyElement_of
        (P := fun e => e.directType = some type → type.index < d.types.size)
        inRange.directType (fun _ h => ?_) h
      rw [directType] at h
      rwa [← Option.some.inj h]
    | form own f directType =>
      refine element_modifyElement_of
        (P := fun e => e.directType = some type → type.index < d.types.size)
        inRange.directType (fun _ h => ?_) h
      rw [directType] at h
      exact inRange.directType h

theorem Rooted.edit {d d' : Declarations} (rooted : d.Rooted) (inRange : d.InRange)
    (edit : Edit d d') : d'.Rooted := by
  have pushed {s : Symbol} {id : ElementId} (h : d.roots.find? s = some id) :
      (d.addElement.1.element id).reference = none := by
    rw [element_addElement, if_neg (Nat.ne_of_lt (inRange.roots h))]
    exact rooted.reference h
  constructor
  · intro s id found
    cases edit with
    | mint | addType | complex | preserve | choose | derive | enumerate | addField =>
      exact rooted.reference found
    | addElement | addRootAttribute => exact pushed found
    | addRoot own =>
      rw [SymbolTable.find?_insert] at found
      split at found
      · obtain rfl := Option.some.inj found
        change (d.addElement.1.element _).reference = none
        rw [element_addElement]
        exact congrArg Element.reference (if_pos rfl)
      · exact pushed found
    | refer own target isField =>
      refine element_modifyElement_of (P := fun e => e.reference = none)
        (rooted.reference found) fun same => ?_
      exact absurd (same ▸ found) (isField s)
    | typed own _ f _ _ reference | form own f _ reference =>
      refine element_modifyElement_of (P := fun e => e.reference = none)
        (rooted.reference found) fun same => ?_
      rw [reference]
      exact rooted.reference (same ▸ found)
  · intro s s' id found found'
    cases edit with
    | addRoot own =>
      have new {s : Symbol} (h : d.roots.find? s = some d.addElement.2) : False :=
        Nat.lt_irrefl _ (inRange.roots h)
      rw [SymbolTable.find?_insert] at found found'
      split at found <;> split at found'
      · rename_i a b
        rw [a, b]
      · obtain rfl := Option.some.inj found
        exact (new found').elim
      · obtain rfl := Option.some.inj found'
        exact (new found).elim
      · exact rooted.injective found found'
    | _ => exact rooted.injective found found'

end Declarations

end XsdRecords.Declaration
