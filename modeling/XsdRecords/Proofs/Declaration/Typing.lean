import XsdRecords.Proofs.Declaration.Fresh
import XsdRecords.Proofs.Declaration.Reference

/-! # Where types come from, and what they are

An element has a type of its own, or that of an element it refers to: its typing.  A type has a
built-in type of its own or none, and is a choice or none: its nature.  Both are told of single
elements and types, before anything is found along references and bases. -/

namespace XsdRecords.Declaration

open XsdRecords.Vocabulary (Builtin)

/-- Where an element has its type from. -/
structure Typing where
  directType : Option TypeId := none
  reference : Option ElementId := none
  deriving DecidableEq, Repr

/-- A typing with what is given later in place of what was given before. -/
def Typing.override (t later : Typing) : Typing :=
  ⟨later.directType <|> t.directType, later.reference <|> t.reference⟩

@[simp] theorem Typing.override_blank (t : Typing) : t.override {} = t :=
  rfl

@[simp] theorem Typing.blank_override (t : Typing) : Typing.override {} t = t := by
  simp [override]

/-- What a type is by itself, whatever its bases are. -/
structure Nature where
  builtin : Option Builtin := none
  isChoice : Bool := false
  deriving DecidableEq, Repr

/-- The nature of a type that holds records. -/
def Nature.completed (n : Nature) : Nature :=
  { n with builtin := some Builtin.complexType }

def Element.typing (e : Element) : Typing :=
  ⟨e.directType, e.reference⟩

def TypeDef.nature (t : TypeDef) : Nature :=
  ⟨t.builtin, t.isChoice⟩

/-- An element that is not defined has its type from nowhere. -/
theorem Element.typing_of_undefined {e : Element} (undefined : e.isDefined = false) :
    e.typing = {} := by
  simp only [Element.isDefined, Bool.or_eq_false_iff, Option.isSome_eq_false_iff,
    Option.isNone_iff_eq_none] at undefined
  rw [Element.typing, undefined.1, undefined.2]

/-- An element that has its type from nowhere may refer to another, or get a type. -/
theorem Element.typing_refer {e : Element} (blank : e.typing = {}) (target : ElementId) :
    ({ e with reference := some target } : Element).typing = ⟨none, some target⟩ := by
  have unset : e.directType = none := congrArg Typing.directType blank
  rw [Element.typing, unset]

theorem Element.typing_direct {e : Element} (blank : e.typing = {}) (type : TypeId) :
    ({ e with directType := some type } : Element).typing = ⟨some type, none⟩ := by
  have unset : e.reference = none := congrArg Typing.reference blank
  rw [Element.typing, unset]

namespace Declarations

/-- The typing that a name gives to an element: the type of the name, or what refers to the
top-level element of the name. -/
def named (d : Declarations) : Option Reference → Typing
  | none => {}
  | some r =>
    match r.referent with
    | .type => ⟨(d.place? r).map TypeId.mk, none⟩
    | .root _ => ⟨none, (d.place? r).map ElementId.mk⟩

variable {d d' d'' : Declarations}

theorem named_root {symbol : Symbol} {isAttribute : Bool} {target : ElementId}
    (found : d.place? ⟨.root isAttribute, symbol⟩ = some target.index) :
    d.named (some ⟨.root isAttribute, symbol⟩) = ⟨none, some target⟩ := by
  simp only [named, found, Option.map_some]

theorem named_type {symbol : Symbol} {type : TypeId}
    (found : d.place? ⟨.type, symbol⟩ = some type.index) :
    d.named (some ⟨.type, symbol⟩) = ⟨some type, none⟩ := by
  simp only [named, found, Option.map_some]

/-- A name gives a type or an element to refer to, and not both. -/
theorem named_one (d : Declarations) (reference : Option Reference) :
    (d.named reference).directType = none ∨ (d.named reference).reference = none := by
  unfold named
  split
  · exact .inl rfl
  · split
    · exact .inr rfl
    · exact .inl rfl

/-- What a known name gives: a type if it is that of a type, and an element to refer to otherwise. -/
theorem isSome_named {reference : Option Reference}
    (known : ∀ r, reference = some r → (d.place? r).isSome = true) :
    (d.named reference).directType.isSome = reference.any (·.referent = .type) ∧
      (d.named reference).reference.isSome = reference.any (·.referent ≠ .type) := by
  cases reference with
  | none => exact ⟨rfl, rfl⟩
  | some r =>
    obtain ⟨place, found⟩ := Option.isSome_iff_exists.1 (known r rfl)
    cases referent : r.referent <;> simp [named, found, referent]

/-- Where an element refers to another, its own type counts for nothing. -/
theorem elementType_retyped {id : ElementId} (refers : (d.element id).reference.isSome = true)
    (type : Option TypeId) :
    (d.modifyElement id fun e => { e with directType := type }).elementType = d.elementType := by
  have reference (other : ElementId) : ((d.modifyElement id fun e =>
      { e with directType := type }).element other).reference = (d.element other).reference :=
    get_element_modifyElement Element.reference d id other fun _ => rfl
  have within (limit : Nat) (other : ElementId) : (d.modifyElement id fun e =>
      { e with directType := type }).elementTypeWithin limit other =
        d.elementTypeWithin limit other := by
    induction limit generalizing other with
    | zero => rfl
    | succ limit ih =>
      rw [elementTypeWithin, elementTypeWithin, reference]
      split
      · exact ih _
      · rename_i none
        rw [element_modifyElement_of_ne fun same => ?_]
        rw [same, none] at refers
        cases refers
  funext other
  rw [elementType, elementType, size_modifyElement, within]

theorem SameBut.typing {types : List TypeId} {elements : List ElementId}
    (same : SameBut types elements d d') {id : ElementId} (h : id ∉ elements) :
    (d'.element id).typing = (d.element id).typing :=
  congrArg Element.typing (same.element h)

theorem typing_modifyElement {own : ElementId} (bound : own.index < d.elements.size)
    (f : Element → Element) (id : ElementId) :
    ((d.modifyElement own f).element id).typing =
      if own = id then (f (d.element id)).typing else (d.element id).typing := by
  split
  · rename_i same
    subst same
    rw [element_modifyElement bound]
  · rename_i apart
    rw [element_modifyElement_of_ne apart]

theorem SameBut.nature {types : List TypeId} {elements : List ElementId}
    (same : SameBut types elements d d') {id : TypeId} (h : id ∉ types) :
    (d'.type id).nature = (d.type id).nature :=
  TypeDef.get_of_body TypeDef.nature (fun _ => rfl) (same.type h)

theorem nature_modifyType {own : TypeId} (bound : own.index < d.types.size)
    (f : TypeDef → TypeDef) (id : TypeId) :
    ((d.modifyType own f).type id).nature =
      if own = id then (f (d.type id)).nature else (d.type id).nature := by
  split
  · rename_i same
    subst same
    rw [type_modifyType bound]
  · rename_i apart
    rw [type_modifyType_of_ne apart]

theorem nature_addField {own : TypeId} (bound : own.index < d.types.size) (name : String)
    (element : ElementId) (id : TypeId) :
    ((d.addField own name element).type id).nature =
      if own = id then (d.type id).nature.completed else (d.type id).nature :=
  nature_modifyType bound _ id

/-- Declarations in which nothing has another typing or nature. -/
structure KeepsTyped (d d' : Declarations) : Prop where
  typing (id : ElementId) : (d'.element id).typing = (d.element id).typing
  nature (id : TypeId) : (d'.type id).nature = (d.type id).nature

namespace KeepsTyped

theorem refl (d : Declarations) : KeepsTyped d d :=
  ⟨fun _ => rfl, fun _ => rfl⟩

theorem trans (first : KeepsTyped d d') (second : KeepsTyped d' d'') : KeepsTyped d d'' :=
  ⟨fun id => (second.typing id).trans (first.typing id),
    fun id => (second.nature id).trans (first.nature id)⟩

theorem ofSameBut (same : SameBut [] [] d d') : KeepsTyped d d' :=
  ⟨fun _ => same.typing List.not_mem_nil, fun _ => same.nature List.not_mem_nil⟩

theorem modifyElement (d : Declarations) (own : ElementId) {f : Element → Element}
    (keeps : ∀ e, (f e).typing = e.typing) : KeepsTyped d (d.modifyElement own f) :=
  ⟨fun id => get_element_modifyElement Element.typing d own id keeps, fun _ => rfl⟩

theorem modifyType (d : Declarations) (own : TypeId) {f : TypeDef → TypeDef}
    (keeps : ∀ t, (f t).nature = t.nature) : KeepsTyped d (d.modifyType own f) :=
  ⟨fun _ => rfl, fun id => get_type_modifyType TypeDef.nature d own id keeps⟩

end KeepsTyped

end Declarations

end XsdRecords.Declaration
