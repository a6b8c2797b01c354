import XsdRecords.Proofs.Declaration.Fresh

/-! # What attributes give

The attributes of tags give a type its enumerators and their order, and an element its default value
and its occurrences.  `KeepsGiven` says that a change of declarations leaves all of it alone. -/

namespace XsdRecords.Declaration

/-- How often an element may occur. -/
structure Occurs where
  least : Int
  largest : Int
  deriving DecidableEq, Repr

/-- Occurrences that a field may have. -/
def Occurs.InOrder (o : Occurs) : Prop :=
  0 ≤ o.least ∧ o.least ≤ o.largest

instance (o : Occurs) : Decidable o.InOrder :=
  inferInstanceAs (Decidable (_ ∧ _))

/-- How often an element may occur. -/
def Element.occurs (e : Element) : Occurs :=
  ⟨e.minOccurs, e.maxOccurs⟩

namespace Declarations

/-- Declarations in which all is the same that the attributes of tags give. -/
structure KeepsGiven (d d' : Declarations) : Prop where
  enumerators (id : TypeId) : (d'.type id).enumerators = (d.type id).enumerators
  preserveEnumIds (id : TypeId) : (d'.type id).preserveEnumIds = (d.type id).preserveEnumIds
  defaultValue (id : ElementId) : (d'.element id).defaultValue = (d.element id).defaultValue
  occurs (id : ElementId) : (d'.element id).occurs = (d.element id).occurs

namespace KeepsGiven

variable {d d' d'' : Declarations}

theorem refl (d : Declarations) : KeepsGiven d d :=
  ⟨fun _ => rfl, fun _ => rfl, fun _ => rfl, fun _ => rfl⟩

theorem trans (first : KeepsGiven d d') (second : KeepsGiven d' d'') : KeepsGiven d d'' :=
  ⟨fun id => (second.enumerators id).trans (first.enumerators id),
    fun id => (second.preserveEnumIds id).trans (first.preserveEnumIds id),
    fun id => (second.defaultValue id).trans (first.defaultValue id),
    fun id => (second.occurs id).trans (first.occurs id)⟩

theorem minOccurs (kept : KeepsGiven d d') (id : ElementId) :
    (d'.element id).minOccurs = (d.element id).minOccurs :=
  congrArg Occurs.least (kept.occurs id)

theorem symm (kept : KeepsGiven d d') : KeepsGiven d' d :=
  ⟨fun id => (kept.enumerators id).symm, fun id => (kept.preserveEnumIds id).symm,
    fun id => (kept.defaultValue id).symm, fun id => (kept.occurs id).symm⟩

theorem ofSameBut (same : SameBut [] [] d d') : KeepsGiven d d' where
  enumerators _ := TypeDef.get_of_body TypeDef.enumerators (fun _ => rfl)
    (same.type List.not_mem_nil)
  preserveEnumIds _ := TypeDef.get_of_body TypeDef.preserveEnumIds (fun _ => rfl)
    (same.type List.not_mem_nil)
  defaultValue _ := congrArg Element.defaultValue (same.element List.not_mem_nil)
  occurs _ := congrArg Element.occurs (same.element List.not_mem_nil)

theorem modifyType (d : Declarations) (type : TypeId) {f : TypeDef → TypeDef}
    (enumerators : ∀ t, (f t).enumerators = t.enumerators)
    (preserveEnumIds : ∀ t, (f t).preserveEnumIds = t.preserveEnumIds) :
    KeepsGiven d (d.modifyType type f) :=
  ⟨fun id => get_type_modifyType TypeDef.enumerators d type id enumerators,
    fun id => get_type_modifyType TypeDef.preserveEnumIds d type id preserveEnumIds,
    fun _ => rfl, fun _ => rfl⟩

theorem modifyElement (d : Declarations) (own : ElementId) {f : Element → Element}
    (defaultValue : ∀ e, (f e).defaultValue = e.defaultValue)
    (occurs : ∀ e, (f e).occurs = e.occurs) : KeepsGiven d (d.modifyElement own f) :=
  ⟨fun _ => rfl, fun _ => rfl,
    fun id => get_element_modifyElement Element.defaultValue d own id defaultValue,
    fun id => get_element_modifyElement Element.occurs d own id occurs⟩

end KeepsGiven

end Declarations

end XsdRecords.Declaration
