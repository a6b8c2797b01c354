import XsdRecords.Proofs.Declaration.Edit
import XsdRecords.Proofs.Declaration.Shape

/-! # What is new in declarations

A tag opens an element or a type that nothing has defined yet: a new one, or one that was only
referred to.  `SameBut` says what a step leaves alone, and `Free` says that nothing is defined under
the name that is made up next. -/

namespace XsdRecords.Declaration

open XsdRecords.Vocabulary (Builtin)

namespace Declarations

variable {d d' d'' : Declarations}

/-! ## Tables that agree with what they list -/

/-- Every type in the table has the symbol it is found under; a type with fields is defined, and so
is an element without a tag of its own. -/
structure Listed (d : Declarations) : Prop where
  symbol {s : Symbol} {id : TypeId} : d.typeTable.find? s = some id → (d.type id).symbol = s
  fields {id : TypeId} : (d.type id).isDefined = false → (d.type id).fields = []
  untagged {id : ElementId} : (d.element id).isUntagged = true →
    (d.element id).isDefined = true

/-- No edit changes the symbol of a type. -/
theorem Edit.symbol (edit : Edit d d') {id : TypeId} (bound : id.index < d.types.size) :
    (d'.type id).symbol = (d.type id).symbol := by
  cases edit with
  | mint | addElement | addRoot | addRootAttribute | refer | typed | form => rfl
  | addType s => rw [type_addType, if_neg (Nat.ne_of_lt bound)]
  | complex own | preserve own | choose own | derive own | enumerate own | addField own =>
    exact get_type_modifyType TypeDef.symbol d own id fun _ => rfl

theorem lt_size_of_isDefined {id : TypeId} (h : (d.type id).isDefined = true) :
    id.index < d.types.size := by
  refine lt_size_of_ne_blank fun blank => ?_
  rw [blank] at h
  cases h

/-- No edit undoes the definition of a type. -/
theorem Edit.isDefined_type (edit : Edit d d') {id : TypeId} (h : (d.type id).isDefined = true) :
    (d'.type id).isDefined = true := by
  cases edit with
  | mint | addElement | addRoot | addRootAttribute | refer | typed | form => exact h
  | addType s =>
    rw [type_addType]
    split
    · rename_i last
      rw [type_of_size_le (Nat.le_of_eq last.symm)] at h
      cases h
    · exact h
  | complex own | addField own =>
    exact type_modifyType_of (P := fun t => t.isDefined = true) h fun _ => rfl
  | derive own =>
    exact type_modifyType_of (P := fun t => t.isDefined = true) h fun _ => Bool.or_true _
  | preserve own | choose own | enumerate own =>
    exact type_modifyType_of (P := fun t => t.isDefined = true) h fun same => same ▸ h

/-- No edit undoes the definition of an element. -/
theorem Edit.isDefined_element (edit : Edit d d') {id : ElementId}
    (h : (d.element id).isDefined = true) : (d'.element id).isDefined = true := by
  have added : (d.addElement.1.element id).isDefined = true := by
    rw [element_addElement]
    split
    · rename_i last
      simp [element, Array.getD_eq_getD_getElem?, last, Element.isDefined] at h
    · exact h
  cases edit with
  | mint | addType | complex | preserve | choose | derive | enumerate | addField => exact h
  | addElement | addRoot | addRootAttribute => exact added
  | refer own =>
    exact element_modifyElement_of (P := fun e => e.isDefined = true) h fun _ => Bool.or_true _
  | typed own type f _ directType =>
    refine element_modifyElement_of (P := fun e => e.isDefined = true) h fun _ => ?_
    rw [Element.isDefined, directType]
    rfl
  | form own f directType reference =>
    refine element_modifyElement_of (P := fun e => e.isDefined = true) h fun same => ?_
    rw [Element.isDefined, directType, reference]
    exact same ▸ h

/-- No edit takes the tag of an element away that has no type. -/
theorem Edit.untagged (edit : Edit d d')
    (untagged : ∀ id, (d.element id).isUntagged = true → (d.element id).isDefined = true)
    (id : ElementId) (h : (d'.element id).isUntagged = true) :
    (d'.element id).isDefined = true := by
  have added (h : (d.addElement.1.element id).isUntagged = true) :
      (d.addElement.1.element id).isDefined = true := by
    rw [element_addElement] at h ⊢
    split at h
    · cases h
    · rename_i other
      rw [if_neg other]
      exact untagged id h
  revert h
  cases edit with
  | mint | addType | complex | preserve | choose | derive | enumerate | addField =>
    exact untagged id
  | addElement | addRoot | addRootAttribute => exact added
  | refer own target =>
    exact element_modifyElement_of (P := fun e => e.isUntagged = true → e.isDefined = true)
      (untagged id) fun _ _ => Bool.or_true _
  | typed own type f _ directType =>
    refine element_modifyElement_of (P := fun e => e.isUntagged = true → e.isDefined = true)
      (untagged id) fun _ _ => ?_
    rw [Element.isDefined, directType]
    rfl
  | form own f directType reference isUntagged =>
    refine element_modifyElement_of (P := fun e => e.isUntagged = true → e.isDefined = true)
      (untagged id) fun _ h => ?_
    rw [isUntagged] at h
    rw [Element.isDefined, directType, reference]
    exact untagged own h

theorem Listed.addType {d : Declarations} (listed : d.Listed) (inRange : d.InRange) {t : TypeDef}
    (noFields : t.fields = []) : (d.addType t).1.Listed := by
  refine ⟨fun {s id} found => ?_, fun {id} h => ?_, listed.untagged⟩
  · simp only [Declarations.addType, SymbolTable.find?_insert] at found
    rw [type_addType]
    split at found
    · rename_i same
      obtain rfl := Option.some.inj found
      rw [if_pos rfl, same]
    · rw [if_neg (Nat.ne_of_lt (inRange.types found))]
      exact listed.symbol found
  · rw [type_addType] at h ⊢
    split
    · exact noFields
    · rename_i other
      rw [if_neg other] at h
      exact listed.fields h

theorem Listed.edit (listed : d.Listed) (inRange : d.InRange) (edit : Edit d d') : d'.Listed := by
  have complete := edit.forall_type (P := fun t => t.isDefined = false → t.fields = [])
    (fun _ h => listed.fields h) (fun _ _ => rfl) (fun _ _ h => by cases h) (fun _ h => h)
    (fun _ _ h => h) (fun _ _ _ _ _ h => by simp [TypeDef.isDefined] at h)
    (fun _ _ _ h => h) (fun _ _ _ _ h => by cases h)
  refine ⟨fun {s id} found => ?_, fun {id} h => complete id h,
    fun {id} h => edit.untagged (fun _ => listed.untagged) id h⟩
  have kept (before : d.typeTable.find? s = some id) : (d'.type id).symbol = s := by
    rw [edit.symbol (inRange.types before)]
    exact listed.symbol before
  cases edit with
  | addType own => exact (listed.addType inRange rfl).symbol found
  | _ => exact kept found

theorem Edits.symbol (edits : Edits d d') {id : TypeId} (bound : id.index < d.types.size) :
    (d'.type id).symbol = (d.type id).symbol ∧ id.index < d'.types.size := by
  induction edits with
  | refl => exact ⟨rfl, bound⟩
  | tail _ edit ih =>
    exact ⟨(edit.symbol ih.2).trans ih.1, Nat.lt_of_lt_of_le ih.2 edit.size_types_le⟩

theorem Edits.size_types_le (edits : Edits d d') : d.types.size ≤ d'.types.size := by
  induction edits with
  | refl => exact Nat.le_refl _
  | tail _ edit ih => exact Nat.le_trans ih edit.size_types_le

theorem Edits.size_elements_le (edits : Edits d d') : d.elements.size ≤ d'.elements.size := by
  induction edits with
  | refl => exact Nat.le_refl _
  | tail _ edit ih => exact Nat.le_trans ih edit.size_elements_le

theorem Edits.isDefined_type (edits : Edits d d') {id : TypeId}
    (h : (d.type id).isDefined = true) : (d'.type id).isDefined = true := by
  induction edits with
  | refl => exact h
  | tail _ edit ih => exact edit.isDefined_type ih

theorem Edits.isDefined_element (edits : Edits d d') {id : ElementId}
    (h : (d.element id).isDefined = true) : (d'.element id).isDefined = true := by
  induction edits with
  | refl => exact h
  | tail _ edit ih => exact edit.isDefined_element ih

/-! ## What a step leaves alone -/

/-- Declarations that differ in some types, in some elements and in the names of types only. -/
structure SameBut (types : List TypeId) (elements : List ElementId) (d d' : Declarations) :
    Prop where
  type {id : TypeId} : id ∉ types → (d'.type id).body = (d.type id).body
  element {id : ElementId} : id ∉ elements → d'.element id = d.element id

namespace SameBut

variable {types types' : List TypeId} {elements elements' : List ElementId}

theorem refl (d : Declarations) : SameBut types elements d d :=
  ⟨fun _ => rfl, fun _ => rfl⟩

theorem trans (first : SameBut types elements d d') (second : SameBut types elements d' d'') :
    SameBut types elements d d'' :=
  ⟨fun h => (second.type h).trans (first.type h),
    fun h => (second.element h).trans (first.element h)⟩

theorem mono (same : SameBut types elements d d') (ts : types ⊆ types')
    (es : elements ⊆ elements') : SameBut types' elements' d d' :=
  ⟨fun h => same.type fun member => h (ts member),
    fun h => same.element fun member => h (es member)⟩

/-- Where nothing differs, nothing need be said of the places. -/
theorem anywhere (same : SameBut [] [] d d') : SameBut types elements d d' :=
  same.mono (List.nil_subset _) (List.nil_subset _)

theorem isDefined (same : SameBut types elements d d') {id : TypeId} (h : id ∉ types) :
    (d'.type id).isDefined = (d.type id).isDefined :=
  TypeDef.get_of_body TypeDef.isDefined (fun _ => rfl) (same.type h)

theorem fields (same : SameBut types elements d d') {id : TypeId} (h : id ∉ types) :
    (d'.type id).fields = (d.type id).fields :=
  TypeDef.get_of_body TypeDef.fields (fun _ => rfl) (same.type h)

theorem isChoice (same : SameBut types elements d d') {id : TypeId} (h : id ∉ types) :
    (d'.type id).isChoice = (d.type id).isChoice :=
  TypeDef.get_of_body TypeDef.isChoice (fun _ => rfl) (same.type h)

end SameBut

theorem sameBut_modifyType (d : Declarations) (id : TypeId) (f : TypeDef → TypeDef) :
    SameBut [id] [] d (d.modifyType id f) :=
  ⟨fun h => by rw [type_modifyType_of_ne fun same => h (by simp [same])], fun _ => rfl⟩

theorem sameBut_addField (d : Declarations) (type : TypeId) (name : String)
    (element : ElementId) : SameBut [type] [] d (d.addField type name element) :=
  sameBut_modifyType d type _

theorem sameBut_modifyElement (d : Declarations) (id : ElementId) (f : Element → Element) :
    SameBut [] [id] d (d.modifyElement id f) :=
  ⟨fun _ => rfl, fun h => element_modifyElement_of_ne (fun same => h (by simp [same])) f⟩

/-- A new element is like a place where there is none. -/
theorem sameBut_addElement (d : Declarations) : SameBut [] [] d d.addElement.1 := by
  refine ⟨fun _ => rfl, fun {id} _ => ?_⟩
  rw [element_addElement]
  split
  · rename_i last
    simp [element, last]
  · rfl

theorem sameBut_anonymousSymbol (d : Declarations) : SameBut [] [] d d.anonymousSymbol.1 :=
  ⟨fun _ => rfl, fun _ => rfl⟩

theorem sameBut_findOrAddType (d : Declarations) (s : Symbol) :
    SameBut [] [] d (d.findOrAddType s).1 := by
  unfold findOrAddType
  split
  · exact .refl d
  · refine ⟨fun {id} _ => ?_, fun _ => rfl⟩
    rw [type_addType]
    split
    · rename_i last
      rw [type_of_size_le (Nat.le_of_eq last.symm)]
      rfl
    · rfl

theorem sameBut_findOrAddRoot (d : Declarations) (s : Symbol) :
    SameBut [] [] d (d.findOrAddRoot s).1 := by
  unfold findOrAddRoot
  split
  · exact .refl d
  · exact ⟨fun _ => rfl, (sameBut_addElement d).element⟩

theorem sameBut_findOrAddRootAttribute (d : Declarations) (s : Symbol) :
    SameBut [] [] d (d.findOrAddRootAttribute s).1 := by
  unfold findOrAddRootAttribute
  split
  · exact .refl d
  · exact ⟨fun _ => rfl, (sameBut_addElement d).element⟩

/-- One field more in a type, which is defined then. -/
structure Gains (type : TypeId) (field : String × ElementId) (d d' : Declarations) : Prop where
  fields : (d'.type type).fields = (d.type type).fields ++ [field]
  isChoice : (d'.type type).isChoice = (d.type type).isChoice
  enumerators : (d'.type type).enumerators = (d.type type).enumerators
  isDefined : (d'.type type).isDefined = true

theorem gains_addField {type : TypeId} (bound : type.index < d.types.size) (name : String)
    (element : ElementId) : Gains type (name, element) d (d.addField type name element) := by
  have changed := type_modifyType bound fun t =>
    { t with fields := t.fields ++ [(name, element)], builtin := some Builtin.complexType }
  refine ⟨?_, ?_, ?_, ?_⟩
  · rw [addField, changed]
  · rw [addField, changed]
  · rw [addField, changed]
  · rw [addField, changed]
    rfl

theorem Gains.before {type : TypeId} {field : String × ElementId} (gains : Gains type field d d')
    (body : (d''.type type).body = (d'.type type).body) : Gains type field d d'' := by
  refine ⟨?_, ?_, ?_, ?_⟩
  · rw [← gains.fields]
    exact TypeDef.get_of_body TypeDef.fields (fun _ => rfl) body
  · rw [← gains.isChoice]
    exact TypeDef.get_of_body TypeDef.isChoice (fun _ => rfl) body
  · rw [← gains.enumerators]
    exact TypeDef.get_of_body TypeDef.enumerators (fun _ => rfl) body
  · rw [← gains.isDefined]
    exact TypeDef.get_of_body TypeDef.isDefined (fun _ => rfl) body

theorem Gains.after {type : TypeId} {field : String × ElementId} (gains : Gains type field d' d'')
    (body : (d'.type type).body = (d.type type).body) : Gains type field d d'' := by
  refine ⟨?_, ?_, ?_, gains.isDefined⟩
  · rw [gains.fields]
    exact congrArg (· ++ [field]) (TypeDef.get_of_body TypeDef.fields (fun _ => rfl) body)
  · rw [gains.isChoice]
    exact TypeDef.get_of_body TypeDef.isChoice (fun _ => rfl) body
  · rw [gains.enumerators]
    exact TypeDef.get_of_body TypeDef.enumerators (fun _ => rfl) body

/-! ## What is found or added -/

theorem symbol_findOrAddType (listed : d.Listed) (s : Symbol) :
    ((d.findOrAddType s).1.type (d.findOrAddType s).2.1).symbol = s := by
  unfold findOrAddType
  split
  · rename_i found
    exact listed.symbol found
  · exact congrArg TypeDef.symbol ((type_addType d _ _).trans (if_pos rfl))

/-- Nothing is defined under the name that is made up next. -/
def Free (d : Declarations) : Prop :=
  ∀ id, d.typeTable.find? d.anonymousSymbol.2 = some id → (d.type id).isDefined = false

/-- What is found under a name that is made up is not defined, if the name is free. -/
theorem free_iff (d : Declarations) :
    d.Free ↔ (d.type (d.anonymousSymbol.1.findOrAddType d.anonymousSymbol.2).2.1).isDefined =
      false := by
  unfold Free findOrAddType
  split
  · rename_i id found
    exact ⟨fun free => free id found, fun undefined id' found' => by
      rw [← Option.some.inj (found.symm.trans found')]
      exact undefined⟩
  · rename_i none
    refine ⟨fun _ => ?_, fun _ id found => by cases none.symm.trans found⟩
    exact congrArg TypeDef.isDefined (type_of_size_le (d := d) (Nat.le_refl _))

theorem InRange.findOrAddRoot (inRange : d.InRange) (s : Symbol) :
    (d.findOrAddRoot s).2.index < (d.findOrAddRoot s).1.elements.size := by
  unfold Declarations.findOrAddRoot
  split
  · rename_i found
    exact inRange.roots found
  · simp [addElement]

theorem InRange.findOrAddRootAttribute (inRange : d.InRange) (s : Symbol) :
    (d.findOrAddRootAttribute s).2.index < (d.findOrAddRootAttribute s).1.elements.size := by
  unfold Declarations.findOrAddRootAttribute
  split
  · rename_i found
    exact inRange.rootAttributes found
  · simp [addElement]

end Declarations

end XsdRecords.Declaration
