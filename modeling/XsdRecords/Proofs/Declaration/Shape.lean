import XsdRecords.Declaration.Declarations

/-! # The shape of declarations

A generation marks types with their output and sorts their fields; the rest of the declarations
stays.  `SameShape` says so, and everything that is found by walking along bases and references
depends on the shape alone. -/

namespace XsdRecords.Declaration

/-- What a generation leaves alone in a type. -/
def TypeDef.core (t : TypeDef) : TypeDef :=
  { t with fields := [], record := none, enumeration := none }

/-- A type but for its names. -/
def TypeDef.body (t : TypeDef) : TypeDef :=
  { t with symbol := ⟨.none, ""⟩, overrideSymbol := none }

/-- What is read off the body of a type is the same for types of the same body. -/
theorem TypeDef.get_of_body {α : Type} (get : TypeDef → α) (keeps : ∀ t, get t.body = get t)
    {t t' : TypeDef} (same : t'.body = t.body) : get t' = get t := by
  rw [← keeps, same, keeps]

namespace Declarations

/-- Whether a field is an attribute. -/
def isAttributeField (d : Declarations) (field : String × ElementId) : Bool :=
  (d.element field.2).isAttribute

/-- Fields with the attributes moved before the elements. -/
def attributesFirst (d : Declarations) (fields : List (String × ElementId)) :
    List (String × ElementId) :=
  fields.filter d.isAttributeField ++ fields.filter (!d.isAttributeField ·)

/-- Declarations that differ in marks and in the order of fields only. -/
structure SameShape (d d' : Declarations) : Prop where
  elements : d'.elements = d.elements
  size : d'.types.size = d.types.size
  core (id : TypeId) : (d'.type id).core = (d.type id).core
  roots : d'.roots = d.roots

theorem SameShape.refl (d : Declarations) : SameShape d d :=
  ⟨rfl, rfl, fun _ => rfl, rfl⟩

theorem SameShape.trans {a b c : Declarations} (ab : SameShape a b) (bc : SameShape b c) :
    SameShape a c :=
  ⟨bc.elements.trans ab.elements, bc.size.trans ab.size,
    fun id => (bc.core id).trans (ab.core id), bc.roots.trans ab.roots⟩

theorem type_of_size_le {d : Declarations} {id : TypeId} (h : d.types.size ≤ id.index) :
    d.type id = { symbol := ⟨.none, ""⟩ } := by
  simp [type, Array.getD_eq_getD_getElem?, h]

/-- A type of which anything is known is in its place. -/
theorem lt_size_of_ne_blank {d : Declarations} {id : TypeId}
    (known : d.type id ≠ { symbol := ⟨.none, ""⟩ }) : id.index < d.types.size :=
  Nat.lt_of_not_le fun outside => known (type_of_size_le outside)

theorem type_modifyType_eq (d : Declarations) (id other : TypeId) (f : TypeDef → TypeDef)
    (h : id.index < d.types.size) :
    (d.modifyType id f).type other = if other = id then f (d.type id) else d.type other := by
  by_cases same : other = id
  · rw [if_pos same, same, type_modifyType h]
  · rw [if_neg same, type_modifyType_of_ne (Ne.symm same)]

theorem modifyType_of_size_le {d : Declarations} {id : TypeId} (h : ¬id.index < d.types.size)
    (f : TypeDef → TypeDef) : d.modifyType id f = d := by
  simp only [modifyType, Array.modify, Array.modifyM, h, dite_false]
  rfl

/-- What holds of a type and of what it is changed to, holds after the change. -/
theorem type_modifyType_of {P : TypeDef → Prop} {d : Declarations} {id other : TypeId}
    {f : TypeDef → TypeDef} (before : P (d.type other))
    (changed : other = id → P (f (d.type id))) : P ((d.modifyType id f).type other) := by
  by_cases bound : id.index < d.types.size
  · rw [type_modifyType_eq d id other f bound]
    split
    · rename_i same
      exact changed same
    · exact before
  · rwa [modifyType_of_size_le bound]

/-- What a change of one type leaves as it is, it leaves so for every type. -/
theorem get_type_modifyType {α : Type} (get : TypeDef → α) (d : Declarations)
    (id other : TypeId) {f : TypeDef → TypeDef} (keeps : ∀ t, get (f t) = get t) :
    get ((d.modifyType id f).type other) = get (d.type other) :=
  type_modifyType_of (P := fun t => get t = get (d.type other)) rfl
    fun own => own ▸ keeps _

@[simp] theorem size_modifyType (d : Declarations) (id : TypeId) (f : TypeDef → TypeDef) :
    (d.modifyType id f).types.size = d.types.size :=
  Array.size_modify

/-- Changing what a generation may change keeps the shape. -/
theorem sameShape_modifyType (d : Declarations) (id : TypeId) (f : TypeDef → TypeDef)
    (keeps : ∀ t, (f t).core = t.core) : SameShape d (d.modifyType id f) where
  elements := rfl
  size := size_modifyType d id f
  core other := get_type_modifyType TypeDef.core d id other keeps
  roots := rfl

theorem sameShape_sortFields (d : Declarations) (id : TypeId) : SameShape d (d.sortFields id) :=
  sameShape_modifyType d id _ fun _ => rfl

/-! ## Walks depend on the shape alone -/

namespace SameShape

variable {d d' : Declarations} (same : SameShape d d')

include same

theorem element (id : ElementId) : d'.element id = d.element id := by
  simp only [Declarations.element, same.elements]

/-- What is read off the core of a type is the same. -/
theorem ofCore {α : Type} (get : TypeDef → α) (keeps : ∀ t : TypeDef, get t.core = get t)
    (id : TypeId) : get (d'.type id) = get (d.type id) := by
  rw [← keeps, same.core, keeps]

theorem base (id : TypeId) : (d'.type id).base = (d.type id).base :=
  same.ofCore TypeDef.base (fun _ => rfl) id

theorem symbol (id : TypeId) : (d'.type id).symbol = (d.type id).symbol :=
  same.ofCore TypeDef.symbol (fun _ => rfl) id

theorem outputSymbol (id : TypeId) : (d'.type id).outputSymbol = (d.type id).outputSymbol :=
  same.ofCore TypeDef.outputSymbol (fun _ => rfl) id

theorem enumerators (id : TypeId) : (d'.type id).enumerators = (d.type id).enumerators :=
  same.ofCore TypeDef.enumerators (fun _ => rfl) id

theorem elementTypeWithin (limit : Nat) (id : ElementId) :
    d'.elementTypeWithin limit id = d.elementTypeWithin limit id := by
  induction limit generalizing id with
  | zero => rfl
  | succ limit ih => simp only [Declarations.elementTypeWithin, same.element, ih]

theorem elementType (id : ElementId) : d'.elementType id = d.elementType id := by
  simp only [Declarations.elementType, same.elements, same.elementTypeWithin]

theorem baseChainWithin (limit : Nat) (id : TypeId) :
    d'.baseChainWithin limit id = d.baseChainWithin limit id := by
  induction limit generalizing id with
  | zero => rfl
  | succ limit ih => simp only [Declarations.baseChainWithin, same.base, ih]

theorem baseChain (id : TypeId) : d'.baseChain id = d.baseChain id := by
  simp only [Declarations.baseChain, same.size, same.baseChainWithin]

theorem builtin (id : TypeId) : d'.builtin id = d.builtin id := by
  have own := same.ofCore TypeDef.builtin (fun _ => rfl)
  simp only [Declarations.builtin, same.baseChain, own]

theorem isComplex (id : TypeId) : d'.isComplex id = d.isComplex id := by
  simp only [Declarations.isComplex, same.builtin]

theorem isList (id : TypeId) : d'.isList id = d.isList id := by
  have own := same.ofCore TypeDef.isList (fun _ => rfl)
  simp only [Declarations.isList, same.baseChain, own]

theorem isChoice (id : TypeId) : d'.isChoice id = d.isChoice id := by
  have own := same.ofCore TypeDef.isChoice (fun _ => rfl)
  simp only [Declarations.isChoice, same.baseChain, own]

theorem elemType (id : TypeId) : d'.elemType id = d.elemType id := by
  simp only [Declarations.elemType, same.builtin, same.isList]

theorem elementElemType (id : ElementId) : d'.elementElemType id = d.elementElemType id := by
  simp only [Declarations.elementElemType, same.elementType, same.elemType, same.element]

theorem attributesFirst (fields : List (String × ElementId)) :
    d'.attributesFirst fields = d.attributesFirst fields := by
  have own : d'.isAttributeField = d.isAttributeField := by
    funext field
    simp only [isAttributeField, same.element]
  simp only [Declarations.attributesFirst, own]

end SameShape

/-! ## Sorted fields -/

@[simp] theorem attributesFirst_attributesFirst (d : Declarations)
    (fields : List (String × ElementId)) :
    d.attributesFirst (d.attributesFirst fields) = d.attributesFirst fields := by
  have none : fields.filter (fun _ => false) = [] := List.filter_eq_nil_iff.2 (by simp)
  simp [attributesFirst, List.filter_append, List.filter_filter, none]

/-- The fields of a type after they were sorted. -/
theorem fields_sortFields (d : Declarations) (id : TypeId) (h : id.index < d.types.size) :
    ((d.sortFields id).type id).fields = d.attributesFirst (d.type id).fields := by
  rw [sortFields, type_modifyType h]
  rfl

theorem attributesFirst_fields_sortFields (d : Declarations) (id other : TypeId) :
    d.attributesFirst ((d.sortFields id).type other).fields =
      d.attributesFirst (d.type other).fields := by
  by_cases bound : id.index < d.types.size
  · by_cases same : other = id
    · rw [same, fields_sortFields d id bound, attributesFirst_attributesFirst]
    · rw [sortFields, type_modifyType_of_ne (Ne.symm same)]
  · rw [sortFields, modifyType_of_size_le bound]

/-- A type that has a built-in type is in its place. -/
theorem lt_size_of_builtin {d : Declarations} {id : TypeId} {b : Vocabulary.Builtin}
    (h : d.builtin id = some b) : id.index < d.types.size := by
  apply Nat.lt_of_not_le
  intro outside
  have absent := type_of_size_le outside
  cases limit : d.types.size with
  | zero => simp [builtin, baseChain, limit, baseChainWithin] at h
  | succ limit' => simp [builtin, baseChain, limit, baseChainWithin, absent] at h

/-- The built-in type that a type has of its own is the nearest. -/
theorem builtin_of_own {d : Declarations} {id : TypeId} {b : Vocabulary.Builtin}
    (own : (d.type id).builtin = some b) : d.builtin id = some b := by
  have bound : id.index < d.types.size := by
    refine lt_size_of_ne_blank fun blank => ?_
    rw [blank] at own
    cases own
  obtain ⟨limit, size⟩ := Nat.exists_eq_add_of_lt bound
  simp [builtin, baseChain, size, baseChainWithin, own]

theorem isComplex_of_builtin {d : Declarations} {id : TypeId} {b : Vocabulary.Builtin}
    (found : d.builtin id = some b) : d.isComplex id = b.isComplex := by
  rw [isComplex, found]
  rfl

theorem exists_builtin_of_isComplex {d : Declarations} {id : TypeId} (h : d.isComplex id = true) :
    ∃ b, d.builtin id = some b ∧ b.isComplex = true := by
  unfold isComplex at h
  cases found : d.builtin id with
  | none => simp [found] at h
  | some b => exact ⟨b, rfl, by simpa [found] using h⟩

theorem lt_size_of_isComplex {d : Declarations} {id : TypeId} (h : d.isComplex id = true) :
    id.index < d.types.size := by
  obtain ⟨b, found, -⟩ := exists_builtin_of_isComplex h
  exact lt_size_of_builtin found

end Declarations

end XsdRecords.Declaration
