import XsdRecords.Proofs.Declaration.Fresh
import XsdRecords.Proofs.Declaration.Reference
import XsdRecords.Proofs.Number.Digits

/-! # Tables that name every type once

Every type is found under its own symbol and under no other, and whatever refers to an element or a
type refers to one that there is: `Intact`.  A type is added under a symbol only if nothing is found
under it; for a made-up symbol that is known from the number in it, as long as the documents have no
names in the namespace of made-up names. -/

namespace XsdRecords.Declaration

/-! ## Made-up names -/

/-- The symbol made up with a number. -/
def madeUp (n : Nat) : Symbol :=
  ⟨.anonymous, " " ++ Number.padded 6 n ++ "_ANON"⟩

/-- Numbers are padded to six digits, but not cut off to them. -/
theorem madeUp_injective {m n : Nat} (same : madeUp m = madeUp n) : m = n := by
  have names := congrArg (String.toList ∘ Symbol.localName) same
  simp only [madeUp, Function.comp_apply, String.toList_append, List.append_cancel_right_eq,
    List.append_cancel_left_eq] at names
  rw [← Number.digitsValue_padded 6 m, names, Number.digitsValue_padded]

/-! ## What refers to something there is -/

/-- An element whose type and reference are among so many types and elements. -/
structure Element.Within (types elements : Nat) (e : Element) : Prop where
  directType {type : TypeId} : e.directType = some type → type.index < types
  reference {target : ElementId} : e.reference = some target → target.index < elements

/-- A type whose base and fields are among so many types and elements. -/
structure TypeDef.Within (types elements : Nat) (t : TypeDef) : Prop where
  base {base : TypeId} : t.base = some base → base.index < types
  field {field : String × ElementId} : field ∈ t.fields → field.2.index < elements

section Within

variable {types types' elements elements' : Nat}

theorem Element.Within.mono {e : Element} (within : e.Within types elements)
    (more : types ≤ types') (more' : elements ≤ elements') : e.Within types' elements' :=
  ⟨fun own => Nat.lt_of_lt_of_le (within.directType own) more,
    fun own => Nat.lt_of_lt_of_le (within.reference own) more'⟩

theorem TypeDef.Within.mono {t : TypeDef} (within : t.Within types elements)
    (more : types ≤ types') (more' : elements ≤ elements') : t.Within types' elements' :=
  ⟨fun own => Nat.lt_of_lt_of_le (within.base own) more,
    fun member => Nat.lt_of_lt_of_le (within.field member) more'⟩

theorem Element.within_blank : Element.Within types elements {} :=
  ⟨nofun, nofun⟩

theorem TypeDef.within_blank (s : Symbol) : TypeDef.Within types elements { symbol := s } :=
  ⟨nofun, nofun⟩

end Within

namespace Declarations

/-! ## Intact declarations -/

/-- What is found in the namespace of made-up names was made up. -/
def Minted (d : Declarations) : Prop :=
  ∀ s id, d.typeTable.find? s = some id → s.namespaceId = .anonymous →
    ∃ n ≤ d.anonymousCount, s = madeUp n

/-- Declarations whose tables name every type once and refer to nothing that is not there.  `apart`
tells that the documents have no names in the namespace of made-up names. -/
structure Intact (apart : Prop) (d : Declarations) : Prop where
  found {s : Symbol} {id : TypeId} :
    d.typeTable.find? s = some id ↔ id.index < d.types.size ∧ (d.type id).symbol = s
  roots {s : Symbol} {id : ElementId} : d.roots.find? s = some id → id.index < d.elements.size
  rootAttributes {s : Symbol} {id : ElementId} :
    d.rootAttributes.find? s = some id → id.index < d.elements.size
  element (id : ElementId) : (d.element id).Within d.types.size d.elements.size
  type (id : TypeId) : (d.type id).Within d.types.size d.elements.size
  minted : apart → d.Minted

/-- The name that is made up next is new. -/
theorem Minted.new {d : Declarations} (minted : d.Minted) :
    d.typeTable.find? (madeUp (d.anonymousCount + 1)) = none := by
  cases found : d.typeTable.find? (madeUp (d.anonymousCount + 1)) with
  | none => rfl
  | some id =>
    obtain ⟨n, le, same⟩ := minted _ id found rfl
    exact absurd (madeUp_injective same) (by omega)

namespace Intact

variable {apart apart' : Prop} {d : Declarations} (intact : d.Intact apart)

include intact

theorem imp (less : apart' → apart) : d.Intact apart' :=
  ⟨intact.found, intact.roots, intact.rootAttributes, intact.element, intact.type,
    fun h => intact.minted (less h)⟩

theorem inRange : d.InRange :=
  ⟨fun found => (intact.found.1 found).1, intact.roots, intact.rootAttributes,
    fun {id _} own => (intact.type id).base own,
    fun {id _} own => (intact.element id).directType own⟩

/-- No two types share a symbol. -/
theorem index_eq {a b : TypeId} (inRange : a.index < d.types.size)
    (inRange' : b.index < d.types.size) (same : (d.type a).symbol = (d.type b).symbol) : a = b :=
  Option.some.inj ((intact.found.2 ⟨inRange, same⟩).symm.trans (intact.found.2 ⟨inRange', rfl⟩))

/-! ## Changes -/

theorem mint : d.anonymousSymbol.1.Intact apart where
  found := intact.found
  roots := intact.roots
  rootAttributes := intact.rootAttributes
  element := intact.element
  type := intact.type
  minted h s id found made := by
    obtain ⟨n, le, same⟩ := intact.minted h s id found made
    exact ⟨n, Nat.le_succ_of_le le, same⟩

theorem addElement : d.addElement.1.Intact apart := by
  have more : d.elements.size ≤ d.addElement.1.elements.size := by simp [Declarations.addElement]
  refine ⟨intact.found, fun found => Nat.lt_of_lt_of_le (intact.roots found) more,
    fun found => Nat.lt_of_lt_of_le (intact.rootAttributes found) more, fun id => ?_,
    fun id => (intact.type id).mono (Nat.le_refl _) more, intact.minted⟩
  rw [element_addElement]
  split
  · exact Element.within_blank
  · exact (intact.element id).mono (Nat.le_refl _) more

theorem modifyElement (id : ElementId) {f : Element → Element}
    (keeps : ∀ e : Element, e.Within d.types.size d.elements.size →
      (f e).Within d.types.size d.elements.size) :
    (d.modifyElement id f).Intact apart := by
  have size := size_modifyElement d id f
  refine ⟨intact.found, fun found => ?_, fun found => ?_, fun other => ?_, fun other => ?_,
    intact.minted⟩
  · rw [size]
    exact intact.roots found
  · rw [size]
    exact intact.rootAttributes found
  · rw [size]
    exact element_modifyElement_of (P := fun e => e.Within d.types.size d.elements.size)
      (intact.element other) fun _ => keeps _ (intact.element id)
  · rw [size]
    exact intact.type other

theorem modifyType (id : TypeId) {f : TypeDef → TypeDef} (symbol : ∀ t, (f t).symbol = t.symbol)
    (keeps : ∀ t : TypeDef, t.Within d.types.size d.elements.size →
      (f t).Within d.types.size d.elements.size) :
    (d.modifyType id f).Intact apart := by
  have size := size_modifyType d id f
  refine ⟨?_, intact.roots, intact.rootAttributes, fun other => ?_, fun other => ?_,
    intact.minted⟩
  · intro s other
    rw [size, get_type_modifyType TypeDef.symbol d id other symbol]
    exact intact.found
  · rw [size]
    exact intact.element other
  · rw [size]
    exact type_modifyType_of (P := fun t => t.Within d.types.size d.elements.size)
      (intact.type other) fun _ => keeps _ (intact.type id)

/-- A type may be added under a symbol that nothing is found under. -/
theorem addType {t : TypeDef} (new : d.typeTable.find? t.symbol = none)
    (within : t.Within d.types.size d.elements.size)
    (minted : apart → t.symbol.namespaceId = .anonymous →
      ∃ n ≤ d.anonymousCount, t.symbol = madeUp n) :
    (d.addType t).1.Intact apart := by
  have size : (d.addType t).1.types.size = d.types.size + 1 := Array.size_push t
  have found (s : Symbol) : (d.addType t).1.typeTable.find? s =
      if s = t.symbol then some ⟨d.types.size⟩ else d.typeTable.find? s :=
    d.typeTable.find?_insert t.symbol s _
  refine ⟨?_, intact.roots, intact.rootAttributes, fun id => ?_, fun id => ?_, fun h s id => ?_⟩
  · intro s id
    rw [found, size, type_addType]
    by_cases last : id.index = d.types.size
    · obtain ⟨index⟩ := id
      obtain rfl : index = d.types.size := last
      rw [if_pos rfl]
      by_cases own : s = t.symbol
      · simp [own]
      · rw [if_neg own, intact.found]
        simp [Ne.symm own]
    · rw [if_neg last]
      by_cases own : s = t.symbol
      · subst own
        rw [if_pos rfl]
        refine ⟨fun same => absurd (congrArg TypeId.index (Option.some.inj same)).symm last,
          fun ⟨bound, same⟩ => ?_⟩
        -- An older type of this symbol would be found under it.
        rw [intact.found.2 ⟨by omega, same⟩] at new
        cases new
      · rw [if_neg own, intact.found]
        exact and_congr_left fun _ => by omega
  · rw [size]
    exact (intact.element id).mono (Nat.le_succ _) (Nat.le_refl _)
  · rw [size, type_addType]
    split
    · exact within.mono (Nat.le_succ _) (Nat.le_refl _)
    · exact (intact.type id).mono (Nat.le_succ _) (Nat.le_refl _)
  · rw [found]
    intro known made
    split at known
    · rename_i own
      subst own
      exact minted h made
    · exact intact.minted h s id known made

theorem findOrAddType {s : Symbol}
    (minted : apart → s.namespaceId = .anonymous → ∃ n ≤ d.anonymousCount, s = madeUp n) :
    (d.findOrAddType s).1.Intact apart := by
  unfold Declarations.findOrAddType
  split
  · exact intact
  · rename_i new
    exact intact.addType new (TypeDef.within_blank s) minted

theorem findOrAddRoot (s : Symbol) : (d.findOrAddRoot s).1.Intact apart := by
  unfold Declarations.findOrAddRoot
  split
  · exact intact
  · have added := intact.addElement
    refine ⟨added.found, fun {other id} found => ?_, added.rootAttributes, added.element, added.type,
      added.minted⟩
    rw [SymbolTable.find?_insert] at found
    split at found
    · obtain rfl := Option.some.inj found
      simp [Declarations.addElement]
    · exact added.roots found

theorem findOrAddRootAttribute (s : Symbol) : (d.findOrAddRootAttribute s).1.Intact apart := by
  unfold Declarations.findOrAddRootAttribute
  split
  · exact intact
  · have added := intact.addElement
    refine ⟨added.found, added.roots, fun {other id} found => ?_, added.element, added.type,
      added.minted⟩
    rw [SymbolTable.find?_insert] at found
    split at found
    · obtain rfl := Option.some.inj found
      simp [Declarations.addElement]
    · exact added.rootAttributes found

theorem addField (id : TypeId) (name : String) {element : ElementId}
    (inRange : element.index < d.elements.size) : (d.addField id name element).Intact apart :=
  intact.modifyType id (fun _ => rfl) fun t within => ⟨within.base, fun {field} member => by
    obtain old | new := List.mem_append.1 member
    · exact within.field old
    · obtain rfl := List.mem_singleton.1 new
      exact inRange⟩

theorem sortFields (id : TypeId) : (d.sortFields id).Intact apart :=
  intact.modifyType id (fun _ => rfl) fun t within => ⟨within.base, fun {field} member => by
    obtain own | own := List.mem_append.1 member <;>
      exact within.field (List.mem_filter.1 own).1⟩

/-- A copy gets a name that is new, and shares with the type that is copied what this refers to. -/
theorem cloneType (h : apart) (id : TypeId) : (d.cloneType id).1.Intact apart :=
  intact.mint.addType (intact.minted h).new
    ⟨(intact.type id).base, (intact.type id).field⟩ fun _ _ => ⟨_, Nat.le_refl _, rfl⟩

end Intact

/-! ## What is found stays found -/

/-- Whether declarations hold no less than others, and every name stands for what it stood for. -/
structure Retains (d d' : Declarations) : Prop where
  elements : d.elements.size ≤ d'.elements.size
  types : d.types.size ≤ d'.types.size
  place? {r : Reference} {place : Nat} : d.place? r = some place → d'.place? r = some place

section Retains

variable {d d' d'' : Declarations}

theorem Retains.refl (d : Declarations) : Retains d d :=
  ⟨Nat.le_refl _, Nat.le_refl _, id⟩

theorem Retains.trans (first : Retains d d') (second : Retains d' d'') : Retains d d'' :=
  ⟨Nat.le_trans first.elements second.elements, Nat.le_trans first.types second.types,
    fun found => second.place? (first.place? found)⟩

/-! What was found is found again, and nothing is added for it. -/

theorem Retains.findOrAddType (retains : Retains d d') {s : Symbol} {id : TypeId}
    (found : d.typeTable.find? s = some id) : d'.findOrAddType s = (d', id, false) := by
  have place : d.place? ⟨.type, s⟩ = some id.index := by simp [Declarations.place?, found]
  obtain ⟨⟨index⟩, found', rfl⟩ := Option.map_eq_some_iff.1 (retains.place? place)
  simp only [Declarations.findOrAddType, found']

theorem Retains.findOrAddRoot (retains : Retains d d') {s : Symbol} {id : ElementId}
    (found : d.roots.find? s = some id) : d'.findOrAddRoot s = (d', id) := by
  have place : d.place? ⟨.root false, s⟩ = some id.index := by simp [Declarations.place?, found]
  obtain ⟨⟨index⟩, found', rfl⟩ := Option.map_eq_some_iff.1 (retains.place? place)
  simp only [Declarations.findOrAddRoot, found']

theorem Retains.findOrAddRootAttribute (retains : Retains d d') {s : Symbol} {id : ElementId}
    (found : d.rootAttributes.find? s = some id) :
    d'.findOrAddRootAttribute s = (d', id) := by
  have place : d.place? ⟨.root true, s⟩ = some id.index := by simp [Declarations.place?, found]
  obtain ⟨⟨index⟩, found', rfl⟩ := Option.map_eq_some_iff.1 (retains.place? place)
  simp only [Declarations.findOrAddRootAttribute, found']

theorem retains_modifyElement (d : Declarations) (id : ElementId) (f : Element → Element) :
    d.Retains (d.modifyElement id f) :=
  ⟨Nat.le_of_eq (size_modifyElement d id f).symm, Nat.le_refl _, fun found => found⟩

theorem retains_modifyType (d : Declarations) (id : TypeId) (f : TypeDef → TypeDef) :
    d.Retains (d.modifyType id f) :=
  ⟨Nat.le_refl _, Nat.le_of_eq (size_modifyType d id f).symm, fun found => found⟩

/-- A copy takes no name away from another type. -/
theorem Minted.retains_cloneType (minted : d.Minted) (id : TypeId) :
    d.Retains (d.cloneType id).1 := by
  refine ⟨Nat.le_refl _, ?_, fun {r place} found => ?_⟩
  · simp [Declarations.cloneType, Declarations.addType, Declarations.anonymousSymbol]
  · refine (place?_addType d.anonymousSymbol.1 _ r).trans ?_
    split
    · rename_i own
      subst own
      have new : d.place? ⟨.type, madeUp (d.anonymousCount + 1)⟩ = none := by
        simp [place?, minted.new]
      cases new.symm.trans found
    · exact found

end Retains

end Declarations

end XsdRecords.Declaration
