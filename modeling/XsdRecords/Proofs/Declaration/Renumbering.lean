import XsdRecords.Proofs.Declaration.Table
import XsdRecords.Proofs.Declaration.Tally

/-! # Declarations under other numbers

Where every type and every element of two runs has a partner in the other, and partners agree but for
their numbers and for names that are made up, all that a generation looks up is the same: what is found
along references and bases, and the order of fields. -/

namespace XsdRecords.Declaration

open XsdRecords.Layout (RecordId EnumerationId)

variable {p : Pairing}

/-- Types that agree but for paired numbers and for names that are made up. -/
structure TypeDef.Resembles (p : Pairing) (t t' : TypeDef) : Prop extends TypeDef.Matches p t t' where
  symbol : t.symbol.Alike t'.symbol
  overrideSymbol : t'.overrideSymbol = t.overrideSymbol

/-- Declarations that are the same under paired numbers. -/
structure Renumbers (p : Pairing) (d d' : Declarations) : Prop where
  types : d'.types.size = d.types.size
  elements : d'.elements.size = d.elements.size
  hasType {id id' : TypeId} : p.type id id' →
    id.index < d.types.size ∧ id'.index < d'.types.size
  eq_type {id id' other other' : TypeId} : p.type id id' → p.type other other' →
    (id = other ↔ id' = other')
  eq_element {id id' other other' : ElementId} : p.element id id' → p.element other other' →
    (id = other ↔ id' = other')
  hasElement {id id' : ElementId} : p.element id id' →
    id.index < d.elements.size ∧ id'.index < d'.elements.size
  type {id id' : TypeId} : p.type id id' → (d.type id).Resembles p (d'.type id')
  element {id id' : ElementId} : p.element id id' → (d.element id).Matches p (d'.element id')

theorem TypeDef.Resembles.mono {q : Pairing} (within : p.Within q) {t t' : TypeDef}
    (same : t.Resembles p t') : t.Resembles q t' :=
  ⟨same.toMatches.mono within, same.symbol, same.overrideSymbol⟩

theorem Symbol.Alike.eq_iff {s s' known : Symbol} (alike : s.Alike s') (named : ¬known.IsMadeUp) :
    s = known ↔ s' = known := by
  obtain rfl | ⟨made, made'⟩ := alike
  · rfl
  · exact ⟨fun same => absurd (same ▸ made) named, fun same => absurd (same ▸ made') named⟩

/-! ## Types that resemble each other -/

namespace TypeDef.Resembles

variable {t t' : TypeDef} (same : t.Resembles p t')

include same

theorem record : t'.record = t.record :=
  TypeDef.get_of_plain TypeDef.record (fun _ => rfl) same.plain

theorem enumeration : t'.enumeration = t.enumeration :=
  TypeDef.get_of_plain TypeDef.enumeration (fun _ => rfl) same.plain

theorem enumerators : t'.enumerators = t.enumerators :=
  TypeDef.get_of_plain TypeDef.enumerators (fun _ => rfl) same.plain

theorem preserveEnumIds : t'.preserveEnumIds = t.preserveEnumIds :=
  TypeDef.get_of_plain TypeDef.preserveEnumIds (fun _ => rfl) same.plain

theorem outputSymbol : t.outputSymbol.Alike t'.outputSymbol := by
  rw [TypeDef.outputSymbol, TypeDef.outputSymbol, same.overrideSymbol]
  cases t.overrideSymbol with
  | none => exact same.symbol
  | some symbol => exact .inl rfl

theorem withRecord (record : RecordId) :
    { t with record := some record }.Resembles p { t' with record := some record } :=
  ⟨⟨same.base, same.fields, congrArg (fun u : TypeDef => { u with record := some record }) same.plain⟩,
    same.symbol, same.overrideSymbol⟩

theorem withEnumeration (enumeration : EnumerationId) :
    { t with enumeration := some enumeration }.Resembles p
      { t' with enumeration := some enumeration } :=
  ⟨⟨same.base, same.fields,
    congrArg (fun u : TypeDef => { u with enumeration := some enumeration }) same.plain⟩,
    same.symbol, same.overrideSymbol⟩

theorem withOverride (symbol : Symbol) :
    { t with overrideSymbol := some symbol }.Resembles p { t' with overrideSymbol := some symbol } :=
  ⟨⟨same.base, same.fields, same.plain⟩, same.symbol, rfl⟩

/-- A copy under a name that is made up. -/
theorem copy (m n : Nat) :
    { t with symbol := madeUp m, overrideSymbol := none, record := none, enumeration := none }.Resembles
      p { t' with symbol := madeUp n, overrideSymbol := none, record := none, enumeration := none } :=
  ⟨⟨same.base, same.fields,
    congrArg (fun u : TypeDef => { u with record := none, enumeration := none }) same.plain⟩,
    .inr ⟨⟨m, rfl⟩, ⟨n, rfl⟩⟩, rfl⟩

end TypeDef.Resembles

namespace Element.Matches

variable {e e' : Element} (same : e.Matches p e')

include same

theorem isAttribute : e'.isAttribute = e.isAttribute :=
  Element.get_of_plain Element.isAttribute (fun _ => rfl) same.plain

theorem minOccurs : e'.minOccurs = e.minOccurs :=
  Element.get_of_plain Element.minOccurs (fun _ => rfl) same.plain

theorem maxOccurs : e'.maxOccurs = e.maxOccurs :=
  Element.get_of_plain Element.maxOccurs (fun _ => rfl) same.plain

end Element.Matches

namespace Renumbers

variable {d d' : Declarations} (same : Renumbers p d d') {id id' : TypeId} {e e' : ElementId}

include same

/-! ## Walks -/

theorem elementTypeWithin (limit : Nat) (pair : p.element e e') :
    Option.Rel p.type (d.elementTypeWithin limit e) (d'.elementTypeWithin limit e') := by
  induction limit generalizing e e' with
  | zero => exact .none
  | succ limit ih =>
    have here := same.element pair
    have reference := here.reference
    unfold Declarations.elementTypeWithin
    generalize (d.element e).reference = next, (d'.element e').reference = next' at reference
    cases reference with
    | none => exact here.directType
    | some pair => exact ih pair

theorem elementType (pair : p.element e e') :
    Option.Rel p.type (d.elementType e) (d'.elementType e') := by
  unfold Declarations.elementType
  rw [same.elements]
  exact same.elementTypeWithin _ pair

theorem alike (pair : p.type id id') : Declarations.Alike p d d' id id' :=
  Declarations.alike_of_matches (fun pair => (same.type pair).toMatches) pair

theorem elementElemType (pair : p.element e e') : d'.elementElemType e' = d.elementElemType e := by
  have typed := same.elementType pair
  unfold Declarations.elementElemType
  rw [(same.element pair).maxOccurs]
  generalize d.elementType e = o, d'.elementType e' = o' at typed
  cases typed with
  | none => rfl
  | some pair => simp only [(same.alike pair).elemType]

/-- A field passes its check under both numbers or under none. -/
theorem check (pair : p.element e e') (record record' name name' : String) :
    (d'.check record' name' e').isOk = (d.check record name e).isOk := by
  have here := same.element pair
  have typed := same.elementType pair
  unfold Declarations.check
  simp only [here.isDefined, here.minOccurs, here.maxOccurs]
  split
  · rfl
  · generalize d.elementType e = o, d'.elementType e' = o' at typed
    cases typed with
    | none => rfl
    | some pair =>
      simp only [(same.alike pair).builtin]
      split
      · rfl
      · repeat' split
        all_goals rfl

/-! ## Changes -/

/-- Both change a type alike. -/
theorem modifyType (pair : p.type id id') {f f' : TypeDef → TypeDef}
    (changed : (f (d.type id)).Resembles p (f' (d'.type id'))) :
    Renumbers p (d.modifyType id f) (d'.modifyType id' f') where
  types := by simp only [Declarations.size_modifyType, same.types]
  elements := same.elements
  hasType pair := by
    simp only [Declarations.size_modifyType]
    exact same.hasType pair
  eq_type := same.eq_type
  eq_element := same.eq_element
  hasElement := same.hasElement
  type {other other'} pair' := by
    obtain ⟨inside, inside'⟩ := same.hasType pair
    by_cases own : id = other
    · obtain rfl := own
      obtain rfl := (same.eq_type pair pair').1 rfl
      rw [Declarations.type_modifyType inside, Declarations.type_modifyType inside']
      exact changed
    · rw [Declarations.type_modifyType_of_ne own,
        Declarations.type_modifyType_of_ne fun own' => own ((same.eq_type pair pair').2 own')]
      exact same.type pair'
  element := same.element

/-- Both change an element alike. -/
theorem modifyElement (pair : p.element e e') {f k : Element → Element}
    (changed : (f (d.element e)).Matches p (k (d'.element e'))) :
    Renumbers p (d.modifyElement e f) (d'.modifyElement e' k) where
  types := same.types
  elements := by simp only [Declarations.size_modifyElement, same.elements]
  hasType := same.hasType
  eq_type := same.eq_type
  eq_element := same.eq_element
  hasElement pair := by
    simp only [Declarations.size_modifyElement]
    exact same.hasElement pair
  type := same.type
  element {other other'} pair' := by
    obtain ⟨inside, inside'⟩ := same.hasElement pair
    by_cases own : e = other
    · obtain rfl := own
      obtain rfl := (same.eq_element pair pair').1 rfl
      rw [Declarations.element_modifyElement inside, Declarations.element_modifyElement inside']
      exact changed
    · rw [Declarations.element_modifyElement_of_ne own,
        Declarations.element_modifyElement_of_ne fun own' =>
          own ((same.eq_element pair pair').2 own')]
      exact same.element pair'

/-- Both sort the fields of a type. -/
theorem sortFields (pair : p.type id id') : Renumbers p (d.sortFields id) (d'.sortFields id') := by
  have here := same.type pair
  refine same.modifyType pair ⟨⟨here.base, ?_, here.plain⟩, here.symbol, here.overrideSymbol⟩
  have alike {field field' : String × ElementId}
      (pair : field'.1 = field.1 ∧ p.element field.2 field'.2) :
      (d'.element field'.2).isAttribute = (d.element field.2).isAttribute :=
    (same.element pair.2).isAttribute
  refine List.rel_append (List.rel_filter (fun {a b} pair => ?_) here.fields)
    (List.rel_filter (fun {a b} pair => ?_) here.fields)
  · simp only [alike pair]
  · simp only [alike pair]

/-- Both add a type. -/
theorem addType {t t' : TypeDef} (added : t.Resembles p t') :
    Renumbers (p.withType ⟨d.types.size⟩ ⟨d'.types.size⟩) (d.addType t).1 (d'.addType t').1 := by
  have within := p.within_withType ⟨d.types.size⟩ ⟨d'.types.size⟩
  have sizes {d : Declarations} (t : TypeDef) : (d.addType t).1.types.size = d.types.size + 1 :=
    Array.size_push ..
  have ne {id id' : TypeId} (pair : p.type id id') :
      id ≠ ⟨d.types.size⟩ ∧ id' ≠ ⟨d'.types.size⟩ := by
    obtain ⟨inside, inside'⟩ := same.hasType pair
    refine ⟨?_, ?_⟩ <;> rintro rfl
    · exact Nat.lt_irrefl _ inside
    · exact Nat.lt_irrefl _ inside'
  refine ⟨?_, same.elements, ?_, ?_, same.eq_element, same.hasElement, ?_, ?_⟩
  · rw [sizes, sizes, same.types]
  · rw [sizes, sizes]
    rintro id id' (pair | ⟨rfl, rfl⟩)
    · obtain ⟨inside, inside'⟩ := same.hasType pair
      exact ⟨Nat.lt_succ_of_lt inside, Nat.lt_succ_of_lt inside'⟩
    · exact ⟨Nat.lt_succ_self _, Nat.lt_succ_self _⟩
  · rintro id id' other other' (pair | ⟨rfl, rfl⟩) (pair' | ⟨rfl, rfl⟩)
    · exact same.eq_type pair pair'
    · exact iff_of_false (ne pair).1 (ne pair).2
    · exact iff_of_false (Ne.symm (ne pair').1) (Ne.symm (ne pair').2)
    · exact iff_of_true rfl rfl
  · rintro id id' (pair | ⟨rfl, rfl⟩)
    · obtain ⟨inside, inside'⟩ := same.hasType pair
      rw [Declarations.type_addType, Declarations.type_addType, if_neg (Nat.ne_of_lt inside),
        if_neg (Nat.ne_of_lt inside')]
      exact (same.type pair).mono within
    · rw [Declarations.type_addType, Declarations.type_addType, if_pos rfl, if_pos rfl]
      exact added.mono within
  · exact fun pair => (same.element pair).mono within

/-- Both copy a type. -/
theorem cloneType (pair : p.type id id') :
    Renumbers (p.withType ⟨d.types.size⟩ ⟨d'.types.size⟩) (d.cloneType id).1 (d'.cloneType id').1 := by
  have counted : Renumbers p d.anonymousSymbol.1 d'.anonymousSymbol.1 :=
    ⟨same.types, same.elements, same.hasType, same.eq_type, same.eq_element, same.hasElement,
      same.type, same.element⟩
  exact counted.addType ((same.type pair).copy (d.anonymousCount + 1) (d'.anonymousCount + 1))

end Renumbers

/-! ## Tables -/

/-- Tables of the same symbols have their entries in the same order. -/
theorem SymbolTable.forall₂_toSorted {α β : Type} {R : Symbol → α → β → Prop} {t : SymbolTable α}
    {t' : SymbolTable β}
    (there : ∀ {s a}, t.find? s = some a → ∃ b, t'.find? s = some b ∧ R s a b)
    (back : ∀ {s b}, t'.find? s = some b → ∃ a, t.find? s = some a) :
    List.Forall₂ (fun entry entry' => entry'.1 = entry.1 ∧ R entry.1 entry.2 entry'.2) t.toSorted
      t'.toSorted := by
  let Before (s s' : Symbol) : Prop := s.le s' = true ∧ s ≠ s'
  have antisymm : Std.Antisymm Before :=
    ⟨fun _ _ less more => Symbol.le_antisymm less.1 more.1⟩
  have irrefl : Std.Irrefl Before := ⟨fun _ less => less.2 rfl⟩
  have sorted {γ : Type} (t : SymbolTable γ) : (t.toSorted.map (·.1)).Pairwise Before :=
    List.pairwise_map.2 t.pairwise_toSorted
  have keys : t.toSorted.map (·.1) = t'.toSorted.map (·.1) := by
    refine (sorted t).eq_of_mem_iff (sorted t') fun s => ?_
    simp only [List.mem_map, Prod.exists, SymbolTable.mem_toSorted]
    constructor
    · rintro ⟨_, a, found, rfl⟩
      obtain ⟨b, found', -⟩ := there found
      exact ⟨_, b, found', rfl⟩
    · rintro ⟨_, b, found, rfl⟩
      obtain ⟨a, found'⟩ := back found
      exact ⟨_, a, found', rfl⟩
  have paired : List.Forall₂ (fun entry entry' => entry.1 = entry'.1) t.toSorted t'.toSorted :=
    List.forall₂_map_left_iff.1 (List.forall₂_map_right_iff.1 (List.forall₂_eq_eq_eq ▸ keys))
  refine List.forall₂_iff_zip.2 ⟨paired.length_eq, fun {entry entry'} member => ?_⟩
  have same := (List.forall₂_iff_zip.1 paired).2 member
  obtain ⟨here, here'⟩ := List.of_mem_zip member
  obtain ⟨b, found, rel⟩ := there (SymbolTable.mem_toSorted.1 here)
  rw [same, SymbolTable.mem_toSorted.1 here'] at found
  exact ⟨same.symm, Option.some.inj found ▸ rel⟩

end XsdRecords.Declaration
