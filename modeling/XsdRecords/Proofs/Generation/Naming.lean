import XsdRecords.Proofs.Declaration.Table
import XsdRecords.Proofs.Declaration.Walk
import XsdRecords.Proofs.Generation.Types

/-! # Naming types after top-level elements

The first top-level element of a complex type gives the type its name, unless it is the one that the
type is named like anyway; each later one gets a copy of the type.  `Named` is what holds when some
top-level elements are done. -/

namespace XsdRecords.Declaration

open XsdRecords.Vocabulary (Builtin)

namespace Declarations

/-! ## Declarations with new names and copies -/

/-- Declarations that differ in the types of elements, in the names of types, and in new types that
are copies of old ones. -/
structure Renamed (d d' : Declarations) : Prop where
  elementCount : d'.elements.size = d.elements.size
  element (id : ElementId) : ∃ directType, d'.element id = { d.element id with directType }
  roots : d'.roots = d.roots
  size : d.types.size ≤ d'.types.size
  body {id : TypeId} : id.index < d.types.size → (d'.type id).body = (d.type id).body
  symbol {id : TypeId} : id.index < d.types.size → (d'.type id).symbol = (d.type id).symbol
  copy {id : TypeId} : id.index < d'.types.size →
    ∃ original : TypeId, original.index < d.types.size ∧
      (d'.type id).body = (d.type original).body

theorem Renamed.refl (d : Declarations) : Renamed d d :=
  ⟨rfl, fun _ => ⟨_, rfl⟩, rfl, Nat.le_refl _, fun _ => rfl, fun _ => rfl,
    fun {id} h => ⟨id, h, rfl⟩⟩

namespace Renamed

variable {d d' : Declarations} (renamed : Renamed d d')

include renamed

theorem reference (id : ElementId) : (d'.element id).reference = (d.element id).reference := by
  obtain ⟨directType, same⟩ := renamed.element id
  rw [same]

theorem isAttribute (id : ElementId) :
    (d'.element id).isAttribute = (d.element id).isAttribute := by
  obtain ⟨directType, same⟩ := renamed.element id
  rw [same]
  rfl

theorem attributesFirst (fields : List (String × ElementId)) :
    d'.attributesFirst fields = d.attributesFirst fields := by
  have own : d'.isAttributeField = d.isAttributeField := by
    funext field
    exact renamed.isAttribute field.2
  simp only [Declarations.attributesFirst, own]

theorem keepsStems : KeepsStems d d' :=
  ⟨renamed.size, fun bound => TypeDef.get_of_body TypeDef.stem (fun _ => rfl) (renamed.body bound)⟩

theorem isComplex (bases : d.BasesInRange) {id original : TypeId}
    (bound : original.index < d.types.size)
    (same : (d'.type id).body = (d.type original).body) :
    d'.isComplex id = d.isComplex original :=
  renamed.keepsStems.isComplex bases bound (TypeDef.get_of_body TypeDef.stem (fun _ => rfl) same)

/-- The type of a top-level element is its own. -/
theorem elementType_root {id : ElementId} (inside : id.index < d.elements.size)
    (root : (d.element id).reference = none) :
    d'.elementType id = (d'.element id).directType := by
  obtain ⟨n, size⟩ := Nat.exists_eq_succ_of_ne_zero (Nat.ne_of_gt (Nat.zero_lt_of_lt inside))
  rw [Declarations.elementType, renamed.elementCount, size, elementTypeWithin,
    renamed.reference, root]

/-- Nothing was generated yet. -/
theorem unmarked (pristine : d.Pristine) (id : TypeId) :
    (d'.type id).record = none ∧ (d'.type id).enumeration = none := by
  by_cases bound : id.index < d'.types.size
  · obtain ⟨original, -, same⟩ := renamed.copy bound
    have record : (d'.type id).record = (d.type original).record :=
      TypeDef.get_of_body TypeDef.record (fun _ => rfl) same
    have enumeration : (d'.type id).enumeration = (d.type original).enumeration :=
      TypeDef.get_of_body TypeDef.enumeration (fun _ => rfl) same
    rw [record, enumeration]
    exact ⟨pristine.record original, pristine.enumeration original⟩
  · rw [type_of_size_le (Nat.le_of_not_lt bound)]
    exact ⟨rfl, rfl⟩

theorem knownBuiltin (pristine : d.Pristine) {id : TypeId} {b : Builtin}
    (found : (d'.type id).builtin = some b) : b ∈ Builtin.all ∨ b = Builtin.complexType := by
  by_cases bound : id.index < d'.types.size
  · obtain ⟨original, -, same⟩ := renamed.copy bound
    have builtin : (d'.type id).builtin = (d.type original).builtin :=
      TypeDef.get_of_body TypeDef.builtin (fun _ => rfl) same
    rw [builtin] at found
    exact pristine.builtin found
  · rw [type_of_size_le (Nat.le_of_not_lt bound)] at found
    cases found

/-- A new type of an element. -/
theorem setType (id : ElementId) (type : TypeId) :
    Renamed d (d'.modifyElement id fun e => { e with directType := some type }) where
  elementCount := (size_modifyElement _ _ _).trans renamed.elementCount
  element other := by
    obtain ⟨directType, same⟩ := renamed.element other
    refine element_modifyElement_of (P := fun e => ∃ directType,
      e = { d.element other with directType }) ⟨directType, same⟩ fun own => ?_
    subst own
    exact ⟨some type, by rw [same]⟩
  roots := renamed.roots
  size := renamed.size
  body := renamed.body
  symbol := renamed.symbol
  copy := renamed.copy

/-- A new name of a type. -/
theorem setName (id : TypeId) (overrideSymbol : Option Symbol) :
    Renamed d (d'.modifyType id fun t => { t with overrideSymbol }) where
  elementCount := renamed.elementCount
  element := renamed.element
  roots := renamed.roots
  size := by
    rw [size_modifyType]
    exact renamed.size
  body {other} bound :=
    type_modifyType_of (P := fun t => t.body = (d.type other).body) (renamed.body bound)
      fun own => own ▸ renamed.body bound
  symbol {other} bound :=
    type_modifyType_of (P := fun t => t.symbol = (d.type other).symbol) (renamed.symbol bound)
      fun own => own ▸ renamed.symbol bound
  copy {other} bound := by
    rw [size_modifyType] at bound
    obtain ⟨original, inside, same⟩ := renamed.copy bound
    exact ⟨original, inside, type_modifyType_of (P := fun t => t.body = (d.type original).body)
      same fun own => own ▸ same⟩

end Renamed

/-- What a copy of a type is. -/
theorem cloneType_eq (d : Declarations) (id : TypeId) : ∃ symbol,
    (d.cloneType id).2 = ⟨d.types.size⟩ ∧ (d.cloneType id).1.elements = d.elements ∧
      (d.cloneType id).1.types.size = d.types.size + 1 ∧
      ∀ other, (d.cloneType id).1.type other = if other.index = d.types.size then
        { d.type id with symbol, overrideSymbol := none, record := none, enumeration := none }
        else d.type other := by
  refine ⟨d.anonymousSymbol.2, rfl, rfl, Array.size_push _, fun other => ?_⟩
  exact type_addType d.anonymousSymbol.1 _ other

/-- Declarations where an element got a copy of a type, with the name of the element. -/
structure GivesCopy (d : Declarations) (symbol : Symbol) (id : ElementId) (type : TypeId)
    (d' : Declarations) : Prop where
  elementCount : d'.elements.size = d.elements.size
  element (other : ElementId) : d'.element other = if other = id then
    { d.element id with directType := some ⟨d.types.size⟩ } else d.element other
  roots : d'.roots = d.roots
  size : d'.types.size = d.types.size + 1
  type_of_ne {other : TypeId} : other.index ≠ d.types.size → d'.type other = d.type other
  copied : ∃ minted, d'.type ⟨d.types.size⟩ =
    { d.type type with
      symbol := minted, overrideSymbol := some symbol, record := none, enumeration := none }

theorem GivesCopy.old {d d' : Declarations} {symbol : Symbol} {id : ElementId} {type : TypeId}
    (copies : GivesCopy d symbol id type d') {other : TypeId} (h : other.index < d.types.size) :
    d'.type other = d.type other :=
  copies.type_of_ne (Nat.ne_of_lt h)

theorem GivesCopy.body {d d' : Declarations} {symbol : Symbol} {id : ElementId} {type : TypeId}
    (copies : GivesCopy d symbol id type d')
    (unmarked : (d.type type).record = none ∧ (d.type type).enumeration = none) :
    (d'.type ⟨d.types.size⟩).body = (d.type type).body := by
  obtain ⟨minted, copied⟩ := copies.copied
  rw [copied]
  simp only [TypeDef.body, unmarked]

theorem givesCopy (d : Declarations) (symbol : Symbol) {id : ElementId}
    (inside : id.index < d.elements.size) (type : TypeId) :
    GivesCopy d symbol id type
      (((d.cloneType type).1.modifyElement id fun e =>
        { e with directType := some (d.cloneType type).2 }).modifyType (d.cloneType type).2
          fun t => { t with overrideSymbol := some symbol }) := by
  obtain ⟨minted, place, elements, size, types⟩ := cloneType_eq d type
  rw [place]
  have cloned (other : ElementId) : (d.cloneType type).1.element other = d.element other := by
    simp only [Declarations.element, elements]
  refine ⟨?_, fun other => ?_, rfl, ?_, fun {other} ne => ?_, minted, ?_⟩
  · exact (size_modifyElement _ _ _).trans (congrArg Array.size elements)
  · rw [element_modifyType]
    split
    · rename_i own
      rw [own, element_modifyElement (by rwa [elements]), cloned]
    · rename_i other
      rw [element_modifyElement_of_ne (Ne.symm other), cloned]
  · rw [size_modifyType]
    exact size
  · have own : (⟨d.types.size⟩ : TypeId) ≠ other := fun same => ne (congrArg TypeId.index same).symm
    rw [type_modifyType_of_ne own, type_modifyElement, types, if_neg ne]
  · have last : (⟨d.types.size⟩ : TypeId).index < ((d.cloneType type).1.modifyElement id fun e =>
        { e with directType := some ⟨d.types.size⟩ }).types.size := by
      change d.types.size < (d.cloneType type).1.types.size
      omega
    rw [type_modifyType last, type_modifyElement, types, if_pos rfl]

/-- A copy of a type. -/
theorem Renamed.cloneType {d d' : Declarations} (renamed : Renamed d d') (pristine : d.Pristine)
    {id : TypeId} (bound : id.index < d.types.size) : Renamed d (d'.cloneType id).1 := by
  obtain ⟨symbol, -, elements, size, types⟩ := cloneType_eq d' id
  have old {other : TypeId} (h : other.index < d.types.size) :
      (d'.cloneType id).1.type other = d'.type other := by
    rw [types, if_neg (Nat.ne_of_lt (Nat.lt_of_lt_of_le h renamed.size))]
  refine ⟨?_, fun other => ?_, renamed.roots, ?_, fun h => ?_, fun h => ?_, fun {other} h => ?_⟩
  · rw [elements, renamed.elementCount]
  · have same : (d'.cloneType id).1.element other = d'.element other := by
      simp only [Declarations.element, elements]
    rw [same]
    exact renamed.element other
  · have := renamed.size
    omega
  · rw [old h, renamed.body h]
  · rw [old h, renamed.symbol h]
  · rw [types]
    split
    · refine ⟨id, bound, ?_⟩
      obtain ⟨record, enumeration⟩ := renamed.unmarked pristine id
      rw [← renamed.body bound]
      simp only [TypeDef.body, record, enumeration]
    · rename_i ne
      exact renamed.copy (by omega)

end Declarations

end XsdRecords.Declaration

namespace XsdRecords.Generation

open XsdRecords.Declaration (Declarations ElementId TypeId TypeDef Symbol SymbolTable)
open XsdRecords.Declaration.Declarations (Renamed)
open XsdRecords.Layout

/-! ## The invariant of naming -/

/-- What holds of declarations when some top-level elements are done. -/
structure Named (d : Declarations) (done : List (Symbol × ElementId)) (d' : Declarations) :
    Prop where
  renamed : Renamed d d'
  later {id : ElementId} : id ∉ done.map (·.2) → d'.element id = d.element id
  /-- An element of a simple type, or one that its type is named like, keeps the type. -/
  own {symbol : Symbol} {id : ElementId} {type : TypeId} : (symbol, id) ∈ done →
    d.elementType id = some type → (d.isComplex type = true → (d.type type).symbol = symbol) →
      (d'.element id).directType = some type
  /-- Any other has a type that is named after it. -/
  named {symbol : Symbol} {id : ElementId} {type : TypeId} : (symbol, id) ∈ done →
    d.elementType id = some type → d.isComplex type = true → (d.type type).symbol ≠ symbol →
      ∃ name, (d'.element id).directType = some name ∧ name.index < d'.types.size ∧
        (d'.type name).overrideSymbol = some symbol ∧ (d'.type name).body = (d.type type).body
  taken {symbol : Symbol} {id : ElementId} {type : TypeId} : (symbol, id) ∈ done →
    d.elementType id = some type → d.isComplex type = true → (d.type type).symbol ≠ symbol →
      (d'.type type).overrideSymbol.isSome = true
  taker {symbol : Symbol} {type : TypeId} : type.index < d.types.size →
    (d'.type type).overrideSymbol = some symbol →
      ∃ id, (symbol, id) ∈ done ∧ d.elementType id = some type ∧ d.isComplex type = true ∧
        (d.type type).symbol ≠ symbol ∧ (d'.element id).directType = some type
  /-- A new type is a copy of the type that an element had. -/
  copied {type : TypeId} : d.types.size ≤ type.index → type.index < d'.types.size →
    ∃ symbol id original, (symbol, id) ∈ done ∧ d.elementType id = some original ∧
      original.index < d.types.size ∧ (d'.element id).directType = some type ∧
      (d'.type type).body = (d.type original).body

theorem Named.nil {d : Declarations} (pristine : d.Pristine) : Named d [] d where
  renamed := .refl d
  later _ := rfl
  own member := by cases member
  named member := by cases member
  taken member := by cases member
  taker _ named := by
    rw [pristine.override] at named
    cases named
  copied new old := absurd old (Nat.not_lt.2 new)

section Step

variable {d : Declarations} {g : Generation} {done : List (Symbol × ElementId)} {symbol : Symbol}
  {id : ElementId}

/-- What holds of one top-level element that is done. -/
structure NamedRoot (d : Declarations) (symbol : Symbol) (id : ElementId) (d' : Declarations) :
    Prop where
  own {type : TypeId} : d.elementType id = some type →
    (d.isComplex type = true → (d.type type).symbol = symbol) →
      (d'.element id).directType = some type
  named {type : TypeId} : d.elementType id = some type → d.isComplex type = true →
    (d.type type).symbol ≠ symbol → ∃ name, (d'.element id).directType = some name ∧
      name.index < d'.types.size ∧ (d'.type name).overrideSymbol = some symbol ∧
      (d'.type name).body = (d.type type).body
  taken {type : TypeId} : d.elementType id = some type → d.isComplex type = true →
    (d.type type).symbol ≠ symbol → (d'.type type).overrideSymbol.isSome = true

theorem Named.namedRoot {d' : Declarations} (named : Named d done d') (member : (symbol, id) ∈ done) :
    NamedRoot d symbol id d' :=
  ⟨named.own member, named.named member, named.taken member⟩

/-- Declarations where no element but one got another type, and every name that a type had stays. -/
structure Retypes (d : Declarations) (id : ElementId) (d' : Declarations) : Prop where
  element {other : ElementId} : other ≠ id → d'.element other = d.element other
  size : d.types.size ≤ d'.types.size
  body {type : TypeId} : type.index < d.types.size → (d'.type type).body = (d.type type).body
  override {type : TypeId} {symbol : Symbol} : (d.type type).overrideSymbol = some symbol →
    (d'.type type).overrideSymbol = some symbol

theorem NamedRoot.keep {d' d'' : Declarations} {other : ElementId}
    (root : NamedRoot d symbol other d') (retypes : Retypes d' id d'') (ne : other ≠ id) :
    NamedRoot d symbol other d'' where
  own typed same := by
    rw [retypes.element ne]
    exact root.own typed same
  named typed complex unlike := by
    obtain ⟨name, direct, inRange, override, body⟩ := root.named typed complex unlike
    refine ⟨name, ?_, Nat.lt_of_lt_of_le inRange retypes.size, retypes.override override,
      (retypes.body inRange).trans body⟩
    rw [retypes.element ne, direct]
  taken typed complex unlike := by
    obtain ⟨name, override⟩ := Option.isSome_iff_exists.1 (root.taken typed complex unlike)
    exact Option.isSome_of_eq_some (retypes.override override)

/-- One more element is done.  A type that has a new name or is a new copy has it, or is it, because
of the element. -/
theorem Named.snoc {d' d'' : Declarations} (named : Named d done d') (renamed : Renamed d d'')
    (fresh : id ∉ done.map (·.2)) (retypes : Retypes d' id d'') (last : NamedRoot d symbol id d'')
    (taker : ∀ {name : Symbol} {type : TypeId}, type.index < d.types.size →
      (d''.type type).overrideSymbol = some name → (d'.type type).overrideSymbol = some name ∨
        name = symbol ∧ d.elementType id = some type ∧ d.isComplex type = true ∧
          (d.type type).symbol ≠ symbol ∧ (d''.element id).directType = some type)
    (copied : ∀ {type : TypeId}, d'.types.size ≤ type.index → type.index < d''.types.size →
      ∃ original, d.elementType id = some original ∧ original.index < d.types.size ∧
        (d''.element id).directType = some type ∧
        (d''.type type).body = (d.type original).body) :
    Named d (done ++ [(symbol, id)]) d'' := by
  have done_ne {name : Symbol} {other : ElementId} (member : (name, other) ∈ done) :
      other ≠ id := by
    rintro rfl
    exact fresh (List.mem_map.2 ⟨_, member, rfl⟩)
  have all {name : Symbol} {other : ElementId} (member : (name, other) ∈ done ++ [(symbol, id)]) :
      NamedRoot d name other d'' := by
    rcases List.mem_append.1 member with old | new
    · exact (named.namedRoot old).keep retypes (done_ne old)
    · obtain ⟨rfl, rfl⟩ := Prod.mk.inj (List.mem_singleton.1 new)
      exact last
  have member : (symbol, id) ∈ done ++ [(symbol, id)] :=
    List.mem_append_right _ (List.mem_singleton.2 rfl)
  refine ⟨renamed, fun {other} absent => ?later, fun member => (all member).own,
    fun member => (all member).named, fun member => (all member).taken,
    fun {name} type bound override => ?taker, fun {type} new inside => ?copied⟩
  case later =>
    have ne : other ≠ id := by
      rintro rfl
      exact absent (by simp)
    rw [retypes.element ne]
    exact named.later fun member => absent (by simp_all)
  case taker =>
    obtain before | ⟨rfl, own⟩ := taker bound override
    · obtain ⟨other, member, typed, complex, unlike, direct⟩ := named.taker bound before
      refine ⟨other, List.mem_append_left _ member, typed, complex, unlike, ?_⟩
      rw [retypes.element (done_ne member), direct]
    · exact ⟨id, member, own⟩
  case copied =>
    by_cases before : type.index < d'.types.size
    · obtain ⟨name, other, original, member, typed, bound, direct, body⟩ := named.copied new before
      refine ⟨name, other, original, List.mem_append_left _ member, typed, bound, ?_,
        (retypes.body before).trans body⟩
      rw [retypes.element (done_ne member), direct]
    · obtain ⟨original, own⟩ := copied (Nat.le_of_not_lt before) inside
      exact ⟨symbol, id, original, member, own⟩

/-- A top-level element that is not done has the type that it had. -/
theorem Named.directType {d' : Declarations} (named : Named d done d')
    (inside : id.index < d.elements.size) (root : (d.element id).reference = none)
    (fresh : id ∉ done.map (·.2)) : (d'.element id).directType = d.elementType id := by
  rw [named.later fresh, ← (Renamed.refl d).elementType_root inside root]

/-- An element that needs no name changes nothing. -/
theorem Named.skip {d' : Declarations} (named : Named d done d')
    (inside : id.index < d.elements.size) (root : (d.element id).reference = none)
    (fresh : id ∉ done.map (·.2))
    (free : ∀ type, d.elementType id = some type → d.isComplex type = true →
      (d.type type).symbol = symbol) : Named d (done ++ [(symbol, id)]) d' :=
  named.snoc named.renamed fresh ⟨fun _ => rfl, Nat.le_refl _, fun _ => rfl, fun named => named⟩
    { own := fun typed _ => (named.directType inside root fresh).trans typed
      named := fun typed complex other => absurd (free _ typed complex) other
      taken := fun typed complex other => absurd (free _ typed complex) other }
    (fun _ override => .inl override)
    fun new bound => absurd bound (Nat.not_lt.2 new)

/-- The first element of a type that is to be named gives it its name. -/
theorem Named.setName {d' : Declarations} (named : Named d done d')
    (inside : id.index < d.elements.size) (root : (d.element id).reference = none)
    (fresh : id ∉ done.map (·.2)) {type : TypeId} (typed : d.elementType id = some type)
    (complex : d.isComplex type = true) (other : (d.type type).symbol ≠ symbol)
    (unnamed : (d'.type type).overrideSymbol = none) :
    Named d (done ++ [(symbol, id)])
      (d'.modifyType type fun t => { t with overrideSymbol := some symbol }) := by
  have bound := Declarations.lt_size_of_isComplex complex
  have bound' := Nat.lt_of_lt_of_le bound named.renamed.size
  have types (t : TypeId) := Declarations.type_modifyType_eq d' type t
    (fun t => { t with overrideSymbol := some symbol }) bound'
  have direct : (d'.element id).directType = some type :=
    (named.directType inside root fresh).trans typed
  have own {t : TypeId} (typed' : d.elementType id = some t) : t = type :=
    Option.some.inj (typed'.symm.trans typed)
  refine named.snoc (named.renamed.setName type _) fresh ?retypes ?last
    (fun {name} t _ override => ?taker) fun {t} new old => ?copied
  case retypes =>
    refine ⟨fun _ => rfl, ?_, fun {t} _ => ?_, fun {t} _ override => ?_⟩
    · rw [Declarations.size_modifyType]
    · rw [types]
      split
      · rename_i same
        rw [same]
        rfl
      · rfl
    · rw [types, if_neg, override]
      rintro rfl
      rw [unnamed] at override
      cases override
  case last =>
    refine ⟨fun typed' _ => direct.trans (typed.symm.trans typed'), fun typed' _ _ => ?_,
      fun typed' _ _ => ?_⟩
    · obtain rfl := own typed'
      refine ⟨_, direct, ?_, ?_, ?_⟩
      · rwa [Declarations.size_modifyType]
      · rw [types, if_pos rfl]
      · rw [types, if_pos rfl]
        exact named.renamed.body bound
    · obtain rfl := own typed'
      rw [types, if_pos rfl]
      rfl
  case taker =>
    rw [types] at override
    split at override
    · rename_i same
      subst same
      exact .inr ⟨(Option.some.inj override).symm, typed, complex, other, direct⟩
    · exact .inl override
  case copied =>
    rw [Declarations.size_modifyType] at old
    exact absurd old (Nat.not_lt.2 new)

theorem Retypes.ofCopy {d' d'' : Declarations} {type : TypeId}
    (copies : Declarations.GivesCopy d' symbol id type d'') : Retypes d' id d'' where
  element ne := by rw [copies.element, if_neg ne]
  size := by
    rw [copies.size]
    exact Nat.le_succ _
  body inside := by rw [copies.old inside]
  override {t name} override := by
    have inside : t.index < d'.types.size := by
      by_contra outside
      rw [Declarations.type_of_size_le (Nat.le_of_not_lt outside)] at override
      cases override
    rw [copies.old inside, override]

/-- A later element of a type that is to be named gets a copy with its name. -/
theorem Named.cloneType {d' : Declarations} (named : Named d done d') (pristine : d.Pristine)
    (inside : id.index < d.elements.size) (fresh : id ∉ done.map (·.2)) {type : TypeId}
    (typed : d.elementType id = some type) (complex : d.isComplex type = true)
    (other : (d.type type).symbol ≠ symbol)
    (given : (d'.type type).overrideSymbol.isSome = true) :
    Named d (done ++ [(symbol, id)])
      (((d'.cloneType type).1.modifyElement id fun e =>
        { e with directType := some (d'.cloneType type).2 }).modifyType (d'.cloneType type).2
          fun t => { t with overrideSymbol := some symbol }) := by
  have bound := Declarations.lt_size_of_isComplex complex
  have copies := Declarations.givesCopy d' symbol (by rwa [named.renamed.elementCount]) type
  have renamed := ((named.renamed.cloneType pristine bound).setType id (d'.cloneType type).2).setName
    (d'.cloneType type).2 (some symbol)
  generalize Declarations.modifyType _ (d'.cloneType type).2 _ = d'' at copies renamed
  have direct : (d''.element id).directType = some ⟨d'.types.size⟩ := by
    rw [copies.element, if_pos rfl]
  have body : (d''.type ⟨d'.types.size⟩).body = (d.type type).body :=
    (copies.body (named.renamed.unmarked pristine type)).trans (named.renamed.body bound)
  have own {t : TypeId} (typed' : d.elementType id = some t) : t = type :=
    Option.some.inj (typed'.symm.trans typed)
  refine named.snoc renamed fresh (.ofCopy copies) ?last (fun {name} t inRange override => ?taker)
    fun {t} new old => ?copied
  case last =>
    refine ⟨fun typed' same => ?_, fun typed' _ _ => ?_, fun typed' _ _ => ?_⟩
    · obtain rfl := own typed'
      exact absurd (same complex) other
    · obtain rfl := own typed'
      obtain ⟨minted, copied⟩ := copies.copied
      refine ⟨_, direct, ?_, ?_, body⟩
      · rw [copies.size]
        exact Nat.lt_succ_self _
      · rw [copied]
    · obtain rfl := own typed'
      rwa [copies.old (Nat.lt_of_lt_of_le bound named.renamed.size)]
  case taker =>
    rw [copies.old (Nat.lt_of_lt_of_le inRange named.renamed.size)] at override
    exact .inl override
  case copied =>
    have last : t.index = d'.types.size := by
      have size := copies.size
      omega
    obtain rfl : t = ⟨d'.types.size⟩ := congrArg TypeId.mk last
    exact ⟨type, typed, bound, direct, body⟩

/-- One step of naming. -/
theorem Named.nameRoot (named : Named d done g.declarations) (symbol : Symbol)
    (pristine : d.Pristine) (inRange : d.InRange) (inside : id.index < d.elements.size)
    (root : (d.element id).reference = none) (fresh : id ∉ done.map (·.2)) :
    Named d (done ++ [(symbol, id)]) (g.nameRoot symbol id).declarations := by
  have sameType : g.declarations.elementType id = d.elementType id := by
    rw [named.renamed.elementType_root inside root, named.later fresh,
      ← (Renamed.refl d).elementType_root inside root]
  unfold Generation.nameRoot
  rw [sameType]
  cases typed : d.elementType id with
  | none => exact named.skip inside root fresh fun type found => by rw [typed] at found; cases found
  | some type =>
    dsimp only
    have direct := typed
    rw [(Renamed.refl d).elementType_root inside root] at direct
    have bound := inRange.directType direct
    rw [named.renamed.isComplex inRange.bases bound (named.renamed.body bound),
      named.renamed.symbol bound]
    by_cases wanted : d.isComplex type = true ∧ (d.type type).symbol ≠ symbol
    · obtain ⟨complex, other⟩ := wanted
      simp only [complex, Bool.not_true, Bool.false_or, decide_eq_true_eq, other, if_false]
      cases given : (g.declarations.type type).overrideSymbol with
      | some before =>
        exact named.cloneType pristine inside fresh typed complex other (by rw [given]; rfl)
      | none => exact named.setName inside root fresh typed complex other given
    · rw [if_pos]
      · refine named.skip inside root fresh fun other found complex => ?_
        rw [typed] at found
        obtain rfl := Option.some.inj found
        exact Classical.byContradiction fun other => wanted ⟨complex, other⟩
      · simp only [Bool.or_eq_true, Bool.not_eq_eq_eq_not, Bool.not_true, decide_eq_true_eq]
        rcases Classical.not_and_iff_not_or_not.1 wanted with scalar | same
        · exact .inl (Bool.eq_false_iff.2 scalar)
        · exact .inr (Classical.not_not.1 same)

end Step

/-! ## Naming all top-level elements -/

@[simp] theorem schema_nameRoot (g : Generation) (symbol : Symbol) (id : ElementId) :
    (g.nameRoot symbol id).schema = g.schema := by
  unfold nameRoot
  split
  · rfl
  · dsimp only
    split
    · rfl
    · split <;> rfl

/-- Naming that does not fail gets to the end. -/
theorem nameRoots_finished (rest : List (Symbol × ElementId)) {g : Generation}
    (ok : (nameRoots g rest).1.hasFailed = false) : (nameRoots g rest).2 = true := by
  induction rest generalizing g with
  | nil => rfl
  | cons root rest ih =>
    unfold nameRoots at ok ⊢
    cases checked : g.declarations.check "root" root.1.localName root.2 with
    | error problem =>
      simp only [checked] at ok
      rw [hasFailed_report_of_isFailure g (isFailure_of_check checked)] at ok
      cases ok
    | ok passed =>
      simp only [checked] at ok ⊢
      exact ih ok

/-- Naming that gets to the end names all top-level elements. -/
theorem nameRoots_named {d : Declarations} (pristine : d.Pristine) (inRange : d.InRange)
    (rest : List (Symbol × ElementId)) {done : List (Symbol × ElementId)} {g : Generation}
    (named : Named d done g.declarations)
    (roots : ∀ root ∈ rest, root.2.index < d.elements.size ∧ (d.element root.2).reference = none)
    (distinct : ((done ++ rest).map (·.2)).Nodup) (finished : (nameRoots g rest).2 = true) :
    Named d (done ++ rest) (nameRoots g rest).1.declarations ∧
      (nameRoots g rest).1.schema = g.schema := by
  induction rest generalizing done g with
  | nil =>
    rw [List.append_nil]
    exact ⟨named, rfl⟩
  | cons root rest ih =>
    obtain ⟨symbol, id⟩ := root
    unfold nameRoots at finished ⊢
    cases checked : g.declarations.check "root" symbol.localName id with
    | error problem =>
      rw [checked] at finished
      cases finished
    | ok passed =>
      simp only [checked] at finished ⊢
      obtain ⟨inside, root⟩ := roots (symbol, id) List.mem_cons_self
      have fresh : id ∉ done.map (·.2) := by
        intro member
        rw [List.map_append, List.nodup_append] at distinct
        exact distinct.2.2 id member id (List.mem_map.2 ⟨_, List.mem_cons_self, rfl⟩) rfl
      have step := named.nameRoot symbol pristine inRange inside root fresh
      have distinctRest : ((done ++ [(symbol, id)] ++ rest).map (·.2)).Nodup := by
        rwa [List.append_assoc]
      obtain ⟨all, schema⟩ := ih step
        (fun root member => roots root (List.mem_cons_of_mem _ member)) distinctRest finished
      rw [List.append_assoc] at all
      exact ⟨all, by rw [schema, schema_nameRoot]⟩

/-! ## A whole generation -/

theorem noteTypes_keeps (g : Generation) : g.noteTypes.declarations = g.declarations ∧
    g.noteTypes.schema = g.schema ∧ g.noteTypes.hasFailed = g.hasFailed := by
  unfold noteTypes
  induction g.declarations.typeTable.toSorted generalizing g with
  | nil => exact ⟨rfl, rfl, rfl⟩
  | cons entry rest ih => exact ih _

theorem Rooted.distinct {d : Declarations} (rooted : d.Rooted) :
    (d.roots.toSorted.map (·.2)).Nodup := by
  rw [List.Nodup, List.pairwise_map]
  refine List.Pairwise.imp_of_mem ?_ (Declaration.SymbolTable.pairwise_toSorted d.roots)
  rintro ⟨s, id⟩ ⟨s', id'⟩ member member' ⟨-, ne⟩ same
  obtain rfl : id = id' := same
  exact ne (rooted.injective (SymbolTable.mem_toSorted.1 member)
    (SymbolTable.mem_toSorted.1 member'))

/-- A generation whose naming gets to the end names all top-level elements and emits their types. -/
theorem run_finished {g : Generation} (pristine : g.declarations.Pristine)
    (inRange : g.declarations.InRange) (rooted : g.declarations.Rooted)
    (finished : (nameRoots { g with schema := {} } g.declarations.roots.toSorted).2 = true) :
    ∃ start, start.declarations =
        (nameRoots { g with schema := {} } g.declarations.roots.toSorted).1.declarations ∧
      Named g.declarations g.declarations.roots.toSorted start.declarations ∧
      start.schema = {} ∧
      run g = (g.declarations.roots.toSorted.map (·.2)).foldl emitRoot start := by
  have roots : ∀ root ∈ g.declarations.roots.toSorted,
      root.2.index < g.declarations.elements.size ∧
        (g.declarations.element root.2).reference = none := by
    rintro ⟨symbol, id⟩ member
    have found := SymbolTable.mem_toSorted.1 member
    exact ⟨inRange.roots found, rooted.reference found⟩
  obtain ⟨named, schema⟩ := nameRoots_named pristine inRange _ (g := { g with schema := {} })
    (Named.nil pristine) roots (Rooted.distinct rooted) finished
  unfold run
  cases result : nameRoots { g with schema := {} } g.declarations.roots.toSorted with
  | mk left going =>
    rw [result] at finished named schema
    obtain rfl : going = true := finished
    obtain ⟨declarations, kept, -⟩ := noteTypes_keeps left
    have sameRoots : left.noteTypes.declarations.roots = g.declarations.roots := by
      rw [declarations]
      exact named.renamed.roots
    refine ⟨left.noteTypes, declarations, ?_, kept.trans schema, ?_⟩
    · rw [declarations]
      exact named
    · dsimp only
      rw [if_pos rfl, sameRoots]

/-- A generation that does not fail names all top-level elements. -/
theorem nameRoots_finished_of_run {g : Generation} (ok : (run g).hasFailed = false) :
    (nameRoots { g with schema := {} } g.declarations.roots.toSorted).2 = true := by
  refine nameRoots_finished _ (unfailed_before (fun failed => ?_) ok)
  unfold run
  cases result : nameRoots { g with schema := {} } g.declarations.roots.toSorted with
  | mk left going =>
    simp only [result] at failed ⊢
    split
    · have noted := (noteTypes_keeps left).2.2.trans failed
      exact hasFailed_foldl (fun g a h => hasFailed_emitRoot h a) _ noted
    · exact failed

/-- A generation that does not fail names all top-level elements and emits their types. -/
theorem run_named {g : Generation} (pristine : g.declarations.Pristine)
    (inRange : g.declarations.InRange) (rooted : g.declarations.Rooted)
    (ok : (run g).hasFailed = false) :
    ∃ start, Named g.declarations g.declarations.roots.toSorted start.declarations ∧
      start.schema = {} ∧
      run g = (g.declarations.roots.toSorted.map (·.2)).foldl emitRoot start := by
  obtain ⟨start, -, rest⟩ :=
    run_finished pristine inRange rooted (nameRoots_finished_of_run ok)
  exact ⟨start, rest⟩

end XsdRecords.Generation
