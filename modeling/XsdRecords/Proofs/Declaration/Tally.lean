import XsdRecords.Proofs.Declaration.Intact
import XsdRecords.Proofs.Declaration.Ledger
import XsdRecords.Proofs.Declaration.Pairing
import XsdRecords.Proofs.Session.Resolution

/-! # Declarations of two runs

Reading only ever adds to declarations: `Precedes` tells what stays when they come to later ones.

Two runs work on the same part of a document, each with the declarations that it has by then.  A
`Tally` is what holds of both while they do: a ledger of types and one of elements, and what is known
of names. -/

namespace XsdRecords.Declaration.Declarations

open XsdRecords.Vocabulary (Builtin)

variable {d d' d'' : Declarations}

/-- Nothing is taken away or renamed, no definition is undone, names keep what they stand for, and
no old element gets a name. -/
structure Precedes (d d' : Declarations) : Prop where
  types : d.types.size ≤ d'.types.size
  elements : d.elements.size ≤ d'.elements.size
  symbol {id : TypeId} : id.index < d.types.size → (d'.type id).symbol = (d.type id).symbol
  isDefined_type {id : TypeId} : (d.type id).isDefined = true → (d'.type id).isDefined = true
  isDefined_element {id : ElementId} :
    (d.element id).isDefined = true → (d'.element id).isDefined = true
  builtin {id : TypeId} {b : Builtin} : (d'.type id).builtin = some b →
    (d.type id).builtin = some b ∨ b = Builtin.complexType
  place? {r : Reference} {place : Nat} : d.place? r = some place → d'.place? r = some place
  old {isAttribute : Bool} {s : Symbol} {place : Nat} :
    d'.place? ⟨.root isAttribute, s⟩ = some place → place < d.elements.size →
      d.place? ⟨.root isAttribute, s⟩ = some place

namespace Precedes

theorem refl (d : Declarations) : Precedes d d :=
  ⟨Nat.le_refl _, Nat.le_refl _, fun _ => rfl, id, id, .inl, id, fun found _ => found⟩

theorem trans (first : Precedes d d') (second : Precedes d' d'') : Precedes d d'' where
  types := Nat.le_trans first.types second.types
  elements := Nat.le_trans first.elements second.elements
  symbol inside :=
    (second.symbol (Nat.lt_of_lt_of_le inside first.types)).trans (first.symbol inside)
  isDefined_type h := second.isDefined_type (first.isDefined_type h)
  isDefined_element h := second.isDefined_element (first.isDefined_element h)
  builtin h := (second.builtin h).elim first.builtin .inr
  place? h := second.place? (first.place? h)
  old found inside :=
    first.old (second.old found (Nat.lt_of_lt_of_le inside first.elements)) inside

theorem isDefined_type_eq_false (precedes : Precedes d d') {id : TypeId}
    (undefined : (d'.type id).isDefined = false) : (d.type id).isDefined = false := by
  refine Bool.eq_false_iff.2 fun defined => ?_
  rw [precedes.isDefined_type defined] at undefined
  cases undefined

theorem isDefined_element_eq_false (precedes : Precedes d d') {id : ElementId}
    (undefined : (d'.element id).isDefined = false) : (d.element id).isDefined = false := by
  refine Bool.eq_false_iff.2 fun defined => ?_
  rw [precedes.isDefined_element defined] at undefined
  cases undefined

end Precedes

/-! ## Changes -/

theorem place?_addRoot (d : Declarations) (s : Symbol) (r : Reference) :
    Declarations.place? { d.addElement.1 with roots := d.roots.insert s d.addElement.2 } r =
      if r = ⟨.root false, s⟩ then some d.elements.size else d.place? r := by
  obtain ⟨_ | _ | _, other⟩ := r <;> by_cases own : other = s <;>
    simp [Declarations.place?, addElement, SymbolTable.find?_insert, own]

theorem place?_addRootAttribute (d : Declarations) (s : Symbol) (r : Reference) :
    Declarations.place?
        { d.addElement.1 with rootAttributes := d.rootAttributes.insert s d.addElement.2 } r =
      if r = ⟨.root true, s⟩ then some d.elements.size else d.place? r := by
  obtain ⟨_ | _ | _, other⟩ := r <;> by_cases own : other = s <;>
    simp [Declarations.place?, addElement, SymbolTable.find?_insert, own]

/-- What is added is new, and no old element gets a name. -/
theorem Edit.old (edit : Edit d d') {isAttribute : Bool} {s : Symbol} {place : Nat}
    (found : d'.place? ⟨.root isAttribute, s⟩ = some place) (inside : place < d.elements.size) :
    d.place? ⟨.root isAttribute, s⟩ = some place := by
  have added {r : Reference} {n : Reference}
      (found : (if r = n then some d.elements.size else d.place? r) = some place) :
      d.place? r = some place := by
    split at found
    · obtain rfl := Option.some.inj found
      exact absurd inside (Nat.lt_irrefl _)
    · exact found
  cases edit with
  | mint | addElement | refer | typed | form | complex | preserve | choose | derive | enumerate |
    addField => exact found
  | addType symbol =>
    rw [place?_addType] at found
    split at found
    · rename_i same
      cases same
    · exact found
  | addRoot symbol =>
    rw [place?_addRoot] at found
    exact added found
  | addRootAttribute symbol =>
    rw [place?_addRootAttribute] at found
    exact added found

theorem Edit.builtin (edit : Edit d d') {id : TypeId} {b : Builtin}
    (own : (d'.type id).builtin = some b) :
    (d.type id).builtin = some b ∨ b = Builtin.complexType := by
  revert own
  cases edit with
  | mint | addElement | addRoot | addRootAttribute | refer | typed | form => exact .inl
  | addType symbol =>
    rw [type_addType]
    split
    · intro own
      cases own
    · exact .inl
  | complex own | addField own =>
    exact type_modifyType_of (P := fun t => t.builtin = some b → _) .inl
      fun _ own => .inr (Option.some.inj own).symm
  | preserve own | choose own | derive own | enumerate own =>
    exact type_modifyType_of (P := fun t => t.builtin = some b → _) .inl fun same own => .inl (same ▸ own)

theorem Edit.precedes (edit : Edit d d') : Precedes d d' :=
  ⟨edit.size_types_le, edit.size_elements_le, edit.symbol, edit.isDefined_type,
    edit.isDefined_element, edit.builtin, edit.place?, edit.old⟩

theorem Edits.precedes (edits : Edits d d') : Precedes d d' := by
  induction edits with
  | refl => exact .refl _
  | tail _ edit ih => exact ih.trans edit.precedes

theorem precedes_anonymousSymbol (d : Declarations) : Precedes d d.anonymousSymbol.1 :=
  Edit.mint.precedes

theorem precedes_addElement (d : Declarations) : Precedes d d.addElement.1 :=
  Edit.addElement.precedes

theorem precedes_findOrAddType (d : Declarations) (s : Symbol) :
    Precedes d (d.findOrAddType s).1 :=
  (edits_findOrAddType d s).precedes

theorem precedes_findOrAddRoot (d : Declarations) (s : Symbol) :
    Precedes d (d.findOrAddRoot s).1 :=
  (edits_findOrAddRoot d s).precedes

theorem precedes_findOrAddRootAttribute (d : Declarations) (s : Symbol) :
    Precedes d (d.findOrAddRootAttribute s).1 :=
  (edits_findOrAddRootAttribute d s).precedes

theorem precedes_modifyElement (d : Declarations) (id : ElementId) {f : Element → Element}
    (keeps : ∀ e : Element, e.isDefined = true → (f e).isDefined = true) :
    Precedes d (d.modifyElement id f) where
  types := Nat.le_refl _
  elements := Nat.le_of_eq (size_modifyElement d id f).symm
  symbol _ := rfl
  isDefined_type h := h
  isDefined_element h := element_modifyElement_of (P := fun e => e.isDefined = true) h
    fun same => keeps _ (same ▸ h)
  builtin := .inl
  place? h := h
  old found _ := found

theorem precedes_modifyType (d : Declarations) (id : TypeId) {f : TypeDef → TypeDef}
    (symbol : ∀ t, (f t).symbol = t.symbol)
    (keeps : ∀ t : TypeDef, t.isDefined = true → (f t).isDefined = true)
    (builtin : ∀ t : TypeDef, (f t).builtin = t.builtin ∨ (f t).builtin = some Builtin.complexType) :
    Precedes d (d.modifyType id f) where
  types := Nat.le_of_eq (size_modifyType d id f).symm
  elements := Nat.le_refl _
  symbol _ := get_type_modifyType TypeDef.symbol d id _ symbol
  isDefined_type h := type_modifyType_of (P := fun t => t.isDefined = true) h
    fun same => keeps _ (same ▸ h)
  isDefined_element h := h
  builtin {other b} := type_modifyType_of (P := fun t => t.builtin = some b → _) .inl fun same own => by
    obtain kept | complex := builtin (d.type id)
    · rw [kept] at own
      exact .inl (same ▸ own)
    · exact .inr (Option.some.inj (own.symm.trans complex))
  place? h := h
  old found _ := found

theorem precedes_addField (d : Declarations) (type : TypeId) (name : String) (element : ElementId) :
    Precedes d (d.addField type name element) :=
  (Edit.addField type name element).precedes

end XsdRecords.Declaration.Declarations

namespace XsdRecords.Declaration

open XsdRecords.Vocabulary (Builtin)

/-- Whether a symbol is made up. -/
def Symbol.IsMadeUp (s : Symbol) : Prop :=
  ∃ n, s = madeUp n

theorem Symbol.IsMadeUp.namespaceId {s : Symbol} (made : s.IsMadeUp) :
    s.namespaceId = .anonymous := by
  obtain ⟨n, rfl⟩ := made
  rfl

/-- Symbols that stand for each other in two runs: the same ones, or two that are made up. -/
def Symbol.Alike (s s' : Symbol) : Prop :=
  s' = s ∨ s.IsMadeUp ∧ s'.IsMadeUp

/-- A type that nothing is known of. -/
def blankType : TypeDef :=
  { symbol := ⟨.none, ""⟩ }

/-- More types are paired. -/
def Pairing.withType (p : Pairing) (id id' : TypeId) : Pairing :=
  { p with type := fun a b => p.type a b ∨ a = id ∧ b = id' }

/-- More elements are paired. -/
def Pairing.withElement (p : Pairing) (id id' : ElementId) : Pairing :=
  { p with element := fun a b => p.element a b ∨ a = id ∧ b = id' }

theorem Pairing.within_withType (p : Pairing) (id id' : TypeId) : p.Within (p.withType id id') :=
  ⟨.inl, fun pair => pair⟩

theorem Pairing.within_withElement (p : Pairing) (id id' : ElementId) :
    p.Within (p.withElement id id') :=
  ⟨fun pair => pair, .inl⟩

namespace Declarations

/-- The types without their names. -/
def typeArena (d : Declarations) : Arena TypeId TypeDef :=
  ⟨fun id => id.index < d.types.size, fun id => (d.type id).body⟩

def elementArena (d : Declarations) : Arena ElementId Element :=
  ⟨fun id => id.index < d.elements.size, d.element⟩

end Declarations

open Declarations

/-! ## Parts of a document -/

/-- A part of a document that two runs work on: the declarations of the first run before and after
it and in the end, and what the second run has when it comes to it. -/
structure Part where
  target : NamespaceId
  /-- The namespaces that both runs know under the same numbers. -/
  registry : Registry
  start : Declarations
  stop : Declarations
  final : Declarations
  other : Declarations
  before : Pairing
  later : stop.Precedes final
  intact : final.Intact True
  known_target : registry.IsNumber target
  target_ne_anonymous : target ≠ .anonymous

namespace Part

def types (w : Part) : Stretch TypeId TypeDef :=
  ⟨w.start.typeArena, w.stop.typeArena, w.final.typeArena, fun id => ¬(w.final.type id).symbol.IsMadeUp⟩

def elements (w : Part) : Stretch ElementId Element :=
  ⟨w.start.elementArena, w.stop.elementArena, w.final.elementArena,
    fun id => ∃ isAttribute s, w.final.place? ⟨.root isAttribute, s⟩ = some id.index⟩

def typeOrigin (w : Part) : Origin TypeId TypeDef :=
  ⟨w.other.typeArena, w.before.type⟩

def elementOrigin (w : Part) : Origin ElementId Element :=
  ⟨w.other.elementArena, w.before.element⟩

end Part

/-- The names of one run in a document: a top-level element has one name, in the target namespace, and
types that are not built in are made up or in the target namespace. -/
structure Declarations.Homed (target : NamespaceId) (r : Registry) (d : Declarations) : Prop where
  distinct {isAttribute isAttribute' : Bool} {s s' : Symbol} {place : Nat} :
    d.place? ⟨.root isAttribute, s⟩ = some place →
      d.place? ⟨.root isAttribute', s'⟩ = some place → isAttribute' = isAttribute ∧ s' = s
  inTarget {isAttribute : Bool} {s : Symbol} {place : Nat} :
    d.place? ⟨.root isAttribute, s⟩ = some place → s.namespaceId = target
  shared {s : Symbol} {id : TypeId} : d.typeTable.find? s = some id →
    s.namespaceId = .anonymous ∨ r.IsNumber s.namespaceId
  outside {s : Symbol} {id : TypeId} : d.typeTable.find? s = some id →
    s.namespaceId ≠ .anonymous → s.namespaceId ≠ target → initial.typeTable.find? s ≠ none

theorem Declarations.Homed.congr {target : NamespaceId} {r : Registry} {d d' : Declarations}
    (homed : d.Homed target r)
    (roots : ∀ isAttribute s, d'.place? ⟨.root isAttribute, s⟩ = d.place? ⟨.root isAttribute, s⟩)
    (types : d'.typeTable = d.typeTable) : d'.Homed target r where
  distinct := by
    simp only [roots]
    exact homed.distinct
  inTarget := by
    simp only [roots]
    exact homed.inTarget
  shared := by
    rw [types]
    exact homed.shared
  outside := by
    rw [types]
    exact homed.outside

/-- What is known of names in two runs. -/
structure Names (w : Part) (p : Pairing) (d d' : Declarations) : Prop where
  symbol {id id' : TypeId} : p.type id id' → (w.final.type id).symbol.Alike (d'.type id').symbol
  root {id id' : ElementId} {isAttribute : Bool} {s : Symbol} : p.element id id' →
    (w.final.place? ⟨.root isAttribute, s⟩ = some id.index ↔
      d'.place? ⟨.root isAttribute, s⟩ = some id'.index)
  homed : d.Homed w.target w.registry
  builtins {s : Symbol} : initial.typeTable.find? s ≠ none → d'.typeTable.find? s ≠ none

/-- Two runs that work on the same part, with the types and the elements that both hold open. -/
structure Tally (w : Part) (p : Pairing) (ts : List TypeId) (es : List ElementId)
    (d d' : Declarations) : Prop extends Names w p d d' where
  types : Ledger TypeDef.isDefined blankType w.types w.typeOrigin d.typeArena d'.typeArena
    (TypeDef.Matches p) p.type (· ∈ ts)
  elements : Ledger Element.isDefined {} w.elements w.elementOrigin d.elementArena d'.elementArena
    (Element.Matches p) p.element (· ∈ es)
  begun : w.start.Precedes d
  intact : d.Intact True
  intact' : d'.Intact True

/-! ## Types -/

section Types

variable {d : Declarations}

theorem elements_findOrAddType (d : Declarations) (s : Symbol) :
    (d.findOrAddType s).1.elementArena = d.elementArena := by
  unfold findOrAddType
  split <;> rfl

theorem rootPlace?_findOrAddType (d : Declarations) (s t : Symbol) (isAttribute : Bool) :
    (d.findOrAddType s).1.place? ⟨.root isAttribute, t⟩ = d.place? ⟨.root isAttribute, t⟩ :=
  (adds_findOrAddType d s).other _ nofun

theorem has_findOrAddType (intact : d.Intact True) (s : Symbol) (id : TypeId) :
    (d.findOrAddType s).1.typeArena.has id ↔ d.typeArena.has id ∨ id = (d.findOrAddType s).2.1 := by
  unfold findOrAddType
  split
  · rename_i other found
    exact ⟨.inl, fun h => h.elim (fun h => h) fun same => same ▸ (intact.found.1 found).1⟩
  · obtain ⟨index⟩ := id
    simp only [typeArena, Declarations.addType, Array.size_push, TypeId.mk.injEq]
    omega

theorem entry_findOrAddType (d : Declarations) (s : Symbol) (id : TypeId) :
    (d.findOrAddType s).1.typeArena.entry id = d.typeArena.entry id :=
  (sameBut_findOrAddType d s).type List.not_mem_nil

theorem find?_findOrAddType (d : Declarations) (s t : Symbol) :
    (d.findOrAddType s).1.typeTable.find? t =
      if t = s then some (d.findOrAddType s).2.1 else d.typeTable.find? t := by
  unfold findOrAddType
  split
  · rename_i found
    split
    · rename_i same
      rw [same, found]
    · rfl
  · exact d.typeTable.find?_insert s t _

theorem body_of_not_has {id : TypeId} (new : ¬d.typeArena.has id) :
    d.typeArena.entry id = blankType := by
  change (d.type id).body = _
  rw [type_of_size_le (Nat.le_of_not_lt new)]
  rfl

/-- What is made up is added. -/
theorem findOrAddType_anonymousSymbol (intact : d.Intact True) :
    d.anonymousSymbol.1.findOrAddType d.anonymousSymbol.2 =
      ((d.anonymousSymbol.1.addType { symbol := madeUp (d.anonymousCount + 1) }).1,
        ⟨d.types.size⟩, true) := by
  have new : d.anonymousSymbol.1.typeTable.find? d.anonymousSymbol.2 = none :=
    (intact.minted trivial).new
  rw [findOrAddType, new]
  rfl

/-- The type that is made up is the last one, and nothing has defined it. -/
theorem madeUp_new (intact : d.Intact True) :
    (d.anonymousSymbol.1.findOrAddType d.anonymousSymbol.2).2.1 = ⟨d.types.size⟩ ∧
      TypeId.index ⟨d.types.size⟩ <
        (d.anonymousSymbol.1.findOrAddType d.anonymousSymbol.2).1.types.size ∧
      ((d.anonymousSymbol.1.findOrAddType d.anonymousSymbol.2).1.type ⟨d.types.size⟩).isDefined =
        false := by
  have new : (d.anonymousSymbol.1.addType { symbol := madeUp (d.anonymousCount + 1) }).1.type
      ⟨d.types.size⟩ = { symbol := madeUp (d.anonymousCount + 1) } :=
    (type_addType _ _ _).trans (if_pos rfl)
  rw [findOrAddType_anonymousSymbol intact, new]
  exact ⟨rfl, Nat.lt_of_lt_of_eq (Nat.lt_succ_self _) (Array.size_push _).symm, rfl⟩

end Types

namespace Tally

variable {w : Part} {p : Pairing} {ts : List TypeId} {es : List ElementId} {d d' : Declarations}
  (tally : Tally w p ts es d d')

include tally

/-- What both runs find or add under symbols that are alike. -/
theorem findOrAddType {s s' : Symbol} (alike : s.Alike s')
    (ahead : (d.findOrAddType s).1.Precedes w.stop) (intact : (d.findOrAddType s).1.Intact True)
    (intact' : (d'.findOrAddType s').1.Intact True)
    (meets : Meets w.types d'.typeArena p.type (d.findOrAddType s).2.1 (d'.findOrAddType s').2.1)
    (shared : s.namespaceId = .anonymous ∨ w.registry.IsNumber s.namespaceId)
    (outside : s.namespaceId ≠ .anonymous → s.namespaceId ≠ w.target →
      initial.typeTable.find? s ≠ none) :
    Tally w (p.withType (d.findOrAddType s).2.1 (d'.findOrAddType s').2.1) ts es
      (d.findOrAddType s).1 (d'.findOrAddType s').1 where
  types := (tally.types.mono fun same => same.mono (p.within_withType _ _)).meet meets
    (has_findOrAddType tally.intact s) (entry_findOrAddType d s)
    (has_findOrAddType tally.intact' s') (entry_findOrAddType d' s') body_of_not_has rfl
  elements := by
    rw [elements_findOrAddType, elements_findOrAddType]
    exact tally.elements.mono fun same => same.mono (p.within_withType _ _)
  begun := tally.begun.trans (precedes_findOrAddType d s)
  intact := intact
  intact' := intact'
  symbol := by
    rintro id id' (pair | ⟨rfl, rfl⟩)
    · have inside := tally.types.present pair
      rw [(precedes_findOrAddType d' s').symbol inside]
      exact tally.symbol pair
    · have found := (intact.found (s := s)).1 (by rw [find?_findOrAddType, if_pos rfl])
      have found' := (intact'.found (s := s')).1 (by rw [find?_findOrAddType, if_pos rfl])
      rw [(ahead.trans w.later).symbol found.1, found.2, found'.2]
      exact alike
  root pair := by
    rw [rootPlace?_findOrAddType]
    exact tally.root pair
  homed := by
    refine ⟨fun found found' => ?_, fun found => ?_, fun {t id} found => ?_, fun {t id} found => ?_⟩
    · rw [rootPlace?_findOrAddType] at found found'
      exact tally.homed.distinct found found'
    · rw [rootPlace?_findOrAddType] at found
      exact tally.homed.inTarget found
    · rw [find?_findOrAddType] at found
      split at found
      · rename_i same
        rw [same]
        exact shared
      · exact tally.homed.shared found
    · rw [find?_findOrAddType] at found
      split at found
      · rename_i same
        rw [same]
        exact outside
      · exact tally.homed.outside found
  builtins {t} isBuiltin := by
    rw [find?_findOrAddType]
    split
    · exact Option.some_ne_none _
    · exact tally.builtins isBuiltin

/-- Both runs make up a type. -/
theorem mint
    (ahead : (d.anonymousSymbol.1.findOrAddType d.anonymousSymbol.2).1.Precedes w.stop) :
    Tally w (p.withType ⟨d.types.size⟩ ⟨d'.types.size⟩) ts es
      (d.anonymousSymbol.1.findOrAddType d.anonymousSymbol.2).1
      (d'.anonymousSymbol.1.findOrAddType d'.anonymousSymbol.2).1 := by
  have minted : Tally w p ts es d.anonymousSymbol.1 d'.anonymousSymbol.1 :=
    { tally with
      homed := tally.homed.congr (fun _ _ => rfl) rfl
      intact := tally.intact.mint
      intact' := tally.intact'.mint
      begun := tally.begun.trans (precedes_anonymousSymbol d) }
  have added := findOrAddType_anonymousSymbol tally.intact
  have added' := findOrAddType_anonymousSymbol tally.intact'
  have id : (d.anonymousSymbol.1.findOrAddType d.anonymousSymbol.2).2.1 = ⟨d.types.size⟩ := by
    rw [added]
  have id' : (d'.anonymousSymbol.1.findOrAddType d'.anonymousSymbol.2).2.1 = ⟨d'.types.size⟩ := by
    rw [added']
  have intact : (d.anonymousSymbol.1.findOrAddType d.anonymousSymbol.2).1.Intact True :=
    tally.intact.mint.findOrAddType fun _ _ => ⟨_, Nat.le_refl _, rfl⟩
  have intact' : (d'.anonymousSymbol.1.findOrAddType d'.anonymousSymbol.2).1.Intact True :=
    tally.intact'.mint.findOrAddType fun _ _ => ⟨_, Nat.le_refl _, rfl⟩
  have found := (intact.found (s := d.anonymousSymbol.2)).1 (by rw [find?_findOrAddType, if_pos rfl])
  have symbol : (w.final.type ⟨d.types.size⟩).symbol = madeUp (d.anonymousCount + 1) := by
    rw [id] at found
    rw [(ahead.trans w.later).symbol found.1, found.2]
    rfl
  rw [← id, ← id']
  refine minted.findOrAddType (.inr ⟨⟨_, rfl⟩, ⟨_, rfl⟩⟩) ahead intact intact' ?_ (.inl rfl)
    fun named => absurd rfl named
  rw [id] at found
  rw [id, id']
  refine ⟨Nat.lt_of_lt_of_le found.1 (ahead.trans w.later).types, fun {id'} pair => ?_,
    fun pair => absurd (tally.types.present pair) (Nat.lt_irrefl _),
    .inr (Nat.not_lt.2 tally.begun.types)⟩
  -- A pair of what is made up in this part was met in it, where it was new.
  have early := tally.types.unnamed pair (fun named => named ⟨_, symbol⟩)
    (Nat.lt_of_lt_of_le found.1 ahead.types)
  exact absurd early (Nat.lt_irrefl _)

/-- Both runs find or add a type under its name. -/
theorem findNamed {s : Symbol} (named : s.namespaceId ≠ .anonymous)
    (allowed : (d.findOrAddType s).2.2 = true → s.namespaceId = w.target)
    (ahead : (d.findOrAddType s).1.Precedes w.stop) :
    Tally w (p.withType (d.findOrAddType s).2.1 (d'.findOrAddType s).2.1) ts es
        (d.findOrAddType s).1 (d'.findOrAddType s).1 ∧
      ((d'.findOrAddType s).2.2 = true → s.namespaceId = w.target) := by
  have notMade : ¬s.IsMadeUp := fun made => named made.namespaceId
  have intact : (d.findOrAddType s).1.Intact True :=
    tally.intact.findOrAddType fun _ made => absurd made named
  have intact' : (d'.findOrAddType s).1.Intact True :=
    tally.intact'.findOrAddType fun _ made => absurd made named
  have found := (intact.found (s := s)).1 (by rw [find?_findOrAddType, if_pos rfl])
  have found' := (intact'.found (s := s)).1 (by rw [find?_findOrAddType, if_pos rfl])
  have later := ahead.trans w.later
  have symbol : (w.final.type (d.findOrAddType s).2.1).symbol = s :=
    (later.symbol found.1).trans found.2
  have known (isNew : (d.findOrAddType s).2.2 = false) :
      d.typeTable.find? s = some (d.findOrAddType s).2.1 := by
    unfold Declarations.findOrAddType at isNew ⊢
    split
    · assumption
    · rename_i new
      rw [new] at isNew
      cases isNew
  have builtin (other : s.namespaceId ≠ w.target) : initial.typeTable.find? s ≠ none :=
    tally.homed.outside (known (Bool.eq_false_iff.2 fun isNew => other (allowed isNew))) named other
  refine ⟨tally.findOrAddType (.inl rfl) ahead intact intact' ⟨?_, ?_, ?_, ?_⟩ ?_ fun _ => builtin,
    ?_⟩
  · exact Nat.lt_of_lt_of_le found.1 later.types
  · intro y' pair
    have own : (d'.type y').symbol = s := by
      obtain same | made := tally.symbol pair
      · exact same.trans symbol
      · exact absurd (symbol ▸ made.1) notMade
    have here := tally.intact'.found.2 ⟨tally.types.present pair, own⟩
    rw [Declarations.findOrAddType, here]
  · intro y pair
    have inside := tally.types.present pair
    have own : (d'.type (d'.findOrAddType s).2.1).symbol = s :=
      ((precedes_findOrAddType d' s).symbol inside).symm.trans found'.2
    refine w.intact.index_eq (tally.types.final pair) (Nat.lt_of_lt_of_le found.1 later.types) ?_
    obtain same | made := tally.symbol pair
    · exact same.symm.trans (own.trans symbol.symm)
    · exact absurd (own ▸ made.2) notMade
  · exact .inl fun made => notMade (symbol ▸ made)
  · cases isNew : (d.findOrAddType s).2.2 with
    | true =>
      rw [allowed isNew]
      exact .inr w.known_target
    | false => exact tally.homed.shared (known isNew)
  · intro isNew'
    by_contra other
    obtain ⟨id', here⟩ := Option.ne_none_iff_exists'.1 (tally.builtins (builtin other))
    rw [Declarations.findOrAddType, here] at isNew'
    cases isNew'

end Tally

/-! ## Elements -/

/-- The top-level element or attribute of a symbol, which is added if there is none. -/
def Declarations.findOrAddRootOf (d : Declarations) (isAttribute : Bool) (s : Symbol) :
    Declarations × ElementId :=
  if isAttribute then d.findOrAddRootAttribute s else d.findOrAddRoot s

section Elements

variable {d : Declarations}

theorem typeArena_findOrAddRootOf (d : Declarations) (isAttribute : Bool) (s : Symbol) :
    (d.findOrAddRootOf isAttribute s).1.typeArena = d.typeArena := by
  unfold findOrAddRootOf findOrAddRootAttribute findOrAddRoot
  split <;> split <;> rfl

theorem type_findOrAddRootOf (d : Declarations) (isAttribute : Bool) (s : Symbol) (id : TypeId) :
    (d.findOrAddRootOf isAttribute s).1.type id = d.type id := by
  unfold findOrAddRootOf findOrAddRootAttribute findOrAddRoot
  split <;> split <;> rfl

theorem typeTable_findOrAddRootOf (d : Declarations) (isAttribute : Bool) (s : Symbol) :
    (d.findOrAddRootOf isAttribute s).1.typeTable = d.typeTable := by
  unfold findOrAddRootOf findOrAddRootAttribute findOrAddRoot
  split <;> split <;> rfl

theorem entry_findOrAddRootOf (d : Declarations) (isAttribute : Bool) (s : Symbol) (id : ElementId) :
    (d.findOrAddRootOf isAttribute s).1.elementArena.entry id = d.elementArena.entry id := by
  unfold findOrAddRootOf
  split
  · exact (sameBut_findOrAddRootAttribute d s).element List.not_mem_nil
  · exact (sameBut_findOrAddRoot d s).element List.not_mem_nil

theorem precedes_findOrAddRootOf (d : Declarations) (isAttribute : Bool) (s : Symbol) :
    d.Precedes (d.findOrAddRootOf isAttribute s).1 := by
  unfold findOrAddRootOf
  split
  · exact precedes_findOrAddRootAttribute d s
  · exact precedes_findOrAddRoot d s

theorem intact_findOrAddRootOf (intact : d.Intact True) (isAttribute : Bool) (s : Symbol) :
    (d.findOrAddRootOf isAttribute s).1.Intact True := by
  unfold findOrAddRootOf
  split
  · exact intact.findOrAddRootAttribute s
  · exact intact.findOrAddRoot s

theorem adds_findOrAddRootOf (d : Declarations) (isAttribute : Bool) (s : Symbol) :
    Adds d (d.findOrAddRootOf isAttribute s).1 ⟨.root isAttribute, s⟩
      (d.findOrAddRootOf isAttribute s).2.index := by
  cases isAttribute with
  | true => exact adds_findOrAddRootAttribute d s
  | false => exact adds_findOrAddRoot d s

/-- What a top-level name stands for is there. -/
theorem lt_size_of_root (intact : d.Intact True) {isAttribute : Bool} {s : Symbol} {place : Nat}
    (found : d.place? ⟨.root isAttribute, s⟩ = some place) : place < d.elements.size := by
  cases isAttribute with
  | true =>
    obtain ⟨id, here, rfl⟩ := Option.map_eq_some_iff.1 found
    exact intact.rootAttributes here
  | false =>
    obtain ⟨id, here, rfl⟩ := Option.map_eq_some_iff.1 found
    exact intact.roots here

/-- A top-level element is found, or it is the one that is added. -/
theorem findOrAddRootOf_cases (d : Declarations) (isAttribute : Bool) (s : Symbol) :
    d.findOrAddRootOf isAttribute s = (d, (d.findOrAddRootOf isAttribute s).2) ∧
        d.place? ⟨.root isAttribute, s⟩ = some (d.findOrAddRootOf isAttribute s).2.index ∨
      (d.findOrAddRootOf isAttribute s).1.elements = d.elements.push {} ∧
        (d.findOrAddRootOf isAttribute s).2 = ⟨d.elements.size⟩ ∧
        d.place? ⟨.root isAttribute, s⟩ = none := by
  cases isAttribute with
  | true =>
    cases found : d.rootAttributes.find? s with
    | some id =>
      refine .inl ?_
      simp [findOrAddRootOf, findOrAddRootAttribute, Declarations.place?, found]
    | none =>
      refine .inr ?_
      simp [findOrAddRootOf, findOrAddRootAttribute, Declarations.place?, found,
        Declarations.addElement]
  | false =>
    cases found : d.roots.find? s with
    | some id =>
      refine .inl ?_
      simp [findOrAddRootOf, findOrAddRoot, Declarations.place?, found]
    | none =>
      refine .inr ?_
      simp [findOrAddRootOf, findOrAddRoot, Declarations.place?, found, Declarations.addElement]

theorem has_push {n : Declarations} (pushed : n.elements = d.elements.push {}) (id : ElementId) :
    n.elementArena.has id ↔ d.elementArena.has id ∨ id = ⟨d.elements.size⟩ := by
  obtain ⟨index⟩ := id
  simp only [elementArena, pushed, Array.size_push, ElementId.mk.injEq]
  omega

theorem has_findOrAddRootOf (intact : d.Intact True) (isAttribute : Bool) (s : Symbol)
    (id : ElementId) :
    (d.findOrAddRootOf isAttribute s).1.elementArena.has id ↔
      d.elementArena.has id ∨ id = (d.findOrAddRootOf isAttribute s).2 := by
  obtain ⟨same, found⟩ | ⟨pushed, new, -⟩ := findOrAddRootOf_cases d isAttribute s
  · have inside := lt_size_of_root intact found
    rw [same]
    exact ⟨.inl, fun h => h.elim (fun h => h) fun own => own ▸ inside⟩
  · rw [new]
    exact has_push pushed id

theorem element_of_not_has {id : ElementId} (new : ¬d.elementArena.has id) :
    d.elementArena.entry id = {} :=
  element_of_size_le (Nat.le_of_not_lt new)

/-- A top-level name stands for what was found or added under it, or for what it stood for. -/
theorem place?_findOrAddRootOf {isAttribute isAttribute' : Bool} {s t : Symbol} {place : Nat}
    (found : (d.findOrAddRootOf isAttribute s).1.place? ⟨.root isAttribute', t⟩ = some place) :
    (⟨.root isAttribute', t⟩ : Reference) = ⟨.root isAttribute, s⟩ ∧
        place = (d.findOrAddRootOf isAttribute s).2.index ∨
      d.place? ⟨.root isAttribute', t⟩ = some place := by
  have adds := adds_findOrAddRootOf d isAttribute s
  by_cases same : (⟨.root isAttribute', t⟩ : Reference) = ⟨.root isAttribute, s⟩
  · rw [same, adds.own] at found
    exact .inl ⟨same, (Option.some.inj found).symm⟩
  · exact .inr ((adds.other _ same).symm.trans found)

theorem Declarations.Homed.findOrAddRootOf {target : NamespaceId} {r : Registry}
    (homed : d.Homed target r) (intact : d.Intact True) (isAttribute : Bool) {s : Symbol}
    (inTarget : s.namespaceId = target) : (d.findOrAddRootOf isAttribute s).1.Homed target r where
  distinct found found' := by
    obtain ⟨same, -⟩ | ⟨-, new, -⟩ := findOrAddRootOf_cases d isAttribute s
    · rw [same] at found found'
      exact homed.distinct found found'
    · have fresh {b : Bool} {t : Symbol} :
          d.place? ⟨.root b, t⟩ ≠ some (d.findOrAddRootOf isAttribute s).2.index := by
        rw [new]
        exact fun old => Nat.lt_irrefl _ (lt_size_of_root intact old)
      obtain ⟨same, rfl⟩ | old := place?_findOrAddRootOf found
      · obtain ⟨same', -⟩ | old' := place?_findOrAddRootOf found'
        · cases same.trans same'.symm
          exact ⟨rfl, rfl⟩
        · exact absurd old' fresh
      · obtain ⟨-, rfl⟩ | old' := place?_findOrAddRootOf found'
        · exact absurd old fresh
        · exact homed.distinct old old'
  inTarget found := by
    obtain ⟨same, -⟩ | old := place?_findOrAddRootOf found
    · obtain ⟨-, rfl⟩ := Reference.mk.inj same
      exact inTarget
    · exact homed.inTarget old
  shared found := by
    rw [typeTable_findOrAddRootOf] at found
    exact homed.shared found
  outside found := by
    rw [typeTable_findOrAddRootOf] at found
    exact homed.outside found

theorem Part.place?_final (w : Part) {isAttribute : Bool} {s : Symbol}
    (ahead : (d.findOrAddRootOf isAttribute s).1.Precedes w.stop) :
    w.final.place? ⟨.root isAttribute, s⟩ = some (d.findOrAddRootOf isAttribute s).2.index :=
  (ahead.trans w.later).place? (adds_findOrAddRootOf d isAttribute s).own

end Elements

namespace Tally

variable {w : Part} {p : Pairing} {ts : List TypeId} {es : List ElementId} {d d' : Declarations}
  (tally : Tally w p ts es d d')

include tally

/-- Both runs add an element that has no name. -/
theorem addElement (ahead : d.addElement.1.Precedes w.stop) :
    Tally w (p.withElement ⟨d.elements.size⟩ ⟨d'.elements.size⟩) ts es d.addElement.1
      d'.addElement.1 := by
  have inside : d.elements.size < d.addElement.1.elements.size := by simp [Declarations.addElement]
  have later := ahead.trans w.later
  have unnamed {isAttribute : Bool} {s : Symbol} :
      w.final.place? ⟨.root isAttribute, s⟩ ≠ some d.elements.size := fun found =>
    Nat.lt_irrefl _ (lt_size_of_root tally.intact (later.old found inside))
  refine { tally with
    homed := tally.homed.congr (fun _ _ => rfl) rfl
    types := ?types
    elements := ?elements
    root := ?root
    begun := ?begun
    intact := tally.intact.addElement
    intact' := tally.intact'.addElement }
  case types => exact tally.types.mono fun same => same.mono (p.within_withElement _ _)
  case elements =>
    refine (tally.elements.mono fun same => same.mono (p.within_withElement _ _)).meet
      ⟨Nat.lt_of_lt_of_le inside later.elements, fun pair => ?_,
        fun pair => absurd (tally.elements.present pair) (Nat.lt_irrefl _),
        .inr (Nat.not_lt.2 tally.begun.elements)⟩
      (has_push rfl) (fun _ => (sameBut_addElement d).element List.not_mem_nil)
      (has_push rfl) (fun _ => (sameBut_addElement d').element List.not_mem_nil)
      element_of_not_has rfl
    have nameless : ¬w.elements.IsNamed ⟨d.elements.size⟩ := by
      rintro ⟨_, _, found⟩
      exact unnamed found
    exact absurd (tally.elements.unnamed pair nameless (Nat.lt_of_lt_of_le inside ahead.elements))
      (Nat.lt_irrefl _)
  case root =>
    rintro id id' isAttribute s (pair | ⟨rfl, rfl⟩)
    · exact tally.root pair
    · refine iff_of_false unnamed fun found => ?_
      exact Nat.lt_irrefl _ (lt_size_of_root tally.intact' found)
  case begun => exact tally.begun.trans (precedes_addElement d)

section Roots

variable {isAttribute : Bool} {s : Symbol}
  (ahead : (d.findOrAddRootOf isAttribute s).1.Precedes w.stop)

include ahead

theorem meets_findRoot : Meets w.elements d'.elementArena p.element
    (d.findOrAddRootOf isAttribute s).2 (d'.findOrAddRootOf isAttribute s).2 where
  final := Nat.lt_of_lt_of_le
    (lt_size_of_root (intact_findOrAddRootOf tally.intact isAttribute s)
      (adds_findOrAddRootOf d isAttribute s).own) (ahead.trans w.later).elements
  unique pair := by
    have known := (tally.root pair).1 (w.place?_final ahead)
    exact elementId_index_injective ((adds_findOrAddRootOf d' isAttribute s).old known).symm
  injective pair := by
    obtain ⟨-, found⟩ | ⟨-, new, -⟩ := findOrAddRootOf_cases d' isAttribute s
    · have place := (tally.root pair).2 found
      exact elementId_index_injective
        (Option.some.inj (place.symm.trans (w.place?_final ahead)))
    · have present := tally.elements.present pair
      rw [new] at present
      exact absurd present (Nat.lt_irrefl _)
  fresh := .inl ⟨isAttribute, s, w.place?_final ahead⟩

/-- The name under which both runs look is that of what they find, and of nothing else. -/
theorem root_findRoot (inTarget : s.namespaceId = w.target) {id id' : ElementId} {b : Bool}
    {t : Symbol}
    (pair : (p.withElement (d.findOrAddRootOf isAttribute s).2
      (d'.findOrAddRootOf isAttribute s).2).element id id') :
    w.final.place? ⟨.root b, t⟩ = some id.index ↔
      (d'.findOrAddRootOf isAttribute s).1.place? ⟨.root b, t⟩ = some id'.index := by
  have adds := adds_findOrAddRootOf d isAttribute s
  have adds' := adds_findOrAddRootOf d' isAttribute s
  have later := ahead.trans w.later
  have inside := lt_size_of_root (intact_findOrAddRootOf tally.intact isAttribute s) adds.own
  have homed := tally.homed.findOrAddRootOf tally.intact isAttribute inTarget
  have meets := tally.meets_findRoot ahead
  by_cases same : (⟨.root b, t⟩ : Reference) = ⟨.root isAttribute, s⟩
  · rw [same, w.place?_final ahead, adds'.own]
    obtain pair | ⟨rfl, rfl⟩ := pair
    · refine ⟨fun own => ?_, fun own => ?_⟩
      · rw [← elementId_index_injective (Option.some.inj own)] at pair
        rw [meets.unique pair]
      · rw [← elementId_index_injective (Option.some.inj own)] at pair
        rw [meets.injective pair]
    · exact iff_of_true rfl rfl
  · rw [adds'.other _ same]
    obtain pair | ⟨rfl, rfl⟩ := pair
    · exact tally.root pair
    · refine iff_of_false (fun found => same ?_) fun found => same ?_
      · obtain ⟨rfl, rfl⟩ := homed.distinct adds.own (later.old found inside)
        rfl
      · obtain ⟨y, pair⟩ := tally.elements.covers' (lt_size_of_root tally.intact' found)
        obtain rfl := meets.injective pair
        obtain ⟨rfl, rfl⟩ := homed.distinct adds.own
          (later.old ((tally.root pair).2 found) inside)
        rfl

/-- Both runs find or add a top-level element or attribute. -/
theorem findRoot (inTarget : s.namespaceId = w.target) :
    Tally w (p.withElement (d.findOrAddRootOf isAttribute s).2 (d'.findOrAddRootOf isAttribute s).2)
      ts es (d.findOrAddRootOf isAttribute s).1 (d'.findOrAddRootOf isAttribute s).1 where
  types := by
    rw [typeArena_findOrAddRootOf, typeArena_findOrAddRootOf]
    exact tally.types.mono fun same => same.mono (p.within_withElement _ _)
  elements :=
    (tally.elements.mono fun same => same.mono (p.within_withElement _ _)).meet
      (tally.meets_findRoot ahead)
      (has_findOrAddRootOf tally.intact isAttribute s) (entry_findOrAddRootOf d isAttribute s)
      (has_findOrAddRootOf tally.intact' isAttribute s) (entry_findOrAddRootOf d' isAttribute s)
      element_of_not_has rfl
  begun := tally.begun.trans (precedes_findOrAddRootOf d isAttribute s)
  intact := intact_findOrAddRootOf tally.intact isAttribute s
  intact' := intact_findOrAddRootOf tally.intact' isAttribute s
  symbol pair := by
    rw [type_findOrAddRootOf]
    exact tally.symbol pair
  root := tally.root_findRoot ahead inTarget
  homed := tally.homed.findOrAddRootOf tally.intact isAttribute inTarget
  builtins isBuiltin := by
    rw [typeTable_findOrAddRootOf]
    exact tally.builtins isBuiltin

end Roots

end Tally

end XsdRecords.Declaration
