import XsdRecords.Proofs.Declaration.Tally
import XsdRecords.Proofs.Declaration.Valued

/-! # What two runs do to their declarations, and find in them

What two runs hold open they change alike, and a `Tally` stays one.

Reading looks at declarations that are not complete: whether a name was defined before, which
built-in type a type derives from, whether a type would become its own ancestor.  Two runs that work
on the same part of a document find the same, as long as all bases they look at are known. -/

namespace XsdRecords.Declaration

open Declarations
open XsdRecords.Vocabulary (Builtin)

/-! ## What is held open -/

/-- A change that neither renames a type nor undoes its definition, nor makes it a built-in type. -/
structure TypeDef.Develops (f : TypeDef → TypeDef) : Prop where
  symbol (t : TypeDef) : (f t).symbol = t.symbol
  isDefined (t : TypeDef) : t.isDefined = true → (f t).isDefined = true
  builtin (t : TypeDef) : (f t).builtin = t.builtin ∨ (f t).builtin = some Builtin.complexType

namespace Tally

variable {w : Part} {p : Pairing} {ts : List TypeId} {es : List ElementId} {d d' : Declarations}
  (tally : Tally w p ts es d d')

include tally

/-- Both runs open a type that this part defines. -/
theorem holdType {id id' : TypeId} (pair : p.type id id') (inside : id.index < d.types.size)
    (undefined : (d.type id).isDefined = false) (defined : (w.stop.type id).isDefined = true) :
    Tally w p (id :: ts) es d d' := by
  have held : (· ∈ id :: ts) = fun other => other ∈ ts ∨ other = id := by
    funext other
    rw [List.mem_cons, or_comm]
  refine { tally with types := ?_ }
  rw [held]
  exact tally.types.hold pair inside undefined
    ⟨tally.begun.isDefined_type_eq_false undefined, defined⟩ (TypeDef.matches_blank p _ _)

/-- Both runs open an element that this part defines. -/
theorem holdElement {id id' : ElementId} (pair : p.element id id')
    (inside : id.index < d.elements.size) (undefined : (d.element id).isDefined = false)
    (defined : (w.stop.element id).isDefined = true) : Tally w p ts (id :: es) d d' := by
  have held : (· ∈ id :: es) = fun other => other ∈ es ∨ other = id := by
    funext other
    rw [List.mem_cons, or_comm]
  refine { tally with elements := ?_ }
  rw [held]
  exact tally.elements.hold pair inside undefined
    ⟨tally.begun.isDefined_element_eq_false undefined, defined⟩ (Element.matches_blank p)

/-- What is held open is the same in both runs. -/
theorem matches_type {id id' : TypeId} (held : id ∈ ts) (pair : p.type id id') :
    (d.type id).Matches p (d'.type id') := by
  obtain ⟨-, other, pair', same⟩ := tally.types.held held
  rw [tally.types.unique pair pair']
  exact TypeDef.matches_body_iff.1 same

theorem matches_element {id id' : ElementId} (held : id ∈ es) (pair : p.element id id') :
    (d.element id).Matches p (d'.element id') := by
  obtain ⟨-, other, pair', same⟩ := tally.elements.held held
  rw [tally.elements.unique pair pair']
  exact same

/-- Both runs change a type that they hold open. -/
theorem modifyType {id id' : TypeId} (f f' : TypeDef → TypeDef) (held : id ∈ ts)
    (pair : p.type id id') (develops : TypeDef.Develops f) (develops' : TypeDef.Develops f')
    (within : ∀ t : TypeDef, t.Within d.types.size d.elements.size →
      (f t).Within d.types.size d.elements.size)
    (within' : ∀ t : TypeDef, t.Within d'.types.size d'.elements.size →
      (f' t).Within d'.types.size d'.elements.size)
    (same : ∀ t t' : TypeDef, t.Matches p t' → (f t).Matches p (f' t')) :
    Tally w p ts es (d.modifyType id f) (d'.modifyType id' f') := by
  have inside : id.index < d.types.size := (tally.types.held held).1
  have inside' : id'.index < d'.types.size := tally.types.present pair
  have changed := same _ _ (tally.matches_type held pair)
  rw [← type_modifyType inside f, ← type_modifyType inside' f'] at changed
  have has {d : Declarations} (id : TypeId) (f : TypeDef → TypeDef) :
      (d.modifyType id f).typeArena.has = d.typeArena.has := by
    funext other
    simp [typeArena]
  have entry {d : Declarations} {id other : TypeId} (f : TypeDef → TypeDef) (ne : other ≠ id) :
      (d.modifyType id f).typeArena.entry other = d.typeArena.entry other := by
    change ((d.modifyType id f).type other).body = _
    rw [type_modifyType_of_ne ne.symm]
    rfl
  exact { tally with
    homed := tally.homed.congr (fun _ _ => rfl) rfl
    types := tally.types.change held pair (has id f) (fun _ => entry f) (has id' f')
      (fun _ => entry f') (TypeDef.matches_body_iff.2 changed) changed.isDefined
    begun := tally.begun.trans
      (precedes_modifyType d id develops.symbol develops.isDefined develops.builtin)
    intact := tally.intact.modifyType id develops.symbol within
    intact' := tally.intact'.modifyType id' develops'.symbol within'
    symbol := fun {other other'} pair => by
      rw [get_type_modifyType TypeDef.symbol d' id' other' develops'.symbol]
      exact tally.symbol pair }

/-- Both runs change an element that they hold open. -/
theorem modifyElement {id id' : ElementId} (f f' : Element → Element) (held : id ∈ es)
    (pair : p.element id id')
    (isDefined : ∀ e : Element, e.isDefined = true → (f e).isDefined = true)
    (within : ∀ e : Element, e.Within d.types.size d.elements.size →
      (f e).Within d.types.size d.elements.size)
    (within' : ∀ e : Element, e.Within d'.types.size d'.elements.size →
      (f' e).Within d'.types.size d'.elements.size)
    (same : ∀ e e' : Element, e.Matches p e' → (f e).Matches p (f' e')) :
    Tally w p ts es (d.modifyElement id f) (d'.modifyElement id' f') := by
  have inside : id.index < d.elements.size := (tally.elements.held held).1
  have inside' : id'.index < d'.elements.size := tally.elements.present pair
  have changed := same _ _ (tally.matches_element held pair)
  rw [← element_modifyElement inside f, ← element_modifyElement inside' f'] at changed
  have has {d : Declarations} (id : ElementId) (f : Element → Element) :
      (d.modifyElement id f).elementArena.has = d.elementArena.has := by
    funext other
    simp [elementArena]
  have entry {d : Declarations} {id other : ElementId} (f : Element → Element) (ne : other ≠ id) :
      (d.modifyElement id f).elementArena.entry other = d.elementArena.entry other :=
    element_modifyElement_of_ne ne.symm f
  exact { tally with
    homed := tally.homed.congr (fun _ _ => rfl) rfl
    elements := tally.elements.change held pair (has id f) (fun _ => entry f) (has id' f')
      (fun _ => entry f') changed changed.isDefined
    begun := tally.begun.trans (precedes_modifyElement d id isDefined)
    intact := tally.intact.modifyElement id within
    intact' := tally.intact'.modifyElement id' within' }

/-- Both runs give a type to an element that they hold open. -/
theorem giveType {id id' : ElementId} {type type' : TypeId} (f f' : Element → Element)
    (held : id ∈ es) (pair : p.element id id') (types : p.type type type')
    (inside : type.index < d.types.size) (directType : ∀ e, (f e).directType = some type)
    (directType' : ∀ e, (f' e).directType = some type')
    (reference : ∀ e, (f e).reference = e.reference)
    (reference' : ∀ e, (f' e).reference = e.reference)
    (plain : ∀ e e' : Element, e'.plain = e.plain → (f' e').plain = (f e).plain) :
    Tally w p ts es (d.modifyElement id f) (d'.modifyElement id' f') := by
  refine tally.modifyElement f f' held pair (fun e _ => ?_) (fun e bound => ⟨fun own => ?_,
    fun own => ?_⟩) (fun e bound => ⟨fun own => ?_, fun own => ?_⟩) fun e e' same => ⟨?_, ?_, ?_⟩
  · rw [Element.isDefined, directType]
    rfl
  · rw [directType] at own
    exact Option.some.inj own ▸ inside
  · rw [reference] at own
    exact bound.reference own
  · rw [directType'] at own
    exact Option.some.inj own ▸ tally.types.present types
  · rw [reference'] at own
    exact bound.reference own
  · rw [directType, directType']
    exact .some types
  · rw [reference, reference']
    exact same.reference
  · exact plain e e' same.plain

/-- Both runs add a field to a type that they hold open. -/
theorem addField {parent parent' : TypeId} {id id' : ElementId} (held : parent ∈ ts)
    (types : p.type parent parent') (pair : p.element id id') (inside : id.index < d.elements.size)
    (name : String) : Tally w p ts es (d.addField parent name id) (d'.addField parent' name id') := by
  have develops (id : ElementId) : TypeDef.Develops fun t =>
      { t with fields := t.fields ++ [(name, id)], builtin := some Builtin.complexType } :=
    ⟨fun _ => rfl, fun _ _ => rfl, fun _ => .inr rfl⟩
  refine tally.modifyType _ _ held types (develops id) (develops id')
    (fun t bound => ⟨bound.base, fun member => ?_⟩) (fun t bound => ⟨bound.base, fun member => ?_⟩)
    fun t t' same => ⟨same.base, List.rel_append same.fields (.cons ⟨rfl, pair⟩ .nil),
      congrArg (fun u : TypeDef => { u with builtin := some Builtin.complexType }) same.plain⟩
  · obtain old | new := List.mem_append.1 member
    · exact bound.field old
    · rw [List.mem_singleton.1 new]
      exact inside
  · obtain old | new := List.mem_append.1 member
    · exact bound.field old
    · rw [List.mem_singleton.1 new]
      exact tally.elements.present pair

/-- Both runs close what is not changed any more. -/
theorem release {ts' : List TypeId} {es' : List ElementId} (types : ts' ⊆ ts) (elements : es' ⊆ es)
    (closesType : ∀ id ∈ ts, id ∉ ts' →
      (d.type id).isDefined = true ∧ (w.final.type id).body = (d.type id).body)
    (closesElement : ∀ id ∈ es, id ∉ es' →
      (d.element id).isDefined = true ∧ w.final.element id = d.element id) :
    Tally w p ts' es' d d' :=
  { tally with
    types := tally.types.release (fun member => types member) (fun same => same.isDefined)
      fun {id} member => closesType id member
    elements := tally.elements.release (fun member => elements member) (fun same => same.isDefined)
      fun {id} member => closesElement id member }

end Tally

/-! ## What is found -/

/-- What is not defined has no built-in type without values. -/
theorem isVoid_of_isDefined_eq_false {t : TypeDef} (undefined : t.isDefined = false) :
    t.isVoid = false := by
  have none : t.builtin = none := by
    rw [TypeDef.isDefined, Bool.or_eq_false_iff] at undefined
    exact Option.not_isSome_iff_eq_none.1 (by rw [undefined.1]; exact Bool.false_ne_true)
  rw [TypeDef.isVoid, none]
  rfl

theorem Declarations.Precedes.isVoid {d d' : Declarations} (precedes : d.Precedes d') {id : TypeId}
    (valued : (d.type id).isVoid = false) : (d'.type id).isVoid = false := by
  rw [isVoid_eq_false_iff] at valued ⊢
  intro b own
  obtain own | rfl := precedes.builtin own
  · exact valued b own
  · decide

/-- A type and all its bases are defined. -/
def Declarations.IsComplete (d : Declarations) (id : TypeId) : Prop :=
  ∀ steps t, d.ancestor id steps = some t → (d.type t).isDefined = true

/-- What is complete stays so while bases are kept. -/
theorem Declarations.IsComplete.mono {d d' : Declarations} {id : TypeId} (complete : d.IsComplete id)
    (precedes : d.Precedes d') (bases : ∀ t, (d'.type t).base = (d.type t).base) :
    d'.IsComplete id := by
  intro steps t reached
  rw [ancestor_congr fun _ _ t _ => bases t] at reached
  exact precedes.isDefined_type (complete steps t reached)

theorem Declarations.isComplete_iff {d : Declarations} {id : TypeId} : d.IsComplete id ↔
    ∀ t ∈ d.baseChainWithin (d.types.size + 1) id, (d.type t).isDefined = true := by
  simp only [mem_baseChainWithin_iff]
  refine ⟨fun complete t ⟨steps, _, reached⟩ => complete steps t reached,
    fun known steps t reached => ?_⟩
  cases steps with
  | zero => exact known t ⟨0, Nat.succ_pos _, reached⟩
  | succ steps =>
    obtain ⟨u, here, link⟩ := Option.bind_eq_some_iff.1 reached
    obtain ⟨fewer, less, again⟩ :=
      mem_baseChainWithin_iff.1 ((mem_baseChain_iff (lt_size_of_base link)).2 ⟨steps, here⟩)
    refine known t ⟨fewer + 1, Nat.succ_lt_succ less, ?_⟩
    rw [ancestor, again]
    exact link

instance (d : Declarations) (id : TypeId) : Decidable (d.IsComplete id) :=
  decidable_of_iff _ d.isComplete_iff.symm

namespace Tally

variable {w : Part} {p : Pairing} {ts : List TypeId} {es : List ElementId} {d d' : Declarations}
  (tally : Tally w p ts es d d') {id id' : TypeId}

include tally

/-- What both runs have defined matches. -/
theorem matches_of_isDefined (pair : p.type id id') (first : (d.type id).isDefined = true)
    (second : (d'.type id').isDefined = true) : (d.type id).Matches p (d'.type id') :=
  TypeDef.matches_body_iff.1 (tally.types.same pair first second)

/-- A type that this part defines is not defined in the second run before it is in the first. -/
theorem undefined_type (pair : p.type id id') (undefined : (d.type id).isDefined = false)
    (defined : (w.stop.type id).isDefined = true) : (d'.type id').isDefined = false := by
  by_cases held : id ∈ ts
  · rw [(tally.matches_type held pair).isDefined, undefined]
  · refine Bool.eq_false_iff.2 fun defined' => ?_
    have already : (d.type id).isDefined = true := tally.types.awaits pair held defined'
      ⟨tally.begun.isDefined_type_eq_false undefined, defined⟩
    rw [undefined] at already
    cases already

theorem undefined_element {id id' : ElementId} (pair : p.element id id')
    (undefined : (d.element id).isDefined = false) (defined : (w.stop.element id).isDefined = true) :
    (d'.element id').isDefined = false := by
  by_cases held : id ∈ es
  · rw [(tally.matches_element held pair).isDefined, undefined]
  · refine Bool.eq_false_iff.2 fun defined' => ?_
    have already : (d.element id).isDefined = true := tally.elements.awaits pair held defined'
      ⟨tally.begun.isDefined_element_eq_false undefined, defined⟩
    rw [undefined] at already
    cases already

/-- A type that has values in the first run has some in the second. -/
theorem isVoid (ahead : d.Precedes w.stop) (pair : p.type id id')
    (valued : (d.type id).isVoid = false) : (d'.type id').isVoid = false := by
  have read {t t' : TypeDef} (same : t.Matches p t') : t'.isVoid = t.isVoid := by
    rw [TypeDef.isVoid, TypeDef.isVoid, same.builtin]
  by_cases held : id ∈ ts
  · rw [read (tally.matches_type held pair), valued]
  · cases defined : (d'.type id').isDefined with
    | true =>
      have final := TypeDef.matches_body_iff.1 (tally.types.closed pair held defined)
      rw [read final]
      exact (ahead.trans w.later).isVoid valued
    | false => exact isVoid_of_isDefined_eq_false defined

/-- A built-in type that both runs know is the same in both. -/
theorem builtin (pair : p.type id id') (known : d.builtin id ≠ none)
    (known' : d'.builtin id' ≠ none) : d'.builtin id' = d.builtin id :=
  builtin_eq_of_known (fun pair => tally.matches_of_isDefined pair) pair known known'

/-- Types whose bases are all defined in both runs are alike. -/
theorem alike (pair : p.type id id') (complete : d.IsComplete id) (complete' : d'.IsComplete id') :
    Alike p d d' id id' :=
  alike_of_isDefined (fun pair => tally.matches_of_isDefined pair) pair complete complete'

/-- Bases in the second run are bases that the first run has in the end. -/
theorem ancestor (keeps : ∀ id ∈ ts, ∀ base, (d.type id).base = some base →
      (w.final.type id).base = some base) (pair : p.type id id') {steps : Nat} {t' : TypeId}
    (reached : d'.ancestor id' steps = some t') :
    ∃ t, w.final.ancestor id steps = some t ∧ p.type t t' := by
  induction steps generalizing t' with
  | zero =>
    obtain rfl := Option.some.inj reached
    exact ⟨id, rfl, pair⟩
  | succ steps ih =>
    obtain ⟨mid', here', link'⟩ := Option.bind_eq_some_iff.1 reached
    obtain ⟨mid, here, pair⟩ := ih here'
    have defined : (d'.type mid').isDefined = true := by
      rw [TypeDef.isDefined, link']
      exact Bool.or_true _
    -- A base is one that is held open, or it is closed and what it is in the end.
    have bases : Option.Rel p.type (w.final.type mid).base (d'.type mid').base := by
      by_cases held : mid ∈ ts
      · have own := (tally.matches_type held pair).base
        rw [link'] at own ⊢
        cases link : (d.type mid).base with
        | none => rw [link] at own; cases own
        | some base =>
          rw [link] at own
          rw [keeps mid held base link]
          exact own
      · exact (TypeDef.matches_body_iff.1 (tally.types.closed pair held defined)).base
    rw [link'] at bases
    cases link : (w.final.type mid).base with
    | none => rw [link] at bases; cases bases
    | some base =>
      rw [link] at bases
      cases bases with
      | some next => exact ⟨base, by rw [Declarations.ancestor, here, Option.bind_some, link], next⟩

end Tally

end XsdRecords.Declaration
