import Mathlib.Data.List.Forall2
import Mathlib.Data.Option.Basic
import XsdRecords.Proofs.Declaration.CutOff

/-! # Declarations with other numbers

Two runs that declare the same give other numbers to types and elements.  A `Pairing` tells which
number of the one run stands for which of the other; elements and types match if they agree but for
numbers that are paired.  Where all bases of two types match, walks along them find the same. -/

namespace XsdRecords.Declaration

/-- Which types and which elements of two runs stand for each other. -/
structure Pairing where
  type : TypeId → TypeId → Prop
  element : ElementId → ElementId → Prop

/-- What is paired in one pairing is paired in another. -/
structure Pairing.Within (p q : Pairing) : Prop where
  type {id id' : TypeId} : p.type id id' → q.type id id'
  element {id id' : ElementId} : p.element id id' → q.element id id'

theorem Pairing.Within.refl (p : Pairing) : p.Within p :=
  ⟨id, id⟩

theorem Pairing.Within.trans {p q r : Pairing} (first : p.Within q) (second : q.Within r) :
    p.Within r :=
  ⟨fun pair => second.type (first.type pair), fun pair => second.element (first.element pair)⟩

/-- What every run starts with stands for itself. -/
def Pairing.initial : Pairing where
  type id id' := id' = id ∧ id.index < Declarations.initial.types.size
  element _ _ := False

theorem rel_mono {α β : Type} {R S : α → β → Prop} (weaker : ∀ {a b}, R a b → S a b)
    {o : Option α} {o' : Option β} (rel : Option.Rel R o o') : Option.Rel S o o' := by
  cases rel with
  | none => exact .none
  | some pair => exact .some (weaker pair)

theorem isSome_of_rel {α β : Type} {R : α → β → Prop} {o : Option α} {o' : Option β}
    (rel : Option.Rel R o o') : o'.isSome = o.isSome := by
  cases rel <;> rfl

/-! ## Elements and types that match -/

/-- An element but for what it refers to. -/
def Element.plain (e : Element) : Element :=
  { e with directType := none, reference := none }

/-- A type but for its names and for what it refers to. -/
def TypeDef.plain (t : TypeDef) : TypeDef :=
  { t.body with base := none, fields := [] }

/-- What is read off the plain part of a type is the same for types of the same plain part. -/
theorem TypeDef.get_of_plain {α : Type} (get : TypeDef → α) (keeps : ∀ t : TypeDef, get t.plain = get t)
    {t t' : TypeDef} (same : t'.plain = t.plain) : get t' = get t := by
  rw [← keeps, same, keeps]

theorem Element.get_of_plain {α : Type} (get : Element → α) (keeps : ∀ e : Element, get e.plain = get e)
    {e e' : Element} (same : e'.plain = e.plain) : get e' = get e := by
  rw [← keeps, same, keeps]

/-- Elements that agree but for paired numbers. -/
structure Element.Matches (p : Pairing) (e e' : Element) : Prop where
  directType : Option.Rel p.type e.directType e'.directType
  reference : Option.Rel p.element e.reference e'.reference
  plain : e'.plain = e.plain

/-- Types that agree but for their names and for paired numbers. -/
structure TypeDef.Matches (p : Pairing) (t t' : TypeDef) : Prop where
  base : Option.Rel p.type t.base t'.base
  fields : List.Forall₂ (fun field field' => field'.1 = field.1 ∧ p.element field.2 field'.2)
    t.fields t'.fields
  plain : t'.plain = t.plain

section Matches

variable {p q : Pairing}

theorem Element.Matches.mono (within : p.Within q) {e e' : Element} (same : Matches p e e') :
    Matches q e e' :=
  ⟨rel_mono within.type same.directType, rel_mono within.element same.reference, same.plain⟩

theorem Element.Matches.isDefined {e e' : Element} (same : Matches p e e') :
    e'.isDefined = e.isDefined := by
  rw [Element.isDefined, Element.isDefined, isSome_of_rel same.directType,
    isSome_of_rel same.reference]

theorem Element.matches_blank (p : Pairing) : Element.Matches p {} {} :=
  ⟨.none, .none, rfl⟩

theorem TypeDef.Matches.mono (within : p.Within q) {t t' : TypeDef} (same : Matches p t t') :
    Matches q t t' :=
  ⟨rel_mono within.type same.base, same.fields.imp fun _ _ pair => ⟨pair.1, within.element pair.2⟩,
    same.plain⟩

theorem TypeDef.Matches.builtin {t t' : TypeDef} (same : Matches p t t') : t'.builtin = t.builtin :=
  TypeDef.get_of_plain TypeDef.builtin (fun _ => rfl) same.plain

theorem TypeDef.Matches.isDefined {t t' : TypeDef} (same : Matches p t t') :
    t'.isDefined = t.isDefined := by
  rw [TypeDef.isDefined, TypeDef.isDefined, same.builtin, isSome_of_rel same.base]

theorem TypeDef.matches_blank (p : Pairing) (s s' : Symbol) :
    TypeDef.Matches p { symbol := s } { symbol := s' } :=
  ⟨.none, .nil, rfl⟩

theorem TypeDef.matches_body_iff {t t' : TypeDef} : Matches p t.body t'.body ↔ Matches p t t' :=
  ⟨fun same => ⟨same.base, same.fields, same.plain⟩, fun same => ⟨same.base, same.fields, same.plain⟩⟩

end Matches

namespace Declarations

variable {p : Pairing} {d d' : Declarations} {id id' : TypeId}

/-! ## Walks along bases that match -/

/-- There is one nearest of what ancestors have. -/
theorem Nearest.unique {α : Type} {get : TypeDef → Option α} {a b : Option α}
    (first : d.Nearest get id a) (second : d.Nearest get id b) : a = b := by
  cases a with
  | none =>
    cases b with
    | none => rfl
    | some b =>
      obtain ⟨steps, t, reached, own, -⟩ := second
      cases (first steps t reached).symm.trans own
  | some a =>
    obtain ⟨steps, t, reached, own, nearer⟩ := first
    cases b with
    | none => cases (second steps t reached).symm.trans own
    | some b =>
      obtain ⟨steps', t', reached', own', nearer'⟩ := second
      rcases Nat.lt_trichotomy steps steps' with less | rfl | more
      · cases (nearer' steps less t reached).symm.trans own
      · obtain rfl := Option.some.inj (reached.symm.trans reached')
        exact own.symm.trans own'
      · cases (nearer steps' more t' reached').symm.trans own'

/-- Types whose bases match, however far away. -/
def Alike (p : Pairing) (d d' : Declarations) (id id' : TypeId) : Prop :=
  ∀ steps, Option.Rel (fun t t' => p.type t t' ∧ (d.type t).Matches p (d'.type t'))
    (d.ancestor id steps) (d'.ancestor id' steps)

namespace Alike

variable (alike : Alike p d d' id id')

include alike

theorem nearest {α : Type} {get : TypeDef → Option α}
    (same : ∀ {t t' : TypeDef}, t.Matches p t' → get t' = get t) {a : Option α}
    (found : d.Nearest get id a) : d'.Nearest get id' a := by
  cases a with
  | none =>
    intro steps t' reached
    have rel := alike steps
    rw [reached] at rel
    generalize here : d.ancestor id steps = o at rel
    cases rel with
    | some pair => rw [same pair.2, found steps _ here]
  | some a =>
    obtain ⟨steps, t, reached, own, none⟩ := found
    have rel := alike steps
    rw [reached] at rel
    generalize here : d'.ancestor id' steps = o at rel
    cases rel with
    | some pair =>
      refine ⟨steps, _, here, by rw [same pair.2, own], fun fewer less nearer reached' => ?_⟩
      have rel := alike fewer
      rw [reached'] at rel
      generalize there : d.ancestor id fewer = o at rel
      cases rel with
      | some pair => rw [same pair.2, none fewer less _ there]

theorem any {get : TypeDef → Bool} (same : ∀ {t t' : TypeDef}, t.Matches p t' → get t' = get t) :
    (∃ steps t', d'.ancestor id' steps = some t' ∧ get (d'.type t') = true) ↔
      ∃ steps t, d.ancestor id steps = some t ∧ get (d.type t) = true := by
  constructor
  · rintro ⟨steps, t', reached, holds⟩
    have rel := alike steps
    rw [reached] at rel
    generalize here : d.ancestor id steps = o at rel
    cases rel with
    | some pair => exact ⟨steps, _, here, by rw [← same pair.2, holds]⟩
  · rintro ⟨steps, t, reached, holds⟩
    have rel := alike steps
    rw [reached] at rel
    generalize here : d'.ancestor id' steps = o at rel
    cases rel with
    | some pair => exact ⟨steps, _, here, by rw [same pair.2, holds]⟩

theorem builtin : d'.builtin id' = d.builtin id :=
  Nearest.unique (d'.exhaustive id').builtin
    (alike.nearest (fun same => same.builtin) (d.exhaustive id).builtin)

theorem isComplex : d'.isComplex id' = d.isComplex id := by
  rw [Declarations.isComplex, Declarations.isComplex, alike.builtin]

theorem isList : d'.isList id' = d.isList id := by
  rw [Bool.eq_iff_iff, (d'.exhaustive id').isList, (d.exhaustive id).isList]
  exact alike.any fun same => TypeDef.get_of_plain TypeDef.isList (fun _ => rfl) same.plain

theorem isChoice : d'.isChoice id' = d.isChoice id := by
  rw [Bool.eq_iff_iff, (d'.exhaustive id').isChoice, (d.exhaustive id).isChoice]
  exact alike.any fun same => TypeDef.get_of_plain TypeDef.isChoice (fun _ => rfl) same.plain

theorem elemType : d'.elemType id' = d.elemType id := by
  rw [Declarations.elemType, Declarations.elemType, alike.builtin, alike.isList]

end Alike

/-- Where all types that are paired match, their bases do. -/
theorem alike_of_matches
    (same : ∀ {id id'}, p.type id id' → (d.type id).Matches p (d'.type id'))
    (pair : p.type id id') : Alike p d d' id id' := by
  intro steps
  induction steps with
  | zero => exact .some ⟨pair, same pair⟩
  | succ steps ih =>
    rw [ancestor, ancestor]
    generalize d.ancestor id steps = o, d'.ancestor id' steps = o' at ih
    cases ih with
    | none => exact .none
    | some here => exact rel_mono (fun next => ⟨next, same next⟩) here.2.base

/-! ## Walks in declarations that are not complete -/

section Partial

variable (same : ∀ {id id'}, p.type id id' → (d.type id).isDefined = true →
  (d'.type id').isDefined = true → (d.type id).Matches p (d'.type id'))

include same

/-- Types whose bases are all defined in both runs are alike. -/
theorem alike_of_isDefined (pair : p.type id id')
    (known : ∀ steps t, d.ancestor id steps = some t → (d.type t).isDefined = true)
    (known' : ∀ steps t, d'.ancestor id' steps = some t → (d'.type t).isDefined = true) :
    Alike p d d' id id' := by
  intro steps
  induction steps with
  | zero => exact .some ⟨pair, same pair (known 0 id rfl) (known' 0 id' rfl)⟩
  | succ steps ih =>
    have known := known (steps + 1)
    have known' := known' (steps + 1)
    rw [ancestor] at known known'
    rw [ancestor, ancestor]
    generalize d.ancestor id steps = o, d'.ancestor id' steps = o' at ih known known'
    cases ih with
    | none => exact .none
    | @some t t' here =>
      have bases := here.2.base
      change Option.Rel _ (d.type t).base (d'.type t').base
      change ∀ u, (d.type t).base = some u → _ at known
      change ∀ u, (d'.type t').base = some u → _ at known'
      generalize (d.type t).base = b, (d'.type t').base = b' at bases known known'
      cases bases with
      | none => exact .none
      | some next => exact .some ⟨next, same next (known _ rfl) (known' _ rfl)⟩

/-- A built-in type that is known in both runs is the same in both. -/
theorem builtin_eq_of_known (pair : p.type id id') (known : d.builtin id ≠ none)
    (known' : d'.builtin id' ≠ none) : d'.builtin id' = d.builtin id := by
  obtain ⟨b, found⟩ := Option.ne_none_iff_exists'.1 known
  obtain ⟨b', found'⟩ := Option.ne_none_iff_exists'.1 known'
  have nearest := (d.exhaustive id).builtin
  have nearest' := (d'.exhaustive id').builtin
  rw [found] at nearest ⊢
  rw [found'] at nearest' ⊢
  obtain ⟨steps, t, reached, own, none⟩ := nearest
  obtain ⟨steps', t', reached', own', none'⟩ := nearest'
  clear found found' known known'
  -- The induction is on the way to the first of the two; each type on the way is defined in both.
  induction steps generalizing id id' steps' with
  | zero =>
    obtain rfl := Option.some.inj reached
    cases steps' with
    | zero =>
      obtain rfl := Option.some.inj reached'
      have agree := (same pair (by rw [TypeDef.isDefined, own]; rfl)
        (by rw [TypeDef.isDefined, own']; rfl)).builtin
      rw [own, own'] at agree
      exact agree
    | succ steps' =>
      rw [ancestor_succ] at reached'
      obtain ⟨next', link', -⟩ := Option.bind_eq_some_iff.1 reached'
      have agree := (same pair (by rw [TypeDef.isDefined, own]; rfl)
        (by rw [TypeDef.isDefined, link']; exact Bool.or_true _)).builtin
      rw [own, none' 0 (Nat.succ_pos _) id' rfl] at agree
      cases agree
  | succ steps ih =>
    rw [ancestor_succ] at reached
    obtain ⟨next, link, onwards⟩ := Option.bind_eq_some_iff.1 reached
    have first : (d.type id).isDefined = true := by
      rw [TypeDef.isDefined, link]
      exact Bool.or_true _
    cases steps' with
    | zero =>
      obtain rfl := Option.some.inj reached'
      have agree := (same pair first (by rw [TypeDef.isDefined, own']; rfl)).builtin
      rw [none 0 (Nat.succ_pos _) id rfl, own'] at agree
      cases agree
    | succ steps' =>
      rw [ancestor_succ] at reached'
      obtain ⟨next', link', onwards'⟩ := Option.bind_eq_some_iff.1 reached'
      have bases := (same pair first (by rw [TypeDef.isDefined, link']; exact Bool.or_true _)).base
      rw [link, link'] at bases
      cases bases with
      | some next_pair =>
        refine ih next_pair onwards ?_ steps' onwards' ?_
        · intro fewer less nearer here
          exact none (fewer + 1) (Nat.succ_lt_succ less) nearer
            (by rw [ancestor_succ, link]; exact here)
        · intro fewer less nearer here
          exact none' (fewer + 1) (Nat.succ_lt_succ less) nearer
            (by rw [ancestor_succ, link']; exact here)

end Partial

end Declarations

end XsdRecords.Declaration
