import Mathlib.Tactic.ByContra

/-! # Stores that are filled in different orders

Two runs fill stores of numbered entries, and the numbers they give differ.  They work on the same
parts of a document, but in different orders.  A `Census` tells which number of the second run stands
for which number of the first one while both work on one part, and a `Ledger` compares the entries:
what is held open is the same in both, what is closed in the second run is what the first run has
there in the end, and what the part is to define is defined in both or in neither. -/

namespace XsdRecords.Declaration

/-- A store: which numbers there are, and what is under each. -/
structure Arena (H C : Type) where
  has : H → Prop
  entry : H → C

/-- The store of the first run before and after it works on a part of a document, and in the end. -/
structure Stretch (H C : Type) where
  start : Arena H C
  stop : Arena H C
  final : Arena H C
  /-- Whether a number stands under a name. -/
  IsNamed : H → Prop

/-- The store of the second run before it works on that part, and the pairs of numbers until then. -/
structure Origin (H C : Type) where
  arena : Arena H C
  Pairs : H → H → Prop

variable {H C : Type} {c v : Stretch H C} {o : Origin H C} {now now' next next' : Arena H C}
  {R S : H → H → Prop} {x x' : H}

/-! ## Numbers -/

/-- The numbers that stand for each other.  Numbers that neither run has found by a name are met in
the part of the document that makes them. -/
structure Census (c : Stretch H C) (o : Origin H C) (now now' : Arena H C) (R : H → H → Prop) :
    Prop where
  final {x x' : H} : R x x' → c.final.has x
  present {x x' : H} : R x x' → now'.has x'
  unique {x x' y' : H} : R x x' → R x y' → x' = y'
  injective {x y x' : H} : R x x' → R y x' → x = y
  covers {x : H} : now.has x → ¬c.start.has x → ∃ x', R x x'
  covers' {y : H} : now'.has y → ∃ x, R x y
  unnamed {x x' : H} : R x x' → ¬c.IsNamed x → c.stop.has x → now.has x
  kept {x x' : H} : o.Pairs x x' → R x x'
  since {x x' : H} : R x x' → o.Pairs x x' ∨ c.IsNamed x ∨ now.has x ∧ ¬c.start.has x

/-- What is needed for both runs to find or add an entry. -/
structure Meets (c : Stretch H C) (now' : Arena H C) (R : H → H → Prop) (x x' : H) : Prop where
  final : c.final.has x
  unique {y' : H} : R x y' → y' = x'
  injective {y : H} : R y x' → y = x
  fresh : c.IsNamed x ∨ ¬c.start.has x

/-- A pair was there before, or its number in the second run is new. -/
theorem Census.old (census : Census c o now now' R) (meets : Meets c now' R x x') {a b : H}
    (pair : R a b ∨ a = x ∧ b = x') (is : now'.has b) : R a b := by
  obtain known | ⟨rfl, rfl⟩ := pair
  · exact known
  · obtain ⟨y, known⟩ := census.covers' is
    rwa [← meets.injective known]

theorem Census.meet (census : Census c o now now' R) (meets : Meets c now' R x x')
    (has : ∀ y, next.has y ↔ now.has y ∨ y = x) (has' : ∀ y', next'.has y' ↔ now'.has y' ∨ y' = x') :
    Census c o next next' (fun a b => R a b ∨ a = x ∧ b = x') where
  final := by
    rintro a b (pair | ⟨rfl, rfl⟩)
    · exact census.final pair
    · exact meets.final
  present := by
    rintro a b (pair | ⟨rfl, rfl⟩)
    · exact (has' b).2 (.inl (census.present pair))
    · exact (has' b).2 (.inr rfl)
  unique := by
    rintro a b b' (pair | ⟨rfl, rfl⟩) (pair' | ⟨same, rfl⟩)
    · exact census.unique pair pair'
    · exact meets.unique (same ▸ pair)
    · exact (meets.unique pair').symm
    · rfl
  injective := by
    rintro a a' b (pair | ⟨rfl, rfl⟩) (pair' | ⟨rfl, same⟩)
    · exact census.injective pair pair'
    · exact meets.injective (same ▸ pair)
    · exact (meets.injective pair').symm
    · rfl
  covers {a} is fresh := by
    obtain was | rfl := (has a).1 is
    · obtain ⟨b, pair⟩ := census.covers was fresh
      exact ⟨b, .inl pair⟩
    · exact ⟨x', .inr ⟨rfl, rfl⟩⟩
  covers' {b} is := by
    obtain was | rfl := (has' b).1 is
    · obtain ⟨a, pair⟩ := census.covers' was
      exact ⟨a, .inl pair⟩
    · exact ⟨x, .inr ⟨rfl, rfl⟩⟩
  unnamed := by
    rintro a b (pair | ⟨rfl, rfl⟩) unnamed later
    · exact (has a).2 (.inl (census.unnamed pair unnamed later))
    · exact (has a).2 (.inr rfl)
  kept pair := .inl (census.kept pair)
  since := by
    rintro a b (pair | ⟨rfl, rfl⟩)
    · obtain before | named | ⟨is, fresh⟩ := census.since pair
      · exact .inl before
      · exact .inr (.inl named)
      · exact .inr (.inr ⟨(has a).2 (.inl is), fresh⟩)
    · exact .inr (meets.fresh.imp_right fun fresh => ⟨(has a).2 (.inr rfl), fresh⟩)

theorem Census.congr (census : Census c o now now' R) (has : next.has = now.has)
    (has' : next'.has = now'.has) : Census c o next next' R where
  final := census.final
  present pair := by
    rw [has']
    exact census.present pair
  unique := census.unique
  injective := census.injective
  covers is := by
    rw [has] at is
    exact census.covers is
  covers' is := by
    rw [has'] at is
    exact census.covers' is
  unnamed pair unnamed later := by
    rw [has]
    exact census.unnamed pair unnamed later
  kept := census.kept
  since pair := by
    rw [has]
    exact census.since pair

/-! ## Entries -/

variable {isDefined : C → Bool} {empty : C} {Same Same' : C → C → Prop} {Held Held' : H → Prop}

/-- The numbers whose entries a part of a document defines. -/
def Stretch.Defines (c : Stretch H C) (isDefined : C → Bool) (x : H) : Prop :=
  isDefined (c.start.entry x) = false ∧ isDefined (c.stop.entry x) = true

/-- A store of the first run and one of the second, with those numbers that are held open. -/
structure Ledger (isDefined : C → Bool) (empty : C) (c : Stretch H C) (o : Origin H C)
    (now now' : Arena H C) (Same : C → C → Prop) (R : H → H → Prop) (Held : H → Prop) : Prop
    extends Census c o now now' R where
  opens {x : H} : Held x → c.Defines isDefined x
  held {x : H} : Held x → now.has x ∧ ∃ x', R x x' ∧ Same (now.entry x) (now'.entry x')
  settled {x : H} : ¬Held x → isDefined (now.entry x) = true → c.final.entry x = now.entry x
  closed {x x' : H} : R x x' → ¬Held x → isDefined (now'.entry x') = true →
    Same (c.final.entry x) (now'.entry x')
  blank {x : H} : ¬Held x → isDefined (now.entry x) = false → now.entry x = empty
  blank' {x x' : H} : R x x' → ¬Held x → isDefined (now'.entry x') = false → now'.entry x' = empty
  awaits {x x' : H} : R x x' → ¬Held x → isDefined (now'.entry x') = true →
    c.Defines isDefined x → isDefined (now.entry x) = true
  done {x : H} : c.Defines isDefined x → isDefined (now.entry x) = true →
    ∃ x', R x x' ∧ isDefined (now'.entry x') = true
  gained {x x' : H} : R x x' → isDefined (now'.entry x') = true →
    isDefined (o.arena.entry x') = true ∨ c.Defines isDefined x

namespace Ledger

variable (ledger : Ledger isDefined empty c o now now' Same R Held)

include ledger

/-- What is defined in both runs is the same in both. -/
theorem same (pair : R x x') (first : isDefined (now.entry x) = true)
    (second : isDefined (now'.entry x') = true) : Same (now.entry x) (now'.entry x') := by
  by_cases opened : Held x
  · obtain ⟨-, y', other, same⟩ := ledger.held opened
    rwa [ledger.unique pair other]
  · rw [← ledger.settled opened first]
    exact ledger.closed pair opened second

theorem mono (weaker : ∀ {a b : C}, Same a b → Same' a b) :
    Ledger isDefined empty c o now now' Same' R Held where
  toCensus := ledger.toCensus
  opens := ledger.opens
  held opened := by
    obtain ⟨is, x', pair, same⟩ := ledger.held opened
    exact ⟨is, x', pair, weaker same⟩
  settled := ledger.settled
  closed pair shut defined := weaker (ledger.closed pair shut defined)
  blank := ledger.blank
  blank' := ledger.blank'
  awaits := ledger.awaits
  done := ledger.done
  gained := ledger.gained

/-- Both runs find or add an entry. -/
theorem meet (meets : Meets c now' R x x') (has : ∀ y, next.has y ↔ now.has y ∨ y = x)
    (entry : ∀ y, next.entry y = now.entry y)
    (has' : ∀ y', next'.has y' ↔ now'.has y' ∨ y' = x')
    (entry' : ∀ y', next'.entry y' = now'.entry y')
    (new : ¬now'.has x' → now'.entry x' = empty) (undefined : isDefined empty = false) :
    Ledger isDefined empty c o next next' Same (fun a b => R a b ∨ a = x ∧ b = x') Held := by
  have isNew {a b : H} (pair : R a b ∨ a = x ∧ b = x') (isNot : ¬now'.has b) :
      now'.entry b = empty := by
    obtain known | ⟨rfl, rfl⟩ := pair
    · exact absurd (ledger.present known) isNot
    · exact new isNot
  have known {a b : H} (pair : R a b ∨ a = x ∧ b = x')
      (defined : isDefined (next'.entry b) = true) : R a b := by
    by_cases is : now'.has b
    · exact ledger.old meets pair is
    · rw [entry', isNew pair is, undefined] at defined
      cases defined
  exact {
    toCensus := ledger.toCensus.meet meets has has'
    opens := ledger.opens
    held := fun {a} opened => by
      obtain ⟨is, b, pair, same⟩ := ledger.held opened
      refine ⟨(has a).2 (.inl is), b, .inl pair, ?_⟩
      rwa [entry, entry']
    settled := fun {a} shut defined => by
      rw [entry] at defined ⊢
      exact ledger.settled shut defined
    closed := fun {a b} pair shut defined => by
      have pair := known pair defined
      rw [entry'] at defined ⊢
      exact ledger.closed pair shut defined
    blank := fun {a} shut open_ => by
      rw [entry] at open_ ⊢
      exact ledger.blank shut open_
    blank' := fun {a b} pair shut open_ => by
      rw [entry'] at open_ ⊢
      by_cases is : now'.has b
      · exact ledger.blank' (ledger.old meets pair is) shut open_
      · exact isNew pair is
    awaits := fun {a b} pair shut defined defines => by
      have pair := known pair defined
      rw [entry'] at defined
      rw [entry]
      exact ledger.awaits pair shut defined defines
    done := fun {a} defines defined => by
      rw [entry] at defined
      obtain ⟨b, pair, defined'⟩ := ledger.done defines defined
      exact ⟨b, .inl pair, by rwa [entry']⟩
    gained := fun {a b} pair defined => by
      have pair := known pair defined
      rw [entry'] at defined
      exact ledger.gained pair defined }

/-- Both runs open an entry that the part of the document defines, and that neither has defined. -/
theorem hold (pair : R x x') (has : now.has x) (undefined : isDefined (now.entry x) = false)
    (defines : c.Defines isDefined x) (alike : Same empty empty) :
    Ledger isDefined empty c o now now' Same R (fun y => Held y ∨ y = x) where
  toCensus := ledger.toCensus
  opens := by
    rintro y (opened | rfl)
    · exact ledger.opens opened
    · exact defines
  held := by
    rintro y (opened | rfl)
    · exact ledger.held opened
    · by_cases opened : Held y
      · exact ledger.held opened
      refine ⟨has, x', pair, ?_⟩
      have undefined' : isDefined (now'.entry x') = false := by
        refine Bool.eq_false_iff.2 fun defined => ?_
        rw [ledger.awaits pair opened defined defines] at undefined
        cases undefined
      rw [ledger.blank opened undefined, ledger.blank' pair opened undefined']
      exact alike
  settled shut := ledger.settled fun opened => shut (.inl opened)
  closed pair shut := ledger.closed pair fun opened => shut (.inl opened)
  blank shut := ledger.blank fun opened => shut (.inl opened)
  blank' pair shut := ledger.blank' pair fun opened => shut (.inl opened)
  awaits pair shut := ledger.awaits pair fun opened => shut (.inl opened)
  done := ledger.done
  gained := ledger.gained

/-- Both runs change an entry that is held open. -/
theorem change (opened : Held x) (pair : R x x') (has : next.has = now.has)
    (entry : ∀ y, y ≠ x → next.entry y = now.entry y) (has' : next'.has = now'.has)
    (entry' : ∀ y', y' ≠ x' → next'.entry y' = now'.entry y')
    (same : Same (next.entry x) (next'.entry x'))
    (alike : isDefined (next'.entry x') = isDefined (next.entry x)) :
    Ledger isDefined empty c o next next' Same R Held := by
  have other {y : H} (shut : ¬Held y) : y ≠ x := fun same => shut (same ▸ opened)
  have other' {y y' : H} (pair' : R y y') (ne : y ≠ x) : y' ≠ x' := fun same =>
    ne (ledger.injective pair' (same ▸ pair))
  have unchanged {y y' : H} (pair' : R y y') (shut : ¬Held y) :
      next'.entry y' = now'.entry y' := entry' y' (other' pair' (other shut))
  exact {
    toCensus := ledger.toCensus.congr has has'
    opens := ledger.opens
    held := fun {y} own => by
      rw [has]
      by_cases is : y = x
      · subst is
        exact ⟨(ledger.held own).1, x', pair, same⟩
      · obtain ⟨present, y', pair', same'⟩ := ledger.held own
        exact ⟨present, y', pair', by rwa [entry y is, entry' y' (other' pair' is)]⟩
    settled := fun {y} shut defined => by
      rw [entry y (other shut)] at defined ⊢
      exact ledger.settled shut defined
    closed := fun {y y'} pair' shut defined => by
      rw [unchanged pair' shut] at defined ⊢
      exact ledger.closed pair' shut defined
    blank := fun {y} shut undefined => by
      rw [entry y (other shut)] at undefined ⊢
      exact ledger.blank shut undefined
    blank' := fun {y y'} pair' shut undefined => by
      rw [unchanged pair' shut] at undefined ⊢
      exact ledger.blank' pair' shut undefined
    awaits := fun {y y'} pair' shut defined defines => by
      rw [unchanged pair' shut] at defined
      rw [entry y (other shut)]
      exact ledger.awaits pair' shut defined defines
    done := fun {y} defines defined => by
      by_cases is : y = x
      · subst is
        exact ⟨x', pair, alike.trans defined⟩
      · rw [entry y is] at defined
        obtain ⟨y', pair', defined'⟩ := ledger.done defines defined
        exact ⟨y', pair', by rwa [entry' y' (other' pair' is)]⟩
    gained := fun {y y'} pair' defined => by
      by_cases is : y = x
      · exact .inr (is ▸ ledger.opens opened)
      · rw [entry' y' (other' pair' is)] at defined
        exact ledger.gained pair' defined }

/-- Both runs close entries, which are what they are in the end. -/
theorem release (fewer : ∀ {y}, Held' y → Held y)
    (agrees : ∀ {a b : C}, Same a b → isDefined b = isDefined a)
    (closes : ∀ {y}, Held y → ¬Held' y →
      isDefined (now.entry y) = true ∧ c.final.entry y = now.entry y) :
    Ledger isDefined empty c o now now' Same R Held' where
  toCensus := ledger.toCensus
  opens opened := ledger.opens (fewer opened)
  held opened := ledger.held (fewer opened)
  settled {y} shut defined := by
    by_cases opened : Held y
    · exact (closes opened shut).2
    · exact ledger.settled opened defined
  closed {y y'} pair shut defined := by
    by_cases opened : Held y
    · obtain ⟨-, z', other, same⟩ := ledger.held opened
      rw [(closes opened shut).2, ledger.unique pair other]
      exact same
    · exact ledger.closed pair opened defined
  blank {y} shut undefined := by
    by_cases opened : Held y
    · rw [(closes opened shut).1] at undefined
      cases undefined
    · exact ledger.blank opened undefined
  blank' {y y'} pair shut undefined := by
    by_cases opened : Held y
    · obtain ⟨-, z', other, same⟩ := ledger.held opened
      rw [ledger.unique pair other, agrees same, (closes opened shut).1] at undefined
      cases undefined
    · exact ledger.blank' pair opened undefined
  awaits {y y'} pair shut defined defines := by
    by_cases opened : Held y
    · exact (closes opened shut).1
    · exact ledger.awaits pair opened defined defines
  done := ledger.done
  gained := ledger.gained

end Ledger

/-! ## Between parts -/

/-- The stores of the second run between two parts, and of the first run in the end. -/
structure Balance (isDefined : C → Bool) (empty : C) (final now' : Arena H C) (Same : C → C → Prop)
    (R : H → H → Prop) : Prop where
  inFinal {x x' : H} : R x x' → final.has x
  present {x x' : H} : R x x' → now'.has x'
  unique {x x' y' : H} : R x x' → R x y' → x' = y'
  injective {x y x' : H} : R x x' → R y x' → x = y
  covers' {y : H} : now'.has y → ∃ x, R x y
  closed {x x' : H} : R x x' → isDefined (now'.entry x') = true →
    Same (final.entry x) (now'.entry x')
  blank' {x x' : H} : R x x' → isDefined (now'.entry x') = false → now'.entry x' = empty

/-- Entries that are both defined or neither are the same. -/
theorem Balance.same {final : Arena H C} (balance : Balance isDefined empty final now' Same R)
    (pair : R x x') (alike : Same empty empty)
    (blank : isDefined (final.entry x) = false → final.entry x = empty)
    (done : isDefined (final.entry x) = true → isDefined (now'.entry x') = true) :
    Same (final.entry x) (now'.entry x') := by
  cases defined' : isDefined (now'.entry x') with
  | true => exact balance.closed pair defined'
  | false =>
    have undefined : isDefined (final.entry x) = false := Bool.eq_false_iff.2 fun defined =>
      Bool.false_ne_true (defined'.symm.trans (done defined))
    rw [blank undefined, balance.blank' pair defined']
    exact alike

/-- The first run comes to a part with entries that are blank or what they are in the end. -/
structure Stretch.Sound (isDefined : C → Bool) (empty : C) (c : Stretch H C) : Prop where
  settled {x : H} : isDefined (c.start.entry x) = true → c.final.entry x = c.start.entry x
  blank {x : H} : isDefined (c.start.entry x) = false → c.start.entry x = empty

/-- The second run has not come to a part. -/
structure Stretch.Awaited (isDefined : C → Bool) (c : Stretch H C) (now' : Arena H C)
    (R : H → H → Prop) : Prop where
  unnamed {x x' : H} : R x x' → ¬c.IsNamed x → c.stop.has x → c.start.has x
  undefined {x x' : H} : R x x' → isDefined (now'.entry x') = true → ¬c.Defines isDefined x

/-- The second run has come to a part. -/
structure Stretch.Passed (isDefined : C → Bool) (c : Stretch H C) (now' : Arena H C)
    (R : H → H → Prop) : Prop where
  covers {x : H} : c.stop.has x → ¬c.start.has x → ∃ x', R x x'
  defines {x : H} : c.Defines isDefined x → ∃ x', R x x' ∧ isDefined (now'.entry x') = true

/-- Both runs come to a part. -/
theorem Balance.ledger (balance : Balance isDefined empty c.final now' Same R)
    (sound : c.Sound isDefined empty) (awaited : c.Awaited isDefined now' R) :
    Ledger isDefined empty c ⟨now', R⟩ c.start now' Same R (fun _ => False) where
  final := balance.inFinal
  present := balance.present
  unique := balance.unique
  injective := balance.injective
  covers is fresh := absurd is fresh
  covers' := balance.covers'
  unnamed := awaited.unnamed
  kept pair := pair
  since := .inl
  opens := False.elim
  held := False.elim
  settled _ := sound.settled
  closed pair _ := balance.closed pair
  blank _ := sound.blank
  blank' pair _ := balance.blank' pair
  awaits pair _ defined defines := absurd defines (awaited.undefined pair defined)
  done defines defined := by
    rw [defines.1] at defined
    cases defined
  gained _ := .inl

namespace Ledger

variable (ledger : Ledger isDefined empty c o c.stop now' Same R (fun _ => False))

include ledger

theorem balance : Balance isDefined empty c.final now' Same R where
  inFinal := ledger.final
  present := ledger.present
  unique := ledger.unique
  injective := ledger.injective
  covers' := ledger.covers'
  closed pair := ledger.closed pair not_false
  blank' pair := ledger.blank' pair not_false

theorem passed : c.Passed isDefined now' R where
  covers := ledger.covers
  defines defines := ledger.done defines defines.2

/-- A part that the second run has not come to is still to come, if the first run makes and defines
nothing in both. -/
theorem awaited (others : Balance isDefined empty v.final o.arena Same' o.Pairs)
    (before : v.Awaited isDefined o.arena o.Pairs) (named : ∀ {x}, c.IsNamed x → v.IsNamed x)
    (lives : ∀ {x'}, isDefined (o.arena.entry x') = true → o.arena.has x')
    (apart : ∀ {x}, v.stop.has x → ¬v.start.has x → c.stop.has x → c.start.has x)
    (once : ∀ {x}, v.Defines isDefined x → ¬c.Defines isDefined x) :
    v.Awaited isDefined now' R where
  unnamed {x x'} pair unnamed later := by
    obtain old | isNamed | ⟨is, fresh⟩ := ledger.since pair
    · exact before.unnamed old unnamed later
    · exact absurd (named isNamed) unnamed
    · by_contra early
      exact fresh (apart later early is)
  undefined {x x'} pair defined defines := by
    obtain already | own := ledger.gained pair defined
    · obtain ⟨y, old⟩ := others.covers' (lives already)
      obtain rfl := ledger.injective pair (ledger.kept old)
      exact before.undefined old already defines
    · exact once defines own

end Ledger

theorem Stretch.Passed.later (passed : c.Passed isDefined now' R) (kept : ∀ {x x'}, R x x' → S x x')
    (defined : ∀ {x'}, isDefined (now'.entry x') = true → isDefined (next'.entry x') = true) :
    c.Passed isDefined next' S where
  covers is fresh := (passed.covers is fresh).imp fun _ => kept
  defines defines := (passed.defines defines).imp fun _ h => ⟨kept h.1, defined h.2⟩

end XsdRecords.Declaration
