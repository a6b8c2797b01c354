import XsdRecords.Proofs.Generation.Once

/-! # What the enumerations of a generation hold

A type becomes an enumeration in one step, which takes its enumerators one after another, and no
step changes an enumeration after that.  Only simple types become enumerations, and they are no
copies, so that their enumerators are those that were declared. -/

namespace XsdRecords.Generation

open XsdRecords.Declaration (Declarations TypeDef TypeId)
open XsdRecords.Declaration.Declarations (SameShape)
open XsdRecords.Layout

/-! ## The enumeration of a type -/

/-- In alphabetical order the enumerators are counted anew. -/
theorem enumerators_enumerationOf (t : TypeDef) :
    (enumerationOf t).enumerators =
      if t.preserveEnumIds then enrolled t.enumerators
      else counted (alphabetical ((enrolled t.enumerators).map (·.name))) := by
  unfold enumerationOf
  dsimp only
  split
  · rfl
  · exact Enumeration.enumerators_alphabetize (nodup_names_enrolled t.enumerators)

theorem enumerationOf_sameShape {d d' : Declarations} (same : SameShape d d') (type : TypeId) :
    enumerationOf (d'.type type) = enumerationOf (d.type type) :=
  same.ofCore enumerationOf (fun _ => rfl) type

/-! ## Steps -/

/-- Every type that is marked with an enumeration is marked with its own. -/
def Enumerates (g : Generation) : Prop :=
  ∀ type id, (g.declarations.type type).enumeration = some id →
    id.index < g.schema.enumerations.size ∧
      g.schema.enumeration id = enumerationOf (g.declarations.type type)

variable {g g' : Generation}

/-- It is enough that marks and enumerations stay. -/
theorem Enumerates.of_marks (enumerates : Enumerates g)
    (shape : g.declarations.SameShape g'.declarations)
    (marks : ∀ type,
      (g'.declarations.type type).enumeration = (g.declarations.type type).enumeration)
    (enumerations : g'.schema.enumerations = g.schema.enumerations) : Enumerates g' := by
  intro type id marked
  rw [marks] at marked
  obtain ⟨inRange, holds⟩ := enumerates type id marked
  rw [enumerationOf_sameShape shape, ← holds]
  simp only [RecordSchema.enumeration, enumerations]
  exact ⟨inRange, trivial⟩

theorem Enumerates.marksEnumeration (enumerates : Enumerates g) {own : TypeId}
    (marks : MarksEnumeration g g' own) : Enumerates g' := by
  intro type id marked
  have size := marks.size
  rw [enumerationOf_sameShape marks.grows.shape, marks.enumeration]
  rw [marks.types] at marked
  split at marked
  · rename_i same
    obtain rfl := Option.some.inj marked
    rw [if_pos rfl, same, size]
    exact ⟨Nat.lt_succ_self _, rfl⟩
  · obtain ⟨inRange, holds⟩ := enumerates type id marked
    rw [if_neg (Nat.ne_of_lt inRange)]
    exact ⟨by omega, holds⟩

theorem Step.enumerates {start : Declarations} {reach : TypeId → Prop}
    (step : Step start reach g g') (enumerates : Enumerates g) : Enumerates g' := by
  have shape := step.grows.shape
  cases step with
  | journal => exact enumerates.of_marks shape (fun _ => rfl) rfl
  | sort type => exact enumerates.of_marks shape (fun _ => (marks_sortFields _ _ _).2) rfl
  | record reached fresh marks =>
    exact enumerates.of_marks shape marks.enumeration marks.enumerations
  | enumeration reached marks => exact enumerates.marksEnumeration marks
  | field owns field => exact enumerates.of_marks shape (fun _ => rfl) rfl
  | table owns wraps field =>
    exact enumerates.of_marks shape (fun _ => rfl) (wrapItems_eq_ok wraps).2.2.1
  | orphan wraps =>
    exact enumerates.of_marks shape (fun _ => rfl) (wrapItems_eq_ok wraps).2.2.1

theorem Steps.enumerates {start : Declarations} {reach : TypeId → Prop}
    (steps : Steps start reach g g') (enumerates : Enumerates g) : Enumerates g' := by
  induction steps with
  | refl => exact enumerates
  | tail _ step ih => exact step.enumerates ih

/-! ## Runs -/

/-- Only complex types are copied. -/
theorem Named.lt_size_of_scalar {d d' : Declarations} {done : List (Declaration.Symbol × _)}
    (named : Named d done d') (bases : d.BasesInRange) {type : TypeId}
    (inRange : type.index < d'.types.size) (scalar : d'.isComplex type = false) :
    type.index < d.types.size := by
  by_contra new
  obtain ⟨symbol, id, original, member, typed, old, own, same⟩ :=
    named.copied (Nat.le_of_not_lt new) inRange
  have simple : d.isComplex original = false := by
    rw [← named.renamed.isComplex bases old same, scalar]
  have kept := named.own member typed fun complex => by
    rw [simple] at complex
    cases complex
  obtain rfl := Option.some.inj (own.symm.trans kept)
  exact new old

/-- The enumeration of a type holds what is taken of the enumerators that were declared. -/
theorem run_enumerators (pristine : g.declarations.Pristine) (inRange : g.declarations.InRange)
    (rooted : g.declarations.Rooted) (ok : (run g).hasFailed = false) {type : TypeId}
    {id : EnumerationId} (marked : ((run g).declarations.type type).enumeration = some id) :
    ((run g).schema.enumeration id).enumerators =
      if (g.declarations.type type).preserveEnumIds then
        enrolled (g.declarations.type type).enumerators
      else
        counted
          (alphabetical ((enrolled (g.declarations.type type).enumerators).map (·.name))) := by
  obtain ⟨start, named, schema, whole⟩ := run_named pristine inRange rooted ok
  have fresh (type : TypeId) := named.renamed.unmarked pristine type
  have steps : Steps start.declarations (fun _ => True) start (run g) := by
    rw [whole]
    exact foldl_emitRoot_steps _ ⟨fun _ _ _ => trivial, fun unmarked => unmarked⟩
      fun _ _ _ _ _ => trivial
  have begun : Enumerates start := fun type id marked => by
    rw [(fresh type).2] at marked
    cases marked
  have grows := steps.grows
  obtain ⟨scalar, enumerators⟩ : start.declarations.isComplex type = false ∧
      (start.declarations.type type).enumerators ≠ [] := by
    refine (grows.newEnumeration marked).resolve_left fun old => ?_
    rw [(fresh type).2] at old
    cases old
  have bound : type.index < start.declarations.types.size :=
    Declarations.lt_size_of_ne_blank fun blank => enumerators (by rw [blank])
  have old := named.lt_size_of_scalar inRange.bases bound scalar
  rw [(steps.enumerates begun type id marked).2, enumerationOf_sameShape grows.shape,
    enumerators_enumerationOf]
  have body := named.renamed.body old
  rw [TypeDef.get_of_body TypeDef.enumerators (fun _ => rfl) body,
    TypeDef.get_of_body TypeDef.preserveEnumIds (fun _ => rfl) body]

end XsdRecords.Generation
