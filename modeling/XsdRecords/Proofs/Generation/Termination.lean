import Mathlib.Logic.Function.Iterate
import XsdRecords.Proofs.Generation.Naming
import XsdRecords.Proofs.Generation.Steps

/-! # Generation terminates

The emission of a type calls itself for the types of fields, after one more type has become a record.
Hence it calls itself no deeper than there are types, and what would happen below that depth makes no
difference: `run_eq_runWith`. -/

namespace XsdRecords.Generation

open XsdRecords.Declaration (Declarations ElementId TypeId)

/-! ## One level of the emission -/

/-- Emits a type; the types of its fields are emitted with `emit`. -/
def emitStep (emit : Generation → TypeId → Generation) (g : Generation) (type : TypeId) :
    Generation :=
  match g.declarations.builtin type with
  | none => g.report (.noDefinition (g.declarations.type type).symbol.localName)
  | some builtin =>
    if builtin.isComplex then
      emitRecord emit { g with declarations := g.declarations.sortFields type } type
    else if (g.declarations.type type).enumerators.isEmpty then g
    else g.emitEnumeration type

theorem emitTypeWithin_succ (limit : Nat) :
    emitTypeWithin (limit + 1) = emitStep (emitTypeWithin limit) :=
  rfl

/-- Emission extends the generation, however deep it goes. -/
theorem emitTypeWithin_grows (limit : Nat) (g : Generation) (type : TypeId) :
    Extends g (emitTypeWithin limit g type) := by
  have steps : Steps g.declarations (fun _ => True) g (emitTypeWithin limit g type) :=
    emitTypeWithin_steps limit g type ⟨fun _ _ _ => trivial, fun unmarked => unmarked⟩ trivial
  exact steps.grows

section Congruence

variable {limit : Nat} {emit emit' : Generation → TypeId → Generation}
  (grows : ∀ g type, Extends g (emit g type))
  (agree : ∀ g type, g.unmarked < limit → emit' g type = emit g type)

include grows agree

theorem emitFieldTypes_congr (owner : TypeId) (recordName : String)
    (entries : List (String × ElementId)) {g : Generation} (few : g.unmarked < limit) :
    emitFieldTypes emit' owner recordName g entries =
      emitFieldTypes emit owner recordName g entries := by
  induction entries generalizing g with
  | nil => rfl
  | cons entry rest ih =>
    unfold emitFieldTypes
    split
    · split
      · rfl
      · exact ih few
    · rename_i type typed
      split
      · exact ih few
      · split
        · rfl
        · rw [agree g type few]
          exact ih (Nat.lt_of_le_of_lt (grows g type).unmarked_le few)

/-- The types of the fields of a record are emitted when there is one more record. -/
theorem emitRecord_congr {g : Generation} {type : TypeId}
    (complex : g.declarations.isComplex type = true) (few : g.unmarked < limit + 1) :
    emitRecord emit' g type = emitRecord emit g type := by
  unfold emitRecord
  dsimp only
  split
  · rfl
  · rename_i unmarked
    have unmarked : (g.declarations.type type).record = none := by simpa using unmarked
    split
    · rfl
    · rename_i schema record created
      have marks : MarksRecord g (Generation.modifyType { g with schema } type fun t =>
          { t with record := some record }) type record := ⟨complex, unmarked, created, rfl⟩
      have fewer := marks.grows.unmarked_lt (Declarations.lt_size_of_isComplex complex) unmarked
        marks.marked
      rw [emitFieldTypes_congr grows agree]
      exact Nat.lt_of_lt_of_le fewer (Nat.le_of_lt_succ few)

theorem emitStep_congr {g : Generation} (few : g.unmarked < limit + 1) (type : TypeId) :
    emitStep emit' g type = emitStep emit g type := by
  unfold emitStep
  split
  · rfl
  · rename_i builtin found
    split
    · rename_i complex
      have sorted := extends_sortFields g type
      refine emitRecord_congr grows agree ?_ (Nat.lt_of_le_of_lt sorted.unmarked_le few)
      rw [sorted.shape.isComplex, Declarations.isComplex_of_builtin found, complex]
    · rfl

end Congruence

/-! ## Any number of levels -/

/-- Where levels outnumber the types without a record, what is below them is never asked. -/
theorem iterate_emitStep (bottom : Generation → TypeId → Generation) {limit : Nat} {g : Generation}
    (few : g.unmarked < limit) (type : TypeId) :
    emitStep^[limit] bottom g type = emitTypeWithin limit g type := by
  induction limit generalizing g type with
  | zero => exact absurd few (Nat.not_lt_zero _)
  | succ limit ih =>
    rw [Function.iterate_succ_apply', emitTypeWithin_succ]
    exact emitStep_congr (emitTypeWithin_grows limit) (fun g type few => ih few type) few type

theorem iterate_emitStep_eq_emitType (bottom : Generation → TypeId → Generation) {limit : Nat}
    {g : Generation} (deep : g.declarations.types.size < limit) (type : TypeId) :
    emitStep^[limit] bottom g type = g.emitType type := by
  obtain ⟨more, rfl⟩ := Nat.exists_eq_add_of_le (Nat.succ_le_of_lt deep)
  rw [Function.iterate_add_apply]
  exact iterate_emitStep _ (Nat.lt_succ_of_le g.unmarked_le_size) type

/-! ## Runs -/

/-- Emits the type of a top-level element with `emit`, if it is complex. -/
def emitRootWith (emit : Generation → TypeId → Generation) (g : Generation) (id : ElementId) :
    Generation :=
  match g.declarations.elementType id with
  | none => g
  | some type => if g.declarations.isComplex type then emit g type else g

/-- Generates the record schema of the declarations, with `emit` for the types of top-level
elements. -/
def runWith (emit : Generation → TypeId → Generation) (g : Generation) : Generation :=
  let (g, named) := nameRoots { g with schema := {} } g.declarations.roots.toSorted
  if named then
    let g := g.noteTypes
    (g.declarations.roots.toSorted.map (·.2)).foldl (emitRootWith emit) g
  else g

theorem emitRoot_grows (g : Generation) (id : ElementId) : Extends g (g.emitRoot id) := by
  have steps : Steps g.declarations (fun _ => True) g (g.emitRoot id) :=
    emitRoot_steps ⟨fun _ _ _ => trivial, fun unmarked => unmarked⟩ fun _ _ _ => trivial
  exact steps.grows

theorem foldl_emitRootWith (bottom : Generation → TypeId → Generation) {limit : Nat}
    (ids : List ElementId) {g : Generation} (deep : g.declarations.types.size < limit) :
    ids.foldl (emitRootWith (emitStep^[limit] bottom)) g = ids.foldl emitRoot g := by
  induction ids generalizing g with
  | nil => rfl
  | cons id rest ih =>
    have first : emitRootWith (emitStep^[limit] bottom) g id = g.emitRoot id := by
      unfold emitRootWith emitRoot
      cases g.declarations.elementType id with
      | none => rfl
      | some type => simp only [iterate_emitStep_eq_emitType bottom deep]
    rw [List.foldl_cons, List.foldl_cons, first]
    refine ih ?_
    rw [(emitRoot_grows g id).shape.size]
    exact deep

/-- The emission never calls itself more deeply than there are types: with as many levels and
anything at all below them a run is the same. -/
theorem exists_run_eq_runWith (g : Generation) : ∃ levels, ∀ limit bottom, levels ≤ limit →
    run g = runWith (emitStep^[limit] bottom) g := by
  rcases named : nameRoots { g with schema := {} } g.declarations.roots.toSorted with ⟨m, going⟩
  refine ⟨m.declarations.types.size + 1, fun limit bottom deep => ?_⟩
  unfold run runWith
  simp only [named]
  split
  · refine (foldl_emitRootWith bottom _ ?_).symm
    rw [(noteTypes_keeps m).1]
    exact deep
  · rfl

end XsdRecords.Generation
