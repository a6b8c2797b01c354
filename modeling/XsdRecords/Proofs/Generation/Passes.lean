import XsdRecords.Proofs.Declaration.Intact
import XsdRecords.Proofs.Declaration.Lineage
import XsdRecords.Proofs.Generation.Steps

/-! # The passes of a generation

A generation that starts with any declarations, whether it fails or not, names types, copies some of
them, and emits them.  `Pass` lists the single changes; none closes a cycle of bases, and none takes
a name away from a type. -/

namespace XsdRecords.Generation

open XsdRecords.Declaration (Declarations ElementId TypeId Symbol)
open XsdRecords.Layout

/-- One change of a generation. -/
inductive Pass (g : Generation) : Generation → Prop
  | schema (schema : RecordSchema) : Pass g { g with schema }
  | journal (journal : Journal) : Pass g { g with journal }
  | copy (type : TypeId) : Pass g { g with declarations := (g.declarations.cloneType type).1 }
  | retype (id : ElementId) (type : TypeId) (inRange : type.index < g.declarations.types.size) :
      Pass g { g with declarations :=
        g.declarations.modifyElement id fun e => { e with directType := some type } }
  | name (type : TypeId) (symbol : Symbol) :
      Pass g (g.modifyType type fun t => { t with overrideSymbol := some symbol })
  | emit {start : Declarations} {reach : TypeId → Prop} {g' : Generation}
      (step : Step start reach g g') : Pass g g'

/-- Changes one after another. -/
abbrev Passes : Generation → Generation → Prop :=
  Relation.ReflTransGen Pass

variable {g g' : Generation}

/-! ## A generation is a sequence of passes -/

theorem nameRoot_passes (g : Generation) (symbol : Symbol) (id : ElementId) :
    Passes g (g.nameRoot symbol id) := by
  unfold nameRoot
  split
  · exact .refl
  · rename_i type _
    split
    · exact .refl
    · split
      · have inRange : (g.declarations.cloneType type).2.index <
            (g.declarations.cloneType type).1.types.size := by
          simp [Declarations.cloneType, Declarations.addType]
        exact (((Relation.ReflTransGen.single (.copy type)).tail (.retype id _ inRange)).tail
          (.journal _)).tail (.name _ symbol)
      · exact .single (.name type symbol)

theorem nameRoots_passes (g : Generation) (roots : List (Symbol × ElementId)) :
    Passes g (g.nameRoots roots).1 := by
  induction roots generalizing g with
  | nil => exact .refl
  | cons root rest ih =>
    obtain ⟨symbol, id⟩ := root
    unfold nameRoots
    split
    · exact .single (.journal _)
    · exact (nameRoot_passes g symbol id).trans (ih _)

theorem noteTypes_passes (g : Generation) : Passes g g.noteTypes := by
  unfold noteTypes
  generalize g.declarations.typeTable.toSorted = named
  induction named generalizing g with
  | nil => exact .refl
  | cons type rest ih => exact .head (.journal _) (ih _)

theorem Steps.passes {start : Declarations} {reach : TypeId → Prop}
    (steps : Steps start reach g g') : Passes g g' :=
  Relation.ReflTransGen.mono (p := Pass) (fun _ _ step => Pass.emit step) _ _ steps

theorem run_passes (g : Generation) : Passes g g.run := by
  have named := nameRoots_passes { g with schema := {} } g.declarations.roots.toSorted
  unfold run
  split
  rename_i whole _ result
  rw [result] at named
  have named : Passes g whole := .head (.schema {}) named
  split
  · have allows : Allows whole.noteTypes.declarations (fun _ => True) whole.noteTypes :=
      ⟨fun _ _ _ => trivial, fun none => none⟩
    exact (named.trans (noteTypes_passes whole)).trans
      (foldl_emitRoot_steps _ allows fun _ _ _ _ _ => trivial).passes
  · exact named

/-! ## What a pass keeps -/

theorem Pass.wellBased (pass : Pass g g') (wellBased : g.declarations.WellBased) :
    g'.declarations.WellBased := by
  cases pass with
  | schema | journal => exact wellBased
  | copy type => exact wellBased.cloneType type
  | retype id type inRange => exact wellBased.retype id inRange
  | name type symbol => exact wellBased.modifyType type fun _ => rfl
  | emit step =>
    cases step with
    | journal | field | table | orphan => exact wellBased
    | sort type => exact wellBased.modifyType type fun _ => rfl
    | record _ _ marks =>
      rw [marks.declarations]
      exact wellBased.modifyType _ fun _ => rfl
    | enumeration _ marks =>
      rw [marks.declarations]
      exact wellBased.modifyType _ fun _ => rfl

theorem Passes.wellBased (passes : Passes g g') (wellBased : g.declarations.WellBased) :
    g'.declarations.WellBased := by
  induction passes with
  | refl => exact wellBased
  | tail _ pass ih => exact pass.wellBased ih

/-! ## What a pass keeps of the tables

What a pass adds is found under a name that was made up for it.  That is where the documents must
have no names in the namespace of made-up names. -/

section Tables

variable {apart : Prop}

/-- What an emission marks of a type is none of its symbol, its base and its fields. -/
theorem Step.intact {start : Declarations} {reach : TypeId → Prop}
    (step : Step start reach g g') (intact : g.declarations.Intact apart) :
    g'.declarations.Intact apart ∧ g.declarations.Retains g'.declarations := by
  cases step with
  | journal | field | table | orphan => exact ⟨intact, .refl _⟩
  | sort type => exact ⟨intact.sortFields type, g.declarations.retains_modifyType type _⟩
  | record _ _ marks =>
    rw [marks.declarations]
    exact ⟨intact.modifyType _ (fun _ => rfl) fun _ within => ⟨within.base, within.field⟩,
      g.declarations.retains_modifyType _ _⟩
  | enumeration _ marks =>
    rw [marks.declarations]
    exact ⟨intact.modifyType _ (fun _ => rfl) fun _ within => ⟨within.base, within.field⟩,
      g.declarations.retains_modifyType _ _⟩

theorem Pass.intact (pass : Pass g g') (intact : g.declarations.Intact apart) (h : apart) :
    g'.declarations.Intact apart ∧ g.declarations.Retains g'.declarations := by
  cases pass with
  | schema | journal => exact ⟨intact, .refl _⟩
  | copy type => exact ⟨intact.cloneType h type, (intact.minted h).retains_cloneType type⟩
  | retype id type inRange =>
    refine ⟨intact.modifyElement id fun e within => ⟨fun own => ?_, within.reference⟩,
      g.declarations.retains_modifyElement id _⟩
    exact Option.some.inj own ▸ inRange
  | name type symbol =>
    exact ⟨intact.modifyType type (fun _ => rfl) fun _ within => ⟨within.base, within.field⟩,
      g.declarations.retains_modifyType type _⟩
  | emit step => exact step.intact intact

theorem Passes.intact (passes : Passes g g') (intact : g.declarations.Intact apart) (h : apart) :
    g'.declarations.Intact apart ∧ g.declarations.Retains g'.declarations := by
  induction passes with
  | refl => exact ⟨intact, .refl _⟩
  | tail _ pass ih =>
    obtain ⟨here, retains⟩ := ih
    obtain ⟨next, retains'⟩ := pass.intact here h
    exact ⟨next, retains.trans retains'⟩

end Tables

end XsdRecords.Generation
