import XsdRecords.Declaration.Declarations
import XsdRecords.Diagnostic.Problem

/-! # What names stand for

A name stands for a type, or for a top-level element or attribute.  Finding or adding what it stands
for leaves what every other name stands for as it is. -/

namespace XsdRecords.Declaration

/-- What a name may stand for. -/
inductive Referent where
  | type
  /-- A top-level element or attribute. -/
  | root (isAttribute : Bool)
  deriving DecidableEq, Repr

/-- A name that a tag defines or refers to. -/
structure Reference where
  referent : Referent
  symbol : Symbol
  deriving DecidableEq, Repr

/-- The problem that nothing of a name is known. -/
def Reference.unknown (r : Reference) : Problem :=
  match r.referent with
  | .type => .noSuchType r.symbol.localName
  | .root true => .noSuchAttribute r.symbol.localName
  | .root false => .noSuchElement r.symbol.localName

namespace Declarations

/-- The place of what a name stands for. -/
def place? (d : Declarations) (r : Reference) : Option Nat :=
  match r.referent with
  | .type => (d.typeTable.find? r.symbol).map TypeId.index
  | .root true => (d.rootAttributes.find? r.symbol).map ElementId.index
  | .root false => (d.roots.find? r.symbol).map ElementId.index

/-- A name stands for a type, or for a top-level element or attribute that is defined. -/
def Knows (d : Declarations) (r : Reference) : Prop :=
  ∃ place, d.place? r = some place ∧
    (r.referent ≠ .type → (d.element ⟨place⟩).isDefined = true)

/-! ## Names that are added -/

/-- What finding or adding a name makes of the places of names. -/
structure Adds (d d' : Declarations) (r : Reference) (place : Nat) : Prop where
  own : d'.place? r = some place
  other (r' : Reference) : r' ≠ r → d'.place? r' = d.place? r'
  old {place' : Nat} : d.place? r = some place' → place = place'

section

variable {d d' : Declarations} {r r' : Reference} {place place' : Nat}

theorem Adds.keeps (adds : Adds d d' r place) (found : d.place? r' = some place') :
    d'.place? r' = some place' := by
  by_cases same : r' = r
  · subst same
    exact adds.old found ▸ adds.own
  · exact (adds.other r' same).trans found

theorem Adds.of_found (found : d.place? r = some place) : Adds d d r place :=
  ⟨found, fun _ _ => rfl, fun found' => Option.some.inj (found.symm.trans found')⟩

theorem Adds.of_new (new : d.place? r = none)
    (places : ∀ r', d'.place? r' = if r' = r then some place else d.place? r') :
    Adds d d' r place where
  own := (places r).trans (if_pos rfl)
  other r' differs := (places r').trans (if_neg differs)
  old found := by
    rw [new] at found
    cases found

end

theorem place?_addType (d : Declarations) (t : TypeDef) (r : Reference) :
    (d.addType t).1.place? r =
      if r = ⟨.type, t.symbol⟩ then some d.types.size else d.place? r := by
  obtain ⟨referent, symbol⟩ := r
  cases referent with
  | type =>
    by_cases own : symbol = t.symbol <;>
      simp [place?, Declarations.addType, SymbolTable.find?_insert, own]
  | root isAttribute => cases isAttribute <;> simp [place?, Declarations.addType]

theorem adds_findOrAddType (d : Declarations) (symbol : Symbol) :
    Adds d (d.findOrAddType symbol).1 ⟨.type, symbol⟩ (d.findOrAddType symbol).2.1.index := by
  unfold findOrAddType
  split
  · rename_i id found
    exact .of_found (by simp [place?, found])
  · rename_i new
    exact .of_new (by simp [place?, new]) (place?_addType d _)

theorem adds_findOrAddRoot (d : Declarations) (symbol : Symbol) :
    Adds d (d.findOrAddRoot symbol).1 ⟨.root false, symbol⟩ (d.findOrAddRoot symbol).2.index := by
  unfold findOrAddRoot
  split
  · rename_i id found
    exact .of_found (by simp [place?, found])
  · rename_i new
    refine .of_new (by simp [place?, new]) fun r' => ?_
    obtain ⟨_ | _ | _, other⟩ := r' <;> by_cases own : other = symbol <;>
      simp [place?, addElement, SymbolTable.find?_insert, own]

theorem adds_findOrAddRootAttribute (d : Declarations) (symbol : Symbol) :
    Adds d (d.findOrAddRootAttribute symbol).1 ⟨.root true, symbol⟩
      (d.findOrAddRootAttribute symbol).2.index := by
  unfold findOrAddRootAttribute
  split
  · rename_i id found
    exact .of_found (by simp [place?, found])
  · rename_i new
    refine .of_new (by simp [place?, new]) fun r' => ?_
    obtain ⟨_ | _ | _, other⟩ := r' <;> by_cases own : other = symbol <;>
      simp [place?, addElement, SymbolTable.find?_insert, own]

end Declarations

end XsdRecords.Declaration
