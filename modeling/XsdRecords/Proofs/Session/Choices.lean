import XsdRecords.Proofs.Session.Traced
import XsdRecords.Proofs.Session.Typings

/-! # Which types are choices

Every sequence or choice says of the type that it lays out whether this is a choice.  A complex type
may have several groups that are no fields of their own; then the last one decides, and a sequence
after a choice makes a sequence of it. -/

namespace XsdRecords.Session

open XsdRecords.Declaration
open XsdRecords.Markup (StartTag)

variable {s s' : Session}

/-! ## Nodes -/

/-- Whether a node is a group outside skipped content that lays out a type. -/
def Visit.laysOut (v : Visit) (type : TypeId) : Bool :=
  match v.node with
  | .start tag =>
    (tag.kind = .choice || tag.kind = .sequence) && v.session.skipDepth = 0 &&
      (readStart v.session tag v.position).typeStack.head? = some type
  | .stop _ => false

/-- Whether a node is a choice tag. -/
def Visit.isChoice (v : Visit) : Bool :=
  match v.node with
  | .start tag => tag.kind = .choice
  | .stop _ => false

/-- Whether a node is a group that is a field of its own. -/
def Visit.isWrapped (v : Visit) : Bool :=
  match v.node with
  | .start tag =>
    Session.isWrapped (parentTag v.session) (!v.session.elementStack.isEmpty) tag
  | .stop _ => false

/-- A group that is no field of its own stands in the complex type that it lays out. -/
def Visit.StandsIn (v : Visit) (type : TypeId) : Prop :=
  v.isWrapped = false → parentTag v.session = .complexType ∧
    v.session.typeStack.head? = some type

section Node

variable {tag : StartTag} {position : Position}

theorem laysOut_of_other (other : tag.kind ≠ .choice ∧ tag.kind ≠ .sequence) (s : Session)
    (position : Position) (type : TypeId) :
    (Visit.mk s (.start tag) position).laysOut type = false := by
  simp [Visit.laysOut, other]

/-- A start tag outside skipped content says whether the type that it lays out is a choice, and
leaves the others as they are. -/
theorem Lawful.isChoice_readStart (lawful : Lawful s) (reading : s.skipDepth = 0)
    (ok : (readStart s tag position).hasFailed = false) (type : TypeId) :
    let v : Visit := ⟨s, .start tag, position⟩
    ((readStart s tag position).declarations.type type).isChoice =
        (if v.laysOut type then v.isChoice else (s.declarations.type type).isChoice) ∧
      (v.laysOut type = true → v.StandsIn type) := by
  intro v
  have silent (other : tag.kind ≠ .choice ∧ tag.kind ≠ .sequence)
      (same : ((readStart s tag position).declarations.type type).isChoice =
        (s.declarations.type type).isChoice) :
      ((readStart s tag position).declarations.type type).isChoice =
          (if v.laysOut type then v.isChoice else (s.declarations.type type).isChoice) ∧
        (v.laysOut type = true → v.StandsIn type) := by
    have no := laysOut_of_other other s position type
    rw [show v.laysOut type = false from no, same]
    exact ⟨rfl, fun h => by cases h⟩
  cases lawful.typed_readStart reading ok with
  | element isElement own head blank typing known nature =>
    refine silent (by obtain h | h := isElement <;> simp [h]) ?_
    have changed := congrArg Nature.isChoice (nature type)
    split at changed <;> exact changed
  | type isType own typeStack typing nature =>
    refine silent (by obtain h | h := isType <;> simp [h]) ?_
    have changed := congrArg Nature.isChoice (nature type)
    split at changed <;> exact changed
  | group isGroup typed =>
    have lays (own : TypeId) (head : (readStart s tag position).typeStack.head? = some own) :
        v.laysOut type = decide (own = type) := by
      obtain h | h := isGroup <;> simp [v, Visit.laysOut, h, reading, head]
    cases typed with
    | layout unwrapped isOuter own before head typing nature =>
      have changed := congrArg Nature.isChoice (nature type)
      rw [lays own head]
      split at changed
      · rename_i same
        subst same
        exact ⟨by rw [decide_eq_true rfl]; exact changed, fun _ _ => ⟨isOuter, before⟩⟩
      · rename_i apart
        exact ⟨by rw [decide_eq_false apart]; exact changed, fun h =>
          absurd (of_decide_eq_true h) apart⟩
    | field wrapped parent own element before head elements blank typing nature =>
      have changed := congrArg Nature.isChoice (nature type)
      have stands : v.StandsIn type := fun unwrapped => by cases wrapped.symm.trans unwrapped
      rw [lays own head]
      split at changed
      · rename_i same
        subst same
        exact ⟨by rw [decide_eq_true rfl]; exact changed, fun _ => stands⟩
      · rename_i apart
        refine ⟨?_, fun _ => stands⟩
        rw [decide_eq_false apart]
        split at changed <;> exact changed
  | nothing other kept =>
    refine silent ?_ (congrArg Nature.isChoice (kept.nature type))
    constructor <;> exact fun h => other (h ▸ by decide)

end Node

/-- A node says whether the type that it lays out is a choice. -/
theorem Visit.isChoice_after {v : Visit} (lawful : Lawful v.session)
    (ok : v.after.hasFailed = false) (type : TypeId) :
    (v.after.declarations.type type).isChoice =
        (if v.laysOut type then v.isChoice else (v.session.declarations.type type).isChoice) ∧
      (v.laysOut type = true → v.StandsIn type) := by
  have makes := v.makes ok
  generalize v.after.declarations = d at makes ⊢
  cases makes with
  | stop s name position => exact ⟨rfl, fun h => by cases h⟩
  | skipped s tag position skipping =>
    have no : (Visit.mk s (.start tag) position).laysOut type = false := by
      simp [Visit.laysOut, skipping]
    rw [no]
    exact ⟨rfl, fun h => by cases h⟩
  | start s tag position reading started => exact lawful.isChoice_readStart reading started type

/-! ## Runs -/

/-- Whether a type is a choice by what some nodes say of it: the last of them decides. -/
def isChoiceBy (visits : List Visit) (type : TypeId) : Bool :=
  (visits.filter (·.laysOut type)).getLast?.any Visit.isChoice

theorem isChoiceBy_append (visits : List Visit) (v : Visit) (type : TypeId) :
    isChoiceBy (visits ++ [v]) type =
      if v.laysOut type then v.isChoice else isChoiceBy visits type := by
  rw [isChoiceBy, isChoiceBy, List.filter_append]
  by_cases lays : v.laysOut type = true <;> simp [lays]

/-- A session in which a type is a choice if the last node that laid it out was one. -/
structure HasChoices (s : Session) (visits : List Visit) : Prop where
  isChoice (type : TypeId) : (s.declarations.type type).isChoice = isChoiceBy visits type
  stands {v : Visit} (member : v ∈ visits) {type : TypeId} (lays : v.laysOut type = true) :
    v.StandsIn type

theorem HasChoices.untouched {visits : List Visit} (has : HasChoices s visits)
    (same : s'.declarations = s.declarations) : HasChoices s' visits where
  isChoice type := by
    rw [same]
    exact has.isChoice type
  stands := has.stands

theorem HasChoices.after {visits : List Visit} {v : Visit} (has : HasChoices v.session visits)
    (lawful : Lawful v.session) (ok : v.after.hasFailed = false) :
    HasChoices v.after (visits ++ [v]) where
  isChoice type := by
    rw [(v.isChoice_after lawful ok type).1, isChoiceBy_append, has.isChoice]
  stands {w} member {type} lays := by
    obtain earlier | rfl := List.mem_append.1 member |>.imp id List.mem_singleton.1
    · exact has.stands earlier lays
    · exact (w.isChoice_after lawful ok type).2 lays

theorem carried_hasChoices : Carried HasChoices :=
  ⟨.untouched, .after⟩

/-- No type is a choice before anything is read. -/
theorem hasChoices_start (location : String) (allowUnsupported : Bool) :
    HasChoices (Session.start location allowUnsupported) [] where
  isChoice := Declarations.forall_type_initial (P := fun t => t.isChoice = false) rfl
    fun _ _ => rfl
  stands member := by cases member

end XsdRecords.Session
