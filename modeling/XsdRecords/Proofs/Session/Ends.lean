import XsdRecords.Session.Reading

/-! # How actions end

`Ends` tells how an action ends from a state.  The equations of this module compute it along the
steps of an action, so that a proof about an action meets only the branches of its text. -/

namespace XsdRecords.Action

open XsdRecords.Declaration (Declarations ElementId TypeId Element TypeDef)

variable {α β : Type}

/-- An action ends with an answer and a state of which `done` holds, or with a problem and a state
of which `failed` holds. -/
def Ends (action : Action α) (s : Session) (done : α → Session → Prop)
    (failed : Problem → Session → Prop) : Prop :=
  match (ExceptT.run action).run s with
  | (.ok answer, s') => done answer s'
  | (.error problem, s') => failed problem s'

variable {s : Session} {done : α → Session → Prop} {failed : Problem → Session → Prop}

theorem Ends.imp {action : Action α} {done' : α → Session → Prop}
    {failed' : Problem → Session → Prop} (ends : Ends action s done failed)
    (onDone : ∀ answer s', done answer s' → done' answer s')
    (onFailed : ∀ problem s', failed problem s' → failed' problem s') :
    Ends action s done' failed' := by
  unfold Ends at *
  split at ends
  · exact onDone _ _ ends
  · exact onFailed _ _ ends

/-- What is known of the end with a problem stays. -/
theorem Ends.imp_done {action : Action α} {done' : α → Session → Prop}
    (ends : Ends action s done failed) (onDone : ∀ answer s', done answer s' → done' answer s') :
    Ends action s done' failed :=
  ends.imp onDone fun _ _ h => h

theorem Ends.and {action : Action α} {done' : α → Session → Prop}
    {failed' : Problem → Session → Prop} (first : Ends action s done failed)
    (second : Ends action s done' failed') :
    Ends action s (fun answer s' => done answer s' ∧ done' answer s')
      (fun problem s' => failed problem s' ∧ failed' problem s') := by
  unfold Ends at *
  split at first <;> simp_all

/-- What is known of every end of an action may be used where it ends with an answer. -/
theorem Ends.mp {action : Action α} {known : α → Session → Prop}
    {known' : Problem → Session → Prop} (before : Ends action s known known')
    (ends : Ends action s (fun answer s' => known answer s' → done answer s') failed) :
    Ends action s done failed :=
  (before.and ends).imp (fun _ _ h => h.2 h.1) fun _ _ h => h.2

@[simp] theorem ends_pure (answer : α) : Ends (pure answer) s done failed ↔ done answer s :=
  Iff.rfl

@[simp] theorem ends_throw (problem : Problem) :
    Ends (throw problem : Action α) s done failed ↔ failed problem s :=
  Iff.rfl

@[simp] theorem ends_bind {action : Action β} {next : β → Action α} :
    Ends (action >>= next) s done failed ↔
      Ends action s (fun answer s' => Ends (next answer) s' done failed) failed := by
  simp only [Ends, ExceptT.run_bind, StateT.run_bind]
  cases h : (ExceptT.run action).run s with
  | mk result s' => cases result <;> rfl

@[simp] theorem ends_get {done : Session → Session → Prop} :
    Ends get s done failed ↔ done s s :=
  Iff.rfl

@[simp] theorem ends_set {s' : Session} {done : PUnit → Session → Prop} :
    Ends (set s' : Action PUnit) s done failed ↔ done ⟨⟩ s' :=
  Iff.rfl

@[simp] theorem ends_modify {change : Session → Session} {done : PUnit → Session → Prop} :
    Ends (modify change : Action PUnit) s done failed ↔ done ⟨⟩ (change s) :=
  Iff.rfl

@[simp] theorem ends_ite {c : Prop} [Decidable c] {yes no : Action α} :
    Ends (if c then yes else no) s done failed ↔
      if c then Ends yes s done failed else Ends no s done failed := by
  split <;> rfl

theorem ends_ofExcept {result : Except Problem α} :
    Ends (ofExcept result) s done failed ↔
      match result with
      | .ok answer => done answer s
      | .error problem => failed problem s := by
  cases result <;> rfl

/-! ## The steps of an action -/

@[simp] theorem ends_note {e : Event} {done : Unit → Session → Prop} :
    Ends (note e) s done failed ↔ done () (s.note e) :=
  Iff.rfl

@[simp] theorem ends_declarations {done : Declarations → Session → Prop} :
    Ends declarations s done failed ↔ done s.declarations s :=
  Iff.rfl

@[simp] theorem ends_setDeclarations {d : Declarations} {done : Unit → Session → Prop} :
    Ends (setDeclarations d) s done failed ↔ done () { s with declarations := d } :=
  Iff.rfl

@[simp] theorem ends_modifyElement {id : ElementId} {f : Element → Element}
    {done : Unit → Session → Prop} :
    Ends (modifyElement id f) s done failed ↔
      done () { s with declarations := s.declarations.modifyElement id f } :=
  Iff.rfl

@[simp] theorem ends_modifyType {id : TypeId} {f : TypeDef → TypeDef}
    {done : Unit → Session → Prop} :
    Ends (modifyType id f) s done failed ↔
      done () { s with declarations := s.declarations.modifyType id f } :=
  Iff.rfl

@[simp] theorem ends_declare {change : Declarations → Declarations × α} :
    Ends (declare change) s done failed ↔
      done (change s.declarations).2 { s with declarations := (change s.declarations).1 } :=
  Iff.rfl

@[simp] theorem ends_pushElement {id : ElementId} {done : Unit → Session → Prop} :
    Ends (pushElement id) s done failed ↔ done () { s with elementStack := id :: s.elementStack } :=
  Iff.rfl

@[simp] theorem ends_pushType {id : TypeId} {done : Unit → Session → Prop} :
    Ends (pushType id) s done failed ↔ done () { s with typeStack := id :: s.typeStack } :=
  Iff.rfl

@[simp] theorem ends_skipContent {done : Unit → Session → Prop} :
    Ends skipContent s done failed ↔ done () { s with skipDepth := s.skipDepth + 1 } :=
  Iff.rfl

end XsdRecords.Action

namespace XsdRecords.Session

/-- What holds after an action is performed: a problem is reported. -/
theorem perform_of_ends {s : Session} {action : Action Unit} {P : Session → Prop}
    (ends : action.Ends s (fun _ s' => P s') (fun problem s' => P (s'.report problem))) :
    P (s.perform action) := by
  unfold Action.Ends at ends
  unfold perform
  split at ends <;> rename_i h <;> rw [h] <;> exact ends

end XsdRecords.Session
