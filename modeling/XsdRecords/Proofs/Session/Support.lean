import XsdRecords.Proofs.Declaration.Walk
import XsdRecords.Proofs.Session.OpenElements
import XsdRecords.Proofs.Session.Variants

/-! # Where attributes are supported

An attribute tag is declared before it is looked at whether the innermost open type may have
attributes.  Declaring it has nothing to do with the option, which is what `Indifferent` says of an
action, and leaves open types as they are.  The tag is therefore read if it would be with
unsupported constructs allowed, and the type may have attributes: `readStart_attribute_iff`. -/

namespace XsdRecords.Action

open XsdRecords.Declaration (Declarations Symbol)
open XsdRecords.Session

variable {α β : Type}

/-- An action that neither the option nor the place makes a difference to. -/
def Indifferent (action : Action α) : Prop :=
  ∀ s allowed position, (ExceptT.run action).run (s.variant allowed position) =
    (((ExceptT.run action).run s).1, ((ExceptT.run action).run s).2.variant allowed position)

/-- An action ends without a problem. -/
def Succeeds (action : Action α) (s : Session) : Prop :=
  action.Ends s (fun _ _ => True) fun _ _ => False

/-- What is known of every end without a problem is known if the action has none. -/
theorem Ends.elim {action : Action α} {s : Session} {P : Prop}
    (ends : action.Ends s (fun _ _ => P) fun _ _ => False) : P := by
  unfold Ends at ends
  split at ends
  · exact ends
  · exact ends.elim

/-- A steady action fails a session that had not failed only if it has a problem. -/
theorem Steady.hasFailed_perform_iff {action : Action Unit} (steady : Steady action)
    (s : Session) :
    (s.perform action).hasFailed = false ↔ s.hasFailed = false ∧ action.Succeeds s := by
  have ends := steady s
  unfold Succeeds perform
  unfold Ends at ends ⊢
  split at ends <;> rename_i done <;> simp only [done]
  · rw [ends.1.hasFailed, and_true]
  · rw [hasFailed_report_of_fails _ ends.1]
    simp

theorem Indifferent.ends_iff {action : Action α} (indifferent : Indifferent action) (s : Session)
    (allowed : Bool) (position : Position) {done : α → Session → Prop}
    {failed : Problem → Session → Prop} :
    action.Ends (s.variant allowed position) done failed ↔
      action.Ends s (fun answer m => done answer (m.variant allowed position))
        fun problem m => failed problem (m.variant allowed position) := by
  unfold Ends
  rw [indifferent s allowed position]
  cases (ExceptT.run action).run s with
  | mk result m => cases result <;> rfl

theorem indifferent_pure (answer : α) : Indifferent (pure answer) :=
  fun _ _ _ => rfl

theorem indifferent_throw (problem : Problem) : Indifferent (throw problem : Action α) :=
  fun _ _ _ => rfl

theorem Indifferent.bind {action : Action β} {f : β → Action α} (first : Indifferent action)
    (later : ∀ answer, Indifferent (f answer)) : Indifferent (action >>= f) := by
  intro s allowed position
  simp only [ExceptT.run_bind, StateT.run_bind, first s allowed position]
  cases (ExceptT.run action).run s with
  | mk result m =>
    cases result with
    | error problem => rfl
    | ok answer => exact later answer m allowed position

theorem indifferent_ite {c : Prop} [Decidable c] {yes no : Action α} (ifYes : Indifferent yes)
    (ifNo : Indifferent no) : Indifferent (if c then yes else no) := by
  split
  · exact ifYes
  · exact ifNo

theorem indifferent_check {c : Prop} [Decidable c] (problem : Problem) {f : PUnit → Action α}
    (later : Indifferent (f ⟨⟩)) :
    Indifferent (if c then (throw problem : Action PUnit) >>= f else f ⟨⟩) :=
  indifferent_ite (.bind (indifferent_throw problem) fun _ => later) later

theorem indifferent_get {f : Session → Action α}
    (same : ∀ s allowed position, f (s.variant allowed position) = f s)
    (later : ∀ s, Indifferent (f s)) : Indifferent (get >>= f) := by
  intro s allowed position
  refine Eq.trans ?_ (later s s allowed position)
  rw [← same s allowed position]
  rfl

theorem indifferent_ofExcept (result : Except Problem α) : Indifferent (ofExcept result) := by
  cases result <;> exact fun _ _ _ => rfl

theorem indifferent_declare (c : Declarations → Declarations × α) : Indifferent (declare c) :=
  fun _ _ _ => rfl

theorem indifferent_declarations : Indifferent declarations :=
  fun _ _ _ => rfl

theorem indifferent_findType (symbol : Symbol) : Indifferent (findType symbol) := by
  unfold findType
  refine (indifferent_declare _).bind fun found => indifferent_get (fun _ _ _ => rfl) fun s => ?_
  refine indifferent_check _ (indifferent_declarations.bind fun d => ?_)
  dsimp only
  split
  · exact indifferent_check _ (indifferent_pure _)
  · exact indifferent_pure _

end XsdRecords.Action

namespace XsdRecords.Session

open XsdRecords.Declaration (Declarations ElementId TypeDef TypeId Symbol)
open XsdRecords.Declaration.Declarations (Edits KeepsStems SameBut)
open XsdRecords.Markup (StartTag)
open XsdRecords.Action

/-! ## Declaring an element or attribute -/

theorem indifferent_findRoot (symbol : Symbol) (isAttribute : Bool) :
    Indifferent (findRoot symbol isAttribute) := by
  unfold findRoot
  exact indifferent_ite (indifferent_declare _) (indifferent_declare _)

theorem indifferent_openElement (isTopLevel isAttribute : Bool) (name : String) :
    Indifferent (openElement isTopLevel isAttribute name) := by
  unfold openElement
  refine indifferent_ite (indifferent_get (fun _ _ _ => rfl) fun s => ?_) fun _ _ _ => rfl
  refine (indifferent_findRoot _ _).bind fun id => indifferent_declarations.bind fun d => ?_
  exact indifferent_check _ fun _ _ _ => rfl

theorem indifferent_referTo (id : ElementId) (symbol : Symbol) (isTopLevel isAttribute : Bool) :
    Indifferent (referTo id symbol isTopLevel isAttribute) := by
  unfold referTo
  refine indifferent_check _ ((indifferent_findRoot _ _).bind fun referenced => ?_)
  refine indifferent_declarations.bind fun d => indifferent_get (fun _ _ _ => rfl) fun s => ?_
  exact indifferent_check _ fun _ _ _ => rfl

theorem indifferent_resolveElement (id : ElementId) (tag : StartTag) (name : String)
    (isTopLevel isAttribute : Bool) :
    Indifferent (resolveElement id tag name isTopLevel isAttribute) := by
  unfold resolveElement
  refine indifferent_get (fun _ _ _ => rfl) fun s => ?_
  split
  · exact indifferent_referTo _ _ _ _
  · dsimp only
    split
    · exact (indifferent_findType _).bind fun type _ _ _ => rfl
    · exact indifferent_pure name

theorem indifferent_declareElement (tag : StartTag) (isAttribute isTopLevel : Bool) :
    Indifferent (declareElement tag isAttribute isTopLevel) := by
  unfold declareElement
  refine (indifferent_openElement _ _ _).bind fun id => ?_
  refine Indifferent.bind (fun _ _ _ => rfl) fun _ => ?_
  refine (indifferent_resolveElement _ _ _ _ _).bind fun name => indifferent_check _ ?_
  refine (indifferent_ofExcept _).bind fun form => Indifferent.bind (fun _ _ _ => rfl) fun _ => ?_
  exact indifferent_check _ (indifferent_pure _)

/-- Edits that change no type that there was keep the stems of types. -/
theorem keepsStems_of_edits {d d' : Declarations} (edits : Edits d d') {elements : List ElementId}
    (same : SameBut [] elements d d') : KeepsStems d d' :=
  ⟨edits.size_types_le, fun _ => TypeDef.get_of_body TypeDef.stem (fun _ => rfl)
    (same.type List.not_mem_nil)⟩

/-- Until an element is added to a type, no type that there was is changed. -/
theorem declareElement_keepsStems {s : Session} (lawful : Lawful s) (tag : StartTag)
    (isAttribute isTopLevel : Bool) :
    (declareElement tag isAttribute isTopLevel).Ends s
      (fun _ m => m.typeStack = s.typeStack ∧ KeepsStems s.declarations m.declarations) Fails := by
  refine (declareElement_ends lawful tag isAttribute isTopLevel).imp_done ?_
  rintro declared m ⟨-, form, opened, resolved, declares, rfl⟩
  have keeps := keepsStems_of_edits declares.opens.edits declares.same
  exact ⟨declares.opens.typeStack, keeps.size, keeps.stem⟩

/-! ## Attributes of types -/

/-- Whether a type may not have attributes. -/
def refusesAttributes (d : Declarations) (type : TypeId) : Bool :=
  d.isChoice type || (d.elemType type).isScalar

theorem addToType_succeeds_iff {s : Session} {type : TypeId}
    (inner : s.typeStack.head? = some type) (id : ElementId) (name : String) :
    (addToType id name true).Succeeds s ↔
      (s.allowUnsupported = false → refusesAttributes s.declarations type = false) := by
  obtain ⟨rest, opened⟩ := List.head?_eq_some_iff.1 inner
  simp only [Succeeds, addToType, ends_bind, ends_get, opened, ends_ite, ends_throw,
    ends_setDeclarations]
  cases s.allowUnsupported <;> simp [refusesAttributes]

/-- An attribute of a type is read if it would be with the option, and if the type may have
attributes. -/
theorem startElement_attribute_iff {s : Session} (lawful : Lawful s)
    (strict : s.allowUnsupported = false) {type : TypeId}
    (inner : s.typeStack.head? = some type) (tag : StartTag) :
    (startElement tag true).Succeeds s ↔
      (startElement tag true).Succeeds (s.variant true s.position) ∧
        refusesAttributes s.declarations type = false := by
  have isInner (allowed : Bool) : (s.variant allowed s.position).typeStack.isEmpty = false := by
    obtain ⟨rest, opened⟩ := List.head?_eq_some_iff.1 inner
    change s.typeStack.isEmpty = false
    rw [opened, List.isEmpty_cons]
  have succeeds (allowed : Bool) :
      (startElement tag true).Succeeds (s.variant allowed s.position) ↔
        (declareElement tag true false).Ends s (fun declared m => (addToType declared.1 declared.2
          true).Succeeds (m.variant allowed s.position)) fun _ _ => False := by
    rw [startElement_eq, Succeeds]
    simp only [ends_bind, ends_get, isInner, Bool.not_false, if_true]
    exact (indifferent_declareElement tag true false).ends_iff s allowed s.position
  have self : s.variant false s.position = s := by rw [← strict, variant_self]
  have declared : (declareElement tag true false).Ends s (fun _ m =>
      m.typeStack.head? = some type ∧ refusesAttributes m.declarations type =
        refusesAttributes s.declarations type) Fails := by
    refine (declareElement_keepsStems lawful tag true false).imp_done ?_
    rintro - m ⟨typeStack, keeps⟩
    have bound := lawful.openType (List.mem_of_mem_head? inner)
    have bases := lawful.inRange.bases
    refine ⟨typeStack ▸ inner, ?_⟩
    rw [refusesAttributes, keeps.isChoice bases bound (keeps.stem bound),
      keeps.elemType bases bound (keeps.stem bound), refusesAttributes]
  have gate (allowed : Bool) {m : Session} (open_ : m.typeStack.head? = some type)
      (d : ElementId × String) :
      (addToType d.1 d.2 true).Succeeds (m.variant allowed s.position) ↔
        (allowed = false → refusesAttributes m.declarations type = false) :=
    addToType_succeeds_iff (s := m.variant allowed s.position) open_ d.1 d.2
  rw [← self, succeeds, self, succeeds]
  constructor
  · intro ends
    refine ⟨(declared.and ends).imp (fun d m h => ?_) fun _ _ h => h.2,
      ((declared.and ends).imp (fun d m h => ?_) fun _ _ h => h.2).elim⟩
    · exact (gate true h.1.1 d).2 fun none => by cases none
    · rw [← h.1.2]
      exact (gate false h.1.1 d).1 h.2 rfl
  · rintro ⟨ends, may⟩
    refine (declared.and ends).imp (fun d m h => ?_) fun _ _ h => h.2
    exact (gate false h.1.1 d).2 fun _ => h.1.2.trans may

/-! ## Reading an attribute tag -/

/-- A start tag is read without a failure if it is known, may stand where it does, and what it does
is done. -/
theorem hasFailed_readStart_iff {s : Session} (reading : s.skipDepth = 0) (tag : StartTag)
    (position : Position) :
    (readStart s tag position).hasFailed = false ↔
      findTag s tag = .ok tag.kind ∧ (parentTag s).allows tag.kind = true ∧ s.hasFailed = false ∧
        (startAction tag.kind tag).Succeeds (noteAttributes
          { s with position, tagStack := tag.kind :: s.tagStack } tag.kind tag) := by
  have kept : (noteAttributes { s with position, tagStack := tag.kind :: s.tagStack } tag.kind
      tag).hasFailed = s.hasFailed :=
    hasFailed_of_setting (setting_noteAttributes _ _ _)
  have performed := (steady_startAction tag.kind tag).hasFailed_perform_iff (noteAttributes
    { s with position, tagStack := tag.kind :: s.tagStack } tag.kind tag)
  rw [kept] at performed
  rw [← performed]
  constructor
  · intro ok
    refine ⟨?_, (readStart_eq_of_ok ok).1, readStart_eq_perform reading ok ▸ ok⟩
    cases found : findTag s tag with
    | ok kind => rw [kind_of_findTag found]
    | error problem =>
      have refused : readStart s tag position = ({ s with position } : Session).report problem :=
        startTag_of_unknown (s := { s with position }) found
      rw [refused, hasFailed_report_of_fails _ (isFailure_of_findTag found)] at ok
      cases ok
  · rintro ⟨found, allows, ok⟩
    have entered : readStart s tag position = enterTag tag.kind tag { s with position } :=
      startTag_of_allowed (s := { s with position }) found (if_pos allows)
    have enters : enterTag tag.kind tag { s with position } = (noteAttributes
        { s with position, tagStack := tag.kind :: s.tagStack } tag.kind tag).perform
          (startAction tag.kind tag) :=
      if_neg (by rw [reading]; exact Nat.lt_irrefl 0)
    rw [entered, enters]
    exact ok

/-- Without the option, an attribute tag is read in a type if it would be with the option, and if the
type may have attributes. -/
theorem readStart_attribute_iff {s : Session} (lawful : Lawful s) (reading : s.skipDepth = 0)
    (strict : s.allowUnsupported = false) {type : TypeId}
    (inner : s.typeStack.head? = some type) {tag : StartTag}
    (isAttribute : tag.kind = .attributeTag) (position : Position) :
    (readStart s tag position).hasFailed = false ↔
      (readStart (s.variant true s.position) tag position).hasFailed = false ∧
        refusesAttributes s.declarations type = false := by
  let entered (s : Session) : Session :=
    noteAttributes { s with position, tagStack := tag.kind :: s.tagStack } tag.kind tag
  have marks : Marks tag.kind s (entered s) := marks_noteAttributes s position tag.kind tag
  have quiet := goesOn_noteAttributes tag.kind tag
    { s with position, tagStack := tag.kind :: s.tagStack }
  have alike : entered (s.variant true s.position) =
      (entered s).variant true (entered s).position := by
    refine (quiet.2 true position fun _ => rfl).trans ?_
    exact congrArg (variant _ true) quiet.1.position.symm
  have action : startAction tag.kind tag = startElement tag true := by
    rw [isAttribute]
    rfl
  have gate := startElement_attribute_iff (marks.lawful lawful)
    (quiet.1.allowUnsupported.trans strict) (marks.typeStack ▸ inner) tag
  rw [marks.declarations] at gate
  rw [hasFailed_readStart_iff reading, hasFailed_readStart_iff (s := s.variant true s.position)
    reading, action]
  change _ ∧ _ ∧ _ ∧ (startElement tag true).Succeeds (entered s) ↔
    (findTag s tag = _ ∧ (parentTag s).allows _ = true ∧ s.hasFailed = false ∧
      (startElement tag true).Succeeds (entered (s.variant true s.position))) ∧ _
  rw [alike, gate]
  simp only [and_assoc]

end XsdRecords.Session
