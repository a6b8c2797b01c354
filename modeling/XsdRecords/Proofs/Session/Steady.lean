import XsdRecords.Proofs.Diagnostic.Journal
import XsdRecords.Proofs.Session.Scoping

/-! # Actions that do not look where they are

No action reads the place of its tag or the diagnostic, and whether unsupported constructs are
allowed matters only to actions that have a problem with them otherwise.  `Steady` says so of two
runs at once: what an action does in a session it does in every variant of it, and what it leaves
alone is `Quiet`.  Sequences of steady actions are steady, so that each action is taken apart along
its text. -/

namespace XsdRecords

open XsdRecords.Declaration (Declarations ElementId TypeId Element TypeDef Symbol)
open XsdRecords.Markup (StartTag)
open XsdRecords.Vocabulary (Tag)

namespace Session

/-- A session with another option and at another place. -/
def variant (s : Session) (allowed : Bool) (position : Position) : Session :=
  { s with allowUnsupported := allowed, position }

@[simp] theorem elementStack_variant (s : Session) (allowed : Bool) (position : Position) :
    (s.variant allowed position).elementStack = s.elementStack := rfl

@[simp] theorem declarations_variant (s : Session) (allowed : Bool) (position : Position) :
    (s.variant allowed position).declarations = s.declarations := rfl

/-- What every action leaves as it is. -/
structure Quiet (s s' : Session) : Prop where
  allowUnsupported : s'.allowUnsupported = s.allowUnsupported
  position : s'.position = s.position
  reports : s'.journal.reports = s.journal.reports
  diagnostic : s'.journal.diagnostic = s.journal.diagnostic
  located : s.IsInDocument → s'.IsInDocument ∧
    s'.worklist.currentEntry.location = s.worklist.currentEntry.location

variable {s s' s'' : Session}

theorem Quiet.refl (s : Session) : Quiet s s :=
  ⟨rfl, rfl, rfl, rfl, fun inside => ⟨inside, rfl⟩⟩

theorem Quiet.trans (first : Quiet s s') (second : Quiet s' s'') : Quiet s s'' where
  allowUnsupported := second.allowUnsupported.trans first.allowUnsupported
  position := second.position.trans first.position
  reports := second.reports.trans first.reports
  diagnostic := second.diagnostic.trans first.diagnostic
  located inside := by
    obtain ⟨here, location⟩ := first.located inside
    exact ⟨(second.located here).1, (second.located here).2.trans location⟩

/-- Where the journal reports nothing new and the documents are the same. -/
theorem Quiet.ofWorklist (allowUnsupported : s'.allowUnsupported = s.allowUnsupported)
    (position : s'.position = s.position) (reports : s'.journal.reports = s.journal.reports)
    (diagnostic : s'.journal.diagnostic = s.journal.diagnostic)
    (worklist : s'.worklist = s.worklist) : Quiet s s' :=
  ⟨allowUnsupported, position, reports, diagnostic, fun inside => by
    rw [IsInDocument, worklist]
    exact ⟨inside, rfl⟩⟩

theorem Quiet.hasFailed (quiet : Quiet s s') : s'.hasFailed = s.hasFailed :=
  congrArg Diagnostic.isFailure quiet.diagnostic

end Session

namespace Action

open XsdRecords.Session

variable {α β : Type}

/-- An action leaves alone what every action does, and does the same in all variants of a session:
if it has no problem, in all that allow as much, and if it has one, in all that allow the same. -/
def Steady (action : Action α) : Prop :=
  ∀ s, action.Ends s
    (fun answer s' => Quiet s s' ∧ ∀ allowed position,
      (s.allowUnsupported = true → allowed = true) →
        (ExceptT.run action).run (s.variant allowed position) =
          (.ok answer, s'.variant allowed position))
    fun problem s' => problem.severity.isFailure = true ∧ Quiet s s' ∧ ∀ position,
      (ExceptT.run action).run (s.variant s.allowUnsupported position) =
        (.error problem, s'.variant s.allowUnsupported position)

/-! ## Steps and sequences of steps -/

theorem steady_pure (answer : α) : Steady (pure answer) :=
  fun s => ⟨.refl s, fun _ _ _ => rfl⟩

theorem steady_throw {problem : Problem} (isFailure : problem.severity.isFailure = true) :
    Steady (throw problem : Action α) :=
  fun s => ⟨isFailure, .refl s, fun _ => rfl⟩

theorem Steady.bind {action : Action β} {f : β → Action α} (first : Steady action)
    (later : ∀ answer, Steady (f answer)) : Steady (action >>= f) := by
  intro s
  rw [ends_bind]
  refine (first s).imp (fun answer m ⟨quiet, follows⟩ => ?_)
    fun problem m ⟨isFailure, quiet, follows⟩ => ⟨isFailure, quiet, fun position => ?_⟩
  · refine (later answer m).imp (fun answer' s' ⟨quiet', follows'⟩ => ⟨quiet.trans quiet', ?_⟩)
      fun problem s' ⟨isFailure, quiet', follows'⟩ => ⟨isFailure, quiet.trans quiet', ?_⟩
    · intro allowed position allows
      simp only [ExceptT.run_bind, StateT.run_bind, follows allowed position allows]
      exact follows' allowed position (quiet.allowUnsupported ▸ allows)
    · intro position
      simp only [ExceptT.run_bind, StateT.run_bind, follows _ position id]
      rw [quiet.allowUnsupported] at follows'
      exact follows' position
  · simp only [ExceptT.run_bind, StateT.run_bind, follows position]
    rfl

theorem steady_ite {c : Prop} [Decidable c] {yes no : Action α} (ifYes : Steady yes)
    (ifNo : Steady no) : Steady (if c then yes else no) := by
  split
  · exact ifYes
  · exact ifNo

/-- A check that throws before what follows it. -/
theorem steady_check {c : Prop} [Decidable c] {problem : Problem} {f : PUnit → Action α}
    (isFailure : problem.severity.isFailure = true) (later : Steady (f ⟨⟩)) :
    Steady (if c then (throw problem : Action PUnit) >>= f else f ⟨⟩) :=
  steady_ite (.bind (steady_throw isFailure) fun _ => later) later

theorem steady_ofExcept {result : Except Problem α}
    (isFailure : ∀ problem, result = .error problem → problem.severity.isFailure = true) :
    Steady (ofExcept result) := by
  cases result with
  | ok answer => exact steady_pure answer
  | error problem => exact steady_throw (isFailure problem rfl)

/-- Reading a state, where what is made of it is the same for all variants. -/
theorem steady_get {f : Session → Action α}
    (same : ∀ s allowed position, f (s.variant allowed position) = f s)
    (later : ∀ s, Steady (f s)) : Steady (get >>= f) := by
  intro s
  rw [ends_bind, ends_get]
  have reads (allowed : Bool) (position : Position) :
      (ExceptT.run (get >>= f : Action α)).run (s.variant allowed position) =
        (ExceptT.run (f s)).run (s.variant allowed position) := by
    rw [← same s allowed position]
    rfl
  simp only [reads]
  exact later s s

/-- Changing a state, where variants are changed alike. -/
theorem steady_modify {c : Session → Session} (quiet : ∀ s, Quiet s (c s))
    (same : ∀ s allowed position,
      c (s.variant allowed position) = (c s).variant allowed position) :
    Steady (modify c) := by
  intro s
  refine ⟨quiet s, fun allowed position _ => ?_⟩
  rw [← same]
  rfl

/-- Reading a state and changing it before something else is done. -/
theorem steady_update {c : Session → Session} {f : Session → Action α}
    (quiet : ∀ s, Quiet s (c s))
    (alike : ∀ s allowed position,
      c (s.variant allowed position) = (c s).variant allowed position)
    (same : ∀ s allowed position, f (s.variant allowed position) = f s)
    (later : ∀ s, Steady (f s)) :
    Steady (get >>= fun s => set (c s) >>= fun _ => f s) := by
  have eq : (get >>= fun s => set (c s) >>= fun _ => f s : Action α) =
      get >>= fun s => modify c >>= fun _ => f s := rfl
  rw [eq]
  refine steady_get (fun s allowed position => by rw [same]) fun s => ?_
  exact (steady_modify quiet alike).bind fun _ => later s

theorem steady_note {e : Event} (other : e.report? = none) : Steady (note e) :=
  steady_modify (fun _ => .ofWorklist rfl rfl (Journal.reports_note_of_other other) rfl rfl)
    fun _ _ _ => rfl

/-- Looking at the option, where what is done without a problem if less is allowed is also done if
more is. -/
theorem steady_option {f : Bool → Action α} (each : ∀ allowed, Steady (f allowed))
    (more : ∀ s answer s', (ExceptT.run (f false)).run s = (.ok answer, s') →
      (ExceptT.run (f true)).run s = (.ok answer, s')) :
    Steady (get >>= fun s => f s.allowUnsupported) := by
  intro s
  rw [ends_bind, ends_get]
  have reads (allowed : Bool) (position : Position) :
      (ExceptT.run (get >>= fun s => f s.allowUnsupported : Action α)).run
          (s.variant allowed position) =
        (ExceptT.run (f allowed)).run (s.variant allowed position) := rfl
  simp only [reads]
  refine (each s.allowUnsupported s).imp (fun answer s' ⟨quiet, follows⟩ => ⟨quiet, ?_⟩)
    fun problem s' failed => failed
  intro allowed position allows
  have same := follows allowed position allows
  -- Only a variant that allows more than the session does something else.
  cases less : s.allowUnsupported with
  | true =>
    obtain rfl := allows less
    rwa [less] at same
  | false =>
    rw [less] at same
    cases allowed with
    | false => exact same
    | true => exact more _ _ _ same

theorem steady_declarations : Steady declarations :=
  steady_get (fun _ _ _ => rfl) fun _ => steady_pure _

theorem steady_setDeclarations (d : Declarations) : Steady (setDeclarations d) :=
  steady_modify (fun _ => .ofWorklist rfl rfl rfl rfl rfl) fun _ _ _ => rfl

theorem steady_modifyElement (id : ElementId) (f : Element → Element) :
    Steady (modifyElement id f) :=
  steady_modify (fun _ => .ofWorklist rfl rfl rfl rfl rfl) fun _ _ _ => rfl

theorem steady_modifyType (id : TypeId) (f : TypeDef → TypeDef) : Steady (modifyType id f) :=
  steady_modify (fun _ => .ofWorklist rfl rfl rfl rfl rfl) fun _ _ _ => rfl

theorem steady_declare (c : Declarations → Declarations × α) : Steady (declare c) :=
  steady_declarations.bind fun _ => (steady_setDeclarations _).bind fun _ => steady_pure _

theorem steady_pushElement (id : ElementId) : Steady (pushElement id) :=
  steady_modify (fun _ => .ofWorklist rfl rfl rfl rfl rfl) fun _ _ _ => rfl

theorem steady_pushType (id : TypeId) : Steady (pushType id) :=
  steady_modify (fun _ => .ofWorklist rfl rfl rfl rfl rfl) fun _ _ _ => rfl

theorem steady_skipContent : Steady skipContent :=
  steady_modify (fun _ => .ofWorklist rfl rfl rfl rfl rfl) fun _ _ _ => rfl

theorem steady_findType (symbol : Symbol) : Steady (findType symbol) := by
  unfold findType
  refine (steady_declare _).bind fun found => steady_get (fun _ _ _ => rfl) fun s => ?_
  refine steady_check rfl (steady_declarations.bind fun d => ?_)
  dsimp only
  split
  · exact steady_check rfl (steady_pure _)
  · exact steady_pure _

end Action

namespace Session

open XsdRecords.Action

/-! ## Elements and attributes -/

theorem steady_findRoot (symbol : Symbol) (isAttribute : Bool) :
    Steady (findRoot symbol isAttribute) := by
  unfold findRoot
  exact steady_ite (steady_declare _) (steady_declare _)

theorem steady_openElement (isTopLevel isAttribute : Bool) (name : String) :
    Steady (openElement isTopLevel isAttribute name) := by
  unfold openElement
  refine steady_ite (steady_get (fun _ _ _ => rfl) fun s => ?_) ?_
  · refine (steady_findRoot _ _).bind fun id => steady_declarations.bind fun d => ?_
    refine steady_check (by cases isAttribute <;> rfl) ?_
    exact (steady_pushElement id).bind fun _ => steady_pure id
  · exact (steady_declare _).bind fun id => (steady_pushElement id).bind fun _ => steady_pure id

theorem steady_referTo (id : ElementId) (symbol : Symbol) (isTopLevel isAttribute : Bool) :
    Steady (referTo id symbol isTopLevel isAttribute) := by
  unfold referTo
  refine steady_check (by cases isAttribute <;> rfl) ?_
  refine (steady_findRoot _ _).bind fun referenced => steady_declarations.bind fun d => ?_
  refine steady_get (fun _ _ _ => rfl) fun s => ?_
  refine steady_check (by cases isAttribute <;> rfl) ?_
  exact (steady_modifyElement _ _).bind fun _ => steady_pure _

theorem steady_resolveElement (id : ElementId) (tag : StartTag) (name : String)
    (isTopLevel isAttribute : Bool) :
    Steady (resolveElement id tag name isTopLevel isAttribute) := by
  unfold resolveElement
  refine steady_get (fun _ _ _ => rfl) fun s => ?_
  split
  · exact steady_referTo _ _ _ _
  · dsimp only
    split
    · exact (steady_findType _).bind fun type =>
        (steady_modifyElement _ _).bind fun _ => steady_pure name
    · exact steady_pure name

/-- Adding an element to the fields of the innermost open type, the option being given. -/
def addToTypeWith (id : ElementId) (name : String) (isAttribute allowed : Bool) : Action Unit := do
  let s ← get
  match s.typeStack with
  | [] => return
  | parent :: _ =>
    if isAttribute && !allowed
        && (s.declarations.isChoice parent || (s.declarations.elemType parent).isScalar) then
      throw .attributeNotSupported
    Action.setDeclarations (s.declarations.addField parent name id)

theorem steady_addToTypeWith (id : ElementId) (name : String) (isAttribute allowed : Bool) :
    Steady (addToTypeWith id name isAttribute allowed) := by
  unfold addToTypeWith
  refine steady_get (fun _ _ _ => rfl) fun s => ?_
  split
  · exact steady_pure _
  · exact steady_check rfl (steady_setDeclarations _)

theorem steady_addToType (id : ElementId) (name : String) (isAttribute : Bool) :
    Steady (addToType id name isAttribute) := by
  refine steady_option (f := addToTypeWith id name isAttribute)
    (steady_addToTypeWith id name isAttribute) fun s answer s' done => ?_
  have reads (allowed : Bool) : (ExceptT.run (addToTypeWith id name isAttribute allowed)).run s =
      (ExceptT.run (match s.typeStack with
        | [] => (pure () : Action Unit)
        | parent :: _ =>
          if isAttribute && !allowed
              && (s.declarations.isChoice parent || (s.declarations.elemType parent).isScalar) then
            (throw .attributeNotSupported : Action PUnit) >>= fun _ =>
              setDeclarations (s.declarations.addField parent name id)
          else setDeclarations (s.declarations.addField parent name id))).run s := rfl
  rw [reads] at done ⊢
  split at done
  · exact done
  · rw [Bool.not_true, Bool.and_false, Bool.false_and, if_neg Bool.false_ne_true]
    split at done
    · cases done
    · exact done

theorem steady_elementForm (tag : StartTag) (isAttribute : Bool) :
    Steady (ofExcept (ElementForm.read tag isAttribute)) :=
  steady_ofExcept fun _ failed => (ElementForm.isOfValue_of_read failed).isLocal.isFailure

theorem steady_startElement (tag : StartTag) (isAttribute : Bool) :
    Steady (startElement tag isAttribute) := by
  unfold startElement
  refine steady_get (fun _ _ _ => rfl) fun s => ?_
  refine (steady_openElement _ _ _).bind fun id => (steady_note rfl).bind fun _ => ?_
  refine (steady_resolveElement _ _ _ _ _).bind fun name => steady_check rfl ?_
  refine (steady_elementForm tag isAttribute).bind fun form => ?_
  refine (steady_modifyElement _ _).bind fun _ => steady_check rfl ?_
  exact steady_ite (steady_addToType _ _ _) (steady_pure _)

/-- The end of an element in the session that it looks at. -/
theorem run_endElement (s : Session) : (ExceptT.run endElement).run s =
    match s.elementStack with
    | [] => (.ok (), s)
    | id :: rest =>
      if (s.declarations.element id).isDefined then (.ok (), { s with elementStack := rest })
      else (.error .undefinedElement, s) := by
  have reads : (ExceptT.run endElement).run s =
      (ExceptT.run (match s.elementStack with
        | [] => (pure () : Action Unit)
        | id :: rest =>
          if !(s.declarations.element id).isDefined then
            (throw .undefinedElement : Action PUnit) >>= fun _ =>
              set { s with elementStack := rest }
          else set { s with elementStack := rest })).run s := rfl
  rw [reads]
  split
  · rfl
  · cases (s.declarations.element _).isDefined <;> rfl

theorem steady_endElement : Steady endElement := by
  intro s
  unfold Ends
  simp only [run_endElement, elementStack_variant, declarations_variant]
  cases s.elementStack with
  | nil => exact ⟨.refl s, fun _ _ _ => rfl⟩
  | cons id rest =>
    cases isDefined : (s.declarations.element id).isDefined with
    | true =>
      simp only [isDefined, if_true]
      exact ⟨.ofWorklist rfl rfl rfl rfl rfl, fun _ _ _ => rfl⟩
    | false =>
      simp only [isDefined, Bool.false_eq_true, if_false]
      exact ⟨rfl, .refl s, fun _ => trivial⟩

/-! ## Types, groups and derivations -/

theorem steady_openType (name : String) : Steady (openType name) := by
  unfold openType
  refine steady_get (fun _ _ _ => rfl) fun s => ?_
  split
  · refine steady_check rfl ?_
    refine (steady_findType _).bind fun id => steady_declarations.bind fun d => ?_
    exact steady_check rfl (steady_pure id)
  · refine steady_check rfl ((steady_declare _).bind fun symbol => ?_)
    refine (steady_findType _).bind fun id => ?_
    exact (steady_modifyElement _ _).bind fun _ => steady_pure id

theorem steady_startType (tag : StartTag) (kind : Tag) : Steady (startType tag kind) := by
  unfold startType
  refine steady_get (fun _ _ _ => rfl) fun s => ?_
  refine (steady_openType _).bind fun id => (steady_note rfl).bind fun _ => ?_
  refine steady_ite ((steady_modifyType _ _).bind fun _ => steady_pushType id) ?_
  exact steady_ite ((steady_modifyType _ _).bind fun _ => steady_pushType id) (steady_pushType id)

theorem steady_endType : Steady endType :=
  steady_modify (fun _ => .ofWorklist rfl rfl rfl rfl rfl) fun _ _ _ => rfl

theorem steady_openUntagged (parent : TypeId) : Steady (openUntagged parent) := by
  unfold openUntagged
  refine (steady_declare _).bind fun symbol => (steady_declare _).bind fun found => ?_
  refine (steady_modifyType _ _).bind fun _ => (steady_pushType _).bind fun _ => ?_
  refine (steady_declare _).bind fun element => (steady_modifyElement _ _).bind fun _ => ?_
  refine steady_declarations.bind fun d => (steady_setDeclarations _).bind fun _ => ?_
  exact (steady_pushElement _).bind fun _ => steady_pure _

theorem steady_openGroup (kind : Tag) (minOccurs maxOccurs : Int) :
    Steady (openGroup kind minOccurs maxOccurs) := by
  unfold openGroup
  refine steady_get (fun _ _ _ => rfl) fun s => ?_
  split
  · refine steady_check rfl ?_
    exact steady_ite ((steady_openUntagged _).bind fun _ => steady_pure _) (steady_pure _)
  · exact (steady_openUntagged _).bind fun _ => steady_pure _
  · exact (steady_openUntagged _).bind fun _ => steady_pure _
  · exact steady_throw rfl

theorem steady_startGroup (tag : StartTag) (kind : Tag) : Steady (startGroup tag kind) := by
  unfold startGroup
  refine steady_check rfl ?_
  refine (steady_ofExcept fun _ failed => (isOfValue_of_minOccurs? failed).isLocal.isFailure).bind fun _ => ?_
  refine (steady_ofExcept fun _ failed => (isOfValue_of_maxOccurs? failed).isLocal.isFailure).bind fun _ => ?_
  refine (steady_openGroup _ _ _).bind fun opened => (steady_note rfl).bind fun _ => ?_
  refine (steady_modifyType _ _).bind fun _ => ?_
  split
  · exact steady_modifyElement _ _
  · exact steady_pure _

theorem steady_endGroup : Steady endGroup := by
  refine steady_modify (fun s => ?_) fun s allowed position => ?_
  · split
    · split
      · exact .ofWorklist rfl rfl rfl rfl rfl
      · exact .refl s
    · exact .refl s
  · dsimp only [variant]
    split
    · split <;> rfl
    · rfl

theorem steady_startDerivation (tag : StartTag) (isList : Bool) :
    Steady (startDerivation tag isList) := by
  unfold startDerivation
  refine steady_get (fun _ _ _ => rfl) fun s => ?_
  split
  · exact steady_throw (by cases isList <;> rfl)
  · split
    · refine (steady_findType _).bind fun base => steady_declarations.bind fun d => ?_
      refine steady_check rfl ((steady_note rfl).bind fun _ => ?_)
      exact steady_modifyType _ _
    · exact steady_throw (by cases isList <;> rfl)

theorem steady_startEnumerator (tag : StartTag) : Steady (startEnumerator tag) := by
  unfold startEnumerator
  refine steady_get (fun _ _ _ => rfl) fun s => ?_
  split
  · exact steady_throw rfl
  · refine steady_ite ?_ (steady_pure _)
    refine (steady_ofExcept fun _ failed => (isOfValue_of_annotatedId? failed).isLocal.isFailure).bind
      fun id => (steady_note rfl).bind fun _ => steady_modifyType _ _

/-! ## Documents -/

theorem quiet_keepTopLevel (s : Session) (tag : StartTag) (declared : NamespaceId) :
    Quiet s (keepTopLevel s tag declared) := by
  have kept : Quiet s
      (tag.attributes.foldl (fun s a => s.setAttribute a.qualifiedName a.value) s) := by
    refine List.foldlRecOn tag.attributes _ (.refl s) fun m quiet a _ => quiet.trans ?_
    exact .ofWorklist rfl rfl rfl rfl rfl
  unfold keepTopLevel
  dsimp only
  split
  · exact kept
  · refine kept.trans ⟨rfl, rfl, rfl, rfl, fun inside => ⟨?_, ?_⟩⟩
    · exact Nat.lt_of_lt_of_eq inside (Worklist.size_modifyCurrent _ _).symm
    · rw [Worklist.currentEntry_modifyCurrent inside, DocumentEntry.setTarget?]
      split <;> rfl

theorem keepTopLevel_variant (s : Session) (tag : StartTag) (declared : NamespaceId)
    (allowed : Bool) (position : Position) :
    keepTopLevel (s.variant allowed position) tag declared =
      (keepTopLevel s tag declared).variant allowed position := by
  have kept (attributes : List Markup.Attribute) (s : Session) :
      attributes.foldl (fun s a => s.setAttribute a.qualifiedName a.value)
          (s.variant allowed position) =
        (attributes.foldl (fun s a => s.setAttribute a.qualifiedName a.value) s).variant
          allowed position := by
    induction attributes generalizing s with
    | nil => rfl
    | cons a rest ih => exact ih (s.setAttribute a.qualifiedName a.value)
  unfold keepTopLevel
  dsimp only
  rw [kept]
  split <;> rfl

theorem steady_startSchema (tag : StartTag) : Steady (startSchema tag) := by
  unfold startSchema
  refine steady_update
    (c := fun s =>
      { s with registry := (s.registry.register ((tag.plain? "targetNamespace").getD "")).1 })
    (fun s => .ofWorklist rfl rfl rfl rfl rfl) (fun _ _ _ => rfl) (fun _ _ _ => rfl) fun s => ?_
  refine (steady_note rfl).bind fun _ => ?_
  refine steady_ite ?_ (steady_ite (steady_throw rfl) (steady_pure _))
  exact steady_modify (quiet_keepTopLevel · tag _) fun _ _ _ => keepTopLevel_variant _ _ _ _ _

theorem steady_ensureUnderSchema (kind : Tag) : Steady (ensureUnderSchema kind) := by
  unfold ensureUnderSchema
  exact steady_get (fun _ _ _ => rfl) fun s => steady_ite (steady_throw rfl) (steady_pure _)

theorem quiet_push (s : Session) (entry : DocumentEntry) :
    Quiet s { s with worklist := s.worklist.push entry } where
  allowUnsupported := rfl
  position := rfl
  reports := rfl
  diagnostic := rfl
  located inside := by
    refine ⟨?_, ?_⟩
    · exact Nat.lt_of_lt_of_le inside (by rw [Worklist.size_push]; exact Nat.le_succ _)
    · exact congrArg DocumentEntry.location (Worklist.entry_push _ inside)

theorem steady_nameDocument (kind : DocumentKind) (location uri : String) :
    Steady (nameDocument kind location uri) := by
  unfold nameDocument
  refine steady_update
    (c := fun s => { s with
      registry := (DocumentEntry.nested kind s.worklist.current location uri s.registry).2 })
    (fun s => .ofWorklist rfl rfl rfl rfl rfl) (fun _ _ _ => rfl) (fun _ _ _ => rfl) fun s => ?_
  dsimp only
  split
  · refine (steady_note rfl).bind fun _ => steady_modify (quiet_push · _) fun _ _ _ => rfl
  · exact steady_note rfl
  · exact steady_throw rfl

theorem steady_startInclude (tag : StartTag) : Steady (startInclude tag) := by
  unfold startInclude
  refine (steady_ensureUnderSchema _).bind fun _ => steady_check rfl ?_
  exact steady_get (fun _ _ _ => rfl) fun s => steady_nameDocument _ _ _

theorem steady_startImport (tag : StartTag) : Steady (startImport tag) := by
  unfold startImport
  refine (steady_ensureUnderSchema _).bind fun _ => steady_get (fun _ _ _ => rfl) fun s => ?_
  refine steady_check rfl (steady_check rfl ?_)
  exact steady_ite (steady_note rfl) (steady_nameDocument _ _ _)

/-! ## Start and end tags -/

theorem steady_reject (kind : Tag) : Steady (reject kind) :=
  steady_skipContent.bind fun _ => steady_throw rfl

theorem steady_extend (kind : Tag) (tag : StartTag) :
    Steady (get >>= fun s =>
      if s.allowUnsupported then startDerivation tag false else reject kind) := by
  refine steady_option
    (f := fun allowed => if allowed then startDerivation tag false else reject kind)
    (fun allowed => steady_ite (steady_startDerivation tag false) (steady_reject kind)) ?_
  intro s answer s' done
  cases done

theorem steady_startAction (kind : Tag) (tag : StartTag) : Steady (startAction kind tag) := by
  unfold startAction
  split
  · exact steady_reject kind
  · exact steady_note rfl
  · exact (steady_note rfl).bind fun _ => steady_skipContent
  · exact steady_startElement tag true
  · exact steady_startElement tag false
  · exact steady_startGroup tag kind
  · exact steady_startType tag kind
  · exact steady_startEnumerator tag
  · exact steady_extend kind tag
  · exact steady_skipContent.bind fun _ => steady_throw rfl
  · exact steady_startImport tag
  · exact steady_startInclude tag
  · exact steady_startDerivation tag true
  · exact steady_startDerivation tag false
  · exact steady_startSchema tag

theorem steady_endAction (kind : Tag) : Steady (endAction kind) := by
  unfold endAction
  split
  · exact steady_endElement
  · exact steady_endElement
  · exact steady_endType
  · exact steady_endGroup
  · exact steady_pure _
  · exact steady_pure _

end Session

end XsdRecords
