import XsdRecords.Proofs.Session.Completions
import XsdRecords.Proofs.Session.Sources

/-! # What defines a name

A type is defined once a node completes it or derives it from another, and an element once a node
gives it a type or another element to refer to.  Nothing else defines what a name stands for, and
nothing takes its definition away again. -/

namespace XsdRecords

open XsdRecords.Declaration
open XsdRecords.Markup (StartTag)
open XsdRecords.Vocabulary (Tag)

namespace Declaration

/-- An element is defined if it has its type from somewhere. -/
theorem Element.isDefined_eq (e : Element) : e.isDefined = decide (e.typing ≠ {}) := by
  cases types : e.directType <;> cases refers : e.reference <;>
    simp [Element.isDefined, Element.typing, types, refers]

theorem Typing.override_ne_blank (t later : Typing) :
    decide (t.override later ≠ {}) = (decide (later ≠ {}) || decide (t ≠ {})) := by
  obtain ⟨types, refers⟩ := t
  obtain ⟨types', refers'⟩ := later
  cases types' <;> cases refers' <;> simp [Typing.override]

namespace Declarations

/-- Declarations in which every type has the base that it had, or none as before. -/
def KeepsBases (d d' : Declarations) : Prop :=
  ∀ id, (d'.type id).base = (d.type id).base

namespace KeepsBases

variable {d d' d'' : Declarations}

theorem refl (d : Declarations) : KeepsBases d d :=
  fun _ => rfl

theorem trans (first : KeepsBases d d') (second : KeepsBases d' d'') : KeepsBases d d'' :=
  fun id => (second id).trans (first id)

theorem ofSameBut {elements : List ElementId} (same : SameBut [] elements d d') : KeepsBases d d' :=
  fun _ => TypeDef.get_of_body TypeDef.base (fun _ => rfl) (same.type List.not_mem_nil)

theorem modifyType (d : Declarations) (id : TypeId) {f : TypeDef → TypeDef}
    (keeps : ∀ t, (f t).base = t.base) : KeepsBases d (d.modifyType id f) :=
  fun other => get_type_modifyType TypeDef.base d id other keeps

theorem modifyElement (d : Declarations) (id : ElementId) (f : Element → Element) :
    KeepsBases d (d.modifyElement id f) :=
  fun _ => rfl

end KeepsBases

/-! ## What a name stands for -/

/-- Whether what stands at a place is defined. -/
def isDefinedAt (d : Declarations) (referent : Referent) (place : Nat) : Bool :=
  match referent with
  | .type => (d.type ⟨place⟩).isDefined
  | .root _ => (d.element ⟨place⟩).isDefined

end Declarations

end Declaration

namespace Session

open XsdRecords.Declaration.Declarations (KeepsBases)
open XsdRecords.Action

variable {s s' : Session}

/-- One state of a session has all bases that the tags before another gave. -/
abbrev KeptBases (s s' : Session) : Prop :=
  KeepsBases s.declarations s'.declarations

theorem Untouched.keptBases (untouched : Untouched s s') : KeptBases s s' := by
  rw [KeptBases, untouched.declarations]
  exact .refl _

/-! ## Tags that derive no type -/

theorem findType_keepsBases (s : Session) (symbol : Symbol) :
    (findType symbol).Ends s (fun _ s' => KeptBases s s') Fails := by
  refine (findType_ends s symbol).imp_done ?_
  rintro - s' ⟨-, declared, -⟩
  rw [KeptBases, declared]
  exact .ofSameBut (Declarations.sameBut_findOrAddType _ _)

theorem resolveElement_keepsBases (inRange : s.declarations.InRange) (id : ElementId)
    (tag : StartTag) (name : String) (isTopLevel isAttribute : Bool) :
    (resolveElement id tag name isTopLevel isAttribute).Ends s (fun _ s' => KeptBases s s')
      Fails := by
  simp only [resolveElement, ends_bind, ends_get]
  split
  · simp only [referTo, ends_bind, ends_ite, ends_throw]
    split
    · split <;> rfl
    · refine (findRoot_ends inRange _ isAttribute).imp_done ?_
      rintro target m ⟨-, same, -⟩
      simp only [ends_declarations, ends_get, ends_modifyElement, ends_pure]
      split
      · split <;> rfl
      · exact (KeepsBases.ofSameBut same).trans (.modifyElement _ _ _)
  · split
    · simp only [ends_bind]
      exact (findType_keepsBases s _).imp_done fun _ _ kept => kept
    · exact KeepsBases.refl s.declarations

theorem addToType_keepsBases (s : Session) (id : ElementId) (name : String) (isAttribute : Bool) :
    (addToType id name isAttribute).Ends s (fun _ s' => KeptBases s s') Fails := by
  simp only [addToType, ends_bind, ends_get]
  split
  · exact KeepsBases.refl s.declarations
  · simp only [ends_ite, ends_bind, ends_throw, ends_setDeclarations]
    split
    · rfl
    · exact .modifyType _ _ fun _ => rfl

theorem startElement_keepsBases (lawful : Lawful s) (tag : StartTag) (isAttribute : Bool) :
    (startElement tag isAttribute).Ends s (fun _ s' => KeptBases s s') Fails := by
  rw [startElement_eq]
  simp only [ends_bind, ends_get]
  refine (declareElement_resolves lawful tag isAttribute _ (R := fun _ => KeptBases) fun opened =>
    resolveElement_keepsBases (lawful.opens opened.opens).inRange _ tag _ _ isAttribute).imp_done ?_
  rintro ⟨id, name⟩ m ⟨rfl, form, opened, resolved, declares, kept, rfl⟩
  have declared : KeptBases s resolved := (KeepsBases.ofSameBut declares.opening.same).trans kept
  simp only [ends_ite, ends_pure]
  split
  · exact (addToType_keepsBases _ id _ isAttribute).imp_done fun _ _ added => declared.trans added
  · exact declared

theorem openType_keepsBases (s : Session) (name : String) :
    (openType name).Ends s (fun _ s' => KeptBases s s') Fails := by
  simp only [openType, ends_bind, ends_get]
  split
  · simp only [ends_ite, ends_bind, ends_throw]
    split
    · rfl
    · refine (findType_keepsBases s _).imp_done fun _ _ kept => ?_
      simp only [ends_declarations, ends_pure]
      split
      · rfl
      · exact kept
  · simp only [ends_ite, ends_bind, ends_throw, ends_declare]
    split
    · rfl
    · have minted := KeepsBases.ofSameBut (Declarations.sameBut_anonymousSymbol s.declarations)
      refine (findType_keepsBases _ _).imp_done fun _ _ kept => ?_
      exact minted.trans kept

theorem startType_keepsBases (s : Session) (tag : StartTag) (kind : Tag) :
    (startType tag kind).Ends s (fun _ s' => KeptBases s s') Fails := by
  simp only [startType, ends_bind, ends_get]
  refine (openType_keepsBases s _).imp_done fun type m kept => ?_
  simp only [ends_note, ends_ite, ends_bind, ends_modifyType, ends_pushType]
  split
  · exact kept.trans (.modifyType _ _ fun _ => rfl)
  · split
    · exact kept.trans (.modifyType _ _ fun _ => rfl)
    · exact kept

theorem keepsBases_untaggedField (d : Declarations) (type parent : TypeId) :
    KeepsBases d (untaggedField d type parent).1 := by
  refine KeepsBases.trans (.modifyType d type (f := complex) fun _ => rfl) ?_
  refine KeepsBases.trans (.ofSameBut (Declarations.sameBut_addElement _)) ?_
  refine KeepsBases.trans (.modifyElement _ (untaggedField d type parent).2 (untag type)) ?_
  exact .modifyType _ parent fun _ => rfl

theorem openUntagged_keepsBases (s : Session) (parent : TypeId) :
    (openUntagged parent).Ends s (fun _ s' => KeptBases s s') Fails := by
  simp only [openUntagged, ends_bind, ends_declare, ends_modifyType, ends_pushType,
    ends_modifyElement, ends_declarations, ends_setDeclarations, ends_pushElement, ends_pure]
  have found := KeepsBases.ofSameBut ((Declarations.sameBut_anonymousSymbol s.declarations).trans
    (Declarations.sameBut_findOrAddType _ s.declarations.anonymousSymbol.2))
  exact found.trans (keepsBases_untaggedField _ _ parent)

theorem startGroup_keepsBases (s : Session) (tag : StartTag) (kind : Tag) :
    (startGroup tag kind).Ends s (fun _ s' => KeptBases s s') Fails := by
  refine (startGroup_lays (P := fun _ _ _ m => KeptBases s m) tag kind
    fun _ parent _ => openUntagged_keepsBases s parent).imp_done fun _ s' h => ?_
  have chosen (d : Declarations) (type : TypeId) :
      KeepsBases d (d.modifyType type (choose (kind = .choice))) :=
    .modifyType d type fun _ => rfl
  obtain ⟨-, -, -, type, -, declarations⟩ | ⟨-, -, type, element, m, -, kept, -, declarations⟩ := h
  · rw [KeptBases, declarations]
    split
    · exact chosen s.declarations type
    · exact chosen s.declarations type
  · rw [KeptBases, declarations]
    exact kept.trans (chosen m.declarations type)

theorem startEnumerator_keepsBases (s : Session) (tag : StartTag) :
    (startEnumerator tag).Ends s (fun _ s' => KeptBases s s') Fails := by
  simp only [startEnumerator, ends_bind, ends_get]
  split
  · rfl
  · simp only [ends_ite, ends_bind, ends_ofExcept]
    split
    · split
      · simp only [ends_note, ends_modifyType]
        exact .modifyType _ _ fun _ => rfl
      · rename_i problem reads
        exact (isOfValue_of_annotatedId? reads).isLocal.isFailure
    · exact KeepsBases.refl s.declarations

/-! ## Tags that derive a type -/

/-- A derivation gives the innermost open type a base, and leaves the bases of the others. -/
theorem startDerivation_bases (lawful : Lawful s) (tag : StartTag) (isList : Bool) :
    (startDerivation tag isList).Ends s
      (fun _ s' => ∀ type, (s'.declarations.type type).base.isSome =
        (decide (s.typeStack.head? = some type) || (s.declarations.type type).base.isSome))
      Fails := by
  simp only [startDerivation, ends_bind, ends_get]
  split
  · split <;> rfl
  · rename_i own rest opened
    split
    · simp only [ends_bind]
      refine ((findType_keepsBases s _).and (findType_edits lawful.inRange _)).imp ?_
        fun _ _ fails => fails.1
      rintro base m ⟨kept, edits, -⟩
      simp only [ends_declarations, ends_ite, ends_bind, ends_throw, ends_note, ends_modifyType]
      split
      · rfl
      · have bound : own.index < m.declarations.types.size :=
          (Declarations.Edits.symbol edits (lawful.openType (opened ▸ List.mem_cons_self))).2
        intro type
        simp only [opened, List.head?_cons, Option.some.injEq]
        by_cases same : own = type
        · subst same
          rw [decide_eq_true rfl, Bool.true_or]
          exact congrArg (fun t : TypeDef => t.base.isSome) (Declarations.type_modifyType bound _)
        · rw [decide_eq_false same, Bool.false_or, ← kept type]
          exact congrArg (fun t : TypeDef => t.base.isSome)
            (Declarations.type_modifyType_of_ne same _)
    · split <;> rfl

/-! ## Start tags -/

/-- The tags that derive a type from another. -/
def derivingTags : List Tag :=
  [.restriction, .extension, .list]

/-- What a start tag makes of the bases of types. -/
theorem startAction_bases (lawful : Lawful s) (tag : StartTag) (kind : Tag) :
    (startAction kind tag).Ends s
      (fun _ s' => ∀ type, (s'.declarations.type type).base.isSome =
        (derivingTags.contains kind && decide (s.typeStack.head? = some type) ||
          (s.declarations.type type).base.isSome))
      Fails := by
  have silent (other : kind ∉ derivingTags) {s' : Session} (kept : KeptBases s s')
      (type : TypeId) : (s'.declarations.type type).base.isSome =
        (derivingTags.contains kind && decide (s.typeStack.head? = some type) ||
          (s.declarations.type type).base.isSome) := by
    have none : derivingTags.contains kind = false := by simpa using other
    rw [none, kept type, Bool.false_and, Bool.false_or]
  refine startAction_cases (fun action _ => ?_) (fun isQuiet _ same => ?_) (fun isElement => ?_)
    (fun isGroup => ?_) (fun isType => ?_) (fun derives => ?_) fun isEnumeration => ?_
  · exact silent (by revert action; cases kind <;> decide) (.refl s.declarations)
  · exact silent (by revert isQuiet; cases kind <;> decide) same.keptBases
  · have other : kind ∉ derivingTags := by obtain rfl | rfl := isElement <;> decide
    exact (startElement_keepsBases lawful tag _).imp_done fun _ _ kept => silent other kept
  · have other : kind ∉ derivingTags := by obtain rfl | rfl := isGroup <;> decide
    exact (startGroup_keepsBases s tag kind).imp_done fun _ _ kept => silent other kept
  · have other : kind ∉ derivingTags := by obtain rfl | rfl := isType <;> decide
    exact (startType_keepsBases s tag kind).imp_done fun _ _ kept => silent other kept
  · have derives : kind ∈ derivingTags := by obtain rfl | rfl | rfl := derives <;> decide
    rw [List.contains_iff_mem.2 derives]
    simpa only [Bool.true_and] using startDerivation_bases lawful tag _
  · have other : kind ∉ derivingTags := by rw [isEnumeration]; decide
    exact (startEnumerator_keepsBases s tag).imp_done fun _ _ kept => silent other kept

/-- A start tag outside skipped content gives a base to the innermost open type, if it derives
one. -/
theorem Lawful.base_readStart (lawful : Lawful s) {tag : StartTag} {position : Position}
    (reading : s.skipDepth = 0) (ok : (readStart s tag position).hasFailed = false)
    (type : TypeId) :
    ((readStart s tag position).declarations.type type).base.isSome =
      (derivingTags.contains tag.kind && decide (s.typeStack.head? = some type) ||
        (s.declarations.type type).base.isSome) := by
  obtain ⟨m, marks, whole⟩ := readStart_of_reading reading ok
  rw [whole] at ok ⊢
  rw [← marks.typeStack, ← marks.declarations]
  exact done_of_perform (P := fun s' => ∀ type, (s'.declarations.type type).base.isSome =
    (derivingTags.contains tag.kind && decide (m.typeStack.head? = some type) ||
      (m.declarations.type type).base.isSome))
    (startAction_bases (marks.lawful lawful) tag tag.kind) ok type

/-! ## Nodes -/

/-- Whether a node derives a type from another. -/
def Visit.derives (v : Visit) (type : TypeId) : Bool :=
  match v.node with
  | .start tag =>
    v.session.skipDepth = 0 && derivingTags.contains tag.kind &&
      v.session.typeStack.head? = some type
  | .stop _ => false

/-- Whether a node defines what stands at a place: it completes or derives a type, or it gives an
element a type or another element to refer to. -/
def Visit.settles (v : Visit) (referent : Referent) (place : Nat) : Bool :=
  match referent with
  | .type => v.completes ⟨place⟩ || v.derives ⟨place⟩
  | .root _ => v.gives ⟨place⟩ ≠ {}

theorem Visit.base_after {v : Visit} (lawful : Lawful v.session) (ok : v.after.hasFailed = false)
    (type : TypeId) : (v.after.declarations.type type).base.isSome =
      (v.derives type || (v.session.declarations.type type).base.isSome) := by
  have makes := v.makes ok
  generalize v.after.declarations = d at makes ⊢
  cases makes with
  | stop s name position => rfl
  | skipped s tag position skipping => simp [derives, skipping]
  | start s tag position reading started =>
    simp only [derives, reading, decide_true, Bool.true_and]
    exact lawful.base_readStart reading started type

theorem Visit.isDefinedAt_after {v : Visit} (lawful : Lawful v.session)
    (ok : v.after.hasFailed = false) (referent : Referent) (place : Nat) :
    v.after.declarations.isDefinedAt referent place =
      (v.settles referent place || v.session.declarations.isDefinedAt referent place) := by
  cases referent with
  | type =>
    simp only [Declarations.isDefinedAt, settles, TypeDef.isDefined, v.builtin_after lawful ok,
      v.base_after lawful ok]
    cases v.completes ⟨place⟩ <;> cases v.derives ⟨place⟩ <;> simp
  | root isAttribute =>
    simp only [Declarations.isDefinedAt, settles, Element.isDefined_eq,
      (v.typing_after lawful ok ⟨place⟩).1, Typing.override_ne_blank]

/-! ## Runs -/

/-- A session in which exactly that is defined which some nodes have defined, or which is built
in. -/
def HasSettled (s : Session) (visits : List Visit) : Prop :=
  ∀ referent place, s.declarations.isDefinedAt referent place =
    (visits.any (·.settles referent place) ||
      Declarations.initial.isDefinedAt referent place)

theorem carried_hasSettled : Carried HasSettled where
  untouched settled same referent place := by
    rw [same]
    exact settled referent place
  after {v visits} settled lawful ok referent place := by
    rw [v.isDefinedAt_after lawful ok, settled, List.any_append, List.any_cons, List.any_nil,
      Bool.or_false, ← Bool.or_assoc, Bool.or_comm (v.settles referent place)]

/-- Whenever nothing has failed, exactly that is defined which the nodes before have defined, or
which is built in. -/
theorem Traced.hasSettled {visits : List Visit} (traced : Traced s visits) :
    HasSettled s visits :=
  carried_hasSettled.traced (fun _ _ _ _ => rfl) traced

end Session

end XsdRecords
