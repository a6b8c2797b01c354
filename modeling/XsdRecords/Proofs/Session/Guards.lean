import XsdRecords.Proofs.Session.Grounded
import XsdRecords.Proofs.Session.Steady

/-! # Reading meets no guard

Some problems guard a compile against itself: no documents have them.  Of the actions only derivations
and enumerations may throw a guard, where no type is open, and none of them is read there. -/

namespace XsdRecords

open XsdRecords.Declaration (Declarations ElementId TypeId Symbol)
open XsdRecords.Markup (Lexeme Node Reader Scope Source StartTag)
open XsdRecords.Vocabulary (Tag typedTags)

namespace Problem

/-- Whether a problem guards the compile against itself. -/
def isGuard : Problem → Bool
  | enumerationOutsideType | restrictionOutsideType | listOutsideType => true
  | noDefinition _ | noType _ _ | output _ => true
  | _ => false

theorem IsOfValue.isGuard {p : Problem} (ofValue : p.IsOfValue) : p.isGuard = false := by
  cases ofValue <;> rfl

end Problem

namespace Journal

/-- No guard is among the reports of a journal. -/
def Unguarded (j : Journal) : Prop :=
  ∀ r ∈ j.reports, r.problem.isGuard = false

theorem Unguarded.report {j : Journal} (unguarded : j.Unguarded) {r : Report}
    (other : r.problem.isGuard = false) : (j.report r).Unguarded := by
  intro r' member
  rw [reports_report] at member
  cases member with
  | head => exact other
  | tail _ before => exact unguarded r' before

theorem Unguarded.congr {j j' : Journal} (unguarded : j.Unguarded) (same : j'.reports = j.reports) :
    j'.Unguarded := by
  rw [Unguarded, same]
  exact unguarded

end Journal

namespace Action

open XsdRecords.Session

variable {α β : Type}

/-- An action throws no guard from a session. -/
def SparesAt (s : Session) (action : Action α) : Prop :=
  action.Ends s (fun _ _ => True) (fun problem _ => problem.isGuard = false)

/-- An action throws no guard. -/
def Spares (action : Action α) : Prop :=
  ∀ s, SparesAt s action

/-! ## Steps and sequences of steps -/

theorem spares_pure (answer : α) : Spares (pure answer) :=
  fun _ => trivial

theorem spares_throw {problem : Problem} (other : problem.isGuard = false) :
    Spares (throw problem : Action α) :=
  fun _ => other

theorem Spares.bind {action : Action β} {f : β → Action α} (first : Spares action)
    (later : ∀ answer, Spares (f answer)) : Spares (action >>= f) := by
  intro s
  rw [SparesAt, ends_bind]
  exact (first s).imp_done fun answer m _ => later answer m

theorem spares_ite {c : Prop} [Decidable c] {yes no : Action α} (ifYes : Spares yes)
    (ifNo : Spares no) : Spares (if c then yes else no) := by
  split
  · exact ifYes
  · exact ifNo

/-- A check that throws before what follows it. -/
theorem spares_check {c : Prop} [Decidable c] {problem : Problem} {f : PUnit → Action α}
    (other : problem.isGuard = false) (later : Spares (f ⟨⟩)) :
    Spares (if c then (throw problem : Action PUnit) >>= f else f ⟨⟩) :=
  spares_ite (.bind (spares_throw other) fun _ => later) later

theorem spares_ofExcept {result : Except Problem α}
    (ofValue : ∀ problem, result = .error problem → problem.IsOfValue) :
    Spares (ofExcept result) := by
  cases result with
  | ok answer => exact spares_pure answer
  | error problem => exact spares_throw (ofValue problem rfl).isGuard

theorem spares_get {f : Session → Action α} (later : ∀ s, Spares (f s)) : Spares (get >>= f) :=
  fun s => later s s

theorem spares_modify (c : Session → Session) : Spares (modify c) :=
  fun _ => trivial

theorem spares_set (s : Session) : Spares (set s : Action PUnit) :=
  fun _ => trivial

theorem spares_declare (c : Declarations → Declarations × α) : Spares (declare c) :=
  fun _ => trivial

theorem spares_declarations : Spares declarations :=
  fun _ => trivial

theorem spares_findType (symbol : Symbol) : Spares (findType symbol) := by
  unfold findType
  refine (spares_declare _).bind fun found => spares_get fun s => ?_
  refine spares_check rfl (spares_declarations.bind fun d => ?_)
  dsimp only
  split
  · exact spares_check rfl (spares_pure _)
  · exact spares_pure _

end Action

namespace Session

open XsdRecords.Action

/-! ## Elements and attributes -/

theorem spares_findRoot (symbol : Symbol) (isAttribute : Bool) :
    Spares (findRoot symbol isAttribute) := by
  unfold findRoot
  exact spares_ite (spares_declare _) (spares_declare _)

theorem spares_openElement (isTopLevel isAttribute : Bool) (name : String) :
    Spares (openElement isTopLevel isAttribute name) := by
  unfold openElement
  refine spares_ite (spares_get fun s => ?_) ?_
  · refine (spares_findRoot _ _).bind fun id => spares_declarations.bind fun d => ?_
    exact spares_check (by cases isAttribute <;> rfl)
      ((spares_modify _).bind fun _ => spares_pure id)
  · exact (spares_declare _).bind fun id => (spares_modify _).bind fun _ => spares_pure id

theorem spares_referTo (id : ElementId) (symbol : Symbol) (isTopLevel isAttribute : Bool) :
    Spares (referTo id symbol isTopLevel isAttribute) := by
  unfold referTo
  refine spares_check (by cases isAttribute <;> rfl) ?_
  refine (spares_findRoot _ _).bind fun referenced => spares_declarations.bind fun d => ?_
  refine spares_get fun s => spares_check (by cases isAttribute <;> rfl) ?_
  exact (spares_modify _).bind fun _ => spares_pure _

theorem spares_resolveElement (id : ElementId) (tag : StartTag) (name : String)
    (isTopLevel isAttribute : Bool) :
    Spares (resolveElement id tag name isTopLevel isAttribute) := by
  unfold resolveElement
  refine spares_get fun s => ?_
  split
  · exact spares_referTo _ _ _ _
  · dsimp only
    split
    · exact (spares_findType _).bind fun type => (spares_modify _).bind fun _ => spares_pure name
    · exact spares_pure name

theorem spares_addToType (id : ElementId) (name : String) (isAttribute : Bool) :
    Spares (addToType id name isAttribute) := by
  unfold addToType
  refine spares_get fun s => ?_
  split
  · exact spares_pure _
  · exact spares_check rfl (spares_modify _)

theorem spares_startElement (tag : StartTag) (isAttribute : Bool) :
    Spares (startElement tag isAttribute) := by
  unfold startElement
  refine spares_get fun s => ?_
  refine (spares_openElement _ _ _).bind fun id => (spares_modify _).bind fun _ => ?_
  refine (spares_resolveElement _ _ _ _ _).bind fun name => spares_check rfl ?_
  refine (spares_ofExcept fun _ => ElementForm.isOfValue_of_read).bind fun form => ?_
  refine (spares_modify _).bind fun _ => spares_check rfl ?_
  exact spares_ite (spares_addToType _ _ _) (spares_pure _)

theorem spares_endElement : Spares endElement := by
  unfold endElement
  refine spares_get fun s => ?_
  split
  · exact spares_pure _
  · exact spares_check rfl (spares_set _)

/-! ## Types and groups -/

theorem spares_openType (name : String) : Spares (openType name) := by
  unfold openType
  refine spares_get fun s => ?_
  split
  · refine spares_check rfl ?_
    refine (spares_findType _).bind fun id => spares_declarations.bind fun d => ?_
    exact spares_check rfl (spares_pure id)
  · refine spares_check rfl ((spares_declare _).bind fun symbol => ?_)
    exact (spares_findType _).bind fun id => (spares_modify _).bind fun _ => spares_pure id

theorem spares_startType (tag : StartTag) (kind : Tag) : Spares (startType tag kind) := by
  unfold startType
  refine spares_get fun s => ?_
  refine (spares_openType _).bind fun id => (spares_modify _).bind fun _ => ?_
  refine spares_ite ((spares_modify _).bind fun _ => spares_modify _) ?_
  exact spares_ite ((spares_modify _).bind fun _ => spares_modify _) (spares_modify _)

theorem spares_openUntagged (parent : TypeId) : Spares (openUntagged parent) :=
  fun _ => trivial

theorem spares_openGroup (kind : Tag) (minOccurs maxOccurs : Int) :
    Spares (openGroup kind minOccurs maxOccurs) := by
  unfold openGroup
  refine spares_get fun s => ?_
  split
  · refine spares_check rfl ?_
    exact spares_ite ((spares_openUntagged _).bind fun _ => spares_pure _) (spares_pure _)
  · exact (spares_openUntagged _).bind fun _ => spares_pure _
  · exact (spares_openUntagged _).bind fun _ => spares_pure _
  · exact spares_throw rfl

theorem spares_startGroup (tag : StartTag) (kind : Tag) : Spares (startGroup tag kind) := by
  unfold startGroup
  refine spares_check rfl ?_
  refine (spares_ofExcept fun _ => isOfValue_of_minOccurs?).bind fun _ => ?_
  refine (spares_ofExcept fun _ => isOfValue_of_maxOccurs?).bind fun _ => ?_
  refine (spares_openGroup _ _ _).bind fun opened => (spares_modify _).bind fun _ => ?_
  refine (spares_modify _).bind fun _ => ?_
  split
  · exact spares_modify _
  · exact spares_pure _

/-! ## Derivations and enumerations -/

/-- A derivation throws a guard only if no type is open. -/
theorem sparesAt_startDerivation {s : Session} (types : s.typeStack ≠ []) (tag : StartTag)
    (isList : Bool) : SparesAt s (startDerivation tag isList) := by
  unfold startDerivation
  rw [SparesAt, ends_bind, ends_get]
  split
  · rename_i none
    -- The guard: a derivation without a type to derive.
    exact absurd none types
  · split
    · refine ((spares_findType _).bind fun base => spares_declarations.bind fun d => ?_) s
      exact spares_check rfl ((spares_modify _).bind fun _ => spares_modify _)
    · exact spares_throw (by cases isList <;> rfl) s

/-- An enumeration throws a guard only if no type is open. -/
theorem sparesAt_startEnumerator {s : Session} (types : s.typeStack ≠ []) (tag : StartTag) :
    SparesAt s (startEnumerator tag) := by
  unfold startEnumerator
  rw [SparesAt, ends_bind, ends_get]
  split
  · rename_i none
    -- The guard: an enumeration without a type to add it to.
    exact absurd none types
  · refine spares_ite ?_ (spares_pure _) s
    refine (spares_ofExcept fun _ => isOfValue_of_annotatedId?).bind fun id => ?_
    exact (spares_modify _).bind fun _ => spares_modify _

/-! ## Documents -/

theorem spares_startSchema (tag : StartTag) : Spares (startSchema tag) := by
  unfold startSchema
  refine spares_get fun s => (spares_set _).bind fun _ => (spares_modify _).bind fun _ => ?_
  exact spares_ite (spares_modify _) (spares_ite (spares_throw rfl) (spares_pure _))

theorem spares_ensureUnderSchema (kind : Tag) : Spares (ensureUnderSchema kind) := by
  unfold ensureUnderSchema
  exact spares_get fun s => spares_ite (spares_throw rfl) (spares_pure _)

theorem spares_nameDocument (kind : DocumentKind) (location uri : String) :
    Spares (nameDocument kind location uri) := by
  unfold nameDocument
  refine spares_get fun s => (spares_set _).bind fun _ => ?_
  dsimp only
  split
  · exact (spares_modify _).bind fun _ => spares_modify _
  · exact spares_modify _
  · exact spares_throw rfl

theorem spares_startInclude (tag : StartTag) : Spares (startInclude tag) := by
  unfold startInclude
  refine (spares_ensureUnderSchema _).bind fun _ => spares_check rfl ?_
  exact spares_get fun s => spares_nameDocument _ _ _

theorem spares_startImport (tag : StartTag) : Spares (startImport tag) := by
  unfold startImport
  refine (spares_ensureUnderSchema _).bind fun _ => spares_get fun s => ?_
  refine spares_check rfl (spares_check rfl ?_)
  exact spares_ite (spares_modify _) (spares_nameDocument _ _ _)

/-! ## Start and end tags -/

theorem spares_reject (kind : Tag) : Spares (reject kind) :=
  (spares_modify _).bind fun _ => spares_throw rfl

theorem sparesAt_startAction {s : Session} {kind : Tag}
    (types : kind ∈ typedTags → s.typeStack ≠ []) (tag : StartTag) :
    SparesAt s (startAction kind tag) := by
  have open? {action : Vocabulary.StartAction} (acts : kind.entry.start = action)
      (own : action.tags ≠ []) (typed : ∀ kind ∈ action.tags, kind ∈ typedTags) :
      s.typeStack ≠ [] :=
    types (typed kind (mem_tags_of_start acts own))
  unfold startAction
  cases action : kind.entry.start with
  | reject => exact spares_reject kind s
  | passThrough => exact spares_modify _ s
  | skip => exact (spares_modify _).bind (fun _ => spares_modify _) s
  | defineAttribute => exact spares_startElement tag true s
  | defineElement => exact spares_startElement tag false s
  | defineRecord => exact spares_startGroup tag kind s
  | defineType => exact spares_startType tag kind s
  | addEnumerator => exact sparesAt_startEnumerator (open? action (by decide) (by decide)) tag
  | extendType =>
    rw [SparesAt, ends_bind, ends_get, ends_ite]
    split
    · exact sparesAt_startDerivation (open? action (by decide) (by decide)) tag false
    · exact spares_reject kind s
  | refuseGroup => exact (spares_modify _).bind (fun _ => spares_throw rfl) s
  | importDocument => exact spares_startImport tag s
  | includeDocument => exact spares_startInclude tag s
  | deriveList => exact sparesAt_startDerivation (open? action (by decide) (by decide)) tag true
  | restrictType => exact sparesAt_startDerivation (open? action (by decide) (by decide)) tag false
  | openSchema => exact spares_startSchema tag s

theorem spares_endAction (kind : Tag) : Spares (endAction kind) := by
  unfold endAction
  split
  · exact spares_endElement
  · exact spares_endElement
  · exact spares_modify _
  · exact spares_modify _
  · exact spares_pure _
  · exact spares_pure _

/-! ## Nodes -/

variable {s : Session}

/-- A performed action reports no guard if it throws none. -/
theorem unguarded_perform {action : Action Unit} (steady : Steady action)
    (spares : SparesAt s action) (unguarded : s.journal.Unguarded) :
    (s.perform action).journal.Unguarded := by
  refine perform_of_ends (P := fun s' => s'.journal.Unguarded) (((steady s).and spares).imp ?_ ?_)
  · rintro - s' ⟨⟨quiet, -⟩, -⟩
    exact unguarded.congr quiet.reports
  · rintro problem s' ⟨⟨-, quiet, -⟩, other⟩
    exact (unguarded.congr quiet.reports).report other

theorem isGuard_of_findTag {tag : StartTag} {problem : Problem}
    (h : findTag s tag = .error problem) : problem.isGuard = false := by
  unfold findTag at h
  dsimp only at h
  split at h
  · exact Except.error.inj h ▸ rfl
  · split at h
    · split at h
      · cases h
      · exact Except.error.inj h ▸ rfl
    · cases h

theorem isGuard_of_checkContent {name : String} {kind : Tag} {problem : Problem}
    (h : checkContent s name kind = .error problem) : problem.isGuard = false := by
  unfold checkContent at h
  split at h
  · cases h
  · split at h
    · exact Except.error.inj h ▸ rfl
    · exact Except.error.inj h ▸ rfl

theorem reports_noteAttributes (s : Session) (kind : Tag) (tag : StartTag) :
    (noteAttributes s kind tag).journal.reports = s.journal.reports := by
  unfold noteAttributes
  refine List.foldlRecOn (motive := fun m : Session => m.journal.reports = s.journal.reports)
    tag.attributes _
    rfl fun m same a _ => ?_
  exact (Journal.reports_note_of_other rfl).trans same

theorem Grounded.unguarded_readStart (grounded : Grounded s) (unguarded : s.journal.Unguarded)
    (tag : StartTag) (position : Position) : (s.readStart tag position).journal.Unguarded := by
  unfold Session.readStart
  dsimp only
  split
  · rename_i problem unknown
    exact unguarded.report (isGuard_of_findTag unknown)
  · rename_i kind known
    split
    · rename_i problem refused
      exact unguarded.report (isGuard_of_checkContent refused)
    · rename_i checked
      split
      · exact unguarded
      · rename_i reading
        have marks := marks_noteAttributes s position kind tag
        refine unguarded_perform (steady_startAction kind tag)
          (sparesAt_startAction (fun typed => ?_) tag)
          (unguarded.congr (reports_noteAttributes _ kind tag))
        rw [marks.typeStack]
        exact grounded.exists_type (Nat.eq_zero_of_not_pos reading)
          (allows_of_checkContent (s := { s with position }) checked) typed

theorem unguarded_readStop (unguarded : s.journal.Unguarded) (position : Position) :
    (s.readStop position).journal.Unguarded := by
  unfold Session.readStop
  dsimp only
  split
  · exact unguarded
  · split
    · exact unguarded
    · exact unguarded_perform (s := { s with position }) (steady_endAction _)
        (spares_endAction _ _) unguarded

/-- A session without guards among its reports, in which nothing but tags that have an open type
around them may follow. -/
structure Guarded (s : Session) : Prop where
  unguarded : s.journal.Unguarded
  grounded : s.hasFailed = false → Grounded s

theorem Guarded.readNode (guarded : Guarded s) (ok : s.hasFailed = false) (node : Node)
    (position : Position) : Guarded (s.readNode node position) := by
  refine ⟨?_, (guarded.grounded ok).readNode⟩
  unfold Session.readNode
  cases node with
  | stop name => exact unguarded_readStop guarded.unguarded position
  | start tag =>
    have started := (guarded.grounded ok).unguarded_readStart guarded.unguarded tag position
    dsimp only
    split
    · exact unguarded_readStop started position
    · exact started

/-- A failure that is no guard leaves nothing to follow. -/
theorem guarded_report {problem : Problem} (unguarded : s.journal.Unguarded)
    (other : problem.isGuard = false) (fails : problem.severity.isFailure = true) :
    Guarded (s.report problem) := by
  refine ⟨unguarded.report other, fun ok => ?_⟩
  rw [hasFailed_report_of_fails s fails] at ok
  cases ok

/-- Nothing happens between nodes. -/
theorem Guarded.untouched (guarded : Guarded s) {s' : Session} (untouched : Untouched s s')
    (reports : s'.journal.reports = s.journal.reports) (failed : s'.hasFailed = s.hasFailed) :
    Guarded s' :=
  ⟨guarded.unguarded.congr reports,
    fun ok => (guarded.grounded (failed.symm.trans ok)).untouched untouched⟩

theorem guarded_readLexemes (lexemes : List Lexeme) {r : Reader} (guarded : Guarded s) :
    Guarded (readLexemes s r lexemes) := by
  induction lexemes generalizing s r with
  | nil => exact guarded
  | cons lexeme rest ih =>
    unfold readLexemes
    split
    · exact guarded
    · rename_i going
      have moved (scope : Scope) : Guarded (s.withScope scope) :=
        guarded.untouched (untouched_withScope s scope) rfl rfl
      rcases r.deliver s.scope lexeme with ⟨r', scope, fault | _ | node⟩
      · exact guarded_report (s := { s.withScope scope with position := r'.position })
          (moved scope).unguarded rfl rfl
      · exact moved scope
      · exact ih ((moved scope).readNode (Bool.eq_false_iff.2 going) node r'.position)

theorem guarded_readDocument (guarded : Guarded s) (source : Source) :
    Guarded (s.readDocument source) := by
  cases source with
  | failing reason =>
    refine guarded_report (s := s.beginDocument.note _) ?_ rfl rfl
    have opened : s.beginDocument.journal.Unguarded := guarded.unguarded.congr rfl
    exact opened.congr (Journal.reports_note_of_other rfl)
  | bytes content =>
    exact guarded_readLexemes _
      ⟨guarded.unguarded, fun ok => (guarded.grounded ok).beginDocument⟩

end Session

end XsdRecords
