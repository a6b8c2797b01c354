import XsdRecords.Proofs.Markup.Scoping
import XsdRecords.Proofs.Session.References
import XsdRecords.Proofs.Session.Visits

/-! # What reading a node does

A tag declares something, opens the schema, names a document, or closes what is open; all else is
left as it is.  `Read` tells these apart, failures included, and a document is a sequence of such
steps: `readLexemes_inv`. -/

namespace XsdRecords.Session

open XsdRecords.Declaration (Reference)
open XsdRecords.Markup (Lexeme Node Reader ReaderFault StartTag)
open XsdRecords.Vocabulary (Tag)
open XsdRecords.Action

/-! ## Schema, include and import tags -/

/-- The document that a tag names, with its target namespace.  A tag without a location names none. -/
def naming? (s : Session) (tag : StartTag) (kind : Tag) : Option Request :=
  let location := (tag.plain? "schemaLocation").getD ""
  if location = "" then none
  else
    match kind.entry.start with
    | .includeDocument => some ⟨location, s.registry.uri s.target⟩
    | .importDocument => some ⟨location, (tag.plain? "namespace").getD ""⟩
    | _ => none

theorem start_of_naming? {s : Session} {tag : StartTag} {kind : Tag} {request : Request}
    (naming : naming? s tag kind = some request) :
    request.location ≠ "" ∧
      (kind.entry.start = .includeDocument ∨ kind.entry.start = .importDocument) := by
  unfold naming? at naming
  dsimp only at naming
  split at naming
  · cases naming
  · rename_i nonempty
    split at naming
    · obtain rfl := Option.some.inj naming
      exact ⟨nonempty, .inl ‹_›⟩
    · obtain rfl := Option.some.inj naming
      exact ⟨nonempty, .inr ‹_›⟩
    · cases naming

/-- An entry that got a target namespace, if it had none. -/
structure Retargets (e : DocumentEntry) (declared : NamespaceId) (e' : DocumentEntry) : Prop where
  kind : e'.kind = e.kind
  parent : e'.parent = e.parent
  location : e'.location = e.location
  bindings : e'.bindings = e.bindings
  target : e'.target = e.target ∨ e.target = .none ∧ e'.target = declared

/-- What a schema tag does: it registers its target namespace, which a top-level document gets. -/
structure OpensSchema (s : Session) (uri : String) (s' : Session) : Prop where
  declarations : s'.declarations = s.declarations
  elementStack : s'.elementStack = s.elementStack
  registry : s'.registry = (s.registry.register uri).1
  reports : s'.journal.reports = s.journal.reports
  diagnostic : s'.journal.diagnostic = s.journal.diagnostic
  worklist : s'.worklist = s.worklist ∨ s.worklist.currentEntry.kind = .topLevel ∧ ∃ f,
    s'.worklist = s.worklist.modifyCurrent f ∧ ∀ e, Retargets e (s.registry.register uri).2 (f e)

/-- A document that is named joins the worklist, unless it has been named before. -/
inductive Queues (w : Worklist) (location : String) (target : NamespaceId) (w' : Worklist) : Prop
  | new (isNew : w.classify location target = .new) (kind : DocumentKind)
      (nested : kind ≠ .topLevel) (bindings : Bindings)
      (pushed : w' = w.push ⟨kind, some w.current, location, target, bindings⟩)
  | known (diamond : w.classify location target = .diamond) (same : w' = w)

/-- What a tag does that names a document. -/
structure Names (s : Session) (request : Request) (s' : Session) : Prop where
  declarations : s'.declarations = s.declarations
  elementStack : s'.elementStack = s.elementStack
  registry : s'.registry = (s.registry.register request.uri).1
  reports : s'.journal.reports = s.journal.reports
  diagnostic : s'.journal.diagnostic = s.journal.diagnostic
  worklist : Queues s.worklist request.location (s.registry.register request.uri).2 s'.worklist

/-- A problem that stops a tag which refers to a name or names a document. -/
structure Halts (s : Session) (reference : Option Reference) (naming : Option Request) (p : Problem)
    (s' : Session) : Prop where
  registry : s.registry.Grows s'.registry
  worklist : s'.worklist = s.worklist
  reports : s'.journal.reports = s.journal.reports
  isFailure : p.severity.isFailure = true
  unknown : p.isUnknownName = true → ∃ r, reference = some r ∧ ¬s.declarations.Knows r
  recursion : p.isRecursion = true → ∃ request, naming = some request ∧
    s.worklist.classify request.location (s.registry.register request.uri).2 = .recursive ∧
    s'.registry = (s.registry.register request.uri).1

/-- What a start tag does outside skipped content. -/
inductive Effect (s : Session) (tag : StartTag) (kind : Tag) (s' : Session) : Prop
  | acts (acts : Acts s (reference? s tag kind) (definition? s tag kind) s')
      (unnamed : naming? s tag kind = none)
  | schema (isSchema : kind.entry.start = .openSchema)
      (opens : OpensSchema s ((tag.plain? "targetNamespace").getD "") s')
  | names {request : Request} (naming : naming? s tag kind = some request)
      (names : Names s request s')

variable {s s' : Session} {tag : StartTag} {kind : Tag}

theorem Halts.ofLocal {reference : Option Reference} {naming : Option Request} {p : Problem}
    (isLocal : p.IsLocal) (setting : s'.setting = s.setting) : Halts s reference naming p s' where
  registry := by
    rw [show s'.registry = s.registry from congrArg Setting.registry setting]
  worklist := congrArg Setting.worklist setting
  reports := congrArg Setting.reports setting
  isFailure := isLocal.isFailure
  unknown h := by rw [isLocal.isUnknownName] at h; cases h
  recursion h := by rw [isLocal.isRecursion] at h; cases h

theorem Refuses.halts {reference : Option Reference} {naming : Option Request} {p : Problem}
    (refuses : Refuses s reference p s') : Halts s reference naming p s' := by
  obtain ⟨setting, isLocal | ⟨r, own, rfl, new⟩⟩ := refuses
  · exact .ofLocal isLocal setting
  · have kind : r.unknown.severity.isFailure = true ∧ r.unknown.isRecursion = false := by
      obtain ⟨referent, symbol⟩ := r
      rcases referent with _ | isAttribute
      · exact ⟨rfl, rfl⟩
      · cases isAttribute <;> exact ⟨rfl, rfl⟩
    refine ⟨?_, congrArg Setting.worklist setting, congrArg Setting.reports setting, kind.1,
      fun _ => ⟨r, own, new⟩, fun h => ?_⟩
    · rw [show s'.registry = s.registry from congrArg Setting.registry setting]
    · rw [kind.2] at h
      cases h

theorem startSchema_opens (s : Session) (tag : StartTag) (reference : Option Reference)
    (naming : Option Request) :
    (startSchema tag).Ends s
      (fun _ s' => OpensSchema s ((tag.plain? "targetNamespace").getD "") s')
      (Halts s reference naming) := by
  have attributes (l : List Markup.Attribute) (s : Session) :
      let kept := l.foldl (fun s a => s.setAttribute a.qualifiedName a.value) s
      kept.setting = s.setting ∧ kept.declarations = s.declarations ∧
        kept.elementStack = s.elementStack := by
    induction l generalizing s with
    | nil => exact ⟨rfl, rfl, rfl⟩
    | cons a rest ih => exact ih _
  have retargets (declared : NamespaceId) (e : DocumentEntry) :
      Retargets e declared ((e.setTarget? declared).getD e) := by
    unfold DocumentEntry.setTarget?
    split
    · exact ⟨rfl, rfl, rfl, rfl, .inl rfl⟩
    · rename_i allowed
      refine ⟨rfl, rfl, rfl, rfl, ?_⟩
      by_cases none : e.target = .none
      · exact .inr ⟨none, rfl⟩
      · simp only [Bool.and_eq_true, decide_eq_true_eq, not_and, Decidable.not_not] at allowed
        exact .inl (allowed none).symm
  simp only [startSchema, ends_bind, ends_get, ends_set, ends_note, ends_ite, ends_modify,
    ends_throw, ends_pure]
  split
  · rename_i isTop
    unfold keepTopLevel
    dsimp only
    generalize begins : Session.note _ _ = begun
    obtain ⟨setting, declarations, elementStack⟩ := attributes tag.attributes begun
    have worklist := congrArg Setting.worklist setting
    have registry := congrArg Setting.registry setting
    have reports := congrArg Setting.reports setting
    have diagnostic := congrArg Setting.diagnostic setting
    subst begins
    split
    · exact ⟨declarations, elementStack, registry, reports, diagnostic, .inl worklist⟩
    · exact ⟨declarations, elementStack, registry, reports, diagnostic,
        .inr ⟨isTop, _, congrArg (Worklist.modifyCurrent · _) worklist, retargets _⟩⟩
  · split
    · exact ⟨Registry.grows_register _ _, rfl, rfl, rfl, fun h => (by cases h), fun h => (by cases h)⟩
    · exact ⟨rfl, rfl, rfl, rfl, rfl, .inl rfl⟩

theorem nameDocument_names (s : Session) (kind : DocumentKind) (nested : kind ≠ .topLevel)
    (request : Request) (reference : Option Reference) :
    (nameDocument kind request.location request.uri).Ends s (fun _ s' => Names s request s')
      (Halts s reference (some request)) := by
  simp only [nameDocument, DocumentEntry.nested, Bindings.bindUri, ends_bind, ends_get, ends_set]
  split
  · rename_i isNew
    exact ⟨rfl, rfl, rfl, rfl, rfl, .new isNew kind nested _ rfl⟩
  · rename_i diamond
    exact ⟨rfl, rfl, rfl, rfl, rfl, .known diamond rfl⟩
  · rename_i recursive
    exact ⟨Registry.grows_register _ _, rfl, rfl, rfl, fun h => (by cases h),
      fun _ => ⟨request, rfl, recursive, rfl⟩⟩

theorem startInclude_names (s : Session) (tag : StartTag) {kind : Tag}
    (isInclude : kind.entry.start = .includeDocument) (reference : Option Reference) :
    (startInclude tag).Ends s (fun _ s' => ∃ request, naming? s tag kind = some request ∧
      Names s request s') (Halts s reference (naming? s tag kind)) := by
  simp only [startInclude, ensureUnderSchema, naming?, isInclude, ends_bind, ends_get, ends_ite,
    ends_throw, ends_pure]
  split
  · exact .ofLocal ⟨rfl, rfl, rfl⟩ rfl
  · split
    · exact .ofLocal ⟨rfl, rfl, rfl⟩ rfl
    · exact (nameDocument_names s .included (by decide) ⟨_, _⟩ reference).imp_done
        fun _ s' names => ⟨_, rfl, names⟩

theorem startImport_names (s : Session) (tag : StartTag) {kind : Tag}
    (isImport : kind.entry.start = .importDocument) (reference : Option Reference) :
    (startImport tag).Ends s
      (fun _ s' => naming? s tag kind = none ∧ Declares s s' ∨
        ∃ request, naming? s tag kind = some request ∧ Names s request s')
      (Halts s reference (naming? s tag kind)) := by
  simp only [startImport, ensureUnderSchema, naming?, isImport, ends_bind, ends_get, ends_ite,
    ends_throw, ends_pure, ends_note]
  split
  · exact .ofLocal ⟨rfl, rfl, rfl⟩ rfl
  · split
    · exact .ofLocal ⟨rfl, rfl, rfl⟩ rfl
    · split
      · exact .ofLocal ⟨rfl, rfl, rfl⟩ rfl
      · split
        · exact .inl ⟨rfl, .ofPlaces rfl (List.Subset.refl _) fun _ => rfl⟩
        · exact (nameDocument_names s .imported (by decide) ⟨_, _⟩ reference).imp_done
            fun _ s' names => .inr ⟨_, rfl, names⟩

/-! ## Start tags -/

theorem naming?_eq_none (other : ¬(kind.entry.start = .includeDocument ∨
    kind.entry.start = .importDocument)) : naming? s tag kind = none := by
  cases naming : naming? s tag kind with
  | none => rfl
  | some _ => exact absurd (start_of_naming? naming).2 other

theorem acts_of_declares {action : Action Unit}
    (ends : action.Ends s (fun _ s' => Declares s s') (fun p s' => s'.setting = s.setting ∧
      p.IsLocal)) :
    action.Ends s (fun _ s' => Acts s none none s') (Refuses s none) :=
  ends.imp (fun _ _ declares => ⟨declares, fun _ own => (by cases own), fun _ own => (by cases own)⟩)
    fun _ _ ⟨setting, isLocal⟩ => .ofLocal isLocal setting

theorem reject_acts (s : Session) (kind : Tag) :
    (reject kind).Ends s (fun _ s' => Acts s none none s') (Refuses s none) := by
  simp only [reject, ends_bind, ends_skipContent, ends_throw]
  exact .ofLocal ⟨rfl, rfl, rfl⟩ rfl

/-- A start tag that names no document acts on the name that it refers to and the one that it
defines. -/
theorem startAction_acts (s : Session) (kind : Tag) (tag : StartTag)
    (other : kind.entry.start ∉ [.openSchema, .includeDocument, .importDocument]) :
    (startAction kind tag).Ends s
      (fun _ s' => Acts s (reference? s tag kind) (definition? s tag kind) s')
      (Refuses s (reference? s tag kind)) := by
  unfold startAction reference? definition?
  cases action : kind.entry.start with
  | openSchema | includeDocument | importDocument => simp [action] at other
  | reject => exact reject_acts s kind
  | refuseGroup =>
    simp only [ends_bind, ends_skipContent, ends_throw]
    exact .ofLocal ⟨rfl, rfl, rfl⟩ rfl
  | passThrough =>
    exact acts_of_declares (.ofPlaces rfl (List.Subset.refl _) fun _ => rfl)
  | skip =>
    exact acts_of_declares (.ofPlaces rfl (List.Subset.refl _) fun _ => rfl)
  | defineAttribute => exact startElement_acts s tag true
  | defineElement => exact startElement_acts s tag false
  | defineRecord => exact acts_of_declares (startGroup_declares s tag kind)
  | defineType => exact startType_acts s tag kind
  | addEnumerator => exact acts_of_declares (startEnumerator_declares s tag)
  | extendType =>
    simp only [ends_bind, ends_get, ends_ite]
    split
    · exact startDerivation_acts s tag false
    · exact reject_acts s kind
  | deriveList => exact startDerivation_acts s tag true
  | restrictType => exact startDerivation_acts s tag false

theorem startAction_effect (s : Session) (kind : Tag) (tag : StartTag) :
    (startAction kind tag).Ends s (fun _ s' => Effect s tag kind s')
      (Halts s (reference? s tag kind) (naming? s tag kind)) := by
  cases action : kind.entry.start with
  | openSchema =>
    rw [startAction, action]
    exact (startSchema_opens s tag _ _).imp_done fun _ _ opens => .schema action opens
  | includeDocument =>
    rw [startAction, action]
    refine (startInclude_names s tag action _).imp_done fun _ s' done => ?_
    obtain ⟨_, naming, names⟩ := done
    exact .names naming names
  | importDocument =>
    rw [startAction, action]
    refine (startImport_names s tag action _).imp_done fun _ s' done => ?_
    obtain ⟨none, declares⟩ | ⟨request, naming, names⟩ := done
    · exact .acts ⟨declares, fun r own => (by simp [reference?, action] at own),
        fun r own => (by simp [definition?, action] at own)⟩ none
    · exact .names naming names
  | _ =>
    exact (startAction_acts s kind tag (by simp [action])).imp
      (fun _ _ acts => .acts acts (naming?_eq_none (by simp [action])))
      fun _ _ refuses => refuses.halts

/-! ## Nodes -/

/-- The tag that a node starts outside skipped content. -/
def tag? (s : Session) (node : Node) : Option StartTag :=
  match node with
  | .start tag => if s.skipDepth = 0 then some tag else none
  | .stop _ => none

theorem eq_start_of_tag? {s : Session} {node : Node} {tag : StartTag} (own : tag? s node = some tag) :
    node = .start tag ∧ s.skipDepth = 0 := by
  unfold tag? at own
  split at own
  · split at own
    · rename_i reading
      exact ⟨congrArg Node.start (Option.some.inj own), reading⟩
    · cases own
  · cases own

/-- The name that a node refers to. -/
def refersTo? (s : Session) (node : Node) : Option Reference :=
  (tag? s node).bind fun tag => reference? s tag tag.kind

/-- The name that a node defines. -/
def defines? (s : Session) (node : Node) : Option Reference :=
  (tag? s node).bind fun tag => definition? s tag tag.kind

/-- The document that a node names. -/
def names? (s : Session) (node : Node) : Option Request :=
  (tag? s node).bind fun tag => naming? s tag tag.kind

/-- Sessions that differ in nothing that a node reads. -/
structure Alike (s m : Session) : Prop where
  setting : m.setting = s.setting
  declarations : m.declarations = s.declarations
  elementStack : m.elementStack = s.elementStack
  typeStack : m.typeStack = s.typeStack

/-- What reading a node does. -/
inductive Read (s : Session) (node : Node) (s' : Session) : Prop
  | starts {tag : StartTag} {m : Session} (start : tag? s node = some tag) (alike : Alike s m)
      (effect : Effect m tag tag.kind s')
  | passes (idle : tag? s node = none) (shuts : Shuts s s')
  | halts {p : Problem} {m : Session} (halts : Halts s (refersTo? s node) (names? s node) p m)
      (setting : s'.setting = (m.report p).setting)

theorem hasFailed_of_setting (same : s'.setting = s.setting) : s'.hasFailed = s.hasFailed :=
  congrArg (fun settled : Setting => settled.diagnostic.isFailure) same

/-- A node that halts fails. -/
theorem Halts.hasFailed {reference : Option Reference} {naming : Option Request} {p : Problem}
    {m : Session} (halts : Halts s reference naming p m)
    (setting : s'.setting = (m.report p).setting) : s'.hasFailed = true :=
  (hasFailed_of_setting setting).trans (hasFailed_report_of_fails m halts.isFailure)

section Alike

variable {m : Session} (alike : Alike s m)

include alike

theorem Alike.registry : m.registry = s.registry :=
  congrArg Setting.registry alike.setting

theorem Alike.worklist : m.worklist = s.worklist :=
  congrArg Setting.worklist alike.setting

theorem Alike.reference? : reference? m tag kind = reference? s tag kind := by
  have allowed : m.allowUnsupported = s.allowUnsupported :=
    congrArg Setting.allowUnsupported alike.setting
  simp only [Session.reference?, elementReference?, baseReference?,
    symbol?_of_setting alike.setting, allowed]

theorem Alike.definition? : definition? m tag kind = definition? s tag kind := by
  simp only [Session.definition?, elementDefinition?, typeDefinition?, alike.elementStack,
    alike.typeStack, target_of_setting alike.setting]

theorem Alike.naming? : naming? m tag kind = naming? s tag kind := by
  simp only [Session.naming?, target_of_setting alike.setting, alike.registry]

theorem Alike.opensSchema {uri : String} (opens : OpensSchema m uri s') :
    OpensSchema s uri s' where
  declarations := opens.declarations.trans alike.declarations
  elementStack := opens.elementStack.trans alike.elementStack
  registry := alike.registry ▸ opens.registry
  reports := opens.reports.trans (congrArg Setting.reports alike.setting)
  diagnostic := opens.diagnostic.trans (congrArg Setting.diagnostic alike.setting)
  worklist := by
    rw [← alike.registry, ← alike.worklist]
    exact opens.worklist

theorem Alike.names {request : Request} (names : Names m request s') : Names s request s' where
  declarations := names.declarations.trans alike.declarations
  elementStack := names.elementStack.trans alike.elementStack
  registry := alike.registry ▸ names.registry
  reports := names.reports.trans (congrArg Setting.reports alike.setting)
  diagnostic := names.diagnostic.trans (congrArg Setting.diagnostic alike.setting)
  worklist := by
    rw [← alike.registry, ← alike.worklist]
    exact names.worklist

theorem Alike.halts {reference : Option Reference} {naming : Option Request} {p : Problem}
    (halts : Halts m reference naming p s') : Halts s reference naming p s' where
  registry := alike.registry ▸ halts.registry
  worklist := halts.worklist.trans alike.worklist
  reports := halts.reports.trans (congrArg Setting.reports alike.setting)
  isFailure := halts.isFailure
  unknown := alike.declarations ▸ halts.unknown
  recursion := by
    rw [← alike.registry, ← alike.worklist]
    exact halts.recursion

end Alike

theorem setting_noteAttributes (s : Session) (kind : Tag) (tag : StartTag) :
    (noteAttributes s kind tag).setting = s.setting := by
  unfold noteAttributes
  induction tag.attributes generalizing s with
  | nil => rfl
  | cons a rest ih => exact ih _

/-- What comes before the action of a start tag makes no difference to it. -/
theorem alike_noteAttributes (s : Session) (position : Position) (kind : Tag) (tag : StartTag) :
    Alike s (noteAttributes { s with position, tagStack := kind :: s.tagStack } kind tag) :=
  have marks := marks_noteAttributes s position kind tag
  ⟨setting_noteAttributes _ _ _, marks.declarations, marks.elementStack, marks.typeStack⟩

theorem readStart_read (s : Session) (tag : StartTag) (position : Position) :
    Read s (.start tag) (readStart s tag position) := by
  unfold readStart
  dsimp only
  cases found : findTag { s with position } tag with
  | error problem =>
    exact .halts (m := { s with position }) (.ofLocal (isLocal_of_findTag found) rfl) rfl
  | ok kind =>
    obtain rfl := kind_of_findTag found
    dsimp only
    cases checked : checkContent { s with position } tag.name.localName tag.kind with
    | error problem =>
      exact .halts (m := { s with position }) (.ofLocal (isLocal_of_checkContent checked) rfl) rfl
    | ok _ =>
      dsimp only
      split
      · rename_i skipping
        exact .passes (if_neg (Nat.ne_of_gt skipping)) ⟨rfl, rfl, .inl⟩
      · rename_i reading
        have reading : s.skipDepth = 0 := Nat.eq_zero_of_not_pos reading
        have start : tag? s (.start tag) = some tag := if_pos reading
        have alike := alike_noteAttributes s position tag.kind tag
        refine perform_of_ends ((startAction_effect _ tag.kind tag).imp
          (fun _ s' effect => .starts start alike effect) fun p s' halts => .halts ?_ rfl)
        rw [alike.reference?, alike.naming?] at halts
        simpa only [refersTo?, names?, start, Option.bind_some] using alike.halts halts

theorem readStop_read (s : Session) (name : Markup.TagName) (position : Position) :
    Read s (.stop name) (readStop s position) := by
  unfold readStop
  dsimp only
  split
  · exact .passes rfl ⟨rfl, rfl, .inl⟩
  · split
    · exact .passes rfl ⟨rfl, rfl, .inl⟩
    · rename_i kind _ _ _
      refine perform_of_ends (s := { s with position })
        (P := fun s' => Read s (.stop name) { s' with tagStack := s'.tagStack.tail }) ?_
      exact (endAction_shuts { s with position } kind).imp
        (fun _ s' shuts => .passes rfl ⟨shuts.setting, shuts.declarations, shuts.elementStack⟩)
        fun p s' ⟨setting, isLocal⟩ => .halts (.ofLocal isLocal setting) rfl

/-- A node is read in one step, or in two if it is an empty tag. -/
theorem readNode_read (s : Session) (node : Node) (position : Position) :
    Read s node (readNode s node position) ∨
      ∃ m name, Read s node m ∧ m.hasFailed = false ∧
        Read m (.stop name) (readNode s node position) := by
  cases node with
  | stop name => exact .inl (readStop_read s name position)
  | start tag =>
    have started := readStart_read s tag position
    unfold readNode
    dsimp only
    split
    · rename_i ends
      simp only [Bool.and_eq_true, Bool.not_eq_true'] at ends
      exact .inr ⟨_, tag.name, started, ends.2, readStop_read _ _ position⟩
    · exact .inl started

/-! ## Documents -/

/-- What holds before some lexemes, and is kept by nodes and by what is between them, holds after
these lexemes and of the nodes that they delivered. -/
theorem readLexemes_inv {P : List Visit → Session → Prop}
    (between : ∀ {visits s} (r : Reader) (lexeme : Lexeme), P visits s →
      P visits (s.withScope (r.deliver s.scope lexeme).2.1))
    (fault : ∀ {visits s} (fault : ReaderFault) (position : Position), P visits s →
      P visits (({ s with position } : Session).report (.markup fault.message)))
    (node : ∀ {visits v s'}, v.session.hasFailed = false → P visits v.session →
      Read v.session v.node s' → P (visits ++ [v]) s')
    (stop : ∀ {visits s name s'}, s.hasFailed = false → P visits s → Read s (.stop name) s' →
      P visits s')
    (lexemes : List Lexeme) {s : Session} {r : Reader} (before : List Visit) (start : P before s) :
    P (before ++ visitsOf s r lexemes) (readLexemes s r lexemes) := by
  induction lexemes generalizing s r before with
  | nil => simpa [visitsOf, readLexemes] using start
  | cons lexeme rest ih =>
    unfold readLexemes visitsOf
    split
    · simpa using start
    · rename_i ok
      have inScope := between r lexeme start
      rcases delivered : r.deliver s.scope lexeme with ⟨r', scope, result⟩
      simp only [delivered] at inScope ⊢
      cases result with
      | error error => simpa using fault error r'.position inScope
      | ok read =>
        cases read with
        | none => simpa using inScope
        | some next =>
          dsimp only
          generalize visiting : (⟨s.withScope scope, next, r'.position⟩ : Visit) = v
          have session : v.session = s.withScope scope := by rw [← visiting]
          have after : v.after = readNode (s.withScope scope) next r'.position := by
            rw [← visiting]
            rfl
          have here : P (before ++ [v]) v.after := by
            have begins {s' : Session} (read : Read v.session v.node s') : P (before ++ [v]) s' :=
              node (session ▸ Bool.eq_false_iff.2 ok) (session ▸ inScope) read
            obtain whole | ⟨m, name, started, going, stopped⟩ :=
              readNode_read v.session v.node v.position
            · exact begins whole
            · exact stop going (begins started) stopped
          rw [← after]
          simpa using ih (r := r') (before ++ [v]) here

/-- What holds before some lexemes, and is kept by nodes and by what is between them, holds where each
of their nodes is read, which happens only before a failure. -/
theorem forall_mem_visitsOf {P : Session → Prop}
    (between : ∀ {s} (r : Reader) (lexeme : Lexeme), P s →
      P (s.withScope (r.deliver s.scope lexeme).2.1))
    (node : ∀ {v : Visit}, v.session.hasFailed = false → P v.session → P v.after)
    (lexemes : List Lexeme) {s : Session} {r : Reader} (start : P s) :
    ∀ v ∈ visitsOf s r lexemes, v.session.hasFailed = false ∧ P v.session := by
  generalize all : visitsOf s r lexemes = visits
  induction visits generalizing s r lexemes with
  | nil => simp
  | cons first rest ih =>
    obtain ⟨lexeme, later, r', scope, rfl, ok, delivered, session, others⟩ := visitsOf_eq_cons all
    have inScope := between r lexeme start
    rw [delivered, ← session] at inScope
    have going : first.session.hasFailed = false := by
      rw [session]
      exact ok
    exact List.forall_mem_cons.2 ⟨⟨going, inScope⟩, ih later (node going inScope) others⟩

end XsdRecords.Session
