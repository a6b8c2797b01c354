import XsdRecords.Proofs.Session.OpenTypes

/-! # What a start tag does

`Started` tells apart what a start tag does that is read without a failure outside skipped content:
it skips its content, opens nothing, or opens an element, a type or both. -/

namespace XsdRecords.Vocabulary

/-- Tags that open neither an element nor a type. -/
def plainTags : List Tag :=
  [.all, .simpleContent, .complexContent, .restriction, .extension, .list, .enumeration,
    .includeTag, .importTag, .schema]

/-- Tags that declare nothing and open neither an element nor a type. -/
def quietTags : List Tag :=
  [.all, .simpleContent, .complexContent, .includeTag, .importTag, .schema]

/-- The tags of an action that does more than reject or skip. -/
def StartAction.tags : StartAction → List Tag
  | .defineElement => [.element]
  | .defineAttribute => [.attributeTag]
  | .defineRecord => [.choice, .sequence]
  | .defineType => [.complexType, .simpleType]
  | .passThrough => [.all, .simpleContent, .complexContent]
  | .addEnumerator => [.enumeration]
  | .extendType => [.extension]
  | .importDocument => [.importTag]
  | .includeDocument => [.includeTag]
  | .deriveList => [.list]
  | .restrictType => [.restriction]
  | .openSchema => [.schema]
  | .reject | .refuseGroup | .skip => []

end XsdRecords.Vocabulary

namespace XsdRecords.Session

open XsdRecords.Declaration (ElementId TypeId)
open XsdRecords.Declaration.Declarations (SameBut Gains)
open XsdRecords.Markup (StartTag)
open XsdRecords.Vocabulary (Tag StartAction plainTags quietTags)
open XsdRecords.Action

/-! ## Schema, include and import tags -/

/-- A session that differs from another in nothing that is declared or open. -/
structure Untouched (s s' : Session) : Prop where
  sameStacks : SameStacks s s'
  declarations : s'.declarations = s.declarations

theorem Untouched.refl (s : Session) : Untouched s s :=
  ⟨.refl s, rfl⟩

theorem Untouched.opens {s s' : Session} (untouched : Untouched s s') : Opens [] [] s s' := by
  refine .ofNothing untouched.sameStacks ?_ ?_ fun _ => ?_
  · rw [untouched.declarations]
  · rw [untouched.declarations]
    exact .refl _
  · rw [untouched.declarations]

theorem startSchema_ends (s : Session) (tag : StartTag) :
    (startSchema tag).Ends s (fun _ s' => Untouched s s') Fails := by
  have attributes (l : List Markup.Attribute) (s : Session) :
      Untouched s (l.foldl (fun s a => s.setAttribute a.qualifiedName a.value) s) := by
    induction l generalizing s with
    | nil => exact .refl s
    | cons a rest ih =>
      obtain ⟨⟨es, ts, tags, depth⟩, same⟩ := ih (s.setAttribute a.qualifiedName a.value)
      exact ⟨⟨es, ts, tags, depth⟩, same⟩
  have kept (s : Session) (declared : NamespaceId) : Untouched s (keepTopLevel s tag declared) := by
    obtain ⟨⟨es, ts, tags, depth⟩, same⟩ := attributes tag.attributes s
    unfold keepTopLevel
    dsimp only
    split
    · exact ⟨⟨es, ts, tags, depth⟩, same⟩
    · exact ⟨⟨es, ts, tags, depth⟩, same⟩
  simp only [startSchema, ends_bind, ends_get, ends_set, ends_note, ends_ite, ends_modify,
    ends_throw, ends_pure]
  split
  · obtain ⟨⟨es, ts, tags, depth⟩, same⟩ := kept _ _
    exact ⟨⟨es, ts, tags, depth⟩, same⟩
  · split
    · rfl
    · exact ⟨⟨rfl, rfl, rfl, rfl⟩, rfl⟩

theorem ensureUnderSchema_ends (s : Session) (kind : Tag) :
    (ensureUnderSchema kind).Ends s (fun _ s' => s' = s) Fails := by
  simp only [ensureUnderSchema, ends_bind, ends_get, ends_ite, ends_throw, ends_pure]
  split
  · rfl
  · trivial

theorem nameDocument_ends (s : Session) (kind : DocumentKind) (location uri : String) :
    (nameDocument kind location uri).Ends s (fun _ s' => Untouched s s') Fails := by
  simp only [nameDocument, ends_bind, ends_get, ends_set]
  split
  · exact ⟨⟨rfl, rfl, rfl, rfl⟩, rfl⟩
  · exact ⟨⟨rfl, rfl, rfl, rfl⟩, rfl⟩
  · rfl

theorem startInclude_ends (s : Session) (tag : StartTag) :
    (startInclude tag).Ends s (fun _ s' => Untouched s s') Fails := by
  simp only [startInclude, ends_bind]
  refine (ensureUnderSchema_ends s .includeTag).imp_done fun _ s' same => ?_
  subst same
  simp only [ends_ite, ends_bind, ends_throw, ends_get]
  split
  · rfl
  · exact nameDocument_ends s' _ _ _

theorem startImport_ends (s : Session) (tag : StartTag) :
    (startImport tag).Ends s (fun _ s' => Untouched s s') Fails := by
  simp only [startImport, ends_bind]
  refine (ensureUnderSchema_ends s .importTag).imp_done fun _ s' same => ?_
  subst same
  simp only [ends_ite, ends_bind, ends_throw, ends_get, ends_note]
  split
  · rfl
  · split
    · rfl
    · split
      · exact ⟨⟨rfl, rfl, rfl, rfl⟩, rfl⟩
      · exact nameDocument_ends s' _ _ _

/-! ## Start tags -/

theorem mem_tags_of_start {kind : Tag} {action : StartAction} (h : kind.entry.start = action)
    (acts : action.tags ≠ []) : kind ∈ action.tags := by
  have known : kind.entry.start.tags = [] ∨ kind ∈ kind.entry.start.tags := by
    cases kind <;> decide
  rw [h] at known
  exact known.resolve_left acts

/-- What a start tag does without a problem is to skip its content, to leave alone all that is
declared or open, or what the tags of elements, groups, types, derivations and enumerations do. -/
theorem startAction_cases {s : Session} {kind : Tag} {tag : StartTag} {P : Session → Prop}
    (skip : kind.entry.start = .skip → ∀ e, P { s.note e with skipDepth := s.skipDepth + 1 })
    (quiet : kind ∈ quietTags → ∀ s', Untouched s s' → P s')
    (element : kind = .element ∨ kind = .attributeTag →
      (startElement tag (kind = .attributeTag)).Ends s (fun _ s' => P s') Fails)
    (group : kind = .choice ∨ kind = .sequence →
      (startGroup tag kind).Ends s (fun _ s' => P s') Fails)
    (type : kind = .complexType ∨ kind = .simpleType →
      (startType tag kind).Ends s (fun _ s' => P s') Fails)
    (derivation : kind = .restriction ∨ kind = .extension ∨ kind = .list →
      (startDerivation tag (kind = .list)).Ends s (fun _ s' => P s') Fails)
    (enumerator : kind = .enumeration → (startEnumerator tag).Ends s (fun _ s' => P s') Fails) :
    (startAction kind tag).Ends s (fun _ s' => P s') Fails := by
  unfold startAction
  cases action : kind.entry.start with
  | reject | refuseGroup =>
    simp only [reject, ends_bind, ends_skipContent, ends_throw]
    rfl
  | skip =>
    simp only [ends_bind, ends_note, ends_skipContent]
    exact skip action _
  | passThrough =>
    have isQuiet : StartAction.passThrough.tags ⊆ quietTags := by decide
    exact quiet (isQuiet (mem_tags_of_start action (by decide))) _ ⟨⟨rfl, rfl, rfl, rfl⟩, rfl⟩
  | defineAttribute =>
    obtain rfl := List.mem_singleton.1 (mem_tags_of_start action (by decide))
    exact element (.inr rfl)
  | defineElement =>
    obtain rfl := List.mem_singleton.1 (mem_tags_of_start action (by decide))
    exact element (.inl rfl)
  | defineRecord =>
    exact group (by simpa [StartAction.tags] using mem_tags_of_start action (by decide))
  | defineType =>
    exact type (by simpa [StartAction.tags] using mem_tags_of_start action (by decide))
  | addEnumerator =>
    obtain rfl := List.mem_singleton.1 (mem_tags_of_start action (by decide))
    exact enumerator rfl
  | extendType =>
    obtain rfl := List.mem_singleton.1 (mem_tags_of_start action (by decide))
    simp only [reject, ends_bind, ends_get, ends_ite, ends_skipContent, ends_throw]
    split
    · exact derivation (.inr (.inl rfl))
    · rfl
  | importDocument =>
    obtain rfl := List.mem_singleton.1 (mem_tags_of_start action (by decide))
    exact (startImport_ends s tag).imp_done fun _ => quiet (by decide)
  | includeDocument =>
    obtain rfl := List.mem_singleton.1 (mem_tags_of_start action (by decide))
    exact (startInclude_ends s tag).imp_done fun _ => quiet (by decide)
  | deriveList =>
    obtain rfl := List.mem_singleton.1 (mem_tags_of_start action (by decide))
    exact derivation (.inr (.inr rfl))
  | restrictType =>
    obtain rfl := List.mem_singleton.1 (mem_tags_of_start action (by decide))
    exact derivation (.inl rfl)
  | openSchema =>
    obtain rfl := List.mem_singleton.1 (mem_tags_of_start action (by decide))
    exact (startSchema_ends s tag).imp_done fun _ => quiet (by decide)

/-- What a start tag does to a session in which it is the innermost open tag. -/
inductive Started (s s' : Session) (tag : StartTag) (kind : Tag) : Prop
  /-- The content is skipped. -/
  | skip (action : kind.entry.start = .skip) (declarations : s'.declarations = s.declarations)
      (elementStack : s'.elementStack = s.elementStack) (typeStack : s'.typeStack = s.typeStack)
      (tagStack : s'.tagStack = s.tagStack) (skipDepth : s'.skipDepth = s.skipDepth + 1)
  /-- Nothing is opened; a derivation defines the innermost open type. -/
  | plain (isPlain : kind ∈ plainTags) (opens : Opens [] [] s s')
      (fields : ∀ id, (s'.declarations.type id).fields = (s.declarations.type id).fields)
      (derives : kind = .restriction ∨ kind = .list → ∀ type, s.typeStack.head? = some type →
        (s'.declarations.type type).isDefined = true)
  /-- An element is opened. -/
  | element (isElement : kind = .element ∨ kind = .attributeTag) (id : ElementId)
      (opens : Opens [] [id] s s')
      (same : SameBut s.typeStack.head?.toList [id] s.declarations s'.declarations)
      (tagged : (s'.declarations.element id).isUntagged = false)
      (gains : ∀ type, s.typeStack.head? = some type →
        Gains type (tag.fieldName, id) s.declarations s'.declarations ∧
        (s'.declarations.element id).isAttribute = decide (kind = .attributeTag))
  /-- A type is opened. -/
  | type (isType : kind = .complexType ∨ kind = .simpleType) (type : TypeId)
      (opens : Opens [type] [] s s')
      (same : SameBut [type] s.elementStack.head?.toList s.declarations s'.declarations)
      (fields : (s'.declarations.type type).fields = [])
      (isDefined : kind = .complexType → (s'.declarations.type type).isDefined = true)
      (owner : ∀ id, s.elementStack.head? = some id →
        (s'.declarations.element id).isDefined = true)
  /-- A group lays out the innermost open type. -/
  | layout (isGroup : kind = .choice ∨ kind = .sequence)
      (unwrapped : isWrapped (outerTag s) (!s.elementStack.isEmpty) tag = false)
      (outer : outerTag s = .complexType) (opens : Opens [] [] s s')
      (fields : ∀ id, (s'.declarations.type id).fields = (s.declarations.type id).fields)
  /-- A group opens a field with a type of its own. -/
  | group (isGroup : kind = .choice ∨ kind = .sequence)
      (wrapped : isWrapped (outerTag s) (!s.elementStack.isEmpty) tag = true)
      (parent type : TypeId) (element : ElementId) (head : s.typeStack.head? = some parent)
      (opens : OpensUntagged parent type element s s')
      (isChoice : (s'.declarations.type type).isChoice = decide (kind = .choice))

theorem Untouched.started {s s' : Session} {tag : StartTag} {kind : Tag}
    (untouched : Untouched s s') (isQuiet : kind ∈ quietTags) : Started s s' tag kind := by
  have isPlain : quietTags ⊆ plainTags := by decide
  refine .plain (isPlain isQuiet) untouched.opens (fun _ => by rw [untouched.declarations]) ?_
  rintro (rfl | rfl) <;> exact absurd isQuiet (by decide)

/-- The action of a start tag, where a name that it makes up is free and a group stands in a defined
type. -/
theorem startAction_ends {s : Session} (lawful : Lawful s) (kind : Tag) (tag : StartTag)
    (free : makesUpName (outerTag s) (!s.elementStack.isEmpty) tag kind = true →
      s.declarations.Free)
    (defined : kind = .choice ∨ kind = .sequence → ∀ type, s.typeStack.head? = some type →
      (s.declarations.type type).isDefined = true) :
    (startAction kind tag).Ends s (fun _ s' => Started s s' tag kind) Fails := by
  refine startAction_cases (fun action _ => .skip action rfl rfl rfl rfl rfl)
    (fun isQuiet _ untouched => untouched.started isQuiet) (fun isElement => ?_)
    (fun isGroup => ?_) (fun isType => ?_) (fun derives => ?_) fun isEnumeration => ?_
  · refine (startElement_ends lawful tag _).imp_done ?_
    rintro - s' ⟨id, opens, same, tagged, -, gains⟩
    exact .element isElement id opens same tagged gains
  · have wraps (wrapped : isWrapped (outerTag s) (!s.elementStack.isEmpty) tag = true) :
        s.declarations.Free := by
      obtain rfl | rfl := isGroup <;> exact free wrapped
    refine (startGroup_ends lawful tag kind wraps (defined isGroup)).imp_done fun _ s' h => ?_
    obtain ⟨unwrapped, outer, opens, fields⟩ |
      ⟨wrapped, parent, type, element, head, opens, isChoice⟩ := h
    · exact .layout isGroup unwrapped outer opens fields
    · exact .group isGroup wrapped parent type element head opens isChoice
  · have inside (enclosed : s.elementStack.isEmpty = false) : s.declarations.Free := by
      obtain rfl | rfl := isType <;> exact free (by rw [enclosed]; rfl)
    refine (startType_ends lawful kind inside).imp_done ?_
    rintro - s' ⟨type, opens, same, fields, isDefined, owner⟩
    exact .type isType type opens same fields isDefined owner
  · have isPlain : kind ∈ plainTags := by
      obtain rfl | rfl | rfl := derives <;> decide
    refine (startDerivation_ends lawful tag _).imp_done ?_
    rintro - s' ⟨opens, fields, isDefined⟩
    exact .plain isPlain opens fields fun _ => isDefined
  · refine (startEnumerator_ends s tag).imp_done ?_
    rintro - s' ⟨opens, fields⟩
    subst isEnumeration
    exact .plain (by decide) opens fields fun h => absurd h (by decide)

/-! ## Nodes -/

/-- A session in which a tag is the innermost open one, and nothing else is done. -/
structure Marks (kind : Tag) (s m : Session) : Prop where
  declarations : m.declarations = s.declarations
  elementStack : m.elementStack = s.elementStack
  typeStack : m.typeStack = s.typeStack
  tagStack : m.tagStack = kind :: s.tagStack
  skipDepth : m.skipDepth = s.skipDepth

/-- A tag that was marked stands in the tag that was the innermost open one. -/
theorem Marks.outerTag {s m : Session} {kind : Tag} (marks : Marks kind s m) :
    outerTag m = parentTag s := by
  rw [Session.outerTag, marks.tagStack]
  rfl

theorem marks_noteAttributes (s : Session) (position : Position) (kind : Tag) (tag : StartTag) :
    Marks kind s
      (noteAttributes { s with position, tagStack := kind :: s.tagStack } kind tag) := by
  have noted (l : List Markup.Attribute) (m : Session) (marks : Marks kind s m) :
      Marks kind s (l.foldl
        (fun s a => s.note (.attributeSeen kind.name a.qualifiedName a.value)) m) := by
    induction l generalizing m with
    | nil => exact marks
    | cons a rest ih =>
      exact ih _ ⟨marks.declarations, marks.elementStack, marks.typeStack, marks.tagStack,
        marks.skipDepth⟩
  exact noted tag.attributes _ ⟨rfl, rfl, rfl, rfl, rfl⟩

theorem Marks.lawful {s m : Session} {kind : Tag} (marks : Marks kind s m) (lawful : Lawful s) :
    Lawful m :=
  lawful.untouched marks.declarations marks.elementStack marks.typeStack

theorem hasFailed_report_of_fails (s : Session) {problem : Problem}
    (fails : problem.severity.isFailure = true) : (s.report problem).hasFailed = true :=
  Journal.hasFailed_report_of_isFailure s.journal fails

theorem isLocal_of_findTag {s : Session} {tag : StartTag} {problem : Problem}
    (h : findTag s tag = .error problem) : problem.IsLocal := by
  unfold findTag at h
  dsimp only at h
  split at h
  · obtain rfl := Except.error.inj h
    exact ⟨rfl, rfl, rfl⟩
  · split at h
    · split at h
      · cases h
      · obtain rfl := Except.error.inj h
        exact ⟨rfl, rfl, rfl⟩
    · cases h

theorem kind_of_findTag {s : Session} {tag : StartTag} {kind : Tag}
    (h : findTag s tag = .ok kind) : tag.kind = kind := by
  unfold findTag at h
  unfold StartTag.kind
  dsimp only at h
  split at h
  · cases h
  · split at h
    · rename_i unknown
      split at h
      · rw [unknown]
        exact Except.ok.inj h
      · cases h
    · rename_i known
      rw [known]
      exact Except.ok.inj h

theorem isLocal_of_checkContent {s : Session} {name : String} {kind : Tag} {problem : Problem}
    (h : checkContent s name kind = .error problem) : problem.IsLocal := by
  unfold checkContent at h
  split at h
  · cases h
  · split at h
    · obtain rfl := Except.error.inj h
      exact ⟨rfl, rfl, rfl⟩
    · obtain rfl := Except.error.inj h
      exact ⟨rfl, rfl, rfl⟩

theorem allows_of_checkContent {s : Session} {name : String} {kind : Tag}
    (h : checkContent s name kind = .ok ()) : (parentTag s).allows kind = true := by
  unfold checkContent at h
  split at h
  · assumption
  · split at h <;> cases h

/-- A start tag that is read without a failure is one that its parent allows. -/
theorem readStart_eq_of_ok {s : Session} {tag : StartTag} {position : Position}
    (ok : (readStart s tag position).hasFailed = false) :
    (parentTag s).allows tag.kind = true ∧
      readStart s tag position =
        let opened := { s with position, tagStack := tag.kind :: s.tagStack }
        if 0 < s.skipDepth then { opened with skipDepth := s.skipDepth + 1 }
        else (noteAttributes opened tag.kind tag).perform (startAction tag.kind tag) := by
  unfold readStart at ok ⊢
  dsimp only at ok ⊢
  cases found : findTag { s with position } tag with
  | error problem =>
    rw [found] at ok
    rw [hasFailed_report_of_fails _ (isLocal_of_findTag found).isFailure] at ok
    cases ok
  | ok kind =>
    obtain rfl := kind_of_findTag found
    simp only [found] at ok ⊢
    cases checked : checkContent { s with position } tag.name.localName tag.kind with
    | error problem =>
      simp only [checked] at ok
      rw [hasFailed_report_of_fails _ (isLocal_of_checkContent checked).isFailure] at ok
      cases ok
    | ok _ => exact ⟨allows_of_checkContent checked, rfl⟩

/-- A start tag that is read without a failure outside skipped content is marked, its attributes are
noted, and it acts. -/
theorem readStart_eq_perform {s : Session} {tag : StartTag} {position : Position}
    (reading : s.skipDepth = 0) (ok : (readStart s tag position).hasFailed = false) :
    readStart s tag position =
      (noteAttributes { s with position, tagStack := tag.kind :: s.tagStack } tag.kind tag).perform
        (startAction tag.kind tag) :=
  (readStart_eq_of_ok ok).2.trans (if_neg (by rw [reading]; exact Nat.lt_irrefl 0))

/-- What comes before the action of such a tag only marks it. -/
theorem readStart_of_reading {s : Session} {tag : StartTag} {position : Position}
    (reading : s.skipDepth = 0) (ok : (readStart s tag position).hasFailed = false) :
    ∃ m, Marks tag.kind s m ∧ readStart s tag position = m.perform (startAction tag.kind tag) :=
  ⟨_, marks_noteAttributes s position tag.kind tag, readStart_eq_perform reading ok⟩

/-- What a start tag does that is read without a failure outside skipped content. -/
theorem started_of_ok {s : Session} (lawful : Lawful s) {tag : StartTag} {position : Position}
    (reading : s.skipDepth = 0)
    (free : makesUpName (parentTag s) (!s.elementStack.isEmpty) tag tag.kind = true →
      s.declarations.Free)
    (defined : tag.kind = .choice ∨ tag.kind = .sequence → ∀ type, s.typeStack.head? = some type →
      (s.declarations.type type).isDefined = true)
    (ok : (readStart s tag position).hasFailed = false) :
    ∃ m, Marks tag.kind s m ∧ Started m (readStart s tag position) tag tag.kind := by
  obtain ⟨m, marks, whole⟩ := readStart_of_reading reading ok
  rw [whole] at ok ⊢
  refine ⟨m, marks, done_of_perform (startAction_ends (marks.lawful lawful) tag.kind tag ?_ ?_) ok⟩
  · rw [marks.outerTag, marks.elementStack, marks.declarations]
    exact free
  · intro isGroup type head
    rw [marks.typeStack] at head
    rw [marks.declarations]
    exact defined isGroup type head

end XsdRecords.Session
