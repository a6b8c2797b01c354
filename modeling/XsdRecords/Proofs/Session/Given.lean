import XsdRecords.Proofs.Declaration.Given
import XsdRecords.Proofs.Session.Stacks

/-! # What the attributes of tags give

`Gives` lists what a start tag does to what attributes give: an element or attribute tag gives one
element its form, a group widens the occurrences of one, a type tag may keep the order of
enumerators, an enumeration tag adds one, and every other tag leaves all of it alone. -/

namespace XsdRecords

open XsdRecords.Declaration (Declarations ElementId TypeId Element TypeDef Symbol)
open XsdRecords.Markup (StartTag)
open XsdRecords.Vocabulary (Tag)

namespace Session

open XsdRecords.Declaration.Declarations (KeepsGiven)
open XsdRecords.Action

variable {s s' : Session}

/-- One state of a session has all that the tags before another gave. -/
abbrev KeptGiven (s s' : Session) : Prop :=
  KeepsGiven s.declarations s'.declarations

theorem Untouched.keptGiven (untouched : Untouched s s') : KeptGiven s s' := by
  rw [KeptGiven, untouched.declarations]
  exact .refl _

/-! ## Element and attribute tags -/

theorem findType_keepsGiven (s : Session) (symbol : Symbol) :
    (findType symbol).Ends s (fun _ s' => KeptGiven s s') Fails := by
  refine (findType_ends s symbol).imp_done ?_
  rintro - s' ⟨-, declared, -⟩
  rw [KeptGiven, declared]
  exact .ofSameBut (Declarations.sameBut_findOrAddType _ _)

theorem resolveElement_keepsGiven (inRange : s.declarations.InRange) (id : ElementId)
    (tag : StartTag) (name : String) (isTopLevel isAttribute : Bool) :
    (resolveElement id tag name isTopLevel isAttribute).Ends s (fun _ s' => KeptGiven s s')
      Fails := by
  simp only [resolveElement, ends_bind, ends_get]
  split
  · simp only [referTo, ends_bind, ends_ite, ends_throw]
    split
    · split <;> rfl
    · refine (findRoot_ends inRange _ isAttribute).imp_done ?_
      rintro target m ⟨-, same, -⟩
      simp only [ends_declarations, ends_get, ends_modifyElement, ends_pure]
      split
      · split <;> rfl
      · exact (KeepsGiven.ofSameBut same).trans
          (.modifyElement _ _ (fun _ => rfl) fun _ => rfl)
  · split
    · simp only [ends_bind]
      refine (findType_keepsGiven s _).imp_done fun type m kept => ?_
      simp only [ends_modifyElement, ends_pure]
      exact kept.trans (.modifyElement _ _ (fun _ => rfl) fun _ => rfl)
    · exact KeepsGiven.refl s.declarations

theorem addToType_keepsGiven (s : Session) (id : ElementId) (name : String) (isAttribute : Bool) :
    (addToType id name isAttribute).Ends s
      (fun _ s' => s'.elementStack = s.elementStack ∧ KeptGiven s s') Fails := by
  simp only [addToType, ends_bind, ends_get]
  split
  · exact ⟨rfl, .refl _⟩
  · simp only [ends_ite, ends_bind, ends_throw, ends_setDeclarations]
    split
    · rfl
    · exact ⟨trivial, .modifyType _ _ (fun _ => rfl) fun _ => rfl⟩

/-- An element or attribute tag opens an element and gives it its form. -/
theorem startElement_gives (lawful : Lawful s) (tag : StartTag) (isAttribute : Bool) :
    (startElement tag isAttribute).Ends s
      (fun _ s' => ∃ id d form, s'.elementStack.head? = some id ∧ KeepsGiven s.declarations d ∧
        id.index < d.elements.size ∧ ElementForm.read tag isAttribute = .ok form ∧
        KeepsGiven (d.modifyElement id form.apply) s'.declarations)
      Fails := by
  rw [startElement_eq]
  simp only [ends_bind, ends_get]
  refine (declareElement_resolves lawful tag isAttribute _ (R := fun _ => KeptGiven) fun opened =>
    resolveElement_keepsGiven (lawful.opens opened.opens).inRange _ tag _ _ isAttribute).imp_done ?_
  rintro ⟨id, name⟩ m ⟨rfl, form, opened, resolved, declares, kept, rfl⟩
  have head : resolved.elementStack.head? = some id :=
    congrArg List.head? declares.opens.elementStack
  have before : KeepsGiven s.declarations resolved.declarations :=
    (KeepsGiven.ofSameBut declares.opening.same).trans kept
  have bound := (declares.opens.newElement (List.mem_singleton.2 rfl)).2
  simp only [ends_ite, ends_pure]
  split
  · refine (addToType_keepsGiven _ id _ isAttribute).imp_done ?_
    rintro - s' ⟨sameStack, after⟩
    exact ⟨id, _, form, by rw [sameStack]; exact head, before, bound, declares.reads, after⟩
  · exact ⟨id, _, form, head, before, bound, declares.reads, .refl _⟩

/-! ## Type and group tags -/

/-- A type tag finds its type, which is there by then. -/
theorem openType_gives (inRange : s.declarations.InRange) (name : String) :
    (openType name).Ends s
      (fun type s' => KeptGiven s s' ∧ type.index < s'.declarations.types.size) Fails := by
  simp only [openType, ends_bind, ends_get]
  split
  · simp only [ends_ite, ends_bind, ends_throw]
    split
    · rfl
    · refine ((findType_edits inRange _).and (findType_keepsGiven s _)).imp ?_ fun _ _ h => h.2
      rintro type m ⟨⟨-, bound, -⟩, kept⟩
      simp only [ends_declarations, ends_pure]
      split
      · rfl
      · exact ⟨kept, bound⟩
  · simp only [ends_ite, ends_bind, ends_throw, ends_declare]
    split
    · rfl
    · have minted := KeepsGiven.ofSameBut (Declarations.sameBut_anonymousSymbol s.declarations)
      refine ((findType_edits (s := { s with declarations := s.declarations.anonymousSymbol.1 })
        (inRange.edit .mint) _).and (findType_keepsGiven _ _)).imp ?_ fun _ _ h => h.2
      rintro type m ⟨⟨-, bound, -⟩, kept⟩
      simp only [ends_modifyElement, ends_pure]
      exact ⟨(minted.trans kept).trans (.modifyElement _ _ (fun _ => rfl) fun _ => rfl), bound⟩

/-- Whether a type tag asks for the order of enumerators to be kept. -/
def keepsOrder (tag : StartTag) (kind : Tag) : Bool :=
  kind ≠ .complexType && (tag.annotated? "preserveEnumOrder").any isTrue

/-- A type whose enumerators are kept in order from now on, or are as they were. -/
def keepOrder (keeps : Bool) (t : TypeDef) : TypeDef :=
  { t with preserveEnumIds := t.preserveEnumIds || keeps }

/-- Nothing changes where nothing asks for the order to be kept. -/
theorem keepsGiven_keepOrder_false (d : Declarations) (type : TypeId) :
    KeepsGiven d (d.modifyType type (keepOrder false)) :=
  .modifyType d type (fun _ => rfl) fun _ => Bool.or_false _

/-- A type tag opens a type, and may ask for the order of its enumerators. -/
theorem startType_gives (inRange : s.declarations.InRange) (tag : StartTag) (kind : Tag) :
    (startType tag kind).Ends s
      (fun _ s' => ∃ type d, s'.typeStack.head? = some type ∧ KeepsGiven s.declarations d ∧
        type.index < d.types.size ∧
        KeepsGiven (d.modifyType type (keepOrder (keepsOrder tag kind))) s'.declarations)
      Fails := by
  simp only [startType, ends_bind, ends_get]
  refine (openType_gives inRange _).imp_done ?_
  rintro type m ⟨kept, bound⟩
  simp only [ends_note, ends_ite, ends_bind, ends_modifyType, ends_pushType]
  split
  · rename_i complex
    refine ⟨type, _, rfl, kept, bound, ?_⟩
    rw [keepsOrder, complex]
    exact (keepsGiven_keepOrder_false _ type).symm.trans
      (.modifyType _ type (fun _ => rfl) fun _ => rfl)
  · rename_i simple
    split
    · rename_i asks
      have keeps : keepOrder true = fun t : TypeDef => { t with preserveEnumIds := true } := by
        funext t
        rw [keepOrder, Bool.or_true]
      refine ⟨type, _, rfl, kept, bound, ?_⟩
      rw [keepsOrder, asks, decide_eq_true simple, Bool.and_true, keeps]
      exact .refl _
    · rename_i silent
      refine ⟨type, _, rfl, kept, bound, ?_⟩
      rw [keepsOrder, Bool.eq_false_iff.2 silent, Bool.and_false]
      exact (keepsGiven_keepOrder_false _ type).symm

theorem keepsGiven_untaggedField (d : Declarations) (type parent : TypeId) :
    KeepsGiven d (untaggedField d type parent).1 := by
  refine KeepsGiven.trans (.modifyType d type (f := complex) (fun _ => rfl) fun _ => rfl) ?_
  refine KeepsGiven.trans (.ofSameBut (Declarations.sameBut_addElement _)) ?_
  refine KeepsGiven.trans (.modifyElement _ (untaggedField d type parent).2 (f := untag type)
    (fun _ => rfl) fun _ => rfl) ?_
  exact .modifyType _ parent (fun _ => rfl) fun _ => rfl

theorem openUntagged_keepsGiven (s : Session) (parent : TypeId) :
    (openUntagged parent).Ends s
      (fun opened s' => s'.elementStack.head? = some opened.2 ∧ KeptGiven s s' ∧
        opened.2.index < s'.declarations.elements.size) Fails := by
  simp only [openUntagged, ends_bind, ends_declare, ends_modifyType, ends_pushType,
    ends_modifyElement, ends_declarations, ends_setDeclarations, ends_pushElement, ends_pure]
  have found := KeepsGiven.ofSameBut ((Declarations.sameBut_anonymousSymbol s.declarations).trans
    (Declarations.sameBut_findOrAddType _ s.declarations.anonymousSymbol.2))
  exact ⟨rfl, found.trans (keepsGiven_untaggedField _ _ parent),
    lt_size_element_untaggedField _ _ parent⟩

/-- A group widens the occurrences of the element that is the innermost open one by then. -/
theorem startGroup_gives (lawful : Lawful s) (tag : StartTag) (kind : Tag) :
    (startGroup tag kind).Ends s
      (fun _ s' => ∃ d, KeepsGiven s.declarations d ∧
        match s'.elementStack.head? with
        | some id => id.index < d.elements.size ∧
          s'.declarations = d.modifyElement id (occurAs tag.least tag.largest)
        | none => s'.declarations = d)
      Fails := by
  refine (startGroup_lays (P := fun _ _ element m => m.elementStack.head? = some element ∧
    KeptGiven s m ∧ element.index < m.declarations.elements.size) tag kind
      fun _ parent _ => openUntagged_keepsGiven s parent).imp_done fun _ s' h => ?_
  have chosen (d : Declarations) (type : TypeId) :
      KeepsGiven d (d.modifyType type (choose (kind = .choice))) :=
    .modifyType d type (fun _ => rfl) fun _ => rfl
  obtain ⟨-, -, sameStacks, type, -, declarations⟩ |
    ⟨-, -, type, element, m, -, ⟨head, kept, bound⟩, sameStacks, declarations⟩ := h
  · refine ⟨_, chosen s.declarations type, ?_⟩
    rw [sameStacks.elementStack]
    cases opened : s.elementStack.head? with
    | none =>
      rw [opened] at declarations
      exact declarations
    | some id =>
      rw [opened] at declarations
      exact ⟨lawful.openElement (List.mem_of_mem_head? opened), declarations⟩
  · refine ⟨_, kept.trans (chosen m.declarations type), ?_⟩
    rw [sameStacks.elementStack, head]
    exact ⟨bound, declarations⟩

/-! ## Derivation and enumeration tags -/

theorem startDerivation_keepsGiven (s : Session) (tag : StartTag) (isList : Bool) :
    (startDerivation tag isList).Ends s (fun _ s' => KeptGiven s s') Fails := by
  simp only [startDerivation, ends_bind, ends_get]
  split
  · split <;> rfl
  · split
    · simp only [ends_bind]
      refine (findType_keepsGiven s _).imp_done fun base m kept => ?_
      simp only [ends_declarations, ends_ite, ends_bind, ends_throw, ends_note, ends_modifyType]
      split
      · rfl
      · exact kept.trans (.modifyType _ _ (fun _ => rfl) fun _ => rfl)
    · split <;> rfl

/-- The literal of an enumeration tag. -/
def literal (tag : StartTag) : String :=
  (tag.plain? "value").getD ""

/-- The id that an enumeration tag gives its enumerator. -/
def enumeratorId (tag : StartTag) : Option Int :=
  match annotatedId? tag with
  | .ok id => id
  | .error _ => none

/-- Whether a type is a string, as far as its bases are known. -/
def isString (s : Session) (type : TypeId) : Bool :=
  (s.declarations.builtin type).any (·.isString)

/-- An enumeration tag adds an enumerator to the innermost open type, if that is a string. -/
theorem startEnumerator_gives (lawful : Lawful s) (tag : StartTag) :
    (startEnumerator tag).Ends s
      (fun _ s' => (∀ id, s'.declarations.element id = s.declarations.element id) ∧
        ∀ id, s'.declarations.type id =
          if s.typeStack.head? = some id ∧ isString s id = true then
            (s.declarations.type id).addEnumerator (literal tag) (enumeratorId tag)
          else s.declarations.type id)
      Fails := by
  simp only [startEnumerator, ends_bind, ends_get]
  split
  · rfl
  · rename_i type rest opened
    have bound := lawful.openType (by rw [opened]; exact List.mem_cons_self : type ∈ s.typeStack)
    simp only [ends_ite, ends_bind, ends_ofExcept, opened, List.head?_cons, Option.some.injEq]
    split
    · rename_i counts
      split
      · rename_i number reads
        simp only [ends_note, ends_modifyType]
        refine ⟨fun _ => rfl, fun id => ?_⟩
        have same : enumeratorId tag = number := by rw [enumeratorId, reads]
        by_cases own : type = id
        · subst own
          rw [if_pos ⟨rfl, counts⟩, same]
          exact Declarations.type_modifyType bound _
        · rw [if_neg fun h => own h.1]
          exact Declarations.type_modifyType_of_ne own _
      · rename_i problem reads
        exact (isOfValue_of_annotatedId? reads).isLocal.isFailure
    · rename_i passed
      refine ⟨fun _ => rfl, fun id => (if_neg ?_).symm⟩
      rintro ⟨rfl, counts⟩
      exact passed counts

/-! ## Start tags -/

/-- The tags whose attributes give what is kept elsewhere. -/
def givingTags : List Tag :=
  [.element, .attributeTag, .simpleType, .complexType, .choice, .sequence, .enumeration]

/-- What a start tag does to what attributes give. -/
inductive Gives (tag : StartTag) (kind : Tag) (s s' : Session) : Prop
  | element (isElement : kind = .element ∨ kind = .attributeTag) (id : ElementId)
      (d : Declarations) (form : ElementForm) (head : s'.elementStack.head? = some id)
      (before : KeepsGiven s.declarations d) (bound : id.index < d.elements.size)
      (reads : ElementForm.read tag (kind = .attributeTag) = .ok form)
      (after : KeepsGiven (d.modifyElement id form.apply) s'.declarations)
  | type (isType : kind = .complexType ∨ kind = .simpleType) (id : TypeId) (d : Declarations)
      (head : s'.typeStack.head? = some id) (before : KeepsGiven s.declarations d)
      (bound : id.index < d.types.size)
      (after : KeepsGiven (d.modifyType id (keepOrder (keepsOrder tag kind))) s'.declarations)
  | group (isGroup : kind = .choice ∨ kind = .sequence) (d : Declarations)
      (before : KeepsGiven s.declarations d)
      (widens : match s'.elementStack.head? with
        | some id => id.index < d.elements.size ∧
          s'.declarations = d.modifyElement id (occurAs tag.least tag.largest)
        | none => s'.declarations = d)
  | enumerator (isEnumeration : kind = .enumeration)
      (elements : ∀ id, s'.declarations.element id = s.declarations.element id)
      (types : ∀ id, s'.declarations.type id =
        if s.typeStack.head? = some id ∧ isString s id = true then
          (s.declarations.type id).addEnumerator (literal tag) (enumeratorId tag)
        else s.declarations.type id)
  | nothing (other : kind ∉ givingTags) (kept : KeptGiven s s')

theorem startAction_gives (lawful : Lawful s) (tag : StartTag) (kind : Tag) :
    (startAction kind tag).Ends s (fun _ s' => Gives tag kind s s') Fails := by
  refine startAction_cases (fun action _ => ?_) (fun isQuiet _ same => ?_) (fun isElement => ?_)
    (fun isGroup => ?_) (fun isType => ?_) (fun derives => ?_) fun isEnumeration => ?_
  · exact .nothing (by revert action; cases kind <;> decide) (.refl s.declarations)
  · exact .nothing (by revert isQuiet; cases kind <;> decide) same.keptGiven
  · refine (startElement_gives lawful tag _).imp_done ?_
    rintro - s' ⟨id, d, form, head, before, bound, reads, after⟩
    exact .element isElement id d form head before bound reads after
  · refine (startGroup_gives lawful tag kind).imp_done ?_
    rintro - s' ⟨d, before, widens⟩
    exact .group isGroup d before widens
  · refine (startType_gives lawful.inRange tag kind).imp_done ?_
    rintro - s' ⟨id, d, head, before, bound, after⟩
    exact .type isType id d head before bound after
  · have other : kind ∉ givingTags := by obtain rfl | rfl | rfl := derives <;> decide
    exact (startDerivation_keepsGiven s tag _).imp_done fun _ _ kept => .nothing other kept
  · refine (startEnumerator_gives lawful tag).imp_done ?_
    rintro - s' ⟨elements, types⟩
    exact .enumerator isEnumeration elements types

/-- What comes before the action of a tag changes nothing of what attributes give. -/
theorem Gives.of_marks {m : Session} {tag : StartTag} {kind : Tag} (marks : Marks kind s m)
    (gives : Gives tag kind m s') : Gives tag kind s s' := by
  have declarations := marks.declarations
  cases gives with
  | element isElement id d form head before bound reads after =>
    exact .element isElement id d form head (declarations ▸ before) bound reads after
  | type isType id d head before bound after =>
    exact .type isType id d head (declarations ▸ before) bound after
  | group isGroup d before widens => exact .group isGroup d (declarations ▸ before) widens
  | enumerator isEnumeration elements types =>
    rw [declarations] at elements types
    refine .enumerator isEnumeration elements fun id => ?_
    rw [types, isString, isString, declarations, marks.typeStack]
  | nothing other kept =>
    rw [KeptGiven, declarations] at kept
    exact .nothing other kept

/-- What a start tag outside skipped content does. -/
theorem Lawful.gives_readStart (lawful : Lawful s) {tag : StartTag} {position : Position}
    (reading : s.skipDepth = 0) (ok : (readStart s tag position).hasFailed = false) :
    Gives tag tag.kind s (readStart s tag position) := by
  obtain ⟨m, marks, whole⟩ := readStart_of_reading reading ok
  rw [whole] at ok ⊢
  exact .of_marks marks (done_of_perform (startAction_gives (marks.lawful lawful) tag tag.kind) ok)

/-! ## End tags -/

/-- An empty tag ends at once, which changes no declarations. -/
theorem declarations_readNode_start {s : Session} {tag : StartTag} {position : Position}
    (ok : (readNode s (.start tag) position).hasFailed = false) :
    (readNode s (.start tag) position).declarations =
      (readStart s tag position).declarations := by
  rw [(readNode_start ok).2]
  split
  · exact declarations_readStop _ _
  · rfl

/-! ## Nodes -/

/-- What a node makes of declarations: only a start tag outside skipped content changes them. -/
inductive Visit.Makes : Visit → Declarations → Prop
  | stop (s : Session) (name : Markup.TagName) (position : Position) :
    Makes ⟨s, .stop name, position⟩ s.declarations
  | skipped (s : Session) (tag : StartTag) (position : Position) (skipping : s.skipDepth ≠ 0) :
    Makes ⟨s, .start tag, position⟩ s.declarations
  | start (s : Session) (tag : StartTag) (position : Position) (reading : s.skipDepth = 0)
    (ok : (readStart s tag position).hasFailed = false) :
    Makes ⟨s, .start tag, position⟩ (readStart s tag position).declarations

theorem Visit.makes {v : Visit} (ok : v.after.hasFailed = false) :
    v.Makes v.after.declarations := by
  obtain ⟨s, node, position⟩ := v
  cases node with
  | stop name =>
    have same : (Visit.mk s (.stop name) position).after.declarations = s.declarations :=
      declarations_readStop s position
    rw [same]
    exact .stop s name position
  | start tag =>
    have started := (readNode_start ok).1
    have same : (Visit.mk s (.start tag) position).after.declarations =
        (readStart s tag position).declarations := declarations_readNode_start ok
    rw [same]
    by_cases reading : s.skipDepth = 0
    · exact .start s tag position reading started
    · rw [(readStart_eq_of_ok started).2, if_pos (Nat.pos_of_ne_zero reading)]
      exact .skipped s tag position reading

end Session

end XsdRecords
