import XsdRecords.Proofs.Session.Visits
import XsdRecords.Proofs.Session.Stacks

/-! # Tags that stand in a type find one open

A derivation and an enumeration stand in a simple or complex type, whatever document they are in.  A
document that breaks off leaves elements and types on the stacks, so that in the next one an end tag
may close what its start did not open.  The stacks then are not those of the open tags any more, but
`Grounded` is kept: at least as many types are open as there are open tags of types and untagged
elements together. -/

namespace XsdRecords.Vocabulary

/-- Tags that stand in a type, directly or in each other. -/
def typedTags : List Tag :=
  [.restriction, .extension, .list, .enumeration, .simpleContent, .complexContent]

/-- Whether a tag defines a type. -/
def Tag.isType (kind : Tag) : Bool :=
  kind = .complexType || kind = .simpleType

/-- What holds a tag that stands in a type is a type or stands in one. -/
theorem Tag.of_allows_typed {parent kind : Tag} (read : parent.entry.start ≠ .skip)
    (typed : kind ∈ typedTags) (allowed : parent.allows kind = true) :
    parent.isType = true ∨ parent ∈ typedTags := by
  revert kind
  revert read
  cases parent <;> decide

end XsdRecords.Vocabulary

namespace XsdRecords.Session

open XsdRecords.Declaration (Declarations ElementId)
open XsdRecords.Declaration.Declarations (Edits)
open XsdRecords.Markup (Node StartTag)
open XsdRecords.Vocabulary (Tag typedTags)
open XsdRecords.Action

/-! ## Open tags -/

/-- Open tags that are read, the innermost first, each in one that allows it. -/
def WellPlaced : List Tag → Prop
  | [] => True
  | kind :: outer =>
    kind.entry.start ≠ .skip ∧ (outer.headD .outside).allows kind = true ∧ WellPlaced outer

/-- A tag that stands in a type has an open type around it. -/
theorem WellPlaced.exists_isType {kind : Tag} {outer : List Tag} (placed : WellPlaced outer)
    (allowed : (outer.headD .outside).allows kind = true) (typed : kind ∈ typedTags) :
    0 < outer.countP Tag.isType := by
  -- Outwards, a tag that stands in a type is held by another such tag until the type is met.
  induction outer generalizing kind with
  | nil =>
    have root : ∀ kind ∈ typedTags, Tag.outside.allows kind = false := by decide
    rw [List.headD_nil, root kind typed] at allowed
    cases allowed
  | cons parent outer ih =>
    obtain ⟨read, parentAllowed, outerPlaced⟩ := placed
    rw [List.countP_cons]
    obtain isType | parentTyped := Tag.of_allows_typed read typed allowed
    · rw [if_pos isType]
      exact Nat.succ_pos _
    · exact Nat.lt_of_lt_of_le (ih outerPlaced parentAllowed parentTyped) (Nat.le_add_right _ _)

/-- The number of elements among some that are untagged. -/
def untaggedCount (d : Declarations) (elements : List ElementId) : Nat :=
  elements.countP fun id => (d.element id).isUntagged

theorem untaggedCount_append (d : Declarations) (first second : List ElementId) :
    untaggedCount d (first ++ second) = untaggedCount d first + untaggedCount d second :=
  List.countP_append

theorem untaggedCount_congr {d d' : Declarations} {elements : List ElementId}
    (same : ∀ id ∈ elements, (d'.element id).isUntagged = (d.element id).isUntagged) :
    untaggedCount d' elements = untaggedCount d elements :=
  List.countP_congr fun id member => by rw [same id member]

theorem untaggedCount_eq_zero {d : Declarations} {elements : List ElementId}
    (tagged : ∀ id ∈ elements, (d.element id).isUntagged = false) :
    untaggedCount d elements = 0 :=
  List.countP_eq_zero.2 fun id member => by rw [tagged id member]; exact Bool.false_ne_true

/-! ## The invariant -/

/-- What holds of a session that has not failed, whether its stacks are those of its open tags or
not. -/
structure Grounded (s : Session) : Prop where
  lawful : Lawful s
  placed : WellPlaced (s.tagStack.drop s.skipDepth)
  types : untaggedCount s.declarations s.elementStack +
    (s.tagStack.drop s.skipDepth).countP Tag.isType ≤ s.typeStack.length

variable {s s' : Session}

theorem Grounded.untouched (grounded : Grounded s) (untouched : Untouched s s') : Grounded s' := by
  obtain ⟨⟨elements, types, tags, depth⟩, declarations⟩ := untouched
  refine ⟨grounded.lawful.untouched declarations elements types, ?_, ?_⟩
  · rw [tags, depth]
    exact grounded.placed
  · rw [declarations, elements, types, tags, depth]
    exact grounded.types

/-- A document begins without open tags, and keeps what is on the stacks. -/
theorem Grounded.beginDocument (grounded : Grounded s) : Grounded s.beginDocument :=
  ⟨grounded.lawful.untouched rfl rfl rfl, trivial,
    Nat.le_trans (Nat.le_add_right _ _) grounded.types⟩

theorem grounded_start (location : String) (allowUnsupported : Bool) :
    Grounded (Session.start location allowUnsupported) :=
  ⟨(Reached.start location allowUnsupported).lawful rfl rfl, trivial, Nat.le_refl _⟩

/-- A derivation or enumeration that is allowed where it stands finds an open type. -/
theorem Grounded.exists_type (grounded : Grounded s) (reading : s.skipDepth = 0) {kind : Tag}
    (allowed : (parentTag s).allows kind = true) (typed : kind ∈ typedTags) :
    s.typeStack ≠ [] := by
  have placed := grounded.placed
  have types := grounded.types
  rw [reading, List.drop_zero] at placed types
  have enclosed := placed.exists_isType allowed typed
  intro none
  rw [none, List.length_nil] at types
  omega

/-! ## Start tags -/

/-- A start tag skips its content, or pushes at least as many types as it counts for. -/
def Covers (kind : Tag) (s s' : Session) : Prop :=
  kind.entry.start = .skip ∧ Skips s s' ∨
    kind.entry.start ≠ .skip ∧ ∃ own ownTypes, Pushes own ownTypes s s' ∧
      untaggedCount s'.declarations own + [kind].countP Tag.isType ≤ ownTypes.length

theorem startAction_covers (lawful : Lawful s) (tag : StartTag) :
    (startAction tag.kind tag).Ends s (fun _ s' => Covers tag.kind s s') Fails := by
  by_cases isGroup : tag.kind = .choice ∨ tag.kind = .sequence
  · have action : startAction tag.kind tag = startGroup tag tag.kind := by
      obtain h | h := isGroup <;> rw [h] <;> rfl
    have read : tag.kind.entry.start ≠ .skip ∧ [tag.kind].countP Tag.isType = 0 := by
      obtain h | h := isGroup <;> rw [h] <;> decide
    rw [action]
    refine (startGroup_pushes lawful tag tag.kind).imp_done ?_
    rintro - s' (⟨-, -, pushes⟩ | ⟨-, type, element, pushed⟩)
    · exact .inr ⟨read.1, [], [], pushes, by rw [read.2]; exact Nat.le_refl _⟩
    · refine .inr ⟨read.1, [element], [type], pushed.pushes, ?_⟩
      rw [read.2]
      exact List.countP_le_length
  by_cases isType : tag.kind = .complexType ∨ tag.kind = .simpleType
  · have action : startAction tag.kind tag = startType tag tag.kind := by
      obtain h | h := isType <;> rw [h] <;> rfl
    have read : tag.kind.entry.start ≠ .skip := by
      obtain h | h := isType <;> rw [h] <;> decide
    rw [action]
    refine (startType_pushes lawful.inRange tag tag.kind).imp_done ?_
    rintro - s' ⟨type, pushes, -⟩
    refine .inr ⟨read, [], [type], pushes, ?_⟩
    rw [untaggedCount, List.countP_nil, Nat.zero_add]
    exact List.countP_le_length
  have counts : [tag.kind].countP Tag.isType = 0 := by
    simpa [Tag.isType] using isType
  refine (startAction_started lawful tag isGroup isType).imp_done ?_
  rintro - s' started
  cases started with
  | skip action declarations elementStack typeStack tagStack skipDepth =>
    exact .inl ⟨action, declarations, elementStack, typeStack, tagStack, skipDepth⟩
  | plain isPlain opens =>
    refine .inr ⟨Tag.start_ne_skip (List.mem_append_left _ isPlain), [], [],
      opens.pushes lawful (fun _ member => by cases member), ?_⟩
    rw [counts]
    exact Nat.le_refl _
  | element isElement id opens same tagged =>
    have own : ∀ other ∈ [id], (s'.declarations.element other).isUntagged = false :=
      fun other member => List.mem_singleton.1 member ▸ tagged
    refine .inr ⟨by obtain h | h := isElement <;> rw [h] <;> decide, [id], [],
      opens.pushes lawful own, ?_⟩
    rw [counts, untaggedCount_eq_zero own]
    exact Nat.le_refl _
  | type own => exact absurd own isType
  | layout own => exact absurd own isGroup
  | group own => exact absurd own isGroup

theorem Grounded.readStart (grounded : Grounded s) {tag : StartTag} {position : Position}
    (ok : (readStart s tag position).hasFailed = false) : Grounded (readStart s tag position) := by
  obtain ⟨allowed, whole⟩ := readStart_eq_of_ok ok
  have edits : Edits s.declarations (Session.readStart s tag position).declarations :=
    readStart_edits grounded.lawful.inRange tag position
  by_cases reading : s.skipDepth = 0
  · obtain ⟨m, marks, whole⟩ := readStart_of_reading reading ok
    have placed := grounded.placed
    have types := grounded.types
    rw [reading, List.drop_zero] at placed types
    rw [← marks.declarations] at edits
    rw [whole] at ok edits ⊢
    have covers := done_of_perform (startAction_covers (marks.lawful grounded.lawful) tag) ok
    generalize m.perform (startAction tag.kind tag) = s' at *
    obtain ⟨-, declarations, elements, types', tags, depth⟩ |
      ⟨read, own, ownTypes, pushes, counts⟩ := covers
    · rw [marks.declarations] at declarations
      rw [marks.elementStack] at elements
      rw [marks.typeStack] at types'
      rw [marks.tagStack] at tags
      rw [marks.skipDepth, reading] at depth
      refine ⟨grounded.lawful.untouched declarations elements types', ?_, ?_⟩
      · rw [tags, depth]
        exact placed
      · rw [tags, depth, declarations, elements, types']
        exact types
    · have tags := pushes.tagStack.trans marks.tagStack
      have depth := pushes.skipDepth.trans (marks.skipDepth.trans reading)
      refine ⟨pushes.lawful edits (marks.lawful grounded.lawful), ?_, ?_⟩
      · rw [tags, depth]
        exact ⟨read, allowed, placed⟩
      · have old := untaggedCount_congr fun _ member => pushes.isUntagged member
        rw [marks.elementStack, marks.declarations] at old
        rw [tags, depth, pushes.elementStack, pushes.typeStack, marks.elementStack,
          marks.typeStack, untaggedCount_append, old, List.length_append, List.drop_zero,
          List.countP_cons]
        rw [List.countP_singleton] at counts
        omega
  · rw [if_pos (Nat.pos_of_ne_zero reading)] at whole
    rw [whole]
    exact ⟨grounded.lawful.untouched rfl rfl rfl, grounded.placed, grounded.types⟩

/-! ## End tags -/

/-- What an end tag takes from the stacks: for each type no more than an untagged element, or the
type of the tag. -/
structure Uncovers (kind : Tag) (s s' : Session) : Prop where
  declarations : s'.declarations = s.declarations
  tagStack : s'.tagStack = s.tagStack
  skipDepth : s'.skipDepth = s.skipDepth
  elementStack : s'.elementStack ⊆ s.elementStack
  typeStack : s'.typeStack ⊆ s.typeStack
  types : untaggedCount s.declarations s'.elementStack + s.typeStack.length ≤
    untaggedCount s.declarations s.elementStack + s'.typeStack.length + [kind].countP Tag.isType

theorem Uncovers.refl (kind : Tag) (s : Session) : Uncovers kind s s :=
  ⟨rfl, rfl, rfl, List.Subset.refl _, List.Subset.refl _, Nat.le_add_right _ _⟩

theorem endElement_uncovers (kind : Tag) (s : Session) :
    endElement.Ends s (fun _ s' => Uncovers kind s s') Fails := by
  simp only [endElement, ends_bind, ends_get]
  split
  · exact .refl kind s
  · rename_i id rest top
    simp only [ends_ite, ends_bind, ends_throw, ends_set]
    split
    · rfl
    · refine ⟨rfl, rfl, rfl, ?_, List.Subset.refl _, ?_⟩
      · rw [top]
        exact List.subset_cons_self _ _
      · have fewer : untaggedCount s.declarations rest ≤ untaggedCount s.declarations (id :: rest) :=
          (List.sublist_cons_self id rest).countP_le
        rw [top]
        dsimp only
        omega

theorem endGroup_uncovers (kind : Tag) (s : Session) :
    endGroup.Ends s (fun _ s' => Uncovers kind s s') Fails := by
  simp only [endGroup, ends_modify]
  split
  · rename_i id rest top
    split
    · rename_i untagged
      refine ⟨rfl, rfl, rfl, ?_, (List.tail_sublist _).subset, ?_⟩
      · rw [top]
        exact List.subset_cons_self _ _
      · have one : untaggedCount s.declarations (id :: rest) =
            untaggedCount s.declarations rest + 1 := List.countP_cons_of_pos untagged
        rw [top, one]
        simp only [List.length_tail]
        omega
    · exact .refl kind s
  · exact .refl kind s

theorem endAction_uncovers (kind : Tag) (s : Session) :
    (endAction kind).Ends s (fun _ s' => Uncovers kind s s') Fails := by
  unfold endAction
  split
  · exact endElement_uncovers kind s
  · exact endElement_uncovers kind s
  · rename_i closes
    have isType : [kind].countP Tag.isType = 1 := by
      revert closes
      cases kind <;> decide
    refine ⟨rfl, rfl, rfl, List.Subset.refl _, (List.tail_sublist _).subset, ?_⟩
    rw [isType]
    simp only [List.length_tail]
    omega
  · exact endGroup_uncovers kind s
  · exact .refl kind s
  · exact .refl kind s

theorem Grounded.readStop (grounded : Grounded s) {position : Position}
    (ok : (readStop s position).hasFailed = false) : Grounded (readStop s position) := by
  have placed := grounded.placed
  have types := grounded.types
  cases tags : s.tagStack with
  | nil =>
    have whole : Session.readStop s position = { s with position } := by
      simp [Session.readStop, tags]
    rw [whole]
    exact grounded.untouched ⟨⟨rfl, rfl, rfl, rfl⟩, rfl⟩
  | cons kind outer =>
    rw [tags] at placed types
    cases depth : s.skipDepth with
    | succ depth' =>
      rw [depth, List.drop_succ_cons] at placed types
      rw [readStop_of_skipping tags depth]
      exact ⟨grounded.lawful.untouched rfl rfl rfl, placed, types⟩
    | zero =>
      rw [depth, List.drop_zero] at placed types
      have whole : Session.readStop s position =
          { (({ s with position } : Session).perform (endAction kind)) with
            tagStack := (({ s with position } : Session).perform (endAction kind)).tagStack.tail } := by
        simp [Session.readStop, tags, depth]
      rw [whole] at ok ⊢
      obtain ⟨declarations, tagStack, skipDepth, elements, types', counts⟩ :=
        done_of_perform (endAction_uncovers kind { s with position }) ok
      generalize ({ s with position } : Session).perform (endAction kind) = s' at *
      have lawful : Lawful s' := grounded.lawful.closing declarations elements types'
      have rest : s'.tagStack.tail.drop s'.skipDepth = outer := by
        rw [tagStack, skipDepth, tags, depth]
        rfl
      refine ⟨lawful.untouched rfl rfl rfl, by rw [rest]; exact placed.2.2, ?_⟩
      rw [rest, declarations]
      rw [List.countP_cons] at types
      rw [List.countP_singleton] at counts
      dsimp only at counts ⊢
      omega

/-! ## Documents -/

theorem Grounded.readNode (grounded : Grounded s) {node : Node} {position : Position}
    (ok : (readNode s node position).hasFailed = false) : Grounded (readNode s node position) := by
  cases node with
  | stop name => exact grounded.readStop ok
  | start tag =>
    obtain ⟨started, whole⟩ := readNode_start ok
    have inside := grounded.readStart started
    rw [whole] at ok ⊢
    split
    · rename_i isEmpty
      rw [if_pos isEmpty] at ok
      exact inside.readStop ok
    · exact inside

end XsdRecords.Session
