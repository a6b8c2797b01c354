import XsdRecords.Proofs.Session.Visits

/-! # From a start tag to its end tag

When a tag ends, the stacks are what they were before it started, and no element or type that was
defined then is changed but the innermost open ones: `Keeps`.  `Bracket` relates the sessions
around a tag and its content. -/

namespace XsdRecords.Session

open XsdRecords.Declaration (Element ElementId TypeId)
open XsdRecords.Declaration.Declarations (Edits)
open XsdRecords.Vocabulary (Tag)

/-! ## What content leaves alone -/

/-- A session after content that was read in another: only the innermost open element and type may
have changed, of those that were defined. -/
structure Keeps (s s' : Session) : Prop where
  sameStacks : SameStacks s s'
  edits : Edits s.declarations s'.declarations
  type {id : TypeId} : (s.declarations.type id).isDefined = true →
    s.typeStack.head? ≠ some id →
    (s'.declarations.type id).body = (s.declarations.type id).body
  element {id : ElementId} : (s.declarations.element id).isDefined = true →
    s.elementStack.head? ≠ some id → s'.declarations.element id = s.declarations.element id
  mode {id : ElementId} : id ∈ s.elementStack →
    (s'.declarations.element id).formattingMode = (s.declarations.element id).formattingMode

theorem Untouched.keeps {s s' : Session} (untouched : Untouched s s') : Keeps s s' := by
  obtain ⟨sameStacks, declarations⟩ := untouched
  refine ⟨sameStacks, ?_, fun _ _ => ?_, fun _ _ => ?_, fun _ => ?_⟩
  · rw [declarations]
  · rw [declarations]
  · rw [declarations]
  · rw [declarations]

theorem Keeps.trans {s s' s'' : Session} (first : Keeps s s') (second : Keeps s' s'') :
    Keeps s s'' where
  sameStacks := first.sameStacks.trans second.sameStacks
  edits := first.edits.trans second.edits
  type isDefined other := by
    have still := second.type (first.edits.isDefined_type isDefined)
      (by rw [first.sameStacks.typeStack]; exact other)
    exact still.trans (first.type isDefined other)
  element isDefined other := by
    have still := second.element (first.edits.isDefined_element isDefined)
      (by rw [first.sameStacks.elementStack]; exact other)
    exact still.trans (first.element isDefined other)
  mode member := by
    have still := second.mode (by rw [first.sameStacks.elementStack]; exact member)
    exact still.trans (first.mode member)

theorem Keeps.isUntagged {s s' : Session} (keeps : Keeps s s') {id : ElementId}
    (member : id ∈ s.elementStack) :
    (s'.declarations.element id).isUntagged = (s.declarations.element id).isUntagged := by
  rw [Element.isUntagged, keeps.mode member]
  rfl

theorem Keeps.isAttribute {s s' : Session} (keeps : Keeps s s') {id : ElementId}
    (member : id ∈ s.elementStack) :
    (s'.declarations.element id).isAttribute = (s.declarations.element id).isAttribute := by
  rw [Element.isAttribute, keeps.mode member]
  rfl

/-- Frames last while content is read. -/
theorem Frame.keeps {s s' : Session} {kind : Tag} {own below : List ElementId}
    {ownTypes : List TypeId} (frame : Frame s.declarations kind own ownTypes below)
    (keeps : Keeps s s') (elements : s.elementStack = own ++ below) :
    Frame s'.declarations kind own ownTypes below := by
  refine frame.mono (fun _ _ isDefined => keeps.edits.isDefined_type isDefined)
    fun id member => ⟨fun isDefined => keeps.edits.isDefined_element isDefined, ?_⟩
  exact keeps.isUntagged (by rw [elements]; exact member)

/-! ## Brackets -/

/-- The innermost of what is open is among what was opened last, or was the innermost before. -/
theorem mem_or_head_of_head_append {α : Type} {own below : List α} {a : α}
    (head : (own ++ below).head? = some a) : a ∈ own ∨ below.head? = some a := by
  cases own with
  | nil => exact .inr head
  | cons b rest =>
    obtain rfl : b = a := Option.some.inj head
    exact .inl List.mem_cons_self

/-- The sessions around a tag: before it, when it is marked, after its start, after its content and
after its end. -/
structure Bracket (kind : Tag) (own : List ElementId) (ownTypes : List TypeId)
    (before marked started filled after : Session) : Prop where
  marks : Marks kind before marked
  opened : OpensFrame kind own ownTypes marked started
  inner : Keeps started filled
  declarations : after.declarations = filled.declarations
  sameStacks : SameStacks before after
  defined : ∀ id ∈ own, (filled.declarations.element id).isDefined = true

section Bracket

variable {kind : Tag} {own : List ElementId} {ownTypes : List TypeId}
  {before marked started filled after : Session}

/-- The end of a tag closes what its start has opened. -/
theorem bracket_of_readStop (marks : Marks kind before marked)
    (opened : OpensFrame kind own ownTypes marked started) (reading : before.skipDepth = 0)
    (inner : Keeps started filled) {position : Position}
    (ok : (readStop filled position).hasFailed = false) :
    Bracket kind own ownTypes before marked started filled (readStop filled position) := by
  have opens := opened.opens
  have elements : filled.elementStack = own ++ before.elementStack := by
    rw [inner.sameStacks.elementStack, opens.elementStack, marks.elementStack]
  have types : filled.typeStack = ownTypes ++ before.typeStack := by
    rw [inner.sameStacks.typeStack, opens.typeStack, marks.typeStack]
  have tags : filled.tagStack = kind :: before.tagStack := by
    rw [inner.sameStacks.tagStack, opens.tagStack, marks.tagStack]
  have depth : filled.skipDepth = 0 := by
    rw [inner.sameStacks.skipDepth, opens.skipDepth, marks.skipDepth, reading]
  have frame : Frame filled.declarations kind own ownTypes before.elementStack := by
    rw [← marks.elementStack]
    exact opened.frame.keeps inner opens.elementStack
  obtain ⟨declarations, elements', types', tags', depth', defined⟩ :=
    readStop_of_reading tags depth frame elements types ok
  exact ⟨marks, opened, inner, declarations, ⟨elements', types', tags', depth'.trans reading.symm⟩,
    defined⟩

/-- A tag that opens a type leaves the types around it alone in its content. -/
theorem Bracket.type {own' : TypeId}
    (bracket : Bracket kind own [own'] before marked started filled after) {id : TypeId}
    (member : id ∈ before.typeStack) :
    (after.declarations.type id).body = (started.declarations.type id).body := by
  rw [← bracket.marks.typeStack] at member
  rw [bracket.declarations]
  refine bracket.inner.type (bracket.opened.types id member) fun head => ?_
  rw [bracket.opened.opens.typeStack] at head
  exact bracket.opened.apartTypes id member (List.mem_singleton.2 (Option.some.inj head).symm)

/-- A tag that opens an element leaves the elements around it alone in its content. -/
theorem Bracket.element {own' : ElementId}
    (bracket : Bracket kind [own'] ownTypes before marked started filled after) {id : ElementId}
    (member : id ∈ before.elementStack) :
    after.declarations.element id = started.declarations.element id := by
  rw [← bracket.marks.elementStack] at member
  rw [bracket.declarations]
  refine bracket.inner.element (bracket.opened.elements id member) fun head => ?_
  rw [bracket.opened.opens.elementStack] at head
  exact bracket.opened.apart id member (List.mem_singleton.2 (Option.some.inj head).symm)

variable (bracket : Bracket kind own ownTypes before marked started filled after)

include bracket

/-- From its start to its end a tag changes no more than the innermost open element and type. -/
theorem Bracket.keeps : Keeps before after where
  sameStacks := bracket.sameStacks
  edits := by
    rw [bracket.declarations, ← bracket.marks.declarations]
    exact bracket.opened.opens.edits.trans bracket.inner.edits
  type {id} isDefined other := by
    have opens := bracket.opened.opens
    rw [← bracket.marks.declarations] at isDefined ⊢
    rw [← bracket.marks.typeStack] at other
    -- What was defined before is none of the tag's own types, which are all that its content changes.
    have old : id ∉ ownTypes := fun new => by
      rw [(opens.newType new).1] at isDefined
      cases isDefined
    have elsewhere : id ∉ ownTypes ++ marked.typeStack.head?.toList := by
      rw [List.mem_append, Option.mem_toList, not_or]
      exact ⟨old, other⟩
    rw [← opens.same.type elsewhere, bracket.declarations]
    refine bracket.inner.type (opens.edits.isDefined_type isDefined) fun head => ?_
    rw [opens.typeStack] at head
    exact (mem_or_head_of_head_append head).elim old other
  element {id} isDefined other := by
    have opens := bracket.opened.opens
    rw [← bracket.marks.declarations] at isDefined ⊢
    rw [← bracket.marks.elementStack] at other
    have old : id ∉ own := fun new => by
      rw [(opens.newElement new).1] at isDefined
      cases isDefined
    have elsewhere : id ∉ own ++ marked.elementStack.head?.toList := by
      rw [List.mem_append, Option.mem_toList, not_or]
      exact ⟨old, other⟩
    rw [← opens.same.element elsewhere, bracket.declarations]
    refine bracket.inner.element (opens.edits.isDefined_element isDefined) fun head => ?_
    rw [opens.elementStack] at head
    exact (mem_or_head_of_head_append head).elim old other
  mode {id} member := by
    have opens := bracket.opened.opens
    rw [← bracket.marks.elementStack] at member
    rw [bracket.declarations, ← bracket.marks.declarations,
      ← opens.mode (bracket.opened.apart id member)]
    refine bracket.inner.mode ?_
    rw [opens.elementStack, List.mem_append]
    exact .inr member

/-- An element that the tag opened is closed after it. -/
theorem Bracket.closedElement {id : ElementId} (member : id ∈ own) :
    after.HasClosedElement id := by
  refine ⟨by rw [bracket.declarations]; exact bracket.defined id member, fun still => ?_⟩
  rw [bracket.sameStacks.elementStack, ← bracket.marks.elementStack] at still
  exact bracket.opened.apart id still member

/-- A type that the tag opened is closed after it, if the tag or its content defines it. -/
theorem Bracket.closedType {type : TypeId} (member : type ∈ ownTypes)
    (isDefined : (started.declarations.type type).isDefined = true) :
    after.HasClosedType type := by
  refine ⟨by rw [bracket.declarations]; exact bracket.inner.edits.isDefined_type isDefined,
    fun still => ?_⟩
  rw [bracket.sameStacks.typeStack, ← bracket.marks.typeStack] at still
  exact bracket.opened.apartTypes type still member

/-- What the tag opened is known once one knows what any start tag opened there. -/
theorem Bracket.opens_eq {elements : List ElementId} {types : List TypeId}
    (opens : Opens types elements marked started) : own = elements ∧ ownTypes = types :=
  ⟨List.append_cancel_right (bracket.opened.opens.elementStack.symm.trans opens.elementStack),
    List.append_cancel_right (bracket.opened.opens.typeStack.symm.trans opens.typeStack)⟩

end Bracket

end XsdRecords.Session
