import XsdRecords.Proofs.Session.Frames

/-! # What start tags put on the stacks

A start tag puts as many elements and types on the stacks as its kind and its place say, whether the
names that it makes up are free or not.  `Pushes` holds of every start tag outside skipped content
that is read without a failure, and `elementCount` and `typeCount` tell how much it puts there. -/

namespace XsdRecords.Session

open XsdRecords.Declaration (Declarations ElementId TypeId Element TypeDef)
open XsdRecords.Declaration.Declarations (Edits SameBut)
open XsdRecords.Markup (StartTag)
open XsdRecords.Vocabulary (Tag plainTags)
open XsdRecords.Action

/-- How many elements a tag opens. -/
def elementCount (parent : Tag) (isEnclosed : Bool) (tag : StartTag) : Nat :=
  match tag.kind with
  | .element | .attributeTag => 1
  | .choice | .sequence => if isWrapped parent isEnclosed tag then 1 else 0
  | _ => 0

/-- How many types a tag opens. -/
def typeCount (parent : Tag) (isEnclosed : Bool) (tag : StartTag) : Nat :=
  match tag.kind with
  | .complexType | .simpleType => 1
  | .choice | .sequence => if isWrapped parent isEnclosed tag then 1 else 0
  | _ => 0

/-- A session after a start tag that puts some elements and types on the stacks, new or not. -/
structure Pushes (own : List ElementId) (ownTypes : List TypeId) (s s' : Session) : Prop where
  elementStack : s'.elementStack = own ++ s.elementStack
  typeStack : s'.typeStack = ownTypes ++ s.typeStack
  tagStack : s'.tagStack = s.tagStack
  skipDepth : s'.skipDepth = s.skipDepth
  element_lt {id : ElementId} : id ∈ own → id.index < s'.declarations.elements.size
  type_lt {type : TypeId} : type ∈ ownTypes → type.index < s'.declarations.types.size
  isUntagged {id : ElementId} : id ∈ s.elementStack →
    (s'.declarations.element id).isUntagged = (s.declarations.element id).isUntagged

/-- A start tag keeps what it pushes in range. -/
theorem Pushes.lawful {own : List ElementId} {ownTypes : List TypeId} {s s' : Session}
    (pushes : Pushes own ownTypes s s') (edits : Edits s.declarations s'.declarations)
    (lawful : Lawful s) : Lawful s' := by
  refine ⟨edits.inRange lawful.inRange, edits.listed lawful.inRange lawful.listed,
    fun {id} member => ?_, fun {type} member => ?_⟩
  · rw [pushes.elementStack] at member
    rcases List.mem_append.1 member with new | old
    · exact pushes.element_lt new
    · exact Nat.lt_of_lt_of_le (lawful.openElement old) edits.size_elements_le
  · rw [pushes.typeStack] at member
    rcases List.mem_append.1 member with new | old
    · exact pushes.type_lt new
    · exact (edits.symbol (lawful.openType old)).2

/-- What has the mode of an element is tagged as the element is. -/
theorem isUntagged_of_mode {e e' : Element} (mode : e'.formattingMode = e.formattingMode) :
    e'.isUntagged = e.isUntagged := by
  rw [Element.isUntagged, mode]
  rfl

/-- A tag that opens new elements and types pushes these. -/
theorem Opens.pushes {s s' : Session} {types : List TypeId} {elements : List ElementId}
    (opens : Opens types elements s s') (lawful : Lawful s)
    (tagged : ∀ id ∈ elements, (s'.declarations.element id).isUntagged = false) :
    Pushes elements types s s' where
  elementStack := opens.elementStack
  typeStack := opens.typeStack
  tagStack := opens.tagStack
  skipDepth := opens.skipDepth
  element_lt member := (opens.newElement member).2
  type_lt member := (opens.newType member).2
  isUntagged {id} _ := by
    by_cases new : id ∈ elements
    · have undefined := (opens.newElement new).1
      have before : (s.declarations.element id).isUntagged = false := by
        rw [← Bool.not_eq_true]
        intro untagged
        rw [lawful.listed.untagged untagged] at undefined
        cases undefined
      rw [tagged id new, before]
    · exact opens.isUntagged new

/-! ## Types and groups -/

theorem openType_pushes {s : Session} (inRange : s.declarations.InRange) (name : String) :
    (openType name).Ends s
      (fun type s' => SameStacks s s' ∧ type.index < s'.declarations.types.size ∧
        ∀ id, (s'.declarations.element id).isUntagged = (s.declarations.element id).isUntagged)
      Fails := by
  have sameFound (d : Declarations) (symbol : Declaration.Symbol) (id : ElementId) :
      (d.findOrAddType symbol).1.element id = d.element id :=
    (Declarations.sameBut_findOrAddType d symbol).element List.not_mem_nil
  simp only [openType, ends_bind, ends_get]
  split
  · simp only [ends_ite, ends_bind, ends_throw]
    split
    · rfl
    · refine ((findType_edits inRange _).and (findType_ends s _)).imp ?_ fun _ _ h => h.2
      rintro type s' ⟨⟨-, bound, -⟩, sameStacks, declared, -⟩
      simp only [ends_declarations, ends_pure]
      split
      · rfl
      · exact ⟨sameStacks, bound, fun id => by rw [declared, sameFound]⟩
  · simp only [ends_ite, ends_bind, ends_throw, ends_declare]
    split
    · rfl
    · have minted : s.declarations.anonymousSymbol.1.InRange := inRange.edit .mint
      refine ((findType_edits (s := { s with declarations := s.declarations.anonymousSymbol.1 })
        minted _).and (findType_ends _ _)).imp ?_ fun _ _ h => h.2
      rintro type s' ⟨⟨-, bound, -⟩, sameStacks, declared, -⟩
      simp only [ends_modifyElement, ends_pure]
      refine ⟨⟨sameStacks.elementStack, sameStacks.typeStack, sameStacks.tagStack,
        sameStacks.skipDepth⟩, bound, fun id => isUntagged_of_mode ?_⟩
      refine Eq.trans (Declarations.get_element_modifyElement Element.formattingMode _ _ id
        fun _ => rfl) ?_
      rw [declared]
      exact congrArg Element.formattingMode
        (sameFound s.declarations.anonymousSymbol.1 s.declarations.anonymousSymbol.2 id)

theorem startType_pushes {s : Session} (inRange : s.declarations.InRange) (tag : StartTag)
    (kind : Tag) :
    (startType tag kind).Ends s
      (fun _ s' => ∃ type, Pushes [] [type] s s' ∧
        (kind = .complexType → (s'.declarations.type type).isDefined = true))
      Fails := by
  simp only [startType, ends_bind, ends_get]
  refine (openType_pushes inRange _).imp_done ?_
  rintro type m ⟨sameStacks, bound, tagged⟩
  have pushes {s' : Session} (typeStack : s'.typeStack = type :: m.typeStack)
      (elementStack : s'.elementStack = m.elementStack) (tagStack : s'.tagStack = m.tagStack)
      (skipDepth : s'.skipDepth = m.skipDepth)
      (size : s'.declarations.types.size = m.declarations.types.size)
      (elements : s'.declarations.elements = m.declarations.elements) :
      Pushes [] [type] s s' := by
    refine ⟨elementStack.trans sameStacks.elementStack,
      typeStack.trans (congrArg _ sameStacks.typeStack), tagStack.trans sameStacks.tagStack,
      skipDepth.trans sameStacks.skipDepth, fun member => ?_, fun member => ?_, fun {id} _ => ?_⟩
    · cases member
    · rw [List.mem_singleton.1 member, size]
      exact bound
    · rw [← tagged id]
      simp only [Declarations.element, elements]
  simp only [ends_note, ends_ite, ends_bind, ends_modifyType, ends_pushType]
  split
  · exact ⟨type, pushes rfl rfl rfl rfl Array.size_modify rfl,
      fun _ => congrArg TypeDef.isDefined (Declarations.type_modifyType bound _)⟩
  · rename_i simple
    split
    · exact ⟨type, pushes rfl rfl rfl rfl Array.size_modify rfl, fun h => absurd h simple⟩
    · exact ⟨type, pushes rfl rfl rfl rfl rfl rfl, fun h => absurd h simple⟩

/-- A session after an untagged field is pushed. -/
structure PushesUntagged (type : TypeId) (element : ElementId) (s s' : Session) : Prop where
  pushes : Pushes [element] [type] s s'
  isUntagged : (s'.declarations.element element).isUntagged = true
  hasType : (s'.declarations.element element).isDefined = true
  isDefined : (s'.declarations.type type).isDefined = true

theorem openUntagged_pushes {s : Session} (lawful : Lawful s) (parent : TypeId) :
    (openUntagged parent).Ends s (fun opened => PushesUntagged opened.1 opened.2 s) Fails := by
  simp only [openUntagged, ends_bind, ends_declare, ends_modifyType, ends_pushType,
    ends_modifyElement, ends_declarations, ends_setDeclarations, ends_pushElement, ends_pure]
  have minted : s.declarations.anonymousSymbol.1.InRange := lawful.inRange.edit .mint
  have bound := minted.findOrAddType s.declarations.anonymousSymbol.2
  have same : SameBut [] [] s.declarations (s.declarations.anonymousSymbol.1.findOrAddType
      s.declarations.anonymousSymbol.2).1 :=
    (Declarations.sameBut_anonymousSymbol _).trans (Declarations.sameBut_findOrAddType _ _)
  have size := (Declarations.edits_findOrAddType s.declarations.anonymousSymbol.1
    s.declarations.anonymousSymbol.2).size_elements_le
  generalize (s.declarations.anonymousSymbol.1.findOrAddType
    s.declarations.anonymousSymbol.2).1 = d at *
  generalize (s.declarations.anonymousSymbol.1.findOrAddType
    s.declarations.anonymousSymbol.2).2.1 = type at *
  have untagged := element_untaggedField d type parent
  refine ⟨⟨rfl, rfl, rfl, rfl, fun member => ?_, fun member => ?_, fun {id} member => ?_⟩, ?_, ?_,
    ?_⟩
  · rw [List.mem_singleton.1 member]
    exact lt_size_element_untaggedField d type parent
  · rw [List.mem_singleton.1 member]
    exact lt_size_untaggedField bound
  · have other : id ∉ [(untaggedField d type parent).2] := fun new => by
      have last : id.index = d.elements.size :=
        congrArg ElementId.index (List.mem_singleton.1 new)
      have before := lawful.openElement member
      exact absurd (last ▸ before) (Nat.not_lt.2 size)
    exact congrArg Element.isUntagged (((sameBut_untaggedField d type parent).element other).trans
      (same.element List.not_mem_nil))
  · exact (congrArg Element.isUntagged untagged).trans (isUntagged_untag type {})
  · exact congrArg Element.isDefined untagged
  · refine Declarations.type_modifyType_of (P := fun t => t.isDefined = true) ?_ fun _ => rfl
    exact congrArg TypeDef.isDefined (Declarations.type_modifyType bound complex)

theorem isUntagged_laidOut (d : Declarations) (type : TypeId) (element id : ElementId)
    (isChoice : Bool) (least largest : Int) :
    ((laidOut d type element isChoice least largest).element id).isUntagged =
      (d.element id).isUntagged :=
  isUntagged_of_mode (Declarations.get_element_modifyElement Element.formattingMode
    (d.modifyType type (choose isChoice)) element id fun _ => rfl)

theorem size_laidOut (d : Declarations) (type : TypeId) (element : ElementId) (isChoice : Bool)
    (least largest : Int) :
    (laidOut d type element isChoice least largest).elements.size = d.elements.size ∧
      (laidOut d type element isChoice least largest).types.size = d.types.size :=
  ⟨Array.size_modify, Array.size_modify⟩

theorem startGroup_pushes {s : Session} (lawful : Lawful s) (tag : StartTag) (kind : Tag) :
    (startGroup tag kind).Ends s
      (fun _ s' =>
        (isWrapped (outerTag s) (!s.elementStack.isEmpty) tag = false ∧
          outerTag s = .complexType ∧ Pushes [] [] s s') ∨
        (isWrapped (outerTag s) (!s.elementStack.isEmpty) tag = true ∧
          ∃ type element, PushesUntagged type element s s'))
      Fails := by
  refine (startGroup_lays (P := fun _ type element m => PushesUntagged type element s m) tag kind
    fun _ parent _ => openUntagged_pushes lawful parent).imp_done fun _ s' h => ?_
  obtain ⟨unwrapped, outer, sameStacks, type, -, declarations⟩ |
    ⟨wrapped, -, type, element, m, -, pushed, sameStacks, declarations⟩ := h
  · refine .inl ⟨unwrapped, outer, sameStacks.elementStack, sameStacks.typeStack, sameStacks.tagStack,
      sameStacks.skipDepth, fun member => ?_, fun member => ?_, fun {id} _ => ?_⟩
    · cases member
    · cases member
    · rw [declarations]
      split
      · exact isUntagged_laidOut ..
      · rfl
  · have tagged (id : ElementId) : (s'.declarations.element id).isUntagged =
        (m.declarations.element id).isUntagged := by
      rw [declarations]
      exact isUntagged_laidOut ..
    obtain ⟨elements, types⟩ := size_laidOut m.declarations type element (decide (kind = .choice))
      tag.least tag.largest
    have pushes := pushed.pushes
    refine .inr ⟨wrapped, type, element, ⟨sameStacks.elementStack.trans pushes.elementStack,
      sameStacks.typeStack.trans pushes.typeStack, sameStacks.tagStack.trans pushes.tagStack,
      sameStacks.skipDepth.trans pushes.skipDepth, fun member => ?_, fun member => ?_,
      fun member => (tagged _).trans (pushes.isUntagged member)⟩,
      (tagged element).trans pushed.isUntagged, ?_, ?_⟩
    · rw [declarations, elements]
      exact pushes.element_lt member
    · rw [declarations, types]
      exact pushes.type_lt member
    · rw [declarations]
      exact Declarations.element_modifyElement_of (P := fun e => e.isDefined = true)
        pushed.hasType fun _ => pushed.hasType
    · rw [declarations]
      exact Declarations.type_modifyType_of (P := fun t => t.isDefined = true)
        pushed.isDefined fun _ => pushed.isDefined

/-! ## Start tags -/

theorem counts_of_plain {tag : StartTag} (isPlain : tag.kind ∈ plainTags) (parent : Tag)
    (isEnclosed : Bool) :
    elementCount parent isEnclosed tag = 0 ∧ typeCount parent isEnclosed tag = 0 := by
  constructor
  · unfold elementCount
    split <;> first | rfl | (rename_i kind; rw [kind] at isPlain; exact absurd isPlain (by decide))
  · unfold typeCount
    split <;> first | rfl | (rename_i kind; rw [kind] at isPlain; exact absurd isPlain (by decide))

/-- What a start tag puts on the stacks: its frame, which is as large as its kind and place say. -/
structure PushesFrame (tag : StartTag) (own : List ElementId) (ownTypes : List TypeId)
    (s s' : Session) : Prop where
  pushes : Pushes own ownTypes s s'
  frame : Frame s'.declarations tag.kind own ownTypes s.elementStack
  elements : own.length = elementCount (outerTag s) (!s.elementStack.isEmpty) tag
  types : ownTypes.length = typeCount (outerTag s) (!s.elementStack.isEmpty) tag

section Frames

variable {s s' : Session} {tag : StartTag}

/-- A tag with a frame is not skipped. -/
theorem PushesFrame.start_ne_skip {own : List ElementId} {ownTypes : List TypeId}
    (pushed : PushesFrame tag own ownTypes s s') : tag.kind.entry.start ≠ .skip :=
  Tag.start_ne_skip pushed.frame.framed

theorem startGroup_pushesFrame (lawful : Lawful s)
    (isGroup : tag.kind = .choice ∨ tag.kind = .sequence)
    (tagged : outerTag s = .complexType → ∀ id, s.elementStack.head? = some id →
      (s.declarations.element id).isUntagged = false) :
    (startGroup tag tag.kind).Ends s
      (fun _ s' => ∃ own ownTypes, PushesFrame tag own ownTypes s s') Fails := by
  have counts : elementCount (outerTag s) (!s.elementStack.isEmpty) tag =
        (if isWrapped (outerTag s) (!s.elementStack.isEmpty) tag then 1 else 0) ∧
      typeCount (outerTag s) (!s.elementStack.isEmpty) tag =
        if isWrapped (outerTag s) (!s.elementStack.isEmpty) tag then 1 else 0 := by
    unfold elementCount typeCount
    obtain h | h := isGroup <;> rw [h] <;> exact ⟨rfl, rfl⟩
  refine (startGroup_pushes lawful tag tag.kind).imp_done ?_
  rintro - s' (⟨unwrapped, outer, pushes⟩ | ⟨wrapped, type, element, pushed⟩)
  · -- The end of the group must find a tagged element on top, or it would take that away.
    rw [unwrapped] at counts
    refine ⟨[], [], pushes, .layout isGroup fun id head => ?_, counts.1.symm, counts.2.symm⟩
    rw [pushes.isUntagged (List.mem_of_mem_head? head)]
    exact tagged outer id head
  · rw [wrapped] at counts
    exact ⟨[element], [type], pushed.pushes,
      .group isGroup pushed.isUntagged pushed.hasType pushed.isDefined, counts.1.symm,
      counts.2.symm⟩

theorem startType_pushesFrame (lawful : Lawful s)
    (isType : tag.kind = .complexType ∨ tag.kind = .simpleType) :
    (startType tag tag.kind).Ends s
      (fun _ s' => ∃ own ownTypes, PushesFrame tag own ownTypes s s') Fails := by
  refine (startType_pushes lawful.inRange tag tag.kind).imp_done ?_
  rintro - s' ⟨type, pushes, isDefined⟩
  refine ⟨[], [type], pushes, .type isType isDefined, ?_, ?_⟩
  · unfold elementCount
    obtain h | h := isType <;> rw [h] <;> rfl
  · unfold typeCount
    obtain h | h := isType <;> rw [h] <;> rfl

theorem Started.pushesFrame (started : Started s s' tag tag.kind) (lawful : Lawful s)
    (notGroup : ¬(tag.kind = .choice ∨ tag.kind = .sequence))
    (notType : ¬(tag.kind = .complexType ∨ tag.kind = .simpleType)) :
    tag.kind.entry.start = .skip ∧ Skips s s' ∨
      ∃ own ownTypes, PushesFrame tag own ownTypes s s' := by
  cases started with
  | skip action declarations elementStack typeStack tagStack skipDepth =>
    exact .inl ⟨action, declarations, elementStack, typeStack, tagStack, skipDepth⟩
  | plain isPlain opens =>
    obtain ⟨elements, types⟩ := counts_of_plain isPlain (outerTag s) (!s.elementStack.isEmpty)
    exact .inr ⟨[], [], opens.pushes lawful (fun _ member => by cases member), .plain isPlain,
      elements.symm, types.symm⟩
  | element isElement id opens same tagged =>
    refine .inr ⟨[id], [], opens.pushes lawful
      (fun other member => List.mem_singleton.1 member ▸ tagged), .element isElement tagged, ?_, ?_⟩
    · unfold elementCount
      obtain h | h := isElement <;> rw [h] <;> rfl
    · unfold typeCount
      obtain h | h := isElement <;> rw [h] <;> rfl
  | type own => exact absurd own notType
  | layout own => exact absurd own notGroup
  | group own => exact absurd own notGroup

/-- No tag but those of groups and types makes up a name, so that all is known of what others do. -/
theorem startAction_started (lawful : Lawful s) (tag : StartTag)
    (notGroup : ¬(tag.kind = .choice ∨ tag.kind = .sequence))
    (notType : ¬(tag.kind = .complexType ∨ tag.kind = .simpleType)) :
    (startAction tag.kind tag).Ends s (fun _ s' => Started s s' tag tag.kind) Fails := by
  have made : makesUpName (outerTag s) (!s.elementStack.isEmpty) tag tag.kind ≠ true := by
    unfold makesUpName
    split
    · exact absurd (.inl ‹_›) notType
    · exact absurd (.inr ‹_›) notType
    · exact absurd (.inl ‹_›) notGroup
    · exact absurd (.inr ‹_›) notGroup
    · decide
  exact startAction_ends lawful tag.kind tag (fun makes => absurd makes made)
    fun group => absurd group notGroup

theorem startAction_pushes (lawful : Lawful s) (tag : StartTag)
    (tagged : outerTag s = .complexType → ∀ id, s.elementStack.head? = some id →
      (s.declarations.element id).isUntagged = false) :
    (startAction tag.kind tag).Ends s
      (fun _ s' => tag.kind.entry.start = .skip ∧ Skips s s' ∨
        ∃ own ownTypes, PushesFrame tag own ownTypes s s')
      Fails := by
  by_cases isGroup : tag.kind = .choice ∨ tag.kind = .sequence
  · have action : startAction tag.kind tag = startGroup tag tag.kind := by
      obtain h | h := isGroup <;> rw [h] <;> rfl
    rw [action]
    exact (startGroup_pushesFrame lawful isGroup tagged).imp_done fun _ _ pushed => .inr pushed
  by_cases isType : tag.kind = .complexType ∨ tag.kind = .simpleType
  · have action : startAction tag.kind tag = startType tag tag.kind := by
      obtain h | h := isType <;> rw [h] <;> rfl
    rw [action]
    exact (startType_pushesFrame lawful isType).imp_done fun _ _ pushed => .inr pushed
  exact (startAction_started lawful tag isGroup isType).imp_done
    fun _ _ started => started.pushesFrame lawful isGroup isType

/-- What a start tag that is read without a failure outside skipped content puts on the stacks. -/
theorem readStart_pushes {position : Position} (lawful : Lawful s) (reading : s.skipDepth = 0)
    (tagged : parentTag s = .complexType → ∀ id, s.elementStack.head? = some id →
      (s.declarations.element id).isUntagged = false)
    (ok : (readStart s tag position).hasFailed = false) :
    ∃ m, Marks tag.kind s m ∧
      (tag.kind.entry.start = .skip ∧ Skips m (readStart s tag position) ∨
        ∃ own ownTypes, PushesFrame tag own ownTypes m (readStart s tag position)) := by
  obtain ⟨m, marks, whole⟩ := readStart_of_reading reading ok
  rw [whole] at ok ⊢
  refine ⟨m, marks, done_of_perform (startAction_pushes (marks.lawful lawful) tag ?_) ok⟩
  rw [marks.outerTag, marks.elementStack, marks.declarations]
  exact tagged

end Frames

end XsdRecords.Session
