import XsdRecords.Proofs.Session.Start

/-! # What the open tags have opened

Each open tag outside skipped content has a frame: the elements and types on the stacks that it
opened.  A tag that ends takes its own frame from the stacks and no other. -/

namespace XsdRecords.Vocabulary

/-- Tags that have a frame. -/
def framedTags : List Tag :=
  plainTags ++ [.element, .attributeTag, .complexType, .simpleType, .choice, .sequence]

namespace Tag

/-- A tag whose content is skipped has no frame. -/
theorem start_ne_skip {kind : Tag} (framed : kind ∈ framedTags) : kind.entry.start ≠ .skip := by
  revert kind
  decide

theorem of_allows_simpleType {kind : Tag} (framed : kind ∈ framedTags)
    (allowed : simpleType.allows kind = true) : kind = .restriction ∨ kind = .list := by
  revert kind
  decide

theorem of_allows_element {parent kind : Tag}
    (isElement : parent = .element ∨ parent = .attributeTag)
    (framed : kind ∈ framedTags) (allowed : parent.allows kind = true) :
    kind = .complexType ∨ kind = .simpleType := by
  revert kind
  obtain rfl | rfl := isElement <;> decide

theorem of_allows_group {parent kind : Tag} (isGroup : parent = .choice ∨ parent = .sequence)
    (framed : kind ∈ framedTags) (allowed : parent.allows kind = true) :
    kind = .element ∨ kind = .choice ∨ kind = .sequence := by
  revert kind
  obtain rfl | rfl := isGroup <;> decide

theorem of_allows_complexType {parent : Tag} (framed : parent ∈ .outside :: framedTags)
    (allowed : parent.allows .complexType = true) : parent = .schema ∨ parent = .element := by
  revert parent
  decide

theorem of_allows_schema {parent : Tag} (framed : parent ∈ .outside :: framedTags)
    (allowed : parent.allows .schema = true) : parent = .outside := by
  revert parent
  decide

end Tag

end XsdRecords.Vocabulary

namespace XsdRecords.Session

open XsdRecords.Declaration (Declarations ElementId TypeId)
open XsdRecords.Markup (StartTag)
open XsdRecords.Vocabulary (Tag plainTags framedTags)
open XsdRecords.Action

/-! ## Frames -/

/-- What an open tag has on top of the elements and types that were open before it. -/
inductive Frame (d : Declarations) : Tag → List ElementId → List TypeId → List ElementId → Prop
  | plain {kind : Tag} {below : List ElementId} (isPlain : kind ∈ plainTags) :
      Frame d kind [] [] below
  | element {kind : Tag} {id : ElementId} {below : List ElementId}
      (isElement : kind = .element ∨ kind = .attributeTag)
      (tagged : (d.element id).isUntagged = false) : Frame d kind [id] [] below
  | type {kind : Tag} {type : TypeId} {below : List ElementId}
      (isType : kind = .complexType ∨ kind = .simpleType)
      (isDefined : kind = .complexType → (d.type type).isDefined = true) :
      Frame d kind [] [type] below
  | layout {kind : Tag} {below : List ElementId} (isGroup : kind = .choice ∨ kind = .sequence)
      (tagged : ∀ id, below.head? = some id → (d.element id).isUntagged = false) :
      Frame d kind [] [] below
  | group {kind : Tag} {id : ElementId} {type : TypeId} {below : List ElementId}
      (isGroup : kind = .choice ∨ kind = .sequence)
      (isUntagged : (d.element id).isUntagged = true)
      (hasType : (d.element id).isDefined = true)
      (isDefined : (d.type type).isDefined = true) : Frame d kind [id] [type] below

/-- The frames of open tags make up the stacks; all but the innermost elements and types are
defined. -/
def Frames (d : Declarations) : List Tag → List ElementId → List TypeId → Prop
  | [], elements, types => elements = [] ∧ types = []
  | kind :: tags, elements, types =>
    (tags.headD .outside).allows kind = true ∧
      ∃ own ownTypes below belowTypes, elements = own ++ below ∧ types = ownTypes ++ belowTypes ∧
        Frame d kind own ownTypes below ∧ (∀ id ∈ below, (d.element id).isDefined = true) ∧
        (∀ type ∈ belowTypes, (d.type type).isDefined = true) ∧ Frames d tags below belowTypes

variable {d d' : Declarations}

theorem Frame.framed {kind : Tag} {own : List ElementId} {ownTypes : List TypeId}
    {below : List ElementId} (frame : Frame d kind own ownTypes below) : kind ∈ framedTags := by
  cases frame with
  | plain isPlain => exact List.mem_append_left _ isPlain
  | element isElement => obtain rfl | rfl := isElement <;> decide
  | type isType => obtain rfl | rfl := isType <;> decide
  | layout isGroup => obtain rfl | rfl := isGroup <;> decide
  | group isGroup => obtain rfl | rfl := isGroup <;> decide

/-- Neither a type nor a tag without a meaning of its own opens an element. -/
theorem Frame.elements_eq_nil {kind : Tag} {own : List ElementId} {ownTypes : List TypeId}
    {below : List ElementId} (frame : Frame d kind own ownTypes below)
    (other : kind ∉ [.element, .attributeTag, .choice, .sequence]) : own = [] := by
  cases frame with
  | plain | type | layout => rfl
  | element isElement => exact absurd (by obtain rfl | rfl := isElement <;> decide) other
  | group isGroup => exact absurd (by obtain rfl | rfl := isGroup <;> decide) other

/-- A tag without a meaning of its own opens nothing. -/
theorem Frame.eq_nil {kind : Tag} {own : List ElementId} {ownTypes : List TypeId}
    {below : List ElementId} (frame : Frame d kind own ownTypes below) (isPlain : kind ∈ plainTags) :
    own = [] ∧ ownTypes = [] := by
  cases frame with
  | plain | layout => exact ⟨rfl, rfl⟩
  | element other => exact absurd isPlain (by obtain rfl | rfl := other <;> decide)
  | type other => exact absurd isPlain (by obtain rfl | rfl := other <;> decide)
  | group other => exact absurd isPlain (by obtain rfl | rfl := other <;> decide)

/-- A type tag opens a type. -/
theorem Frame.types_ne_nil {kind : Tag} {own : List ElementId} {ownTypes : List TypeId}
    {below : List ElementId} (frame : Frame d kind own ownTypes below)
    (isType : kind = .complexType ∨ kind = .simpleType) : ownTypes ≠ [] := by
  cases frame with
  | type => exact List.cons_ne_nil _ _
  | plain other => exact absurd other (by obtain rfl | rfl := isType <;> decide)
  | element other => obtain rfl | rfl := isType <;> simp at other
  | layout other => obtain rfl | rfl := isType <;> simp at other
  | group other => obtain rfl | rfl := isType <;> simp at other

/-- An element or attribute has an element with a tag. -/
theorem Frame.element_eq {kind : Tag} {own : List ElementId} {ownTypes : List TypeId}
    {below : List ElementId} (frame : Frame d kind own ownTypes below)
    (isElement : kind = .element ∨ kind = .attributeTag) :
    ∃ id, own = [id] ∧ (d.element id).isUntagged = false := by
  cases frame with
  | element _ tagged => exact ⟨_, rfl, tagged⟩
  | plain other => exact absurd other (by obtain rfl | rfl := isElement <;> decide)
  | type other => obtain rfl | rfl := isElement <;> simp at other
  | layout other => obtain rfl | rfl := isElement <;> simp at other
  | group other => obtain rfl | rfl := isElement <;> simp at other

/-- Frames last as long as what is open keeps its definition and its tag. -/
theorem Frame.mono {kind : Tag} {own : List ElementId} {ownTypes : List TypeId}
    {below : List ElementId} (frame : Frame d kind own ownTypes below)
    (types : ∀ type ∈ ownTypes, (d.type type).isDefined = true →
      (d'.type type).isDefined = true)
    (elements : ∀ id ∈ own ++ below, ((d.element id).isDefined = true →
      (d'.element id).isDefined = true) ∧ (d'.element id).isUntagged = (d.element id).isUntagged) :
    Frame d' kind own ownTypes below := by
  cases frame with
  | plain isPlain => exact .plain isPlain
  | element isElement tagged =>
    exact .element isElement ((elements _ (by simp)).2.trans tagged)
  | type isType isDefined => exact .type isType fun complex => types _ (by simp) (isDefined complex)
  | layout isGroup tagged =>
    exact .layout isGroup fun id head =>
      (elements id (List.mem_of_mem_head? head)).2.trans (tagged id head)
  | group isGroup isUntagged hasType isDefined =>
    exact .group isGroup ((elements _ (by simp)).2.trans isUntagged)
      ((elements _ (by simp)).1 hasType) (types _ (by simp) isDefined)

theorem Frames.mono {tags : List Tag} {elements : List ElementId} {types : List TypeId}
    (frames : Frames d tags elements types)
    (typesKept : ∀ type ∈ types, (d.type type).isDefined = true →
      (d'.type type).isDefined = true)
    (elementsKept : ∀ id ∈ elements, ((d.element id).isDefined = true →
      (d'.element id).isDefined = true) ∧ (d'.element id).isUntagged = (d.element id).isUntagged) :
    Frames d' tags elements types := by
  induction tags generalizing elements types with
  | nil => exact frames
  | cons kind tags ih =>
    obtain ⟨allowed, own, ownTypes, below, belowTypes, rfl, rfl, frame, defined, typesDefined,
        rest⟩ :=
      frames
    refine ⟨allowed, own, ownTypes, below, belowTypes, rfl, rfl, ?_, ?_, ?_, ?_⟩
    · exact frame.mono (fun type member => typesKept type (List.mem_append_left _ member))
        elementsKept
    · exact fun id member =>
        (elementsKept id (List.mem_append_right _ member)).1 (defined id member)
    · exact fun type member => typesKept type (List.mem_append_right _ member)
        (typesDefined type member)
    · exact ih rest (fun type member => typesKept type (List.mem_append_right _ member))
        fun id member => elementsKept id (List.mem_append_right _ member)

/-- All open elements but the innermost are defined, and so is that but directly in its tag. -/
theorem Frames.elements_defined {tags : List Tag} {elements : List ElementId}
    {types : List TypeId} (frames : Frames d tags elements types) :
    (∀ id ∈ elements.tail, (d.element id).isDefined = true) ∧
      (¬(tags.headD .outside = .element ∨ tags.headD .outside = .attributeTag) →
        ∀ id ∈ elements, (d.element id).isDefined = true) := by
  cases tags with
  | nil =>
    obtain ⟨rfl, -⟩ := frames
    simp
  | cons kind tags =>
    obtain ⟨-, own, ownTypes, below, belowTypes, rfl, rfl, frame, defined, -, -⟩ := frames
    have tail : ∀ id ∈ below.tail, (d.element id).isDefined = true :=
      fun id member => defined id (List.mem_of_mem_tail member)
    cases frame with
    | plain | type | layout => exact ⟨tail, fun _ => defined⟩
    | element isElement => exact ⟨defined, fun other => absurd isElement other⟩
    | group isGroup isUntagged hasType =>
      refine ⟨defined, fun _ id member => ?_⟩
      cases member with
      | head => exact hasType
      | tail _ member => exact defined id member

/-- All open types but the innermost are defined, and so is that but directly in a simple type. -/
theorem Frames.types_defined {tags : List Tag} {elements : List ElementId}
    {types : List TypeId} (frames : Frames d tags elements types) :
    (∀ type ∈ types.tail, (d.type type).isDefined = true) ∧
      (tags.headD .outside ≠ .simpleType → ∀ type ∈ types, (d.type type).isDefined = true) := by
  cases tags with
  | nil =>
    obtain ⟨-, rfl⟩ := frames
    simp
  | cons kind tags =>
    obtain ⟨-, own, ownTypes, below, belowTypes, rfl, rfl, frame, -, defined, -⟩ := frames
    have tail : ∀ type ∈ belowTypes.tail, (d.type type).isDefined = true :=
      fun type member => defined type (List.mem_of_mem_tail member)
    cases frame with
    | plain | element | layout => exact ⟨tail, fun _ => defined⟩
    | type isType isDefined =>
      refine ⟨defined, fun complex type member => ?_⟩
      cases member with
      | head => exact isDefined (isType.resolve_right complex)
      | tail _ member => exact defined type member
    | group isGroup isUntagged hasType isDefined =>
      refine ⟨defined, fun _ type member => ?_⟩
      cases member with
      | head => exact isDefined
      | tail _ member => exact defined type member

theorem Frames.framed {tags : List Tag} {elements : List ElementId} {types : List TypeId}
    (frames : Frames d tags elements types) : tags.headD .outside ∈ .outside :: framedTags := by
  cases tags with
  | nil => exact List.mem_cons_self
  | cons kind tags =>
    obtain ⟨-, _, _, _, _, -, -, frame, -⟩ := frames
    exact List.mem_cons_of_mem _ frame.framed

/-- A complex type stands in the schema, where nothing is open, or in an element that has a tag. -/
theorem Frames.complexType {tags : List Tag} {elements : List ElementId} {types : List TypeId}
    (frames : Frames d (.complexType :: tags) elements types) :
    (elements = [] ∧ tags = [.schema]) ∨
      ∃ id rest, elements = id :: rest ∧ (d.element id).isUntagged = false ∧ .element ∈ tags := by
  obtain ⟨allowed, own, ownTypes, below, belowTypes, rfl, rfl, frame, -, -, outer⟩ := frames
  obtain rfl := frame.elements_eq_nil (by decide)
  obtain schema | element := Tag.of_allows_complexType outer.framed allowed
  · -- The schema is the outermost tag, and nothing opens an element before it.
    cases tags with
    | nil => cases schema
    | cons kind tags =>
      obtain rfl : kind = .schema := schema
      obtain ⟨allowed, own, ownTypes, below, belowTypes, rfl, rfl, frame, -, -, outer⟩ := outer
      have outside := Tag.of_allows_schema outer.framed allowed
      obtain rfl := frame.elements_eq_nil (by decide)
      cases tags with
      | nil =>
        obtain ⟨rfl, -⟩ := outer
        exact .inl ⟨rfl, rfl⟩
      | cons kind tags =>
        obtain rfl : kind = .outside := outside
        obtain ⟨-, _, _, _, _, -, -, frame, -⟩ := outer
        exact absurd frame.framed (by decide)
  · cases tags with
    | nil => cases element
    | cons kind tags =>
      obtain rfl : kind = .element := element
      obtain ⟨-, own, ownTypes, below, belowTypes, rfl, rfl, frame, -, -, -⟩ := outer
      obtain ⟨id, rfl, tagged⟩ := frame.element_eq (.inl rfl)
      exact .inr ⟨id, below, rfl, tagged, List.mem_cons_self⟩

/-! ## Start tags add frames -/

/-- A session in which the content of a tag is skipped. -/
structure Skips (s s' : Session) : Prop where
  declarations : s'.declarations = s.declarations
  elementStack : s'.elementStack = s.elementStack
  typeStack : s'.typeStack = s.typeStack
  tagStack : s'.tagStack = s.tagStack
  skipDepth : s'.skipDepth = s.skipDepth + 1

/-- What holds of the first of a list and of the others holds of all. -/
theorem forall_of_head_of_tail {α : Type} {l : List α} {P : α → Prop}
    (head : ∀ a, l.head? = some a → P a) (tail : ∀ a ∈ l.tail, P a) : ∀ a ∈ l, P a := by
  cases l with
  | nil => simp
  | cons a rest => simpa using ⟨head a rfl, tail⟩

/-- An element that has a complex type is not one of a group. -/
theorem Frames.tagged {tags : List Tag} {elements : List ElementId} {types : List TypeId}
    (frames : Frames d tags elements types) (complex : tags.headD .outside = .complexType)
    {id : ElementId} (head : elements.head? = some id) : (d.element id).isUntagged = false := by
  cases tags with
  | nil => cases complex
  | cons parent tags =>
    obtain rfl : parent = .complexType := complex
    obtain ⟨none, -⟩ | ⟨first, rest, top, tagged, -⟩ := frames.complexType
    · rw [none] at head
      cases head
    · rw [top] at head
      exact Option.some.inj head ▸ tagged

/-- A tag opens its frame: what was open before is defined by then, and apart from the frame. -/
structure OpensFrame (kind : Tag) (own : List ElementId) (ownTypes : List TypeId)
    (s s' : Session) : Prop where
  opens : Opens ownTypes own s s'
  frame : Frame s'.declarations kind own ownTypes s.elementStack
  elements : ∀ id ∈ s.elementStack, (s'.declarations.element id).isDefined = true
  types : ∀ type ∈ s.typeStack, (s'.declarations.type type).isDefined = true
  apart : ∀ id ∈ s.elementStack, id ∉ own
  apartTypes : ∀ type ∈ s.typeStack, type ∉ ownTypes

section Started

variable {s s' : Session} {kind : Tag} {tags : List Tag} {own : List ElementId}
  {ownTypes : List TypeId}

/-- An element that was not open is none of those that are. -/
theorem Opens.apart (opens : Opens ownTypes own s s')
    (elements : ∀ id ∈ s.elementStack, (s.declarations.element id).isDefined = true) :
    ∀ id ∈ s.elementStack, id ∉ own := by
  intro id member new
  have undefined := (opens.newElement new).1
  rw [elements id member] at undefined
  cases undefined

theorem Opens.apartTypes (opens : Opens ownTypes own s s')
    (types : ∀ type ∈ s.typeStack, (s.declarations.type type).isDefined = true) :
    ∀ type ∈ s.typeStack, type ∉ ownTypes := by
  intro type member new
  have undefined := (opens.newType new).1
  rw [types type member] at undefined
  cases undefined

/-- The frame of a tag that stands where all that is open is defined. -/
theorem Opens.opensFrame (opens : Opens ownTypes own s s')
    (frame : Frame s'.declarations kind own ownTypes s.elementStack)
    (elements : ∀ id ∈ s.elementStack, (s.declarations.element id).isDefined = true)
    (types : ∀ type ∈ s.typeStack, (s.declarations.type type).isDefined = true) :
    OpensFrame kind own ownTypes s s' where
  opens := opens
  frame := frame
  elements id member := opens.edits.isDefined_element (elements id member)
  types type member := opens.edits.isDefined_type (types type member)
  apart := opens.apart elements
  apartTypes := opens.apartTypes types

/-- A tag adds its frame to those of the tags around it. -/
theorem OpensFrame.frames (opened : OpensFrame kind own ownTypes s s')
    (frames : Frames s.declarations tags s.elementStack s.typeStack)
    (allowed : (tags.headD .outside).allows kind = true) :
    Frames s'.declarations (kind :: tags) s'.elementStack s'.typeStack := by
  have kept : Frames s'.declarations tags s.elementStack s.typeStack :=
    frames.mono (fun _ _ isDefined => opened.opens.edits.isDefined_type isDefined)
      fun id member => ⟨fun isDefined => opened.opens.edits.isDefined_element isDefined,
        opened.opens.isUntagged (opened.apart id member)⟩
  exact ⟨allowed, own, ownTypes, s.elementStack, s.typeStack, opened.opens.elementStack,
    opened.opens.typeStack, opened.frame, opened.elements, opened.types, kept⟩

/-- A start tag opens its frame, unless its content is skipped. -/
theorem Started.opensFrame {tag : StartTag} (started : Started s s' tag kind)
    (outer : outerTag s = tags.headD .outside) (reading : kind.entry.start ≠ .skip)
    (frames : Frames s.declarations tags s.elementStack s.typeStack)
    (allowed : (tags.headD .outside).allows kind = true) :
    ∃ own ownTypes, OpensFrame kind own ownTypes s s' := by
  have inElement (framed : kind ∈ framedTags) (other : ¬(kind = .complexType ∨ kind = .simpleType)) :
      ∀ id ∈ s.elementStack, (s.declarations.element id).isDefined = true :=
    frames.elements_defined.2 fun isElement =>
      other (Tag.of_allows_element isElement framed allowed)
  have inSimple (framed : kind ∈ framedTags) (other : ¬(kind = .restriction ∨ kind = .list)) :
      ∀ type ∈ s.typeStack, (s.declarations.type type).isDefined = true :=
    frames.types_defined.2 fun simple =>
      other (Tag.of_allows_simpleType framed (by rw [← simple]; exact allowed))
  cases started with
  | skip action => exact absurd action reading
  | plain isPlain opens fields derives =>
    have framed : kind ∈ framedTags := List.mem_append_left _ isPlain
    have elements := inElement framed (by rintro (rfl | rfl) <;> revert isPlain <;> decide)
    refine ⟨[], [], opens, .plain isPlain,
      fun id member => opens.edits.isDefined_element (elements id member), ?_,
      fun _ _ => List.not_mem_nil, fun _ _ => List.not_mem_nil⟩
    by_cases derived : kind = .restriction ∨ kind = .list
    · exact forall_of_head_of_tail (derives derived) fun type member =>
        opens.edits.isDefined_type (frames.types_defined.1 type member)
    · exact fun type member => opens.edits.isDefined_type (inSimple framed derived type member)
  | element isElement id opens same tagged gains =>
    have frame : Frame s'.declarations kind [id] [] s.elementStack := .element isElement tagged
    exact ⟨[id], [], opens.opensFrame frame
      (inElement frame.framed (by obtain rfl | rfl := isElement <;> decide))
      (inSimple frame.framed (by obtain rfl | rfl := isElement <;> decide))⟩
  | type isType type opens same fields isDefined owner =>
    have frame : Frame s'.declarations kind [] [type] s.elementStack := .type isType isDefined
    have types := inSimple frame.framed (by obtain rfl | rfl := isType <;> decide)
    exact ⟨[], [type], opens, frame,
      forall_of_head_of_tail owner fun id member =>
        opens.edits.isDefined_element (frames.elements_defined.1 id member),
      fun type member => opens.edits.isDefined_type (types type member),
      fun _ _ => List.not_mem_nil, opens.apartTypes types⟩
  | layout isGroup unwrapped outer' opens fields =>
    have frame : Frame s'.declarations kind [] [] s.elementStack := by
      refine .layout isGroup fun id head => ?_
      rw [opens.isUntagged List.not_mem_nil]
      exact frames.tagged (outer.symm.trans outer') head
    exact ⟨[], [], opens.opensFrame frame
      (inElement frame.framed (by obtain rfl | rfl := isGroup <;> decide))
      (inSimple frame.framed (by obtain rfl | rfl := isGroup <;> decide))⟩
  | group isGroup wrapped parent type element head opens isChoice =>
    have hasType : (s'.declarations.element element).isDefined = true := by
      rw [Declaration.Element.isDefined, opens.directType]
      rfl
    have frame : Frame s'.declarations kind [element] [type] s.elementStack :=
      .group isGroup opens.isUntagged hasType opens.isDefined
    exact ⟨[element], [type], opens.opens.opensFrame frame
      (inElement frame.framed (by obtain rfl | rfl := isGroup <;> decide))
      (inSimple frame.framed (by obtain rfl | rfl := isGroup <;> decide))⟩

end Started

/-! ## End tags take frames away -/

/-- A session in which some elements and types are open, and nothing else is changed. -/
structure Leaves (elements : List ElementId) (types : List TypeId) (s s' : Session) : Prop where
  declarations : s'.declarations = s.declarations
  elementStack : s'.elementStack = elements
  typeStack : s'.typeStack = types
  tagStack : s'.tagStack = s.tagStack
  skipDepth : s'.skipDepth = s.skipDepth

theorem stop_of_plain {kind : Tag} (isPlain : kind ∈ plainTags) :
    kind.entry.stop = .nothing ∨ kind.entry.stop = .closeSchema := by
  revert kind
  decide

/-- The end of a tag takes its frame away, and its element is defined by then. -/
theorem endAction_ends {s : Session} {kind : Tag} {own below : List ElementId}
    {ownTypes belowTypes : List TypeId} (frame : Frame s.declarations kind own ownTypes below)
    (elements : s.elementStack = own ++ below) (types : s.typeStack = ownTypes ++ belowTypes) :
    (endAction kind).Ends s
      (fun _ s' => Leaves below belowTypes s s' ∧
        ∀ id ∈ own, (s.declarations.element id).isDefined = true)
      Fails := by
  cases frame with
  | plain isPlain =>
    have nothing : Leaves below belowTypes s s := ⟨rfl, elements, types, rfl, rfl⟩
    unfold endAction
    obtain stop | stop := stop_of_plain isPlain <;> rw [stop]
    · exact ⟨nothing, fun _ member => by cases member⟩
    · exact ⟨nothing, fun _ member => by cases member⟩
  | @element _ id isElement tagged =>
    have stop : endAction kind = endElement := by obtain rfl | rfl := isElement <;> rfl
    rw [stop]
    simp only [endElement, ends_bind, ends_get, elements, List.cons_append, List.nil_append,
      ends_ite, ends_throw, ends_set]
    split
    · rfl
    · rename_i isDefined
      exact ⟨⟨rfl, rfl, types, rfl, rfl⟩, fun other member => by
        rw [List.mem_singleton.1 member]
        simpa using isDefined⟩
  | type isType isDefined =>
    have stop : endAction kind = endType := by obtain rfl | rfl := isType <;> rfl
    rw [stop]
    simp only [endType, ends_modify]
    exact ⟨⟨rfl, elements, by rw [types]; rfl, rfl, rfl⟩, fun _ member => by cases member⟩
  | layout isGroup tagged =>
    have stop : endAction kind = endGroup := by obtain rfl | rfl := isGroup <;> rfl
    rw [stop]
    simp only [endGroup, ends_modify]
    refine ⟨?_, fun _ member => by cases member⟩
    split
    · -- The element on top is not the group's own, and has a tag, so that it stays.
      rename_i id rest top
      rw [elements] at top
      obtain rfl : below = id :: rest := top
      rw [if_neg (by rw [tagged id rfl]; simp)]
      exact ⟨rfl, elements, types, rfl, rfl⟩
    · exact ⟨rfl, elements, types, rfl, rfl⟩
  | @group _ id type isGroup isUntagged hasType isDefined =>
    have stop : endAction kind = endGroup := by obtain rfl | rfl := isGroup <;> rfl
    rw [stop]
    simp only [endGroup, ends_modify, elements, List.cons_append, List.nil_append, isUntagged,
      if_true]
    refine ⟨⟨rfl, rfl, by rw [types]; rfl, rfl, rfl⟩, fun other member => ?_⟩
    rw [List.mem_singleton.1 member]
    exact hasType

end XsdRecords.Session
