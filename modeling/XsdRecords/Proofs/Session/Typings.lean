import XsdRecords.Proofs.Declaration.Typing
import XsdRecords.Proofs.Session.Effects
import XsdRecords.Proofs.Session.Given

/-! # What start tags make of elements and types

`Typed` lists what a start tag does to the typings of elements and to the natures of types: an
element or attribute tag gives the element that it opens the typing of the name that it refers to, a
type tag gives its type to the innermost open element, a group says of one type whether it is a
choice, and what becomes a field completes the type that it is a field of.  Every other tag leaves
all of it alone. -/

namespace XsdRecords.Session

open XsdRecords.Declaration
open XsdRecords.Declaration.Declarations (KeepsTyped)
open XsdRecords.Markup (StartTag)
open XsdRecords.Vocabulary (Builtin Tag)
open XsdRecords.Action

variable {s s' : Session}

/-! ## Element and attribute tags -/

theorem elementReference?_of_worklist (same : s'.worklist = s.worklist) (tag : StartTag)
    (isAttribute : Bool) :
    elementReference? s' tag isAttribute = elementReference? s tag isAttribute := by
  simp only [elementReference?, symbol?, same]

/-- An element has the typing that a known name gives, and every other element keeps its own. -/
structure GetsTyping (s : Session) (id : ElementId) (reference : Option Reference) (s' : Session) :
    Prop where
  typing (other : ElementId) : (s'.declarations.element other).typing =
    if id = other then s'.declarations.named reference else (s.declarations.element other).typing
  known (r : Reference) : reference = some r → (s'.declarations.place? r).isSome = true
  nature (type : TypeId) : (s'.declarations.type type).nature = (s.declarations.type type).nature

section Gets

variable {id : ElementId} {m : Session}

theorem GetsTyping.untyped (blank : (s.declarations.element id).typing = {}) :
    GetsTyping s id none s where
  typing other := by
    split
    · rename_i own
      exact own ▸ blank
    · rfl
  known r own := by cases own
  nature _ := rfl

/-- An element that nothing has defined is changed to have the typing of a name. -/
theorem GetsTyping.modifyElement (kept : KeepsTyped s.declarations m.declarations)
    (blank : (s.declarations.element id).typing = {})
    (inside : id.index < m.declarations.elements.size) {r : Reference}
    (known : (m.declarations.place? r).isSome = true) {f : Element → Element}
    (given : ∀ {e : Element}, e.typing = {} → (f e).typing = m.declarations.named (some r)) :
    GetsTyping s id (some r)
      { m with declarations := m.declarations.modifyElement id f } where
  typing other := by
    rw [Declarations.typing_modifyElement inside, kept.typing other]
    split
    · rename_i own
      exact given (own ▸ (kept.typing id).trans blank)
    · rfl
  known r' own := by
    obtain rfl := Option.some.inj own
    exact known
  nature := kept.nature

theorem GetsTyping.ofKept (kept : KeepsTyped s.declarations m.declarations)
    {reference : Option Reference} (gets : GetsTyping m id reference s') :
    GetsTyping s id reference s' where
  typing other := by rw [gets.typing, kept.typing]
  known := gets.known
  nature type := (gets.nature type).trans (kept.nature type)

variable (inRange : s.declarations.InRange) (bound : id.index < s.declarations.elements.size)
  (blank : (s.declarations.element id).typing = {})

include inRange bound blank

theorem referTo_typing (symbol : Symbol) (isTopLevel isAttribute : Bool) :
    (referTo id symbol isTopLevel isAttribute).Ends s
      (fun _ s' => GetsTyping s id (some ⟨.root isAttribute, symbol⟩) s') Fails := by
  simp only [referTo, ends_bind, ends_ite, ends_throw]
  split
  · split <;> rfl
  · refine ((findRoot_ends inRange symbol isAttribute).and ((findRoot_adds s symbol
      isAttribute).and (findRoot_edits s symbol isAttribute))).imp ?_ fun _ _ fails => fails.1
    rintro target m ⟨⟨-, same, -⟩, ⟨d, rfl, adds, -⟩, edits, -⟩
    simp only [ends_declarations, ends_get, ends_modifyElement, ends_pure]
    split
    · split <;> rfl
    · exact .modifyElement (KeepsTyped.ofSameBut same) blank
        (Nat.lt_of_lt_of_le bound (Declarations.Edits.size_elements_le edits))
        (Option.isSome_of_eq_some adds.own) fun blank =>
          (Element.typing_refer blank target).trans (Declarations.named_root adds.own).symm

theorem findType_typing (symbol : Symbol) :
    (findType symbol).Ends s
      (fun type m => GetsTyping s id (some ⟨.type, symbol⟩)
        { m with declarations := m.declarations.modifyElement id fun e =>
          { e with directType := some type } }) Fails := by
  refine ((findType_ends s symbol).and ((findType_declares s symbol).and
    (findType_edits inRange symbol))).imp ?_ fun _ _ fails => fails.1
  rintro type m ⟨⟨-, declared, -⟩, ⟨-, found, -⟩, edits, -⟩
  have kept := KeepsTyped.ofSameBut (Declarations.sameBut_findOrAddType s.declarations symbol)
  rw [← declared] at kept
  exact .modifyElement kept blank
    (Nat.lt_of_lt_of_le bound (Declarations.Edits.size_elements_le edits))
    (Option.isSome_of_eq_some found) fun blank =>
      (Element.typing_direct blank type).trans (Declarations.named_type found).symm

/-- An element that nothing has defined gets the typing of the name that its tag refers to. -/
theorem resolveElement_typing (tag : StartTag) (name : String) (isTopLevel isAttribute : Bool) :
    (resolveElement id tag name isTopLevel isAttribute).Ends s
      (fun _ s' => GetsTyping s id (elementReference? s tag isAttribute) s') Fails := by
  simp only [resolveElement, elementReference?, ends_bind, ends_get]
  cases s.symbol? (tag.plain? "ref") with
  | some symbol => exact referTo_typing inRange bound blank symbol isTopLevel isAttribute
  | none =>
    cases s.symbol? (tag.plain? "type") with
    | some symbol =>
      simp only [ends_bind, ends_modifyElement, ends_pure]
      exact findType_typing inRange bound blank symbol
    | none => exact GetsTyping.untyped blank

end Gets

/-- What becomes a field completes the innermost open type. -/
theorem addToType_typing (lawful : Lawful s) (id : ElementId) (name : String)
    (isAttribute : Bool) :
    (addToType id name isAttribute).Ends s
      (fun _ s' => s'.elementStack = s.elementStack ∧
        (∀ r, s'.declarations.place? r = s.declarations.place? r) ∧
        (∀ other, (s'.declarations.element other).typing = (s.declarations.element other).typing) ∧
        ∀ type, (s'.declarations.type type).nature =
          if s.typeStack.head? = some type then (s.declarations.type type).nature.completed
          else (s.declarations.type type).nature)
      Fails := by
  simp only [addToType, ends_bind, ends_get]
  split
  · rename_i none
    exact ⟨rfl, fun _ => rfl, fun _ => rfl, fun type => by rw [none]; rfl⟩
  · rename_i parent rest opened
    simp only [ends_ite, ends_bind, ends_throw, ends_setDeclarations]
    split
    · rfl
    · have inside := lawful.openType (by rw [opened]; exact List.mem_cons_self :
        parent ∈ s.typeStack)
      refine ⟨trivial, fun _ => rfl, fun _ => rfl, fun type => ?_⟩
      rw [Declarations.nature_addField inside]
      simp only [opened, List.head?_cons, Option.some.injEq]

/-- An element or attribute tag opens an element that nothing has defined. -/
theorem startElement_typing (lawful : Lawful s) (tag : StartTag) (isAttribute : Bool) :
    (startElement tag isAttribute).Ends s
      (fun _ s' => ∃ id, s'.elementStack.head? = some id ∧
        (s.declarations.element id).typing = {} ∧
        (∀ other, (s'.declarations.element other).typing =
          if id = other then s'.declarations.named (elementReference? s tag isAttribute)
          else (s.declarations.element other).typing) ∧
        (∀ r, elementReference? s tag isAttribute = some r →
          (s'.declarations.place? r).isSome = true) ∧
        ∀ type, (s'.declarations.type type).nature =
          if s.typeStack.head? = some type then (s.declarations.type type).nature.completed
          else (s.declarations.type type).nature)
      Fails := by
  rw [startElement_eq]
  simp only [ends_bind, ends_get]
  refine (declareElement_resolves lawful tag isAttribute s.typeStack.isEmpty (R := fun id _ m =>
    GetsTyping s id (elementReference? s tag isAttribute) m)
    fun {id opened} declares => ?_).imp_done ?_
  · obtain ⟨undefined, bound⟩ := declares.opens.newElement (List.mem_singleton.2 rfl)
    have kept := KeepsTyped.ofSameBut declares.same
    have typing := resolveElement_typing (lawful.opens declares.opens).inRange bound
      ((kept.typing id).trans (Element.typing_of_undefined undefined)) tag
        ((tag.plain? "name").getD "") s.typeStack.isEmpty isAttribute
    rw [elementReference?_of_worklist declares.worklist] at typing
    exact typing.imp_done fun _ _ gets => gets.ofKept kept
  · rintro ⟨id, name⟩ m ⟨rfl, form, opened, resolved, declares, ⟨typing, known, nature⟩, rfl⟩
    have untyped := Element.typing_of_undefined
      (declares.opens.newElement (List.mem_singleton.2 rfl)).1
    have head : resolved.elementStack.head? = some id :=
      congrArg List.head? declares.opens.elementStack
    have typeStack : resolved.typeStack = s.typeStack := declares.opens.typeStack
    have formed := KeepsTyped.modifyElement resolved.declarations id (f := form.apply)
      fun _ => rfl
    have typing' (other : ElementId) := (formed.typing other).trans (typing other)
    simp only [ends_ite, ends_pure]
    split
    · refine (addToType_typing (lawful.opens (declares.opens.form form)) id _
        isAttribute).imp_done ?_
      rintro - s' ⟨sameStack, places, typingAdded, natureAdded⟩
      have named (r : Option Reference) :
          s'.declarations.named r = resolved.declarations.named r := by
        cases r with
        | none => rfl
        | some r =>
          simp only [Declarations.named, places]
          rfl
      refine ⟨id, by rw [sameStack]; exact head, untyped, fun other => ?_, fun r own => ?_,
        fun type => ?_⟩
      · rw [typingAdded, typing', named]
      · rw [places]
        exact known r own
      · rw [natureAdded]
        simp only [typeStack, formed.nature, nature]
    · rename_i top
      refine ⟨id, head, untyped, typing', known, fun type => ?_⟩
      have none : s.typeStack = [] := by simpa using top
      rw [formed.nature, nature, none]
      rfl

/-! ## Type tags -/

/-- A type tag finds its type and gives it to the innermost open element. -/
theorem openType_typing (lawful : Lawful s) (name : String) :
    (openType name).Ends s
      (fun type s' => s'.typeStack = s.typeStack ∧ type.index < s'.declarations.types.size ∧
        (∀ id, (s'.declarations.element id).typing =
          if s.elementStack.head? = some id then
            { (s.declarations.element id).typing with directType := some type }
          else (s.declarations.element id).typing) ∧
        ∀ id, (s'.declarations.type id).nature = (s.declarations.type id).nature)
      Fails := by
  simp only [openType, ends_bind, ends_get]
  split
  · rename_i none
    simp only [ends_ite, ends_bind, ends_throw]
    split
    · rfl
    · refine ((findType_edits lawful.inRange _).and (findType_ends s _)).imp ?_ fun _ _ h => h.2
      rintro type m ⟨⟨-, bound, -⟩, sameStacks, declared, -⟩
      have kept := KeepsTyped.ofSameBut
        (Declarations.sameBut_findOrAddType s.declarations ⟨s.target, name⟩)
      rw [← declared] at kept
      simp only [ends_declarations, ends_pure]
      split
      · rfl
      · refine ⟨sameStacks.typeStack, bound, fun id => ?_, kept.nature⟩
        rw [none, kept.typing]
        rfl
  · rename_i owner rest opened
    simp only [ends_ite, ends_bind, ends_throw, ends_declare]
    split
    · rfl
    · have minted : s.declarations.anonymousSymbol.1.InRange := lawful.inRange.edit .mint
      refine ((findType_edits (s := { s with declarations := s.declarations.anonymousSymbol.1 })
        minted _).and (findType_ends _ _)).imp ?_ fun _ _ h => h.2
      rintro type m ⟨⟨edits, bound, -⟩, sameStacks, declared, -⟩
      have kept := KeepsTyped.ofSameBut
        ((Declarations.sameBut_anonymousSymbol s.declarations).trans
          (Declarations.sameBut_findOrAddType _ s.declarations.anonymousSymbol.2))
      rw [← declared] at kept
      have inside : owner.index < m.declarations.elements.size :=
        Nat.lt_of_lt_of_le (lawful.openElement (by rw [opened]; exact List.mem_cons_self))
          (Declarations.Edits.size_elements_le (edits.head .mint))
      simp only [ends_modifyElement, ends_pure]
      refine ⟨sameStacks.typeStack, bound, fun id => ?_, kept.nature⟩
      rw [Declarations.typing_modifyElement inside, ← kept.typing]
      simp only [opened, List.head?_cons, Option.some.injEq]
      rfl

/-- A type tag opens its type, which a complex type completes. -/
theorem startType_typing (lawful : Lawful s) (tag : StartTag) (kind : Tag) :
    (startType tag kind).Ends s
      (fun _ s' => ∃ type, s'.typeStack = type :: s.typeStack ∧
        (∀ id, (s'.declarations.element id).typing =
          if s.elementStack.head? = some id then
            { (s.declarations.element id).typing with directType := some type }
          else (s.declarations.element id).typing) ∧
        ∀ id, (s'.declarations.type id).nature =
          if type = id ∧ kind = .complexType then (s.declarations.type id).nature.completed
          else (s.declarations.type id).nature)
      Fails := by
  simp only [startType, ends_bind, ends_get]
  refine (openType_typing lawful _).imp_done ?_
  rintro type m ⟨sameStack, bound, typing, nature⟩
  have typeStack : type :: m.typeStack = type :: s.typeStack := by rw [sameStack]
  simp only [ends_note, ends_ite, ends_bind, ends_modifyType, ends_pushType]
  split
  · rename_i isComplexType
    refine ⟨type, typeStack, typing, fun id => ?_⟩
    simp only [isComplexType, and_true, ← nature]
    exact Declarations.nature_modifyType bound _ id
  · rename_i isSimpleType
    have kept (id : TypeId) : (m.declarations.type id).nature =
        if type = id ∧ kind = .complexType then (s.declarations.type id).nature.completed
        else (s.declarations.type id).nature := by
      rw [if_neg fun h => isSimpleType h.2, nature]
    split
    · refine ⟨type, typeStack, typing, fun id => ?_⟩
      exact ((KeepsTyped.modifyType m.declarations type
        (f := fun t => { t with preserveEnumIds := true }) fun _ => rfl).nature id).trans (kept id)
    · exact ⟨type, typeStack, typing, kept⟩

/-! ## Group tags -/

theorem typing_untaggedField (d : Declarations) (type parent : TypeId) (id : ElementId) :
    ((untaggedField d type parent).1.element id).typing =
      if (untaggedField d type parent).2 = id then ⟨some type, none⟩
      else (d.element id).typing := by
  split
  · rename_i own
    rw [← own, element_untaggedField]
    rfl
  · rename_i apart
    exact (sameBut_untaggedField d type parent).typing (by simpa using Ne.symm apart)

theorem nature_untaggedField {d : Declarations} {type parent : TypeId}
    (bound : type.index < d.types.size) (inside : parent.index < d.types.size) (id : TypeId) :
    ((untaggedField d type parent).1.type id).nature =
      if type = id ∨ parent = id then (d.type id).nature.completed else (d.type id).nature := by
  have size : parent.index < (d.modifyType type complex).types.size := by
    rw [Declarations.size_modifyType]
    exact inside
  have added : ((untaggedField d type parent).1.type id).nature =
      if parent = id then ((d.modifyType type complex).type id).nature.completed
      else ((d.modifyType type complex).type id).nature :=
    Declarations.nature_addField (d := (d.modifyType type complex).addElement.1.modifyElement
      (untaggedField d type parent).2 (untag type)) size untaggedName _ id
  have completed : (complex (d.type id)).nature = (d.type id).nature.completed := rfl
  rw [added, Declarations.nature_modifyType bound complex, completed]
  by_cases own : type = id <;> by_cases outer : parent = id <;>
    simp [own, outer, Nature.completed]

/-- What is known of a field without a tag of its own that is opened. -/
structure TypedField (parent type : TypeId) (element : ElementId) (s m : Session) : Prop where
  elementStack : m.elementStack.head? = some element
  typeStack : m.typeStack.head? = some type
  blank : (s.declarations.element element).typing = {}
  bound : type.index < m.declarations.types.size
  typing (id : ElementId) : (m.declarations.element id).typing =
    if element = id then ⟨some type, none⟩ else (s.declarations.element id).typing
  nature (id : TypeId) : (m.declarations.type id).nature =
    if type = id ∨ parent = id then (s.declarations.type id).nature.completed
    else (s.declarations.type id).nature

theorem openUntagged_typing (lawful : Lawful s) {parent : TypeId}
    (head : s.typeStack.head? = some parent) :
    (openUntagged parent).Ends s (fun opened m => TypedField parent opened.1 opened.2 s m)
      Fails := by
  simp only [openUntagged, ends_bind, ends_declare, ends_modifyType, ends_pushType,
    ends_modifyElement, ends_declarations, ends_setDeclarations, ends_pushElement, ends_pure]
  have minted := lawful.inRange.edit .mint
  have bound := minted.findOrAddType s.declarations.anonymousSymbol.2
  have grown := Declarations.edits_findOrAddType s.declarations.anonymousSymbol.1
    s.declarations.anonymousSymbol.2
  have inside := (Declarations.Edits.symbol (grown.head .mint)
    (lawful.openType (List.mem_of_mem_head? head))).2
  have kept := KeepsTyped.ofSameBut ((Declarations.sameBut_anonymousSymbol s.declarations).trans
    (Declarations.sameBut_findOrAddType _ s.declarations.anonymousSymbol.2))
  generalize (s.declarations.anonymousSymbol.1.findOrAddType
    s.declarations.anonymousSymbol.2).1 = d at *
  generalize (s.declarations.anonymousSymbol.1.findOrAddType
    s.declarations.anonymousSymbol.2).2.1 = type at *
  refine ⟨rfl, rfl, ?_, lt_size_untaggedField bound, fun id => ?_, fun id => ?_⟩
  · rw [← kept.typing]
    exact congrArg Element.typing (new_untaggedField d type parent)
  · rw [← kept.typing]
    exact typing_untaggedField d type parent id
  · rw [← kept.nature]
    exact nature_untaggedField bound inside id

/-- What a group makes of typings and natures that stands in a tag `outer`. -/
inductive TypedGroup (tag : StartTag) (kind outer : Tag) (s s' : Session) : Prop
  /-- The group lays out the innermost open type. -/
  | layout (unwrapped : isWrapped outer (!s.elementStack.isEmpty) tag = false)
      (isOuter : outer = .complexType) (type : TypeId)
      (before : s.typeStack.head? = some type) (head : s'.typeStack.head? = some type)
      (typing : ∀ id, (s'.declarations.element id).typing = (s.declarations.element id).typing)
      (nature : ∀ id, (s'.declarations.type id).nature =
        if type = id then { (s.declarations.type id).nature with isChoice := kind = .choice }
        else (s.declarations.type id).nature)
  /-- The group is a field with a type of its own. -/
  | field (wrapped : isWrapped outer (!s.elementStack.isEmpty) tag = true)
      (parent type : TypeId) (element : ElementId) (before : s.typeStack.head? = some parent)
      (head : s'.typeStack.head? = some type) (elements : s'.elementStack.head? = some element)
      (blank : (s.declarations.element element).typing = {})
      (typing : ∀ id, (s'.declarations.element id).typing =
        if element = id then ⟨some type, none⟩ else (s.declarations.element id).typing)
      (nature : ∀ id, (s'.declarations.type id).nature =
        if type = id then ⟨some Builtin.complexType, kind = .choice⟩
        else if parent = id then (s.declarations.type id).nature.completed
        else (s.declarations.type id).nature)

theorem startGroup_typing (lawful : Lawful s) (tag : StartTag) (kind : Tag) :
    (startGroup tag kind).Ends s (fun _ s' => TypedGroup tag kind (outerTag s) s s') Fails := by
  refine (startGroup_lays (P := fun parent type element m => TypedField parent type element s m)
    tag kind fun _ parent head => openUntagged_typing lawful head).imp_done fun _ s' h => ?_
  have chosen {d : Declarations} {type : TypeId} (bound : type.index < d.types.size)
      (id : TypeId) : ((d.modifyType type (choose (kind = .choice))).type id).nature =
        if type = id then { (d.type id).nature with isChoice := kind = .choice }
        else (d.type id).nature :=
    Declarations.nature_modifyType bound _ id
  have occurs (d : Declarations) (element : ElementId) :
      KeepsTyped d (d.modifyElement element (occurAs tag.least tag.largest)) :=
    .modifyElement d element fun _ => rfl
  obtain ⟨unwrapped, outer, sameStacks, type, head, declarations⟩ |
    ⟨wrapped, parent, type, element, m, head, field, sameStacks, declarations⟩ := h
  · have bound := lawful.openType (List.mem_of_mem_head? head)
    have after : KeepsTyped (s.declarations.modifyType type (choose (kind = .choice)))
        s'.declarations := by
      rw [declarations]
      split
      · exact occurs _ _
      · exact .refl _
    refine .layout unwrapped outer type head ?_ after.typing fun id => ?_
    · rw [sameStacks.typeStack]
      exact head
    · rw [after.nature]
      exact chosen bound id
  · have after : KeepsTyped (m.declarations.modifyType type (choose (kind = .choice)))
        s'.declarations := by
      rw [declarations]
      exact occurs _ element
    refine .field wrapped parent type element head ?_ ?_ field.blank (fun id => ?_) fun id => ?_
    · rw [sameStacks.typeStack]
      exact field.typeStack
    · rw [sameStacks.elementStack]
      exact field.elementStack
    · rw [after.typing]
      exact field.typing id
    · rw [after.nature, chosen field.bound, field.nature]
      by_cases own : type = id <;> simp [own, Nature.completed]

/-! ## Derivation and enumeration tags -/

theorem Untouched.keepsTyped (untouched : Untouched s s') :
    KeepsTyped s.declarations s'.declarations := by
  rw [untouched.declarations]
  exact .refl _

theorem startDerivation_keepsTyped (s : Session) (tag : StartTag) (isList : Bool) :
    (startDerivation tag isList).Ends s
      (fun _ s' => KeepsTyped s.declarations s'.declarations) Fails := by
  simp only [startDerivation, ends_bind, ends_get]
  split
  · split <;> rfl
  · split
    · rename_i symbol _
      simp only [ends_bind]
      refine (findType_ends s symbol).imp_done ?_
      rintro base m ⟨-, declared, -⟩
      have kept := KeepsTyped.ofSameBut (Declarations.sameBut_findOrAddType s.declarations symbol)
      rw [← declared] at kept
      simp only [ends_declarations, ends_ite, ends_bind, ends_throw, ends_note, ends_modifyType]
      split
      · rfl
      · exact kept.trans (.modifyType _ _ fun _ => rfl)
    · split <;> rfl

theorem startEnumerator_keepsTyped (s : Session) (tag : StartTag) :
    (startEnumerator tag).Ends s
      (fun _ s' => KeepsTyped s.declarations s'.declarations) Fails := by
  simp only [startEnumerator, ends_bind, ends_get]
  split
  · rfl
  · simp only [ends_ite, ends_bind, ends_ofExcept]
    split
    · split
      · simp only [ends_note, ends_modifyType]
        exact .modifyType _ _ fun _ => rfl
      · rename_i problem reads
        exact (isOfValue_of_annotatedId? reads).isLocal.isFailure
    · exact .refl s.declarations

/-! ## Start tags -/

/-- The tags that make something of typings or natures. -/
def typingTags : List Tag :=
  [.element, .attributeTag, .simpleType, .complexType, .choice, .sequence]

/-- What a start tag makes of typings and natures that stands in a tag `outer`. -/
inductive Typed (tag : StartTag) (kind outer : Tag) (s s' : Session) : Prop
  | element (isElement : kind = .element ∨ kind = .attributeTag) (own : ElementId)
      (head : s'.elementStack.head? = some own)
      (blank : (s.declarations.element own).typing = {})
      (typing : ∀ id, (s'.declarations.element id).typing =
        if own = id then
          s'.declarations.named (elementReference? s tag (kind = .attributeTag))
        else (s.declarations.element id).typing)
      (known : ∀ r, elementReference? s tag (kind = .attributeTag) = some r →
        (s'.declarations.place? r).isSome = true)
      (nature : ∀ id, (s'.declarations.type id).nature =
        if s.typeStack.head? = some id then (s.declarations.type id).nature.completed
        else (s.declarations.type id).nature)
  | type (isType : kind = .complexType ∨ kind = .simpleType) (own : TypeId)
      (typeStack : s'.typeStack = own :: s.typeStack)
      (typing : ∀ id, (s'.declarations.element id).typing =
        if s.elementStack.head? = some id then
          { (s.declarations.element id).typing with directType := some own }
        else (s.declarations.element id).typing)
      (nature : ∀ id, (s'.declarations.type id).nature =
        if own = id ∧ kind = .complexType then (s.declarations.type id).nature.completed
        else (s.declarations.type id).nature)
  | group (isGroup : kind = .choice ∨ kind = .sequence) (typed : TypedGroup tag kind outer s s')
  | nothing (other : kind ∉ typingTags) (kept : KeepsTyped s.declarations s'.declarations)

theorem startAction_typed (lawful : Lawful s) (tag : StartTag) (kind : Tag) :
    (startAction kind tag).Ends s (fun _ s' => Typed tag kind (outerTag s) s s') Fails := by
  refine startAction_cases (fun action _ => ?_) (fun isQuiet _ same => ?_) (fun isElement => ?_)
    (fun isGroup => ?_) (fun isType => ?_) (fun derives => ?_) fun isEnumeration => ?_
  · exact .nothing (by revert action; cases kind <;> decide) (.refl s.declarations)
  · exact .nothing (by revert isQuiet; cases kind <;> decide) same.keepsTyped
  · refine (startElement_typing lawful tag _).imp_done ?_
    rintro - s' ⟨own, head, blank, typing, known, nature⟩
    exact .element isElement own head blank typing known nature
  · exact (startGroup_typing lawful tag kind).imp_done fun _ _ typed => .group isGroup typed
  · refine (startType_typing lawful tag kind).imp_done ?_
    rintro - s' ⟨own, typeStack, typing, nature⟩
    exact .type isType own typeStack typing nature
  · have other : kind ∉ typingTags := by obtain rfl | rfl | rfl := derives <;> decide
    exact (startDerivation_keepsTyped s tag _).imp_done fun _ _ kept => .nothing other kept
  · have other : kind ∉ typingTags := by rw [isEnumeration]; decide
    exact (startEnumerator_keepsTyped s tag).imp_done fun _ _ kept => .nothing other kept

/-- What comes before the action of a tag changes no typings and no natures. -/
theorem Typed.of_marks {m : Session} {tag : StartTag} {kind : Tag} (marks : Marks kind s m)
    (setting : m.setting = s.setting) (typed : Typed tag kind (outerTag m) m s') :
    Typed tag kind (parentTag s) s s' := by
  have declarations := marks.declarations
  have refers (isAttribute : Bool) := elementReference?_of_worklist (congrArg Setting.worklist
    setting) tag isAttribute
  rw [marks.outerTag] at typed
  cases typed with
  | element isElement own head blank typing known nature =>
    simp only [declarations, refers, marks.typeStack] at blank typing known nature
    exact .element isElement own head blank typing known nature
  | type isType own typeStack typing nature =>
    simp only [declarations, marks.elementStack] at typing nature
    exact .type isType own (by rw [typeStack, marks.typeStack]) typing nature
  | group isGroup typed =>
    refine .group isGroup ?_
    cases typed with
    | layout unwrapped isOuter type before head typing nature =>
      simp only [declarations, marks.elementStack, marks.typeStack] at *
      exact .layout unwrapped isOuter type before head typing nature
    | field wrapped parent type element before head elements blank typing nature =>
      simp only [declarations, marks.elementStack, marks.typeStack] at *
      exact .field wrapped parent type element before head elements blank typing nature
  | nothing other kept => exact .nothing other (declarations ▸ kept)

/-- What a start tag outside skipped content makes of typings and natures. -/
theorem Lawful.typed_readStart (lawful : Lawful s) {tag : StartTag} {position : Position}
    (reading : s.skipDepth = 0) (ok : (readStart s tag position).hasFailed = false) :
    Typed tag tag.kind (parentTag s) s (readStart s tag position) := by
  have marks := marks_noteAttributes s position tag.kind tag
  have whole := readStart_eq_perform reading ok
  rw [whole] at ok ⊢
  exact .of_marks marks (setting_noteAttributes _ _ _)
    (done_of_perform (startAction_typed (marks.lawful lawful) tag tag.kind) ok)

end XsdRecords.Session
