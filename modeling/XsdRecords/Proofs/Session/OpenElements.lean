import XsdRecords.Proofs.Session.Edits
import XsdRecords.Proofs.Session.Forest

/-! # What tags open

A start tag that is read without a failure opens elements and types that nothing has defined before,
and changes no other than the innermost open ones.  `Opens` says so, and `Lawful` is what every
session has that has not failed.

The tag of an element or attribute opens one element, which has a tag of its own, and appends it to
the fields of the innermost open type. -/

namespace XsdRecords.Session

open XsdRecords.Declaration (Declarations ElementId TypeId Element Symbol)
open XsdRecords.Declaration.Declarations (Edits SameBut)
open XsdRecords.Markup (StartTag)
open XsdRecords.Action

/-! ## Invariants of a session -/

/-- What holds of a session that has not failed. -/
structure Lawful (s : Session) : Prop where
  inRange : s.declarations.InRange
  listed : s.declarations.Listed
  openElement {id : ElementId} : id ∈ s.elementStack → id.index < s.declarations.elements.size
  openType {id : TypeId} : id ∈ s.typeStack → id.index < s.declarations.types.size

/-- One session stands where another does: the same elements, types and tags are open. -/
structure SameStacks (s s' : Session) : Prop where
  elementStack : s'.elementStack = s.elementStack
  typeStack : s'.typeStack = s.typeStack
  tagStack : s'.tagStack = s.tagStack
  skipDepth : s'.skipDepth = s.skipDepth

theorem SameStacks.refl (s : Session) : SameStacks s s :=
  ⟨rfl, rfl, rfl, rfl⟩

theorem SameStacks.trans {s s' s'' : Session} (first : SameStacks s s')
    (second : SameStacks s' s'') : SameStacks s s'' :=
  ⟨second.elementStack.trans first.elementStack, second.typeStack.trans first.typeStack,
    second.tagStack.trans first.tagStack, second.skipDepth.trans first.skipDepth⟩

theorem SameStacks.redeclare {s s' : Session} (sameStacks : SameStacks s s') (d : Declarations) :
    SameStacks s { s' with declarations := d } :=
  ⟨sameStacks.elementStack, sameStacks.typeStack, sameStacks.tagStack, sameStacks.skipDepth⟩

/-- What is open may be closed. -/
theorem Lawful.closing {s s' : Session} (lawful : Lawful s)
    (declarations : s'.declarations = s.declarations)
    (elements : s'.elementStack ⊆ s.elementStack) (types : s'.typeStack ⊆ s.typeStack) :
    Lawful s' where
  inRange := declarations ▸ lawful.inRange
  listed := declarations ▸ lawful.listed
  openElement member := declarations ▸ lawful.openElement (elements member)
  openType member := declarations ▸ lawful.openType (types member)

theorem Lawful.untouched {s s' : Session} (lawful : Lawful s)
    (declarations : s'.declarations = s.declarations)
    (elementStack : s'.elementStack = s.elementStack) (typeStack : s'.typeStack = s.typeStack) :
    Lawful s' :=
  lawful.closing declarations (elementStack ▸ List.Subset.refl _) (typeStack ▸ List.Subset.refl _)

/-- A session after a start tag that opens some types and elements. -/
structure Opens (types : List TypeId) (elements : List ElementId) (s s' : Session) : Prop where
  typeStack : s'.typeStack = types ++ s.typeStack
  elementStack : s'.elementStack = elements ++ s.elementStack
  tagStack : s'.tagStack = s.tagStack
  skipDepth : s'.skipDepth = s.skipDepth
  edits : Edits s.declarations s'.declarations
  same : SameBut (types ++ s.typeStack.head?.toList) (elements ++ s.elementStack.head?.toList)
    s.declarations s'.declarations
  newType {id : TypeId} : id ∈ types → (s.declarations.type id).isDefined = false ∧
    id.index < s'.declarations.types.size
  newElement {id : ElementId} : id ∈ elements → (s.declarations.element id).isDefined = false ∧
    id.index < s'.declarations.elements.size
  mode {id : ElementId} : id ∉ elements →
    (s'.declarations.element id).formattingMode = (s.declarations.element id).formattingMode

theorem Opens.isUntagged {types : List TypeId} {elements : List ElementId} {s s' : Session}
    (opens : Opens types elements s s') {id : ElementId} (h : id ∉ elements) :
    (s'.declarations.element id).isUntagged = (s.declarations.element id).isUntagged := by
  rw [Element.isUntagged, opens.mode h]
  rfl

/-- Start tags keep the invariants. -/
theorem Lawful.opens {types : List TypeId} {elements : List ElementId} {s s' : Session}
    (lawful : Lawful s) (opens : Opens types elements s s') : Lawful s' := by
  refine ⟨opens.edits.inRange lawful.inRange, opens.edits.listed lawful.inRange lawful.listed,
    ?_, ?_⟩
  · intro id member
    rw [opens.elementStack, List.mem_append] at member
    cases member with
    | inl new => exact (opens.newElement new).2
    | inr old => exact Nat.lt_of_lt_of_le (lawful.openElement old) opens.edits.size_elements_le
  · intro id member
    rw [opens.typeStack, List.mem_append] at member
    cases member with
    | inl new => exact (opens.newType new).2
    | inr old => exact (opens.edits.symbol (lawful.openType old)).2

/-- What changes the opened types and elements, and the innermost open ones, may follow. -/
theorem Opens.andThen {types : List TypeId} {elements : List ElementId} {s m s' : Session}
    (opens : Opens types elements s m) (sameStacks : SameStacks m s')
    (edits : Edits m.declarations s'.declarations)
    (same : SameBut (types ++ s.typeStack.head?.toList) (elements ++ s.elementStack.head?.toList)
      m.declarations s'.declarations)
    (mode : ∀ id ∉ elements, (s'.declarations.element id).formattingMode =
      (m.declarations.element id).formattingMode) : Opens types elements s s' where
  typeStack := sameStacks.typeStack.trans opens.typeStack
  elementStack := sameStacks.elementStack.trans opens.elementStack
  tagStack := sameStacks.tagStack.trans opens.tagStack
  skipDepth := sameStacks.skipDepth.trans opens.skipDepth
  edits := opens.edits.trans edits
  same := opens.same.trans same
  newType member :=
    ⟨(opens.newType member).1, (Declarations.Edits.symbol edits (opens.newType member).2).2⟩
  newElement member :=
    ⟨(opens.newElement member).1,
      Nat.lt_of_lt_of_le (opens.newElement member).2 (Declarations.Edits.size_elements_le edits)⟩
  mode outside := (mode _ outside).trans (opens.mode outside)

/-! ## Element and attribute tags -/

theorem findType_ends (s : Session) (symbol : Symbol) :
    (findType symbol).Ends s
      (fun id s' => SameStacks s s' ∧ s'.declarations = (s.declarations.findOrAddType symbol).1 ∧
        id = (s.declarations.findOrAddType symbol).2.1)
      Fails := by
  simp only [findType, ends_bind, ends_declare, ends_get, ends_ite, ends_throw, ends_declarations]
  split
  · rfl
  · split
    · simp only [ends_ite, ends_bind, ends_throw, ends_pure]
      split
      · rfl
      · exact ⟨⟨rfl, rfl, rfl, rfl⟩, trivial, trivial⟩
    · exact ⟨⟨rfl, rfl, rfl, rfl⟩, rfl, rfl⟩

theorem findRoot_ends {s : Session} (inRange : s.declarations.InRange) (symbol : Symbol)
    (isAttribute : Bool) :
    (findRoot symbol isAttribute).Ends s
      (fun id s' => SameStacks s s' ∧ SameBut [] [] s.declarations s'.declarations ∧
        id.index < s'.declarations.elements.size ∧ s'.worklist = s.worklist)
      Fails := by
  unfold findRoot
  split
  · exact ⟨⟨rfl, rfl, rfl, rfl⟩, Declarations.sameBut_findOrAddRootAttribute _ _,
      inRange.findOrAddRootAttribute symbol, rfl⟩
  · exact ⟨⟨rfl, rfl, rfl, rfl⟩, Declarations.sameBut_findOrAddRoot _ _,
      inRange.findOrAddRoot symbol, rfl⟩

/-- A place where there is no element holds an undefined one. -/
theorem element_new (d : Declarations) : d.element ⟨d.elements.size⟩ = {} := by
  simp [Declarations.element, Array.getD_eq_getD_getElem?]

/-- A session after an element is opened that nothing has defined. -/
theorem Opens.ofElement {s s' : Session} {id : ElementId}
    (elementStack : s'.elementStack = id :: s.elementStack) (typeStack : s'.typeStack = s.typeStack)
    (tagStack : s'.tagStack = s.tagStack) (skipDepth : s'.skipDepth = s.skipDepth)
    (edits : Edits s.declarations s'.declarations)
    (same : SameBut [] [] s.declarations s'.declarations)
    (new : (s.declarations.element id).isDefined = false)
    (bound : id.index < s'.declarations.elements.size) : Opens [] [id] s s' where
  typeStack := typeStack
  elementStack := elementStack
  tagStack := tagStack
  skipDepth := skipDepth
  edits := edits
  same := same.anywhere
  newType h := by cases h
  newElement h := by
    obtain rfl := List.mem_singleton.1 h
    exact ⟨new, bound⟩
  mode _ := by rw [same.element List.not_mem_nil]

/-- What is known of an element that is opened: nothing has defined it, and nothing is changed. -/
structure OpensElement (isTopLevel : Bool) (id : ElementId) (s m : Session) : Prop where
  opens : Opens [] [id] s m
  same : SameBut [] [] s.declarations m.declarations
  tagged : (m.declarations.element id).isUntagged = false
  blank : isTopLevel = false → m.declarations.element id = {} ∧ m.declarations.IsField id
  worklist : m.worklist = s.worklist

theorem openElement_ends {s : Session} (lawful : Lawful s) (isTopLevel isAttribute : Bool)
    (name : String) :
    (openElement isTopLevel isAttribute name).Ends s
      (fun id s' => OpensElement isTopLevel id s s') Fails := by
  refine (openElement_edits lawful.inRange isTopLevel isAttribute name).mp ?_
  unfold openElement
  cases isTopLevel with
  | true =>
    simp only [if_true, ends_bind, ends_get]
    refine (findRoot_ends lawful.inRange ⟨s.target, name⟩ isAttribute).imp_done ?_
    rintro id s' ⟨sameStacks, same, bound, worklist⟩
    simp only [ends_declarations, ends_ite, ends_bind, ends_throw, ends_pushElement, ends_pure]
    split
    · split <;> rfl
    · rename_i undefined
      rintro ⟨edits, -⟩
      have element : s'.declarations.element id = s.declarations.element id :=
        same.element List.not_mem_nil
      rw [element] at undefined
      refine ⟨.ofElement (congrArg _ sameStacks.elementStack) sameStacks.typeStack
        sameStacks.tagStack sameStacks.skipDepth edits same (Bool.eq_false_iff.2 undefined) bound,
        same, ?_, (fun h => by cases h), worklist⟩
      rw [element]
      exact Bool.eq_false_iff.2 fun untagged =>
        undefined (lawful.listed.untagged untagged)
  | false =>
    simp only [Bool.false_eq_true, if_false, ends_bind, ends_declare, ends_pushElement, ends_pure]
    rintro ⟨edits, field⟩
    have same := Declarations.sameBut_addElement s.declarations
    have new : s.declarations.element s.declarations.addElement.2 = {} := element_new _
    have newer := (same.element List.not_mem_nil).trans new
    exact ⟨.ofElement rfl rfl rfl rfl edits same (by rw [new]; rfl)
      (by simp [Declarations.addElement]), same, by rw [newer]; rfl,
      fun _ => ⟨newer, field trivial⟩, rfl⟩

theorem referTo_ends {s : Session} (inRange : s.declarations.InRange) (id : ElementId)
    (symbol : Symbol) (isTopLevel isAttribute : Bool) :
    (referTo id symbol isTopLevel isAttribute).Ends s
      (fun name s' => SameStacks s s' ∧ SameBut [] [id] s.declarations s'.declarations ∧
        (s'.declarations.element id).formattingMode =
          (s.declarations.element id).formattingMode ∧ name = symbol.localName)
      Fails := by
  unfold referTo
  simp only [ends_bind, ends_ite, ends_throw]
  split
  · split <;> rfl
  · refine (findRoot_ends inRange symbol isAttribute).imp_done ?_
    rintro target s' ⟨sameStacks, same, -⟩
    simp only [ends_declarations, ends_get, ends_modifyElement, ends_pure]
    split
    · split <;> rfl
    · refine ⟨sameStacks.redeclare _,
        same.anywhere.trans (Declarations.sameBut_modifyElement _ id _), ?_, trivial⟩
      exact Eq.trans (Declarations.get_element_modifyElement Element.formattingMode _ id id
        fun _ => rfl) (congrArg Element.formattingMode (same.element List.not_mem_nil))

/-- The name of the field that a tag declares, as it is found in the document. -/
theorem fieldName_eq (s : Session) (tag : StartTag) :
    tag.fieldName = match s.symbol? (tag.plain? "ref") with
      | some symbol => symbol.localName
      | none => (tag.plain? "name").getD "" := by
  unfold StartTag.fieldName symbol?
  split <;> simp_all

theorem resolveElement_ends {s : Session} (inRange : s.declarations.InRange) (id : ElementId)
    (tag : StartTag) (isTopLevel isAttribute : Bool) :
    (resolveElement id tag ((tag.plain? "name").getD "") isTopLevel isAttribute).Ends s
      (fun name s' => SameStacks s s' ∧ SameBut [] [id] s.declarations s'.declarations ∧
        (s'.declarations.element id).formattingMode =
          (s.declarations.element id).formattingMode ∧ name = tag.fieldName)
      Fails := by
  have named := fieldName_eq s tag
  simp only [resolveElement, ends_bind, ends_get]
  split
  · rename_i symbol reference
    rw [reference] at named
    rw [named]
    exact referTo_ends inRange id symbol isTopLevel isAttribute
  · rename_i reference
    rw [reference] at named
    split
    · simp only [ends_bind]
      refine (findType_ends s _).imp_done ?_
      rintro type s' ⟨sameStacks, declared, -⟩
      have same := Declarations.sameBut_findOrAddType s.declarations
      simp only [ends_modifyElement, ends_pure, declared]
      refine ⟨sameStacks.redeclare _,
        (same _).anywhere.trans (Declarations.sameBut_modifyElement _ id _), ?_, named.symm⟩
      exact Eq.trans (Declarations.get_element_modifyElement Element.formattingMode _ id id
        fun _ => rfl) (congrArg Element.formattingMode ((same _).element List.not_mem_nil))
    · exact ⟨.refl s, .refl _, rfl, named.symm⟩

theorem addToType_ends {s : Session}
    (bound : ∀ type ∈ s.typeStack, type.index < s.declarations.types.size) (id : ElementId)
    (name : String) (isAttribute : Bool) :
    (addToType id name isAttribute).Ends s
      (fun _ s' => SameStacks s s' ∧
        SameBut s.typeStack.head?.toList [] s.declarations s'.declarations ∧
        ∀ type, s.typeStack.head? = some type →
          Declarations.Gains type (name, id) s.declarations s'.declarations)
      Fails := by
  simp only [addToType, ends_bind, ends_get]
  split
  · rename_i none
    exact ⟨.refl s, .refl _, fun type h => by rw [none] at h; cases h⟩
  · rename_i parent rest opened
    simp only [ends_ite, ends_bind, ends_throw, ends_setDeclarations]
    split
    · rfl
    · have head : s.typeStack.head? = some parent := by rw [opened, List.head?_cons]
      have inside := bound parent (by rw [opened]; exact List.mem_cons_self)
      simp only [head, Option.toList_some, Option.some.injEq, forall_eq']
      exact ⟨(SameStacks.refl s).redeclare _, Declarations.sameBut_addField _ parent name id,
        Declarations.gains_addField inside name id⟩

/-- The form of an opened element leaves it open. -/
theorem Opens.form {s m : Session} {id : ElementId} (opens : Opens [] [id] s m)
    (f : ElementForm) :
    Opens [] [id] s { m with declarations := m.declarations.modifyElement id f.apply } := by
  refine opens.andThen ((SameStacks.refl m).redeclare _)
    (.single (.form id f.apply (fun _ => rfl) (fun _ => rfl) f.isUntagged_apply))
    ((Declarations.sameBut_modifyElement _ id _).mono (List.nil_subset _)
      (List.subset_append_left _ _)) fun id' other => ?_
  exact congrArg Element.formattingMode
    ((Declarations.sameBut_modifyElement m.declarations id f.apply).element other)

/-- An opened element may be added to the innermost open type, which was not changed before. -/
theorem addToType_gains {s m : Session} {id : ElementId} (lawful : Lawful s)
    (opens : Opens [] [id] s m) (same : SameBut [] [id] s.declarations m.declarations)
    (name : String) (isAttribute : Bool) :
    (addToType id name isAttribute).Ends m
      (fun _ s' => Opens [] [id] s s' ∧
        SameBut s.typeStack.head?.toList [id] s.declarations s'.declarations ∧
        s'.declarations.element id = m.declarations.element id ∧
        ∀ type, s.typeStack.head? = some type →
          Declarations.Gains type (name, id) s.declarations s'.declarations)
      Fails := by
  have typeStack : m.typeStack = s.typeStack := opens.typeStack
  refine ((addToType_edits m id name isAttribute).and (addToType_ends (fun type member =>
    (lawful.opens opens).openType member) id name isAttribute)).imp ?_ fun _ _ h => h.2
  rintro - s' ⟨edits, sameStacks, sameAdded, gains⟩
  refine ⟨?_, ?_, ?_, fun type head => ?_⟩
  · rw [typeStack] at sameAdded
    refine opens.andThen sameStacks edits (sameAdded.mono (List.subset_append_right _ _)
      (List.nil_subset _)) fun id' _ => ?_
    rw [sameAdded.element List.not_mem_nil]
  · rw [typeStack] at sameAdded
    exact (same.mono (List.nil_subset _) (List.Subset.refl _)).trans
      (sameAdded.mono (List.Subset.refl _) (List.nil_subset _))
  · exact sameAdded.element List.not_mem_nil
  · rw [typeStack] at gains
    exact (gains type head).after (same.type List.not_mem_nil)

/-! ## Declaring an element -/

/-- What an element or attribute tag does before it is a field of a type: it answers the element and
its name. -/
def declareElement (tag : StartTag) (isAttribute isTopLevel : Bool) :
    Action (ElementId × String) := do
  let name := (tag.plain? "name").getD ""
  let id ← openElement isTopLevel isAttribute name
  Action.note (.elementDefined name isTopLevel isAttribute)
  let name ← resolveElement id tag name isTopLevel isAttribute
  if !isAttribute && name = "" then throw .elementMissingName
  let form ← ofExcept (ElementForm.read tag isAttribute)
  Action.modifyElement id form.apply
  if isAttribute && name = "" then throw .attributeMissingName
  return (id, name)

/-- An element or attribute tag first declares what it names. -/
theorem startElement_eq (tag : StartTag) (isAttribute : Bool) :
    startElement tag isAttribute = (do
      let isTopLevel := (← get).typeStack.isEmpty
      let declared ← declareElement tag isAttribute isTopLevel
      if !isTopLevel then addToType declared.1 declared.2 isAttribute) := by
  unfold startElement declareElement
  simp only [bind_assoc]
  refine bind_congr fun s => bind_congr fun id => bind_congr fun _ => bind_congr fun name => ?_
  split
  · rfl
  · simp only [bind_assoc]
    refine bind_congr fun form => bind_congr fun _ => ?_
    split
    · rfl
    · simp

/-- What is known of an element that is opened, gets what its tag names, and then its form. -/
structure DeclaresElement (tag : StartTag) (isAttribute isTopLevel : Bool) (id : ElementId)
    (form : ElementForm) (s opened resolved : Session) : Prop where
  opening : OpensElement isTopLevel id s opened
  opens : Opens [] [id] s resolved
  same : SameBut [] [id] s.declarations resolved.declarations
  mode : (resolved.declarations.element id).formattingMode =
    (opened.declarations.element id).formattingMode
  reads : ElementForm.read tag isAttribute = .ok form

/-- A tag declares an element; what it names is resolved as `R` says. -/
theorem declareElement_resolves {s : Session} (lawful : Lawful s) (tag : StartTag)
    (isAttribute isTopLevel : Bool) {R : ElementId → Session → Session → Prop}
    (resolves : ∀ {id opened}, OpensElement isTopLevel id s opened →
      (resolveElement id tag ((tag.plain? "name").getD "") isTopLevel isAttribute).Ends opened
        (fun _ m => R id opened m) Fails) :
    (declareElement tag isAttribute isTopLevel).Ends s
      (fun declared m => declared.2 = tag.fieldName ∧ ∃ form opened resolved,
        DeclaresElement tag isAttribute isTopLevel declared.1 form s opened resolved ∧
        R declared.1 opened resolved ∧ m = { resolved with
          declarations := resolved.declarations.modifyElement declared.1 form.apply })
      Fails := by
  simp only [declareElement, ends_bind]
  refine (openElement_ends lawful isTopLevel isAttribute _).imp_done ?_
  rintro id first ⟨opens, sameOpened, tagged, blank, worklist⟩
  rw [ends_note]
  generalize hopened : first.note (.elementDefined ((tag.plain? "name").getD "") isTopLevel
    isAttribute) = opened
  have noted : OpensElement isTopLevel id s opened := by
    rw [← hopened]
    exact ⟨⟨opens.typeStack, opens.elementStack, opens.tagStack, opens.skipDepth, opens.edits,
      opens.same, opens.newType, opens.newElement, opens.mode⟩, sameOpened, tagged, blank, worklist⟩
  have inRange := (lawful.opens noted.opens).inRange
  refine ((resolveElement_edits inRange id tag _ isTopLevel isAttribute
    fun inner => (noted.blank inner).2).and ((resolveElement_ends inRange id tag isTopLevel
      isAttribute).and (resolves noted))).imp ?_ fun _ _ h => h.2.1
  rintro name resolved ⟨edits, ⟨sameStacks, same, mode, named⟩, resolution⟩
  have resolvedOpens : Opens [] [id] s resolved :=
    noted.opens.andThen sameStacks edits
      (same.mono (List.nil_subset _) (List.subset_append_left _ _))
      fun id' other => congrArg Element.formattingMode (same.element other)
  simp only [ends_ite, ends_bind, ends_throw]
  split
  · rfl
  · rw [ends_ofExcept]
    split
    · rename_i form reads
      simp only [ends_modifyElement, ends_pure]
      split
      · rfl
      · exact ⟨named, form, opened, resolved, ⟨noted, resolvedOpens,
          noted.same.anywhere.trans same, mode, reads⟩, resolution, rfl⟩
    · rename_i problem reads
      exact (ElementForm.isOfValue_of_read reads).isLocal.isFailure

theorem declareElement_ends {s : Session} (lawful : Lawful s) (tag : StartTag)
    (isAttribute isTopLevel : Bool) :
    (declareElement tag isAttribute isTopLevel).Ends s
      (fun declared m => declared.2 = tag.fieldName ∧ ∃ form opened resolved,
        DeclaresElement tag isAttribute isTopLevel declared.1 form s opened resolved ∧
        m = { resolved with
          declarations := resolved.declarations.modifyElement declared.1 form.apply })
      Fails := by
  refine (declareElement_resolves lawful tag isAttribute isTopLevel (R := fun _ _ _ => True)
    fun opened => (resolveElement_ends (lawful.opens opened.opens).inRange _ tag isTopLevel
      isAttribute).imp_done fun _ _ _ => trivial).imp_done ?_
  rintro declared m ⟨named, form, opened, resolved, declares, -, whole⟩
  exact ⟨named, form, opened, resolved, declares, whole⟩

/-! ## Start tags of elements -/

/-- An element or attribute tag opens an element, gives it its form, and adds it to the innermost open
type. -/
theorem startElement_ends {s : Session} (lawful : Lawful s) (tag : StartTag)
    (isAttribute : Bool) :
    (startElement tag isAttribute).Ends s
      (fun _ s' => ∃ id, Opens [] [id] s s' ∧
        SameBut s.typeStack.head?.toList [id] s.declarations s'.declarations ∧
        (s'.declarations.element id).isUntagged = false ∧
        (∃ form e, ElementForm.read tag isAttribute = .ok form ∧
          s'.declarations.element id = form.apply e) ∧
        ∀ type, s.typeStack.head? = some type →
          Declarations.Gains type (tag.fieldName, id) s.declarations s'.declarations ∧
          (s'.declarations.element id).isAttribute = isAttribute)
      Fails := by
  rw [startElement_eq]
  simp only [ends_bind, ends_get]
  refine (declareElement_ends lawful tag isAttribute _).imp_done ?_
  rintro ⟨id, name⟩ m ⟨rfl, form, opened, resolved, declares, rfl⟩
  have formed := Declarations.element_modifyElement
    (declares.opens.newElement (List.mem_singleton.2 rfl)).2 form.apply
  have sameFormed : SameBut [] [id] s.declarations
      (resolved.declarations.modifyElement id form.apply) :=
    declares.same.trans (Declarations.sameBut_modifyElement _ id _)
  have tagged : ((resolved.declarations.modifyElement id form.apply).element
      id).isUntagged = false := by
    rw [formed, ElementForm.isUntagged_apply, Element.isUntagged, declares.mode]
    exact declares.opening.tagged
  simp only [ends_ite, ends_pure]
  split
  · rename_i inner
    have mode : (resolved.declarations.element id).formattingMode = .default := by
      rw [declares.mode, (declares.opening.blank (Bool.not_eq_true' _ ▸ inner)).1]
    have marked : ((resolved.declarations.modifyElement id form.apply).element
        id).isAttribute = isAttribute := by
      rw [formed, ElementForm.isAttribute_apply, ElementForm.isAttribute_of_read declares.reads,
        Element.isAttribute, mode]
      exact Bool.or_false isAttribute
    refine (addToType_gains lawful (declares.opens.form form) sameFormed tag.fieldName
      isAttribute).imp_done ?_
    rintro - s' ⟨opens, same, kept, gains⟩
    refine ⟨id, opens, same, ?_, ⟨form, _, declares.reads, kept.trans formed⟩,
      fun type head => ⟨gains type head, ?_⟩⟩
    · rw [kept]
      exact tagged
    · rw [kept]
      exact marked
  · rename_i top
    refine ⟨id, declares.opens.form form, sameFormed.mono (List.nil_subset _)
      (List.Subset.refl _), tagged, ⟨form, _, declares.reads, formed⟩, fun type head => ?_⟩
    have none : s.typeStack = [] := by simpa using top
    rw [none] at head
    cases head

end XsdRecords.Session
