import XsdRecords.Proofs.Session.OpenElements

/-! # Type, group, derivation and enumeration tags

A type tag opens one type.  A group tag opens nothing or a field without a tag of its own together
with its type.  Derivations and enumerators open nothing. -/

namespace XsdRecords.Session

open XsdRecords.Declaration (Declarations ElementId TypeId Element TypeDef Symbol)
open XsdRecords.Declaration.Declarations (Edits SameBut Gains)
open XsdRecords.Layout (FormattingMode)
open XsdRecords.Markup (StartTag)
open XsdRecords.Vocabulary (Builtin Tag)
open XsdRecords.Action

/-! ## Types that are found for a tag -/

/-- A type that a tag is about to define: nothing has defined it. -/
structure Finds (type : TypeId) (s s' : Session) : Prop where
  sameStacks : SameStacks s s'
  edits : Edits s.declarations s'.declarations
  same : SameBut [] s.elementStack.head?.toList s.declarations s'.declarations
  mode (id : ElementId) :
    (s'.declarations.element id).formattingMode = (s.declarations.element id).formattingMode
  isDefined : (s.declarations.type type).isDefined = false
  bound : type.index < s'.declarations.types.size

/-- A tag with a made-up name that is free finds a type that nothing has defined. -/
theorem findOrAddType_madeUp {s : Session} (lawful : Lawful s) (free : s.declarations.Free) :
    let d := s.declarations.anonymousSymbol.1
    let symbol := s.declarations.anonymousSymbol.2
    (s.declarations.type (d.findOrAddType symbol).2.1).isDefined = false ∧
      (d.findOrAddType symbol).2.1.index < (d.findOrAddType symbol).1.types.size ∧
      SameBut [] [] s.declarations (d.findOrAddType symbol).1 ∧
      Edits s.declarations (d.findOrAddType symbol).1 := by
  intro d symbol
  have minted : Edits s.declarations d := .single .mint
  have inRange : d.InRange := minted.inRange lawful.inRange
  have same : SameBut [] [] s.declarations (d.findOrAddType symbol).1 :=
    (Declarations.sameBut_anonymousSymbol _).trans (Declarations.sameBut_findOrAddType d symbol)
  exact ⟨(Declarations.free_iff _).1 free, inRange.findOrAddType symbol, same,
    minted.trans (Declarations.edits_findOrAddType d symbol)⟩

theorem openType_ends {s : Session} (lawful : Lawful s) {name : String}
    (free : s.elementStack.isEmpty = false → s.declarations.Free) :
    (openType name).Ends s
      (fun type s' => Finds type s s' ∧ ∀ id, s.elementStack.head? = some id →
        (s'.declarations.element id).isDefined = true)
      Fails := by
  simp only [openType, ends_bind, ends_get]
  split
  · rename_i top
    simp only [ends_ite, ends_bind, ends_throw]
    split
    · rfl
    · refine ((findType_edits lawful.inRange _).and (findType_ends s _)).imp ?_ fun _ _ h => h.2
      rintro type s' ⟨⟨edits, bound, -⟩, sameStacks, declared, found⟩
      have same := Declarations.sameBut_findOrAddType s.declarations ⟨s.target, name⟩
      rw [← declared] at same
      simp only [ends_declarations, ends_pure]
      split
      · rfl
      · rename_i undefined
        rw [same.isDefined List.not_mem_nil] at undefined
        refine ⟨⟨sameStacks, edits, same.anywhere, fun id => by rw [same.element List.not_mem_nil],
          Bool.eq_false_iff.2 undefined, bound⟩, fun id h => ?_⟩
        rw [top] at h
        cases h
  · rename_i element rest opened
    simp only [ends_ite, ends_bind, ends_throw, ends_declare]
    split
    · rfl
    · have minted : s.declarations.anonymousSymbol.1.InRange := lawful.inRange.edit .mint
      refine ((findType_edits (s := { s with declarations := s.declarations.anonymousSymbol.1 })
        minted _).and (findType_ends _ _)).imp ?_ fun _ _ h => h.2
      rintro type s' ⟨⟨-, -, valued⟩, sameStacks, declared, found⟩
      obtain ⟨undefined, bound, same, edits⟩ :=
        findOrAddType_madeUp lawful (free (by rw [opened]; rfl))
      rw [← declared] at bound same edits
      rw [← found] at undefined bound
      have inside : element.index < s'.declarations.elements.size :=
        Nat.lt_of_lt_of_le (lawful.openElement (by rw [opened]; exact List.mem_cons_self))
          (Declarations.Edits.size_elements_le edits)
      have head : s.elementStack.head? = some element := by rw [opened, List.head?_cons]
      simp only [ends_modifyElement, ends_pure]
      refine ⟨⟨?_, ?_, ?_, fun id => ?_, undefined, bound⟩, fun id h => ?_⟩
      · exact ⟨sameStacks.elementStack, sameStacks.typeStack, sameStacks.tagStack,
          sameStacks.skipDepth⟩
      · exact edits.tail (.typed element type _ bound (fun _ => rfl) (fun _ => rfl) valued)
      · rw [head]
        exact same.anywhere.trans (Declarations.sameBut_modifyElement _ element _)
      · exact Eq.trans (Declarations.get_element_modifyElement Element.formattingMode _ element id
          fun _ => rfl) (congrArg Element.formattingMode (same.element List.not_mem_nil))
      · obtain rfl : element = id := Option.some.inj (head.symm.trans h)
        rw [Declarations.element_modifyElement inside]
        rfl

/-- The type that a tag finds is opened after changes of its own. -/
theorem Finds.opens {s m s' : Session} {type : TypeId} (finds : Finds type s m)
    (typeStack : s'.typeStack = type :: m.typeStack)
    (elementStack : s'.elementStack = m.elementStack) (tagStack : s'.tagStack = m.tagStack)
    (skipDepth : s'.skipDepth = m.skipDepth) (edits : Edits m.declarations s'.declarations)
    (same : SameBut [type] [] m.declarations s'.declarations) : Opens [type] [] s s' where
  typeStack := by rw [typeStack, finds.sameStacks.typeStack]; rfl
  elementStack := elementStack.trans finds.sameStacks.elementStack
  tagStack := tagStack.trans finds.sameStacks.tagStack
  skipDepth := skipDepth.trans finds.sameStacks.skipDepth
  edits := finds.edits.trans edits
  same := (finds.same.mono (List.nil_subset _) (List.Subset.refl _)).trans
    (same.mono (List.subset_append_left _ _) (List.nil_subset _))
  newType member := by
    obtain rfl := List.mem_singleton.1 member
    exact ⟨finds.isDefined, (Declarations.Edits.symbol edits finds.bound).2⟩
  newElement member := by cases member
  mode {id} _ := by rw [same.element List.not_mem_nil, finds.mode]

/-- A type tag opens a type, which has no fields yet; an element that it stands in has this type. -/
theorem startType_ends {s : Session} (lawful : Lawful s) {tag : StartTag} (kind : Tag)
    (free : s.elementStack.isEmpty = false → s.declarations.Free) :
    (startType tag kind).Ends s
      (fun _ s' => ∃ type, Opens [type] [] s s' ∧
        SameBut [type] s.elementStack.head?.toList s.declarations s'.declarations ∧
        (s'.declarations.type type).fields = [] ∧
        (kind = .complexType → (s'.declarations.type type).isDefined = true) ∧
        ∀ id, s.elementStack.head? = some id → (s'.declarations.element id).isDefined = true)
      Fails := by
  simp only [startType, ends_bind, ends_get]
  refine (openType_ends lawful free).imp_done ?_
  rintro type found ⟨finds, owner⟩
  have fields : (found.declarations.type type).fields = [] := by
    rw [finds.same.fields List.not_mem_nil]
    exact lawful.listed.fields finds.isDefined
  have changed (f : TypeDef → TypeDef) := Declarations.type_modifyType finds.bound f
  have same (f : TypeDef → TypeDef) : SameBut [type] s.elementStack.head?.toList s.declarations
      (found.declarations.modifyType type f) :=
    (finds.same.mono (List.nil_subset _) (List.Subset.refl _)).trans
      ((Declarations.sameBut_modifyType _ type f).mono (List.Subset.refl _) (List.nil_subset _))
  simp only [ends_note, ends_ite, ends_bind, ends_modifyType, ends_pushType]
  split
  · refine ⟨type, finds.opens rfl rfl rfl rfl (.single (.complex type))
      (Declarations.sameBut_modifyType _ type _), same _, ?_, fun _ => ?_, owner⟩
    · exact (congrArg TypeDef.fields (changed _)).trans fields
    · exact congrArg TypeDef.isDefined (changed _)
  · rename_i simple
    split
    · refine ⟨type, finds.opens rfl rfl rfl rfl (.single (.preserve type))
        (Declarations.sameBut_modifyType _ type _), same _, ?_, fun h => absurd h simple, owner⟩
      exact (congrArg TypeDef.fields (changed _)).trans fields
    · exact ⟨type, finds.opens rfl rfl rfl rfl .refl (.refl _),
        finds.same.mono (List.nil_subset _) (List.Subset.refl _), fields,
        fun h => absurd h simple, owner⟩

/-! ## Fields without tags of their own -/

/-- A type that holds records. -/
def complex (t : TypeDef) : TypeDef :=
  { t with builtin := some Builtin.complexType }

/-- An element that holds a type and has no tag of its own. -/
def untag (type : TypeId) (e : Element) : Element :=
  { e with
    directType := some type
    formattingMode := e.formattingMode.insert .untagged }

theorem isUntagged_untag (type : TypeId) (e : Element) : (untag type e).isUntagged = true :=
  FormattingMode.contains_insert_self .untagged (by decide) _

/-- An untagged field of `parent` that holds a type. -/
def untaggedField (d : Declarations) (type parent : TypeId) : Declarations × ElementId :=
  let (d, element) := (d.modifyType type complex).addElement
  ((d.modifyElement element (untag type)).addField parent untaggedName element, element)

section UntaggedField

variable {d : Declarations} {type parent : TypeId}

theorem sameBut_untaggedField (d : Declarations) (type parent : TypeId) :
    SameBut [type, parent] [(untaggedField d type parent).2] d (untaggedField d type parent).1 := by
  have first : SameBut [type, parent] [(untaggedField d type parent).2] d
      (d.modifyType type complex) :=
    (Declarations.sameBut_modifyType d type complex).mono (by simp) (List.nil_subset _)
  have second : SameBut [type, parent] [(untaggedField d type parent).2] _
      ((d.modifyType type complex).addElement.1.modifyElement
        (untaggedField d type parent).2 (untag type)) :=
    (Declarations.sameBut_modifyElement _ _ _).mono (List.nil_subset _) (List.Subset.refl _)
  have third : SameBut [type, parent] [(untaggedField d type parent).2] _
      (untaggedField d type parent).1 :=
    (Declarations.sameBut_addField ((d.modifyType type complex).addElement.1.modifyElement
      (untaggedField d type parent).2 (untag type)) parent untaggedName
      (untaggedField d type parent).2).mono (by simp) (List.nil_subset _)
  exact first.trans ((Declarations.sameBut_addElement _).anywhere.trans (second.trans third))

theorem element_untaggedField (d : Declarations) (type parent : TypeId) :
    (untaggedField d type parent).1.element (untaggedField d type parent).2 = untag type {} := by
  have new :
      (d.modifyType type complex).addElement.1.element (untaggedField d type parent).2 = {} := by
    rw [Declarations.element_addElement]
    exact if_pos rfl
  have bound : (untaggedField d type parent).2.index <
      (d.modifyType type complex).addElement.1.elements.size := by
    simp [Declarations.addElement, untaggedField]
  have changed := Declarations.element_modifyElement bound (untag type)
  exact changed.trans (congrArg (untag type) new)

theorem new_untaggedField (d : Declarations) (type parent : TypeId) :
    d.element (untaggedField d type parent).2 = {} :=
  element_new d

theorem type_untaggedField (bound : type.index < d.types.size) (apart : parent ≠ type) :
    (untaggedField d type parent).1.type type =
      { d.type type with builtin := some Builtin.complexType } := by
  refine (Declarations.type_modifyType_of_ne apart _).trans ?_
  exact Declarations.type_modifyType bound _

theorem lt_size_untaggedField (bound : type.index < d.types.size) :
    type.index < (untaggedField d type parent).1.types.size := by
  have size : (untaggedField d type parent).1.types.size = d.types.size :=
    (Declarations.size_modifyType _ _ _).trans (Declarations.size_modifyType _ _ _)
  exact Nat.lt_of_lt_of_le bound (Nat.le_of_eq size.symm)

theorem lt_size_element_untaggedField (d : Declarations) (type parent : TypeId) :
    (untaggedField d type parent).2.index < (untaggedField d type parent).1.elements.size := by
  simp [untaggedField, Declarations.addField, Declarations.addElement, Declarations.modifyType]

theorem gains_untaggedField (bound : parent.index < d.types.size) (apart : parent ≠ type) :
    Gains parent (untaggedName, (untaggedField d type parent).2) d
      (untaggedField d type parent).1 := by
  refine (Declarations.gains_addField ?_ untaggedName _).after ?_
  · exact Nat.lt_of_lt_of_le bound (Nat.le_of_eq Array.size_modify.symm)
  · exact congrArg TypeDef.body (Declarations.type_modifyType_of_ne (Ne.symm apart) _)

end UntaggedField

/-- A session after a group that is a field of `parent` is opened, before anything is read in it. -/
structure OpensUntagged (parent type : TypeId) (element : ElementId) (s s' : Session) : Prop where
  opens : Opens [type] [element] s s'
  apart : parent ≠ type
  same : SameBut [type, parent] [element] s.declarations s'.declarations
  gains : Gains parent (untaggedName, element) s.declarations s'.declarations
  fields : (s'.declarations.type type).fields = []
  isDefined : (s'.declarations.type type).isDefined = true
  symbol : (s'.declarations.type type).symbol.namespaceId = .anonymous
  isUntagged : (s'.declarations.element element).isUntagged = true
  directType : (s'.declarations.element element).directType = some type

theorem openUntagged_ends {s : Session} (lawful : Lawful s) (free : s.declarations.Free)
    {parent : TypeId}
    (head : s.typeStack.head? = some parent)
    (defined : (s.declarations.type parent).isDefined = true) :
    (openUntagged parent).Ends s
      (fun opened s' => OpensUntagged parent opened.1 opened.2 s s') Fails := by
  refine (openUntagged_edits lawful.inRange parent).mp ?_
  simp only [openUntagged, ends_bind, ends_declare, ends_modifyType, ends_pushType,
    ends_modifyElement, ends_declarations, ends_setDeclarations, ends_pushElement, ends_pure]
  intro edits
  obtain ⟨undefined, bound, same, found⟩ := findOrAddType_madeUp lawful free
  have symbol := Declarations.symbol_findOrAddType
    (lawful.listed.edit lawful.inRange .mint) s.declarations.anonymousSymbol.2
  generalize (s.declarations.anonymousSymbol.1.findOrAddType
    s.declarations.anonymousSymbol.2).1 = d at *
  generalize (s.declarations.anonymousSymbol.1.findOrAddType
    s.declarations.anonymousSymbol.2).2.1 = type at *
  have apart : parent ≠ type := fun own => by
    rw [own, undefined] at defined
    cases defined
  have elements : ∀ id, d.element id = s.declarations.element id :=
    fun id => same.element List.not_mem_nil
  have inside : parent.index < d.types.size :=
    (Declarations.Edits.symbol found (Declarations.lt_size_of_isDefined defined)).2
  have typed := type_untaggedField bound apart
  have untagged := element_untaggedField d type parent
  have sameField := same.anywhere.trans (sameBut_untaggedField d type parent)
  refine ⟨⟨rfl, rfl, rfl, rfl, edits, ?_, fun member => ?_, fun member => ?_, fun outside => ?_⟩,
    apart, sameField, ?_, ?_, ?_, ?_, ?_, ?_⟩
  · rw [head]
    exact sameField.mono (List.Subset.refl _) (List.subset_append_left _ _)
  · obtain rfl := List.mem_singleton.1 member
    exact ⟨undefined, lt_size_untaggedField bound⟩
  · obtain rfl := List.mem_singleton.1 member
    refine ⟨?_, lt_size_element_untaggedField d type parent⟩
    rw [← elements]
    exact congrArg Element.isDefined (new_untaggedField d _ parent)
  · exact congrArg Element.formattingMode (sameField.element outside)
  · exact (gains_untaggedField inside apart).after (same.type List.not_mem_nil)
  · refine (congrArg TypeDef.fields typed).trans ?_
    exact (same.fields List.not_mem_nil).trans (lawful.listed.fields undefined)
  · exact congrArg TypeDef.isDefined typed
  · exact (congrArg (fun t : TypeDef => t.symbol.namespaceId) typed).trans
      (congrArg Symbol.namespaceId symbol)
  · exact (congrArg Element.isUntagged untagged).trans (isUntagged_untag type {})
  · exact congrArg Element.directType untagged

/-! ## Groups -/

/-- The outermost group of a complex type is a field of its own if it may be repeated, or be absent
where no element encloses it. -/
theorem isWrapped_complexType (tag : StartTag) (isEnclosed : Bool) :
    isWrapped .complexType isEnclosed tag =
      (!isEnclosed && tag.least < 1 || decide (1 < tag.largest)) := by
  cases isEnclosed <;> simp [isWrapped, Bool.or_comm]

/-- A group stands in a complex type that it lays out, or opens a field of the innermost open type:
what is known of fields that are opened is known of it. -/
theorem openGroup_ends {s : Session} {P : TypeId → TypeId → ElementId → Session → Prop}
    (kind : Tag) (tag : StartTag)
    (opens : isWrapped (outerTag s) (!s.elementStack.isEmpty) tag = true →
      ∀ parent, s.typeStack.head? = some parent →
        (openUntagged parent).Ends s (fun opened => P parent opened.1 opened.2) Fails) :
    (openGroup kind tag.least tag.largest).Ends s
      (fun opened s' =>
        (isWrapped (outerTag s) (!s.elementStack.isEmpty) tag = false ∧ s' = s ∧
          s.typeStack.head? = some opened.1 ∧ opened.2 = s.elementStack.head? ∧
          outerTag s = .complexType) ∨
        (isWrapped (outerTag s) (!s.elementStack.isEmpty) tag = true ∧
          ∃ parent element, s.typeStack.head? = some parent ∧ opened.2 = some element ∧
            P parent opened.1 element s'))
      Fails := by
  have enclosed : s.elementStack.head?.isNone = s.elementStack.isEmpty := by
    cases s.elementStack <;> rfl
  simp only [openGroup, ends_bind, ends_get]
  split
  · rename_i type head outer
    simp only [ends_ite, ends_bind, ends_throw, ends_pure]
    split
    · rfl
    · split
      · rename_i wraps
        have wrapped : isWrapped (outerTag s) (!s.elementStack.isEmpty) tag = true := by
          rw [outer, isWrapped_complexType, Bool.not_not, ← enclosed]
          exact wraps
        exact (opens wrapped type head).imp_done
          fun opened s' known => .inr ⟨wrapped, type, opened.2, head, rfl, known⟩
      · rename_i unwrapped
        refine .inl ⟨?_, trivial, head, trivial, outer⟩
        rw [outer, isWrapped_complexType, Bool.not_not, ← enclosed]
        exact Bool.eq_false_iff.2 unwrapped
  · rename_i parent head outer
    simp only [ends_bind, ends_pure]
    have wrapped : isWrapped (outerTag s) (!s.elementStack.isEmpty) tag = true := by
      simp [isWrapped, outer]
    exact (opens wrapped parent head).imp_done
      fun opened s' known => .inr ⟨wrapped, parent, opened.2, head, rfl, known⟩
  · rename_i parent head outer
    simp only [ends_bind, ends_pure]
    have wrapped : isWrapped (outerTag s) (!s.elementStack.isEmpty) tag = true := by
      simp [isWrapped, outer]
    exact (opens wrapped parent head).imp_done
      fun opened s' known => .inr ⟨wrapped, parent, opened.2, head, rfl, known⟩
  · rfl

/-- A type that is a choice or is none. -/
def choose (isChoice : Bool) (t : TypeDef) : TypeDef :=
  { t with isChoice }

/-- An element that occurs as a group does. -/
def occurAs (least largest : Int) (e : Element) : Element :=
  { e with
    minOccurs := min e.minOccurs least
    maxOccurs := max e.maxOccurs largest }

/-- The declarations after a group is laid out. -/
def laidOut (d : Declarations) (type : TypeId) (element : ElementId) (isChoice : Bool)
    (least largest : Int) : Declarations :=
  (d.modifyType type (choose isChoice)).modifyElement element (occurAs least largest)

/-- A group is laid out after it was opened. -/
theorem OpensUntagged.layOut {s m s' : Session} {parent type : TypeId} {element : ElementId}
    (opens : OpensUntagged parent type element s m) (isChoice : Bool) (least largest : Int)
    (sameStacks : SameStacks m s')
    (declarations : s'.declarations = laidOut m.declarations type element isChoice least largest) :
    OpensUntagged parent type element s s' ∧
      (s'.declarations.type type).isChoice = isChoice := by
  have bound := (opens.opens.newType (List.mem_singleton.2 rfl)).2
  have inside := (opens.opens.newElement (List.mem_singleton.2 rfl)).2
  have changed : s'.declarations.type type = choose isChoice (m.declarations.type type) := by
    rw [declarations]
    exact Declarations.type_modifyType bound (choose isChoice)
  have occurs : s'.declarations.element element =
      occurAs least largest (m.declarations.element element) := by
    rw [declarations]
    exact Declarations.element_modifyElement (d := m.declarations.modifyType type _) inside _
  have mode (id : ElementId) : (s'.declarations.element id).formattingMode =
      (m.declarations.element id).formattingMode := by
    rw [declarations]
    exact Declarations.get_element_modifyElement Element.formattingMode _ element id fun _ => rfl
  have isUntagged (id : ElementId) : (s'.declarations.element id).isUntagged =
      (m.declarations.element id).isUntagged := by
    rw [Element.isUntagged, mode]
    rfl
  have same : SameBut [type] [element] m.declarations s'.declarations := by
    rw [declarations]
    exact SameBut.trans ((Declarations.sameBut_modifyType _ type _).mono (List.Subset.refl _)
      (List.nil_subset _)) ((Declarations.sameBut_modifyElement _ element _).mono
        (List.nil_subset _) (List.Subset.refl _))
  have edits : Edits m.declarations s'.declarations := by
    rw [declarations]
    exact .tail (.single (.choose type isChoice))
      (.form element (occurAs least largest) (fun _ => rfl) (fun _ => rfl) fun _ => rfl)
  refine ⟨⟨opens.opens.andThen sameStacks edits ?_ fun id _ => mode id,
    opens.apart, ?_, ?_, ?_, ?_, ?_, ?_, ?_⟩,
    ?_⟩
  · exact same.mono (List.subset_append_left _ _) (List.subset_append_left _ _)
  · exact opens.same.trans (same.mono (by simp) (List.Subset.refl _))
  · exact opens.gains.before (same.type (by simp [opens.apart]))
  · exact (congrArg TypeDef.fields changed).trans opens.fields
  · exact (congrArg TypeDef.isDefined changed).trans opens.isDefined
  · exact (congrArg (fun t : TypeDef => t.symbol.namespaceId) changed).trans opens.symbol
  · exact (isUntagged element).trans opens.isUntagged
  · exact (congrArg Element.directType occurs).trans opens.directType
  · exact congrArg TypeDef.isChoice changed

/-- A session after a tag that opens nothing. -/
theorem Opens.ofNothing {s s' : Session} (sameStacks : SameStacks s s')
    (edits : Edits s.declarations s'.declarations)
    (same : SameBut s.typeStack.head?.toList s.elementStack.head?.toList s.declarations
      s'.declarations)
    (mode : ∀ id, (s'.declarations.element id).formattingMode =
      (s.declarations.element id).formattingMode) : Opens [] [] s s' where
  typeStack := sameStacks.typeStack
  elementStack := sameStacks.elementStack
  tagStack := sameStacks.tagStack
  skipDepth := sameStacks.skipDepth
  edits := edits
  same := same
  newType member := by cases member
  newElement member := by cases member
  mode _ := mode _

/-- A tag that gives numbers of occurrences gives these. -/
theorem least_eq {tag : StartTag} {n : Option Int} (reads : minOccurs? tag = .ok n) :
    n.getD 1 = tag.least := by
  rw [StartTag.least, reads]
  cases n <;> rfl

theorem largest_eq {tag : StartTag} {n : Option Int} (reads : maxOccurs? tag = .ok n) :
    n.getD 1 = tag.largest := by
  rw [StartTag.largest, reads]
  cases n <;> rfl

/-- What a group does: it lays out the innermost open type itself, or a type of its own after
opening a field. -/
theorem startGroup_lays {s : Session} {P : TypeId → TypeId → ElementId → Session → Prop}
    (tag : StartTag) (kind : Tag)
    (opens : isWrapped (outerTag s) (!s.elementStack.isEmpty) tag = true →
      ∀ parent, s.typeStack.head? = some parent →
        (openUntagged parent).Ends s (fun opened => P parent opened.1 opened.2) Fails) :
    (startGroup tag kind).Ends s
      (fun _ s' =>
        (isWrapped (outerTag s) (!s.elementStack.isEmpty) tag = false ∧
          outerTag s = .complexType ∧ SameStacks s s' ∧ ∃ type, s.typeStack.head? = some type ∧
            s'.declarations = match s.elementStack.head? with
              | some element =>
                laidOut s.declarations type element (kind = .choice) tag.least tag.largest
              | none => s.declarations.modifyType type (choose (kind = .choice))) ∨
        (isWrapped (outerTag s) (!s.elementStack.isEmpty) tag = true ∧
          ∃ parent type element m, s.typeStack.head? = some parent ∧ P parent type element m ∧
            SameStacks m s' ∧ s'.declarations =
              laidOut m.declarations type element (kind = .choice) tag.least tag.largest))
      Fails := by
  simp only [startGroup, ends_ite, ends_bind, ends_throw, ends_ofExcept]
  split
  · rfl
  · split
    · rename_i least readsLeast
      split
      · rename_i largest readsLargest
        rw [least_eq readsLeast, largest_eq readsLargest]
        refine (openGroup_ends kind tag opens).imp_done fun opened m h => ?_
        simp only [ends_note, ends_modifyType]
        obtain ⟨unwrapped, rfl, head, owner, outer⟩ |
          ⟨wrapped, parent, element, head, owner, known⟩ := h
        · rw [owner]
          cases owned : m.elementStack.head? with
          | none => exact .inl ⟨unwrapped, outer, ⟨rfl, rfl, rfl, rfl⟩, opened.1, head, rfl⟩
          | some element =>
            rw [ends_modifyElement]
            exact .inl ⟨unwrapped, outer, ⟨rfl, rfl, rfl, rfl⟩, opened.1, head, rfl⟩
        · rw [owner, ends_modifyElement]
          exact .inr ⟨wrapped, parent, opened.1, element, m, head, known, ⟨rfl, rfl, rfl, rfl⟩, rfl⟩
      · rename_i problem reads
        exact (isOfValue_of_maxOccurs? reads).isLocal.isFailure
    · rename_i problem reads
      exact (isOfValue_of_minOccurs? reads).isLocal.isFailure

/-- A group lays out the innermost open type itself, or opens a field of it with a new type. -/
theorem startGroup_ends {s : Session} (lawful : Lawful s) (tag : StartTag) (kind : Tag)
    (free : isWrapped (outerTag s) (!s.elementStack.isEmpty) tag = true → s.declarations.Free)
    (defined : ∀ type, s.typeStack.head? = some type →
      (s.declarations.type type).isDefined = true) :
    (startGroup tag kind).Ends s
      (fun _ s' =>
        (isWrapped (outerTag s) (!s.elementStack.isEmpty) tag = false ∧
          outerTag s = .complexType ∧ Opens [] [] s s' ∧
          ∀ id, (s'.declarations.type id).fields = (s.declarations.type id).fields) ∨
        (isWrapped (outerTag s) (!s.elementStack.isEmpty) tag = true ∧
          ∃ parent type element, s.typeStack.head? = some parent ∧
            OpensUntagged parent type element s s' ∧
            (s'.declarations.type type).isChoice = decide (kind = .choice)))
      Fails := by
  refine (startGroup_lays (P := fun parent type element m => OpensUntagged parent type element s m)
    tag kind fun wrapped parent head =>
      openUntagged_ends lawful (free wrapped) head (defined parent head)).imp_done
        fun _ s' h => ?_
  obtain ⟨unwrapped, outer, sameStacks, type, head, declarations⟩ |
    ⟨wrapped, parent, type, element, m, head, opens, sameStacks, declarations⟩ := h
  · refine .inl ⟨unwrapped, outer, ?_⟩
    have chosen := Declarations.sameBut_modifyType s.declarations type
      (choose (decide (kind = .choice)))
    have edits : Edits s.declarations (s.declarations.modifyType type
        (choose (decide (kind = .choice)))) := .single (.choose _ _)
    cases owned : s.elementStack.head? with
    | none =>
      simp only [owned] at declarations
      refine ⟨.ofNothing sameStacks ?_ ?_ fun id => ?_, fun id => ?_⟩
      · rw [declarations]
        exact edits
      · rw [declarations, head]
        exact chosen.mono (List.Subset.refl _) (List.nil_subset _)
      · rw [declarations]
        rfl
      · rw [declarations]
        exact Declarations.get_type_modifyType TypeDef.fields _ _ id fun _ => rfl
    | some element =>
      simp only [owned] at declarations
      refine ⟨.ofNothing sameStacks ?_ ?_ fun id => ?_, fun id => ?_⟩
      · rw [declarations]
        exact edits.tail (.form element (occurAs tag.least tag.largest) (fun _ => rfl)
          (fun _ => rfl) fun _ => rfl)
      · rw [declarations, head, owned]
        exact SameBut.trans (chosen.mono (List.Subset.refl _) (List.nil_subset _))
          ((Declarations.sameBut_modifyElement _ element _).mono (List.nil_subset _)
            (List.Subset.refl _))
      · rw [declarations]
        exact Declarations.get_element_modifyElement Element.formattingMode _ element id
          fun _ => rfl
      · rw [declarations]
        exact Declarations.get_type_modifyType TypeDef.fields _ _ id fun _ => rfl
  · exact .inr ⟨wrapped, parent, type, element, head,
      opens.layOut (decide (kind = .choice)) tag.least tag.largest sameStacks declarations⟩

/-! ## Derivations and enumerators -/

/-- A derivation opens nothing; the innermost open type is defined after it. -/
theorem startDerivation_ends {s : Session} (lawful : Lawful s) (tag : StartTag) (isList : Bool) :
    (startDerivation tag isList).Ends s
      (fun _ s' => Opens [] [] s s' ∧
        (∀ id, (s'.declarations.type id).fields = (s.declarations.type id).fields) ∧
        ∀ type, s.typeStack.head? = some type → (s'.declarations.type type).isDefined = true)
      Fails := by
  refine (startDerivation_edits lawful.inRange tag isList).mp ?_
  simp only [startDerivation, ends_bind, ends_get]
  split
  · split <;> rfl
  · rename_i type rest opened
    have head : s.typeStack.head? = some type := by rw [opened, List.head?_cons]
    have bound := lawful.openType (by rw [opened]; exact List.mem_cons_self : type ∈ s.typeStack)
    split
    · rename_i symbol _
      simp only [ends_bind]
      refine ((findType_edits lawful.inRange symbol).and (findType_ends s symbol)).imp
        ?_ fun _ _ h => h.2
      rintro base s' ⟨⟨found, -⟩, sameStacks, declared, -⟩
      have same := Declarations.sameBut_findOrAddType s.declarations symbol
      rw [← declared] at same
      have inside := (Declarations.Edits.symbol found bound).2
      simp only [ends_declarations, ends_ite, ends_bind, ends_throw, ends_note, ends_modifyType]
      split
      · rfl
      · refine fun edits => ⟨.ofNothing ⟨sameStacks.elementStack, sameStacks.typeStack,
          sameStacks.tagStack, sameStacks.skipDepth⟩ edits ?_ fun id => ?_, fun id => ?_,
          fun id h => ?_⟩
        · rw [head]
          exact same.anywhere.trans ((Declarations.sameBut_modifyType _ type _).mono
            (List.Subset.refl _) (List.nil_subset _))
        · exact congrArg Element.formattingMode (same.element List.not_mem_nil)
        · refine Eq.trans ?_ (same.fields List.not_mem_nil)
          exact Declarations.get_type_modifyType TypeDef.fields _ type id fun _ => rfl
        · obtain rfl : type = id := Option.some.inj (head.symm.trans h)
          refine (congrArg TypeDef.isDefined (Declarations.type_modifyType inside _)).trans ?_
          exact Bool.or_true _
    · split <;> rfl

/-- An enumerator opens nothing. -/
theorem startEnumerator_ends (s : Session) (tag : StartTag) :
    (startEnumerator tag).Ends s
      (fun _ s' => Opens [] [] s s' ∧
        ∀ id, (s'.declarations.type id).fields = (s.declarations.type id).fields)
      Fails := by
  have nothing : Opens [] [] s s := .ofNothing (.refl s) .refl (.refl _) fun _ => rfl
  refine (startEnumerator_edits s tag).mp ?_
  simp only [startEnumerator, ends_bind, ends_get]
  split
  · rfl
  · rename_i type rest opened
    have head : s.typeStack.head? = some type := by rw [opened, List.head?_cons]
    simp only [ends_ite, ends_bind, ends_ofExcept]
    split
    · split
      · simp only [ends_note, ends_modifyType]
        refine fun edits => ⟨.ofNothing ⟨rfl, rfl, rfl, rfl⟩ edits ?_ fun _ => rfl,
          fun id => Declarations.get_type_modifyType TypeDef.fields _ type id fun _ => rfl⟩
        rw [head]
        exact (Declarations.sameBut_modifyType _ type _).mono (List.Subset.refl _)
          (List.nil_subset _)
      · rename_i problem reads
        exact (isOfValue_of_annotatedId? reads).isLocal.isFailure
    · exact fun _ => ⟨nothing, fun _ => rfl⟩

end XsdRecords.Session
