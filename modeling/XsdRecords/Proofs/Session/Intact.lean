import XsdRecords.Proofs.Declaration.Intact
import XsdRecords.Proofs.Markup.Scoping
import XsdRecords.Proofs.Session.Edits
import XsdRecords.Proofs.Worklist

/-! # Reading keeps the tables intact

Every step of reading, whether it fails or not, leaves tables that name every type once and refer to
nothing that is not there, and opens only elements and types that there are: `Session.Intact`.  The
names of documents stay out of the namespace of made-up names because the target of every document
and all its prefixes stand for namespaces that are registered. -/

namespace XsdRecords

open XsdRecords.Declaration (Declarations Element ElementId TypeDef TypeId Symbol madeUp)
open XsdRecords.Declaration.Declarations (edits_findOrAddRoot edits_findOrAddRootAttribute
  edits_findOrAddType)
open XsdRecords.Markup (Lexeme Reader StartTag)
open XsdRecords.Vocabulary (Builtin Tag)

/-! ## Documents -/

/-- Whether the target namespace of a document, and those that its prefixes are bound to, are
registered. -/
structure DocumentEntry.Known (e : DocumentEntry) (r : Registry) : Prop where
  target : ∃ uri, r.id? uri = some e.target
  bindings : e.bindings.Known r

namespace DocumentEntry

variable {e : DocumentEntry} {r r' : Registry}

theorem Known.grows (known : e.Known r) (grows : r.Grows r') : e.Known r' :=
  ⟨known.target.imp fun _ registered => grows.id? registered, known.bindings.grows grows⟩

theorem known_topLevel (location : String) (r : Registry) : (topLevel location).Known r := by
  have none : ∃ uri, r.id? uri = some .none := ⟨"", r.id?_empty⟩
  exact ⟨none, Bindings.known_empty.bind "" none⟩

theorem known_nested (kind : DocumentKind) (parent : Nat) (location uri : String) (r : Registry) :
    (nested kind parent location uri r).1.Known (nested kind parent location uri r).2 :=
  ⟨⟨uri, r.id?_register uri⟩, Bindings.known_empty.bindUri "" uri⟩

theorem Known.setTarget (known : e.Known r) {id : NamespaceId}
    (registered : ∃ uri, r.id? uri = some id) : ((e.setTarget? id).getD e).Known r := by
  unfold setTarget?
  split
  · exact known
  · exact ⟨registered, known.bindings⟩

end DocumentEntry

/-! ## The built-in types -/

theorem Declaration.Declarations.intact_initial (apart : Prop) : initial.Intact apart where
  found {s id} := by
    have named : ∀ n : Fin initial.types.size,
        initial.typeTable.find? (initial.type ⟨n⟩).symbol = some ⟨n⟩ := by decide +kernel
    refine ⟨fun found => ⟨inRange_initial.types found, listed_initial.symbol found⟩, ?_⟩
    rintro ⟨bound, rfl⟩
    exact named ⟨id.index, bound⟩
  roots found := inRange_initial.roots found
  rootAttributes found := inRange_initial.rootAttributes found
  element id := element_initial id ▸ Element.within_blank
  type := forall_type_initial (P := fun t => t.Within _ _) (TypeDef.within_blank _)
    fun _ _ => ⟨nofun, nofun⟩
  minted _ s id found made := by
    have builtin : NamespaceId.xmlSchema ≠ .anonymous := by decide
    have others : ∀ id, (initial.type id).symbol.namespaceId ≠ .anonymous :=
      forall_type_initial (P := fun t => t.symbol.namespaceId ≠ .anonymous) (by decide)
        fun _ _ => builtin
    rw [← listed_initial.symbol found] at made
    exact absurd made (others id)

namespace Session

open XsdRecords.Action

/-- A session with intact declarations in which all that is open is there. -/
structure Intact (s : Session) : Prop where
  declarations : s.declarations.Intact s.registry.HasRoom
  elementStack : ∀ id ∈ s.elementStack, id.index < s.declarations.elements.size
  typeStack : ∀ id ∈ s.typeStack, id.index < s.declarations.types.size
  known (index : Nat) : (s.worklist.entry index).Known s.registry

variable {s : Session}

theorem intact_start (location : String) (allowUnsupported : Bool) :
    Intact (start location allowUnsupported) where
  declarations := Declarations.intact_initial _
  elementStack _ member := by cases member
  typeStack _ member := by cases member
  known index := by
    cases index with
    | zero => exact DocumentEntry.known_topLevel location _
    | succ index => exact DocumentEntry.known_topLevel "" _

theorem Intact.note (intact : Intact s) (e : Event) : Intact (s.note e) :=
  ⟨intact.declarations, intact.elementStack, intact.typeStack, intact.known⟩

theorem Intact.report (intact : Intact s) (p : Problem) : Intact (s.report p) :=
  ⟨intact.declarations, intact.elementStack, intact.typeStack, intact.known⟩

/-- What a name in a document stands for is not in the namespace of made-up names. -/
theorem Intact.symbol_ne_anonymous (intact : Intact s) {text : Option String} {symbol : Symbol}
    (named : s.symbol? text = some symbol) (room : s.registry.HasRoom) :
    symbol.namespaceId ≠ .anonymous := by
  unfold symbol? at named
  split at named
  · cases named
  · cases named
  · obtain rfl := Option.some.inj named
    obtain ⟨uri, registered⟩ := Markup.known_resolve (intact.known _).bindings _
    exact room.ne_anonymous registered

theorem Intact.target_ne_anonymous (intact : Intact s) (room : s.registry.HasRoom) :
    s.target ≠ .anonymous :=
  let ⟨_, registered⟩ := (intact.known _).target
  room.ne_anonymous registered

/-! ## Changes of the declarations -/

/-- A session may get other declarations that are intact and hold no less. -/
theorem Intact.declare (intact : Intact s) {d : Declarations} (next : d.Intact s.registry.HasRoom)
    (elements : s.declarations.elements.size ≤ d.elements.size)
    (types : s.declarations.types.size ≤ d.types.size) : Intact { s with declarations := d } :=
  ⟨next, fun id member => Nat.lt_of_lt_of_le (intact.elementStack id member) elements,
    fun id member => Nat.lt_of_lt_of_le (intact.typeStack id member) types, intact.known⟩

theorem Intact.modifyElement (intact : Intact s) (id : ElementId) {f : Element → Element}
    (keeps : ∀ e : Element, e.Within s.declarations.types.size s.declarations.elements.size →
      (f e).Within s.declarations.types.size s.declarations.elements.size) :
    Intact { s with declarations := s.declarations.modifyElement id f } :=
  intact.declare (intact.declarations.modifyElement id keeps)
    (Nat.le_of_eq (Declarations.size_modifyElement ..).symm) (Nat.le_refl _)

theorem Intact.modifyType (intact : Intact s) (id : TypeId) {f : TypeDef → TypeDef}
    (symbol : ∀ t, (f t).symbol = t.symbol)
    (keeps : ∀ t : TypeDef, t.Within s.declarations.types.size s.declarations.elements.size →
      (f t).Within s.declarations.types.size s.declarations.elements.size) :
    Intact { s with declarations := s.declarations.modifyType id f } :=
  intact.declare (intact.declarations.modifyType id symbol keeps) (Nat.le_refl _)
    (Nat.le_of_eq (Declarations.size_modifyType ..).symm)

/-- A type may change in what does not refer to anything. -/
theorem Intact.adjustType (intact : Intact s) (id : TypeId) {f : TypeDef → TypeDef}
    (symbol : ∀ t, (f t).symbol = t.symbol) (base : ∀ t, (f t).base = t.base)
    (fields : ∀ t, (f t).fields = t.fields) :
    Intact { s with declarations := s.declarations.modifyType id f } :=
  intact.modifyType id symbol fun t within =>
    ⟨fun own => within.base (base t ▸ own), fun member => within.field (fields t ▸ member)⟩

theorem Intact.mint (intact : Intact s) :
    Intact { s with declarations := s.declarations.anonymousSymbol.1 } :=
  intact.declare intact.declarations.mint (Nat.le_refl _) (Nat.le_refl _)

theorem Intact.findOrAddType (intact : Intact s) {symbol : Symbol}
    (minted : s.registry.HasRoom → symbol.namespaceId = .anonymous →
      ∃ n ≤ s.declarations.anonymousCount, symbol = madeUp n) :
    Intact { s with declarations := (s.declarations.findOrAddType symbol).1 } :=
  have edits := edits_findOrAddType s.declarations symbol
  intact.declare (intact.declarations.findOrAddType minted) edits.size_elements_le
    edits.size_types_le

theorem Intact.addField (intact : Intact s) (type : TypeId) (name : String) {element : ElementId}
    (inRange : element.index < s.declarations.elements.size) :
    Intact { s with declarations := s.declarations.addField type name element } :=
  intact.declare (intact.declarations.addField type name inRange) (Nat.le_refl _)
    (Nat.le_of_eq (Declarations.size_modifyType ..).symm)

theorem Intact.addElement (intact : Intact s) :
    Intact { s with declarations := s.declarations.addElement.1 } :=
  intact.declare intact.declarations.addElement (by simp [Declarations.addElement])
    (Nat.le_refl _)

/-- Makes an element of a type that there is. -/
theorem Intact.typed (intact : Intact s) (id : ElementId) {f : Element → Element} {type : TypeId}
    (inRange : type.index < s.declarations.types.size)
    (directType : ∀ e, (f e).directType = some type)
    (reference : ∀ e, (f e).reference = e.reference) :
    Intact { s with declarations := s.declarations.modifyElement id f } :=
  intact.modifyElement id fun e within =>
    ⟨fun own => by
      rw [directType] at own
      exact Option.some.inj own ▸ inRange, fun own => within.reference (reference e ▸ own)⟩

theorem Intact.pushElement (intact : Intact s) {id : ElementId}
    (inRange : id.index < s.declarations.elements.size) :
    Intact { s with elementStack := id :: s.elementStack } :=
  ⟨intact.declarations, List.forall_mem_cons.2 ⟨inRange, intact.elementStack⟩, intact.typeStack,
    intact.known⟩

theorem Intact.pushType (intact : Intact s) {id : TypeId}
    (inRange : id.index < s.declarations.types.size) :
    Intact { s with typeStack := id :: s.typeStack } :=
  ⟨intact.declarations, intact.elementStack, List.forall_mem_cons.2 ⟨inRange, intact.typeStack⟩,
    intact.known⟩

/-! ## Element and attribute tags -/

theorem findType_intact (intact : Intact s) {symbol : Symbol}
    (minted : s.registry.HasRoom → symbol.namespaceId = .anonymous →
      ∃ n ≤ s.declarations.anonymousCount, symbol = madeUp n) :
    (findType symbol).Ends s
      (fun id s' => Intact s' ∧ id.index < s'.declarations.types.size ∧
        s.declarations.elements.size ≤ s'.declarations.elements.size)
      (fun _ s' => Intact s') := by
  have found := intact.findOrAddType minted
  have inRange := intact.declarations.inRange.findOrAddType symbol
  have elements := Declarations.Edits.size_elements_le (edits_findOrAddType s.declarations symbol)
  simp only [findType, ends_bind, ends_declare, ends_get, ends_ite, ends_throw, ends_declarations]
  split
  · exact found
  · split
    · simp only [ends_ite, ends_bind, ends_throw, ends_pure]
      split
      · exact found
      · exact ⟨found, inRange, elements⟩
    · exact ⟨found, inRange, elements⟩

theorem findRoot_intact (intact : Intact s) (symbol : Symbol) (isAttribute : Bool) :
    (findRoot symbol isAttribute).Ends s
      (fun id s' => Intact s' ∧ id.index < s'.declarations.elements.size ∧
        s.declarations.elements.size ≤ s'.declarations.elements.size)
      (fun _ s' => Intact s') := by
  unfold findRoot
  split
  · have edits := edits_findOrAddRootAttribute s.declarations symbol
    have elements := Declarations.Edits.size_elements_le edits
    exact ⟨intact.declare (intact.declarations.findOrAddRootAttribute symbol) elements
      (Declarations.Edits.size_types_le edits),
      intact.declarations.inRange.findOrAddRootAttribute symbol, elements⟩
  · have edits := edits_findOrAddRoot s.declarations symbol
    have elements := Declarations.Edits.size_elements_le edits
    exact ⟨intact.declare (intact.declarations.findOrAddRoot symbol) elements
      (Declarations.Edits.size_types_le edits),
      intact.declarations.inRange.findOrAddRoot symbol, elements⟩

theorem openElement_intact (intact : Intact s) (isTopLevel isAttribute : Bool) (name : String) :
    (openElement isTopLevel isAttribute name).Ends s
      (fun id s' => Intact s' ∧ id.index < s'.declarations.elements.size)
      (fun _ s' => Intact s') := by
  unfold openElement
  split
  · simp only [ends_bind, ends_get]
    refine (findRoot_intact intact _ isAttribute).imp_done fun id m found => ?_
    simp only [ends_declarations, ends_ite, ends_bind, ends_throw, ends_pushElement, ends_pure]
    split
    · exact found.1
    · exact ⟨found.1.pushElement found.2.1, found.2.1⟩
  · simp only [ends_bind, ends_declare, ends_pushElement, ends_pure]
    have inRange :
        s.declarations.addElement.2.index < s.declarations.addElement.1.elements.size := by
      simp [Declarations.addElement]
    exact ⟨intact.addElement.pushElement inRange, inRange⟩

theorem resolveElement_intact (intact : Intact s) (id : ElementId) (tag : StartTag) (name : String)
    (isTopLevel isAttribute : Bool) :
    (resolveElement id tag name isTopLevel isAttribute).Ends s
      (fun _ s' => Intact s' ∧ s.declarations.elements.size ≤ s'.declarations.elements.size)
      (fun _ s' => Intact s') := by
  simp only [resolveElement, ends_bind, ends_get]
  split
  · simp only [referTo, ends_bind, ends_ite, ends_throw]
    split
    · exact intact
    · refine (findRoot_intact intact _ isAttribute).imp_done fun target m found => ?_
      obtain ⟨found, inRange, more⟩ := found
      simp only [ends_declarations, ends_get, ends_modifyElement, ends_pure]
      split
      · exact found
      · refine ⟨found.modifyElement id fun e within => ⟨within.directType, fun own => ?_⟩,
          Nat.le_trans more (Nat.le_of_eq (Declarations.size_modifyElement ..).symm)⟩
        exact Option.some.inj own ▸ inRange
  · split
    · rename_i named
      simp only [ends_bind]
      refine (findType_intact intact fun room made =>
        absurd made (intact.symbol_ne_anonymous named room)).imp_done fun type m found => ?_
      obtain ⟨found, inRange, more⟩ := found
      simp only [ends_modifyElement, ends_pure]
      exact ⟨found.typed id inRange (fun _ => rfl) fun _ => rfl,
        Nat.le_trans more (Nat.le_of_eq (Declarations.size_modifyElement ..).symm)⟩
    · exact ⟨intact, Nat.le_refl _⟩

theorem addToType_intact (intact : Intact s) {id : ElementId}
    (inRange : id.index < s.declarations.elements.size) (name : String) (isAttribute : Bool) :
    (addToType id name isAttribute).Ends s (fun _ s' => Intact s') (fun _ s' => Intact s') := by
  simp only [addToType, ends_bind, ends_get]
  split
  · exact intact
  · simp only [ends_ite, ends_bind, ends_throw, ends_setDeclarations]
    split
    · exact intact
    · exact intact.addField _ name inRange

theorem startElement_intact (intact : Intact s) (tag : StartTag) (isAttribute : Bool) :
    (startElement tag isAttribute).Ends s (fun _ s' => Intact s') (fun _ s' => Intact s') := by
  simp only [startElement, ends_bind, ends_get]
  refine (openElement_intact intact _ isAttribute _).imp_done fun id opened h => ?_
  obtain ⟨h, inRange⟩ := h
  rw [ends_note]
  refine (resolveElement_intact (h.note _) id tag _ _ isAttribute).imp_done
    fun name resolved h => ?_
  obtain ⟨h, more⟩ := h
  simp only [ends_ite, ends_bind, ends_throw]
  split
  · exact h
  · rw [ends_ofExcept]
    split
    · rename_i form _
      have formed : Intact { resolved with
          declarations := resolved.declarations.modifyElement id form.apply } :=
        h.modifyElement id fun e within => ⟨within.directType, within.reference⟩
      have size := Declarations.size_modifyElement resolved.declarations id form.apply
      simp only [ends_modifyElement]
      split
      · exact formed
      · split
        · exact addToType_intact formed (size.symm ▸ Nat.lt_of_lt_of_le inRange more) name
            isAttribute
        · exact formed
    · exact h

/-! ## Types, groups and derivations -/

theorem openType_intact (intact : Intact s) (name : String) :
    (openType name).Ends s (fun id s' => Intact s' ∧ id.index < s'.declarations.types.size)
      (fun _ s' => Intact s') := by
  simp only [openType, ends_bind, ends_get]
  split
  · simp only [ends_ite, ends_bind, ends_throw]
    split
    · exact intact
    · refine (findType_intact intact fun room made =>
        absurd made (intact.target_ne_anonymous room)).imp_done fun id m found => ?_
      simp only [ends_declarations, ends_pure]
      split
      · exact found.1
      · exact ⟨found.1, found.2.1⟩
  · simp only [ends_ite, ends_bind, ends_throw, ends_declare]
    split
    · exact intact
    · refine (findType_intact intact.mint fun _ _ => ⟨_, Nat.le_refl _, rfl⟩).imp_done
        fun id m found => ?_
      simp only [ends_modifyElement, ends_pure]
      exact ⟨found.1.typed _ found.2.1 (fun _ => rfl) fun _ => rfl, found.2.1⟩

theorem startType_intact (intact : Intact s) (tag : StartTag) (kind : Tag) :
    (startType tag kind).Ends s (fun _ s' => Intact s') (fun _ s' => Intact s') := by
  simp only [startType, ends_bind, ends_get]
  refine (openType_intact intact _).imp_done fun id m opened => ?_
  obtain ⟨opened, inRange⟩ := opened
  have noted (e : Event) := opened.note e
  have same (f : TypeDef → TypeDef) : id.index < (m.declarations.modifyType id f).types.size :=
    (Declarations.size_modifyType m.declarations id f).symm ▸ inRange
  simp only [ends_note, ends_ite, ends_bind, ends_modifyType, ends_pushType]
  split
  · refine ((noted _).adjustType id ?_ ?_ ?_).pushType (same _) <;> exact fun _ => rfl
  · split
    · refine ((noted _).adjustType id ?_ ?_ ?_).pushType (same _) <;> exact fun _ => rfl
    · exact (noted _).pushType inRange

/-- Opens a type and an element of it that is made for the purpose, and adds it to another type. -/
theorem Intact.openUntagged (intact : Intact s) {type : TypeId}
    (inRange : type.index < s.declarations.types.size) (parent : TypeId) (name : String)
    {f : Element → Element} (directType : ∀ e, (f e).directType = some type)
    (reference : ∀ e, (f e).reference = e.reference) :
    Intact { s with
      declarations :=
        (s.declarations.addElement.1.modifyElement s.declarations.addElement.2 f).addField parent name
          s.declarations.addElement.2
      elementStack := s.declarations.addElement.2 :: s.elementStack
      typeStack := type :: s.typeStack } := by
  have typed := (intact.pushType inRange).addElement.typed s.declarations.addElement.2 inRange
    directType reference
  have last : s.declarations.addElement.2.index <
      (s.declarations.addElement.1.modifyElement s.declarations.addElement.2 f).elements.size := by
    simp [Declarations.addElement]
  exact (typed.addField parent name last).pushElement last

theorem openUntagged_intact (intact : Intact s) (parent : TypeId) :
    (openUntagged parent).Ends s (fun _ s' => Intact s') (fun _ s' => Intact s') := by
  have found : Intact { s with declarations := (s.declarations.anonymousSymbol.1.findOrAddType
      s.declarations.anonymousSymbol.2).1 } :=
    intact.mint.findOrAddType fun _ _ => ⟨_, Nat.le_refl _, rfl⟩
  have inRange := intact.mint.declarations.inRange.findOrAddType s.declarations.anonymousSymbol.2
  simp only [openUntagged, ends_bind, ends_declare, ends_modifyType, ends_pushType,
    ends_modifyElement, ends_declarations, ends_setDeclarations, ends_pushElement, ends_pure]
  generalize
    s.declarations.anonymousSymbol.1.findOrAddType s.declarations.anonymousSymbol.2 = opened
    at found inRange ⊢
  have complex := found.adjustType opened.2.1
    (f := fun t => { t with builtin := some Builtin.complexType }) (fun _ => rfl) (fun _ => rfl)
    fun _ => rfl
  exact complex.openUntagged ((Declarations.size_modifyType ..).symm ▸ inRange) parent untaggedName
    (fun _ => rfl) fun _ => rfl

theorem openGroup_intact (intact : Intact s) (kind : Tag) (minOccurs maxOccurs : Int) :
    (openGroup kind minOccurs maxOccurs).Ends s (fun _ s' => Intact s')
      (fun _ s' => Intact s') := by
  simp only [openGroup, ends_bind, ends_get]
  split
  · simp only [ends_ite, ends_bind, ends_throw, ends_pure]
    split
    · exact intact
    · split
      · exact openUntagged_intact intact _
      · exact intact
  · simp only [ends_bind, ends_pure]
    exact openUntagged_intact intact _
  · simp only [ends_bind, ends_pure]
    exact openUntagged_intact intact _
  · exact intact

theorem startGroup_intact (intact : Intact s) (tag : StartTag) (kind : Tag) :
    (startGroup tag kind).Ends s (fun _ s' => Intact s') (fun _ s' => Intact s') := by
  simp only [startGroup, ends_ite, ends_bind, ends_throw, ends_ofExcept]
  split
  · exact intact
  · split
    · split
      · refine (openGroup_intact intact kind _ _).imp_done fun opened m h => ?_
        simp only [ends_note, ends_modifyType]
        split
        · rw [ends_modifyElement]
          refine ((h.note _).adjustType opened.1 ?_ ?_ ?_).modifyElement _ fun e within =>
            ⟨within.directType, within.reference⟩
          all_goals exact fun _ => rfl
        · refine (h.note _).adjustType opened.1 ?_ ?_ ?_ <;> exact fun _ => rfl
      · exact intact
    · exact intact

theorem startDerivation_intact (intact : Intact s) (tag : StartTag) (isList : Bool) :
    (startDerivation tag isList).Ends s (fun _ s' => Intact s') (fun _ s' => Intact s') := by
  simp only [startDerivation, ends_bind, ends_get]
  split
  · exact intact
  · split
    · rename_i named
      simp only [ends_bind]
      refine (findType_intact intact fun room made =>
        absurd made (intact.symbol_ne_anonymous named room)).imp_done fun base m found => ?_
      obtain ⟨found, inRange, -⟩ := found
      simp only [ends_declarations, ends_ite, ends_bind, ends_throw, ends_note, ends_modifyType]
      split
      · exact found
      · refine (found.note _).modifyType _ (fun _ => rfl) fun t within =>
          ⟨fun own => ?_, within.field⟩
        exact Option.some.inj own ▸ inRange
    · exact intact

theorem startEnumerator_intact (intact : Intact s) (tag : StartTag) :
    (startEnumerator tag).Ends s (fun _ s' => Intact s') (fun _ s' => Intact s') := by
  simp only [startEnumerator, ends_bind, ends_get]
  split
  · exact intact
  · simp only [ends_ite, ends_bind, ends_ofExcept]
    split
    · split
      · exact (intact.note _).adjustType _ (fun _ => rfl) (fun _ => rfl) fun _ => rfl
      · exact intact
    · exact intact

/-! ## Schema, include and import tags -/

/-- A session may get a registry with more namespaces. -/
theorem Intact.register (intact : Intact s) {registry : Registry}
    (grows : s.registry.Grows registry) : Intact { s with registry } :=
  ⟨intact.declarations.imp fun room => room.of_grows grows, intact.elementStack, intact.typeStack,
    fun index => (intact.known index).grows grows⟩

/-- The current document of a session may change to one of registered namespaces. -/
theorem Intact.modifyCurrent (intact : Intact s) {f : DocumentEntry → DocumentEntry}
    (keeps : ∀ e : DocumentEntry, e.Known s.registry → (f e).Known s.registry) :
    Intact { s with worklist := s.worklist.modifyCurrent f } :=
  ⟨intact.declarations, intact.elementStack, intact.typeStack, fun index =>
    Worklist.entry_modifyCurrent_of (P := fun e => e.Known s.registry) (intact.known index)
      fun _ => keeps _ (intact.known _)⟩

theorem startSchema_intact (intact : Intact s) (tag : StartTag) :
    (startSchema tag).Ends s (fun _ s' => Intact s') (fun _ s' => Intact s') := by
  have attributes (l : List Markup.Attribute) {m : Session} (intact : Intact m) :
      Intact (l.foldl (fun s a => s.setAttribute a.qualifiedName a.value) m) ∧
        (l.foldl (fun s a => s.setAttribute a.qualifiedName a.value) m).registry = m.registry := by
    induction l generalizing m with
    | nil => exact ⟨intact, rfl⟩
    | cons a rest ih =>
      exact ih ⟨intact.declarations, intact.elementStack, intact.typeStack, intact.known⟩
  have kept {m : Session} (intact : Intact m) {declared : NamespaceId}
      (registered : ∃ uri, m.registry.id? uri = some declared) :
      Intact (keepTopLevel m tag declared) := by
    obtain ⟨attributes, same⟩ := attributes tag.attributes intact
    unfold keepTopLevel
    dsimp only
    split
    · exact attributes
    · exact attributes.modifyCurrent fun e known => known.setTarget (same.symm ▸ registered)
  have registered (uri : String) := intact.register (s.registry.grows_register uri)
  simp only [startSchema, ends_bind, ends_get, ends_set, ends_note, ends_ite, ends_modify,
    ends_throw, ends_pure]
  split
  · exact kept ((registered _).note _) ⟨_, s.registry.id?_register _⟩
  · split <;> exact (registered _).note _

theorem nameDocument_intact (intact : Intact s) (kind : DocumentKind) (location uri : String) :
    (nameDocument kind location uri).Ends s (fun _ s' => Intact s') (fun _ s' => Intact s') := by
  have registered := intact.register (s.registry.grows_register uri)
  have nested := DocumentEntry.known_nested kind s.worklist.current location uri s.registry
  simp only [nameDocument, ends_bind, ends_get, ends_set]
  split
  · refine ⟨registered.declarations, registered.elementStack, registered.typeStack, fun index => ?_⟩
    refine (Worklist.entry_push_eq _ _ index).symm ▸ ?_
    split
    · exact nested
    · exact registered.known index
  · exact registered.note _
  · exact registered

/-! ## Tags -/

theorem keptByActions_intact : KeptByActions Intact where
  aside _ _ _ _ intact :=
    ⟨intact.declarations, intact.elementStack, intact.typeStack, intact.known⟩
  popElement opened intact :=
    ⟨intact.declarations,
      fun other member => intact.elementStack other (opened ▸ List.mem_cons_of_mem _ member),
      intact.typeStack, intact.known⟩
  popType intact :=
    ⟨intact.declarations, intact.elementStack,
      fun id member => intact.typeStack id (List.mem_of_mem_tail member), intact.known⟩
  startElement tag isAttribute intact := startElement_intact intact tag isAttribute
  startType tag kind intact := startType_intact intact tag kind
  startGroup tag kind intact := startGroup_intact intact tag kind
  startDerivation tag isList intact := startDerivation_intact intact tag isList
  startEnumerator tag intact := startEnumerator_intact intact tag
  startSchema tag intact := startSchema_intact intact tag
  nameDocument kind location uri intact := nameDocument_intact intact kind location uri

/-- A reader that delivers a lexeme leaves prefixes that are bound to registered namespaces. -/
theorem Intact.deliver (intact : Intact s) (r : Reader) (lexeme : Lexeme) :
    Intact (s.withScope (r.deliver s.scope lexeme).2.1) := by
  have known := r.known_deliver (s := s.scope) (intact.known _).bindings lexeme
  have grows := r.grows_deliver s.scope lexeme
  refine (intact.register grows).modifyCurrent fun e old => ⟨old.target, known⟩

end Session

end XsdRecords
