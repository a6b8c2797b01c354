import XsdRecords.Proofs.Declaration.Builtins
import XsdRecords.Proofs.Session.Edits

/-! # Reading leaves the built-in types alone

What reading changes of a type, it changes of one that is open, or of one that it has found and is
about to open.  A type that is opened is not defined yet, or has a made-up name, and is therefore
none of the built-in ones: `Shielded`.  This holds after failures too, and for documents whose
target namespace is that of the built-in types. -/

namespace XsdRecords

open XsdRecords.Declaration (Declarations ElementId TypeId TypeDef Symbol)
open XsdRecords.Markup (StartTag)
open XsdRecords.Vocabulary (Builtin Tag)

theorem Declaration.Declarations.withBuiltins_initial : Declarations.initial.WithBuiltins := by
  have entries : ∀ n : Fin Builtin.all.length,
      initial.type ⟨n⟩ = .ofBuiltin Builtin.all[n] ∧
        initial.typeTable.find? ⟨.xmlSchema, Builtin.all[n].name⟩ = some ⟨n⟩ := by
    decide +kernel
  have entry {n : Nat} {b : Builtin} (own : Builtin.all[n]? = some b) :
      initial.type ⟨n⟩ = .ofBuiltin b ∧
        initial.typeTable.find? ⟨.xmlSchema, b.name⟩ = some ⟨n⟩ := by
    obtain ⟨bound, rfl⟩ := List.getElem?_eq_some_iff.1 own
    exact entries ⟨n, bound⟩
  -- All names that can be found at first are built in: the induction is on the types added so far.
  have named : ∀ s id, initial.typeTable.find? s = some id → s.namespaceId = .xmlSchema := by
    refine initial_induction
      (P := fun d => ∀ s id, d.typeTable.find? s = some id → s.namespaceId = .xmlSchema)
      (fun s id found => ?_) fun d b _ ih s id found => ?_
    · cases found
    · change (d.typeTable.insert _ _).find? _ = _ at found
      rw [Declaration.SymbolTable.find?_insert] at found
      split at found
      · rename_i same
        rw [same]
      · exact ih s id found
  exact ⟨fun own => (entry own).1, fun own => (entry own).2,
    fun found other => absurd (named _ _ found) other, by decide +kernel⟩

namespace Session

open XsdRecords.Action

/-- A session with the built-in types, none of which is open. -/
structure Shielded (s : Session) : Prop where
  builtins : s.declarations.WithBuiltins
  own : ∀ type ∈ s.typeStack, type.IsOwn

variable {s : Session}

theorem shielded_start (location : String) (allowUnsupported : Bool) :
    (Session.start location allowUnsupported).Shielded :=
  ⟨Declarations.withBuiltins_initial, fun type member => by cases member⟩

theorem Shielded.note (shielded : Shielded s) (e : Event) : Shielded (s.note e) :=
  ⟨shielded.builtins, shielded.own⟩

theorem Shielded.report (shielded : Shielded s) (p : Problem) : Shielded (s.report p) :=
  ⟨shielded.builtins, shielded.own⟩

/-- A session may get other declarations with the built-in types. -/
theorem Shielded.declare (shielded : Shielded s) {d : Declarations} (builtins : d.WithBuiltins) :
    Shielded { s with declarations := d } :=
  ⟨builtins, shielded.own⟩

theorem Shielded.modifyElement (shielded : Shielded s) (id : ElementId)
    (f : Declaration.Element → Declaration.Element) :
    Shielded { s with declarations := s.declarations.modifyElement id f } :=
  shielded.declare (shielded.builtins.modifyElement id f)

theorem Shielded.modifyType (shielded : Shielded s) {id : TypeId} (isOwn : id.IsOwn)
    (f : TypeDef → TypeDef) :
    Shielded { s with declarations := s.declarations.modifyType id f } :=
  shielded.declare (shielded.builtins.modifyType isOwn f)

theorem Shielded.pushType (shielded : Shielded s) {id : TypeId} (isOwn : id.IsOwn) :
    Shielded { s with typeStack := id :: s.typeStack } :=
  ⟨shielded.builtins, List.forall_mem_cons.2 ⟨isOwn, shielded.own⟩⟩

theorem Shielded.head (shielded : Shielded s) {type : TypeId} {rest : List TypeId}
    (opened : s.typeStack = type :: rest) : type.IsOwn :=
  shielded.own type (by rw [opened]; exact List.mem_cons_self)

/-! ## Element and attribute tags -/

theorem findType_shielded (shielded : Shielded s) (symbol : Symbol) :
    (findType symbol).Ends s
      (fun id s' => Shielded s' ∧ (symbol.namespaceId ≠ .xmlSchema → id.IsOwn))
      (fun _ s' => Shielded s') := by
  have found := shielded.declare (shielded.builtins.findOrAddType symbol)
  have isOwn := shielded.builtins.isOwn_findOrAddType (s := symbol)
  simp only [findType, ends_bind, ends_declare, ends_get, ends_ite, ends_throw, ends_declarations]
  split
  · exact found
  · split
    · simp only [ends_ite, ends_bind, ends_throw, ends_pure]
      split
      · exact found
      · exact ⟨found, isOwn⟩
    · exact ⟨found, isOwn⟩

theorem findRoot_shielded (shielded : Shielded s) (symbol : Symbol) (isAttribute : Bool) :
    (findRoot symbol isAttribute).Ends s (fun _ s' => Shielded s') (fun _ s' => Shielded s') := by
  unfold findRoot
  split
  · exact shielded.declare (shielded.builtins.findOrAddRootAttribute symbol)
  · exact shielded.declare (shielded.builtins.findOrAddRoot symbol)

theorem openElement_shielded (shielded : Shielded s) (isTopLevel isAttribute : Bool)
    (name : String) :
    (openElement isTopLevel isAttribute name).Ends s (fun _ s' => Shielded s')
      (fun _ s' => Shielded s') := by
  unfold openElement
  split
  · simp only [ends_bind, ends_get]
    refine (findRoot_shielded shielded _ isAttribute).imp_done fun id m found => ?_
    simp only [ends_declarations, ends_ite, ends_bind, ends_throw, ends_pushElement, ends_pure]
    split
    · exact found
    · exact ⟨found.builtins, found.own⟩
  · simp only [ends_bind, ends_declare, ends_pushElement, ends_pure]
    exact ⟨shielded.builtins.addElement, shielded.own⟩

theorem resolveElement_shielded (shielded : Shielded s) (id : ElementId) (tag : StartTag)
    (name : String) (isTopLevel isAttribute : Bool) :
    (resolveElement id tag name isTopLevel isAttribute).Ends s (fun _ s' => Shielded s')
      (fun _ s' => Shielded s') := by
  simp only [resolveElement, ends_bind, ends_get]
  split
  · simp only [referTo, ends_bind, ends_ite, ends_throw]
    split
    · exact shielded
    · refine (findRoot_shielded shielded _ isAttribute).imp_done fun target m found => ?_
      simp only [ends_declarations, ends_get, ends_modifyElement, ends_pure]
      split
      · exact found
      · exact found.modifyElement id _
  · split
    · simp only [ends_bind]
      refine (findType_shielded shielded _).imp_done fun type m found => ?_
      simp only [ends_modifyElement, ends_pure]
      exact found.1.modifyElement id _
    · exact shielded

theorem addToType_shielded (shielded : Shielded s) (id : ElementId) (name : String)
    (isAttribute : Bool) :
    (addToType id name isAttribute).Ends s (fun _ s' => Shielded s') (fun _ s' => Shielded s') := by
  simp only [addToType, ends_bind, ends_get]
  split
  · exact shielded
  · rename_i opened
    simp only [ends_ite, ends_bind, ends_throw, ends_setDeclarations]
    split
    · exact shielded
    · exact shielded.modifyType (shielded.head opened) _

theorem startElement_shielded (shielded : Shielded s) (tag : StartTag) (isAttribute : Bool) :
    (startElement tag isAttribute).Ends s (fun _ s' => Shielded s') (fun _ s' => Shielded s') := by
  simp only [startElement, ends_bind, ends_get]
  refine (openElement_shielded shielded _ isAttribute _).imp_done fun id opened h => ?_
  rw [ends_note]
  refine (resolveElement_shielded (h.note _) id tag _ _ isAttribute).imp_done
    fun name resolved h => ?_
  simp only [ends_ite, ends_bind, ends_throw]
  split
  · exact h
  · rw [ends_ofExcept]
    split
    · rename_i form _
      have formed := h.modifyElement id form.apply
      simp only [ends_modifyElement]
      split
      · exact formed
      · split
        · exact addToType_shielded formed id name isAttribute
        · exact formed
    · exact h

/-! ## Types, groups and derivations -/

/-- A type that is opened is none of the built-in ones, even if its name is one of theirs. -/
theorem openType_shielded (shielded : Shielded s) (name : String) :
    (openType name).Ends s (fun id s' => Shielded s' ∧ id.IsOwn) (fun _ s' => Shielded s') := by
  simp only [openType, ends_bind, ends_get]
  split
  · simp only [ends_ite, ends_bind, ends_throw]
    split
    · exact shielded
    · refine (findType_shielded shielded _).imp_done fun id m found => ?_
      simp only [ends_declarations, ends_pure]
      split
      · exact found.1
      · rename_i undefined
        exact ⟨found.1, found.1.builtins.isOwn_of_isDefined undefined⟩
  · simp only [ends_ite, ends_bind, ends_throw, ends_declare]
    split
    · exact shielded
    · refine (findType_shielded (shielded.declare shielded.builtins.anonymousSymbol) _).imp_done
        fun id m found => ?_
      simp only [ends_modifyElement, ends_pure]
      exact ⟨found.1.modifyElement _ _, found.2 (Declarations.namespaceId_anonymousSymbol _)⟩

theorem startType_shielded (shielded : Shielded s) (tag : StartTag) (kind : Tag) :
    (startType tag kind).Ends s (fun _ s' => Shielded s') (fun _ s' => Shielded s') := by
  simp only [startType, ends_bind, ends_get]
  refine (openType_shielded shielded _).imp_done fun id m opened => ?_
  obtain ⟨opened, isOwn⟩ := opened
  have noted (e : Event) := opened.note e
  simp only [ends_note, ends_ite, ends_bind, ends_modifyType, ends_pushType]
  split
  · exact ((noted _).modifyType isOwn _).pushType isOwn
  · split
    · exact ((noted _).modifyType isOwn _).pushType isOwn
    · exact (noted _).pushType isOwn

theorem openUntagged_shielded (shielded : Shielded s) {parent : TypeId} (isOwn : parent.IsOwn) :
    (openUntagged parent).Ends s (fun opened s' => Shielded s' ∧ opened.1.IsOwn)
      (fun _ s' => Shielded s') := by
  simp only [openUntagged, ends_bind, ends_declare, ends_modifyType, ends_pushType,
    ends_modifyElement, ends_declarations, ends_setDeclarations, ends_pushElement, ends_pure]
  have minted := shielded.builtins.anonymousSymbol
  have new := minted.isOwn_findOrAddType (Declarations.namespaceId_anonymousSymbol s.declarations)
  have complex := (minted.findOrAddType s.declarations.anonymousSymbol.2).modifyType new fun t =>
    { t with builtin := some Builtin.complexType }
  exact ⟨⟨(complex.addElement.modifyElement _ _).addField isOwn _ _,
    List.forall_mem_cons.2 ⟨new, shielded.own⟩⟩, new⟩

theorem openGroup_shielded (shielded : Shielded s) (kind : Tag) (minOccurs maxOccurs : Int) :
    (openGroup kind minOccurs maxOccurs).Ends s (fun opened s' => Shielded s' ∧ opened.1.IsOwn)
      (fun _ s' => Shielded s') := by
  have own {type : TypeId} (opened : s.typeStack.head? = some type) : type.IsOwn :=
    shielded.own type (List.mem_of_mem_head? opened)
  simp only [openGroup, ends_bind, ends_get]
  split
  · rename_i opened _
    simp only [ends_ite, ends_bind, ends_throw, ends_pure]
    split
    · exact shielded
    · split
      · exact openUntagged_shielded shielded (own opened)
      · exact ⟨shielded, own opened⟩
  · rename_i opened _
    simp only [ends_bind, ends_pure]
    exact openUntagged_shielded shielded (own opened)
  · rename_i opened _
    simp only [ends_bind, ends_pure]
    exact openUntagged_shielded shielded (own opened)
  · exact shielded

theorem startGroup_shielded (shielded : Shielded s) (tag : StartTag) (kind : Tag) :
    (startGroup tag kind).Ends s (fun _ s' => Shielded s') (fun _ s' => Shielded s') := by
  simp only [startGroup, ends_ite, ends_bind, ends_throw, ends_ofExcept]
  split
  · exact shielded
  · split
    · split
      · refine (openGroup_shielded shielded kind _ _).imp_done fun opened m h => ?_
        obtain ⟨h, isOwn⟩ := h
        simp only [ends_note, ends_modifyType]
        split
        · rw [ends_modifyElement]
          exact ((h.note _).modifyType isOwn _).modifyElement _ _
        · exact (h.note _).modifyType isOwn _
      · exact shielded
    · exact shielded

theorem startDerivation_shielded (shielded : Shielded s) (tag : StartTag) (isList : Bool) :
    (startDerivation tag isList).Ends s (fun _ s' => Shielded s') (fun _ s' => Shielded s') := by
  simp only [startDerivation, ends_bind, ends_get]
  split
  · exact shielded
  · rename_i opened
    split
    · simp only [ends_bind]
      refine (findType_shielded shielded _).imp_done fun base m found => ?_
      simp only [ends_declarations, ends_ite, ends_bind, ends_throw, ends_note, ends_modifyType]
      split
      · exact found.1
      · exact (found.1.note _).modifyType (shielded.head opened) _
    · exact shielded

theorem startEnumerator_shielded (shielded : Shielded s) (tag : StartTag) :
    (startEnumerator tag).Ends s (fun _ s' => Shielded s') (fun _ s' => Shielded s') := by
  simp only [startEnumerator, ends_bind, ends_get]
  split
  · exact shielded
  · rename_i opened
    simp only [ends_ite, ends_bind, ends_ofExcept]
    split
    · split
      · exact (shielded.note _).modifyType (shielded.head opened) _
      · exact shielded
    · exact shielded

/-! ## Documents -/

theorem startSchema_shielded (shielded : Shielded s) (tag : StartTag) :
    (startSchema tag).Ends s (fun _ s' => Shielded s') (fun _ s' => Shielded s') := by
  have attributes (l : List Markup.Attribute) {m : Session} (shielded : Shielded m) :
      Shielded (l.foldl (fun s a => s.setAttribute a.qualifiedName a.value) m) := by
    induction l generalizing m with
    | nil => exact shielded
    | cons a rest ih => exact ih ⟨shielded.builtins, shielded.own⟩
  have kept {m : Session} (shielded : Shielded m) (declared : NamespaceId) :
      Shielded (keepTopLevel m tag declared) := by
    have attributes := attributes tag.attributes shielded
    unfold keepTopLevel
    dsimp only
    split
    · exact attributes
    · exact ⟨attributes.builtins, attributes.own⟩
  have registered (registry : Registry) : Shielded { s with registry } :=
    ⟨shielded.builtins, shielded.own⟩
  simp only [startSchema, ends_bind, ends_get, ends_set, ends_note, ends_ite, ends_modify,
    ends_throw, ends_pure]
  split
  · exact kept ((registered _).note _) _
  · split <;> exact (registered _).note _

theorem nameDocument_shielded (shielded : Shielded s) (kind : DocumentKind)
    (location uri : String) :
    (nameDocument kind location uri).Ends s (fun _ s' => Shielded s') (fun _ s' => Shielded s') := by
  simp only [nameDocument, ends_bind, ends_get, ends_set]
  split <;> exact ⟨shielded.builtins, shielded.own⟩

/-! ## Tags -/

theorem keptByActions_shielded : KeptByActions Shielded where
  aside _ _ _ _ shielded := ⟨shielded.builtins, shielded.own⟩
  popElement _ shielded := ⟨shielded.builtins, shielded.own⟩
  popType shielded :=
    ⟨shielded.builtins, fun type member => shielded.own type (List.mem_of_mem_tail member)⟩
  startElement tag isAttribute shielded := startElement_shielded shielded tag isAttribute
  startType tag kind shielded := startType_shielded shielded tag kind
  startGroup tag kind shielded := startGroup_shielded shielded tag kind
  startDerivation tag isList shielded := startDerivation_shielded shielded tag isList
  startEnumerator tag shielded := startEnumerator_shielded shielded tag
  startSchema tag shielded := startSchema_shielded shielded tag
  nameDocument kind location uri shielded := nameDocument_shielded shielded kind location uri

end Session

end XsdRecords
