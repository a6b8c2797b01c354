import XsdRecords.Compilation
import XsdRecords.Proofs.Declaration.Fresh
import XsdRecords.Proofs.Declaration.Lineage
import XsdRecords.Proofs.Session.Failure
import XsdRecords.Proofs.Session.Kept

/-! # Reading edits declarations

Every step of reading, whether it ends with a problem or not, makes a sequence of edits; so does a
whole compile up to its generation.  Invariants of edits therefore hold of whatever was read. -/

namespace XsdRecords

open XsdRecords.Declaration (Declarations ElementId TypeId TypeDef Symbol)
open XsdRecords.Declaration.Declarations (Edits InRange)
open XsdRecords.Markup (StartTag Node Source)
open XsdRecords.Vocabulary (Builtin Tag)

namespace Declaration.Declarations

/-! ## Sequences of edits -/

theorem Edits.inRange {d d' : Declarations} (edits : Edits d d') (inRange : d.InRange) :
    d'.InRange := by
  induction edits with
  | refl => exact inRange
  | tail _ edit ih => exact ih.edit edit

theorem Edits.listed {d d' : Declarations} (edits : Edits d d') (inRange : d.InRange)
    (listed : d.Listed) : d'.Listed := by
  induction edits with
  | refl => exact listed
  | tail before edit ih => exact ih.edit (Edits.inRange before inRange) edit

theorem Edits.pristine {d d' : Declarations} (edits : Edits d d') (pristine : d.Pristine) :
    d'.Pristine := by
  induction edits with
  | refl => exact pristine
  | tail _ edit ih => exact ih.edit edit

theorem Edits.hasComplexFields {d d' : Declarations} (edits : Edits d d')
    (complex : d.HasComplexFields) : d'.HasComplexFields := by
  induction edits with
  | refl => exact complex
  | tail _ edit ih => exact ih.edit edit

theorem Edits.rooted {d d' : Declarations} (edits : Edits d d') (inRange : d.InRange)
    (rooted : d.Rooted) : d'.Rooted := by
  induction edits with
  | refl => exact rooted
  | tail before edit ih => exact ih.edit (Edits.inRange before inRange) edit

theorem edits_findOrAddType (d : Declarations) (s : Symbol) : Edits d (d.findOrAddType s).1 := by
  unfold findOrAddType
  split
  · exact .refl
  · rename_i new
    exact .single (.addType s new)

theorem edits_findOrAddRoot (d : Declarations) (s : Symbol) : Edits d (d.findOrAddRoot s).1 := by
  unfold findOrAddRoot
  split
  · exact .refl
  · rename_i new
    exact .single (.addRoot s new)

theorem edits_findOrAddRootAttribute (d : Declarations) (s : Symbol) :
    Edits d (d.findOrAddRootAttribute s).1 := by
  unfold findOrAddRootAttribute
  split
  · exact .refl
  · rename_i new
    exact .single (.addRootAttribute s new)

theorem InRange.findOrAddType {d : Declarations} (inRange : d.InRange) (s : Symbol) :
    (d.findOrAddType s).2.1.index < (d.findOrAddType s).1.types.size := by
  unfold Declarations.findOrAddType
  split
  · rename_i found
    exact inRange.types found
  · simp [Declarations.addType]

/-- An element that is no top-level one. -/
def IsField (d : Declarations) (id : ElementId) : Prop :=
  id.index < d.elements.size ∧ ∀ s, d.roots.find? s ≠ some id

theorem InRange.isField_addElement {d : Declarations} (inRange : d.InRange) :
    d.addElement.1.IsField d.addElement.2 := by
  refine ⟨by simp [addElement], fun s found => ?_⟩
  exact Nat.lt_irrefl _ (inRange.roots found)

theorem IsField.findOrAddRoot {d : Declarations} {id : ElementId} (field : d.IsField id)
    (s : Symbol) : (d.findOrAddRoot s).1.IsField id := by
  unfold Declarations.findOrAddRoot
  split
  · exact field
  · refine ⟨Nat.lt_trans field.1 (by simp [addElement]), fun s' found => ?_⟩
    rw [SymbolTable.find?_insert] at found
    split at found
    · obtain rfl := Option.some.inj found
      exact Nat.lt_irrefl _ field.1
    · exact field.2 s' found

theorem IsField.findOrAddRootAttribute {d : Declarations} {id : ElementId} (field : d.IsField id)
    (s : Symbol) : (d.findOrAddRootAttribute s).1.IsField id := by
  unfold Declarations.findOrAddRootAttribute
  split
  · exact field
  · exact ⟨Nat.lt_trans field.1 (by simp [addElement]), field.2⟩

end Declaration.Declarations

namespace Session

open XsdRecords.Action

/-- One state of a session has the declarations of another after some edits. -/
abbrev Edited (s s' : Session) : Prop :=
  Edits s.declarations s'.declarations

/-! ## Elements -/

theorem findType_edits {s : Session} (inRange : s.declarations.InRange) (symbol : Symbol) :
    (findType symbol).Ends s
      (fun id s' => Edited s s' ∧ id.index < s'.declarations.types.size ∧
        (s'.declarations.type id).isVoid = false)
      (fun _ s' => Edited s s') := by
  have edits := Declarations.edits_findOrAddType s.declarations symbol
  have bound := inRange.findOrAddType symbol
  simp only [findType, ends_bind, ends_declare, ends_get, ends_ite, ends_throw, ends_declarations]
  split
  · exact edits
  · split
    · rename_i builtin own
      simp only [ends_ite, ends_bind, ends_throw, ends_pure]
      split
      · exact edits
      · rename_i valued
        refine ⟨edits, bound, ?_⟩
        rw [TypeDef.isVoid, own]
        exact decide_eq_false valued
    · rename_i none
      refine ⟨edits, bound, ?_⟩
      rw [TypeDef.isVoid, Option.any_eq_false]
      exact fun builtin own => absurd own (none builtin)

theorem findRoot_edits (s : Session) (symbol : Symbol) (isAttribute : Bool) :
    (findRoot symbol isAttribute).Ends s
      (fun _ s' => Edited s s' ∧ ∀ field, s.declarations.IsField field →
        s'.declarations.IsField field)
      (fun _ s' => Edited s s') := by
  unfold findRoot
  split
  · exact ⟨Declarations.edits_findOrAddRootAttribute _ _,
      fun _ field => field.findOrAddRootAttribute symbol⟩
  · exact ⟨Declarations.edits_findOrAddRoot _ _, fun _ field => field.findOrAddRoot symbol⟩

theorem openElement_edits {s : Session} (inRange : s.declarations.InRange)
    (isTopLevel isAttribute : Bool) (name : String) :
    (openElement isTopLevel isAttribute name).Ends s
      (fun id s' => Edited s s' ∧ (isTopLevel = false → s'.declarations.IsField id))
      (fun _ s' => Edited s s') := by
  unfold openElement
  cases isTopLevel with
  | true =>
    simp only [if_true, ends_bind, ends_get]
    refine (findRoot_edits s ⟨s.target, name⟩ isAttribute).imp_done ?_
    rintro id s' ⟨edited, -⟩
    simp only [ends_declarations, ends_ite, ends_bind, ends_throw, ends_pushElement, ends_pure]
    split
    · exact edited
    · exact ⟨edited, fun h => by cases h⟩
  | false =>
    simp only [Bool.false_eq_true, if_false, ends_bind, ends_declare, ends_pushElement, ends_pure]
    exact ⟨.single .addElement, fun _ => inRange.isField_addElement⟩

theorem referTo_edits {s : Session} (id : ElementId) (symbol : Symbol)
    (isTopLevel isAttribute : Bool) (field : isTopLevel = false → s.declarations.IsField id) :
    (referTo id symbol isTopLevel isAttribute).Ends s (fun _ s' => Edited s s')
      (fun _ s' => Edited s s') := by
  unfold referTo
  cases isTopLevel with
  | true =>
    simp only [if_true, ends_bind, ends_throw]
    exact .refl
  | false =>
    simp only [Bool.false_eq_true, if_false, ends_bind]
    refine (findRoot_edits s symbol isAttribute).imp_done ?_
    rintro target s' ⟨edited, fields⟩
    simp only [ends_declarations, ends_get, ends_ite, ends_bind, ends_throw, ends_modifyElement,
      ends_pure]
    split
    · exact edited
    · exact edited.tail (.refer id target (fields id (field rfl)).2)

theorem resolveElement_edits {s : Session} (inRange : s.declarations.InRange) (id : ElementId)
    (tag : StartTag) (name : String) (isTopLevel isAttribute : Bool)
    (field : isTopLevel = false → s.declarations.IsField id) :
    (resolveElement id tag name isTopLevel isAttribute).Ends s (fun _ s' => Edited s s')
      (fun _ s' => Edited s s') := by
  simp only [resolveElement, ends_bind, ends_get]
  split
  · exact referTo_edits id _ isTopLevel isAttribute field
  · split
    · simp only [ends_bind]
      refine (findType_edits inRange _).imp_done ?_
      rintro type s' ⟨edited, bound, valued⟩
      simp only [ends_modifyElement, ends_pure]
      exact edited.tail (.typed id type _ bound (fun _ => rfl) (fun _ => rfl) valued)
    · exact .refl

theorem addToType_edits (s : Session) (id : ElementId) (name : String) (isAttribute : Bool) :
    (addToType id name isAttribute).Ends s (fun _ s' => Edited s s') (fun _ s' => Edited s s') := by
  simp only [addToType, ends_bind, ends_get]
  split
  · exact .refl
  · simp only [ends_ite, ends_bind, ends_throw, ends_setDeclarations]
    split
    · exact .refl
    · exact .single (.addField _ name id)

theorem startElement_edits {s : Session} (inRange : s.declarations.InRange) (tag : StartTag)
    (isAttribute : Bool) :
    (startElement tag isAttribute).Ends s (fun _ s' => Edited s s') (fun _ s' => Edited s s') := by
  simp only [startElement, ends_bind, ends_get]
  refine (openElement_edits inRange s.typeStack.isEmpty isAttribute _).imp_done ?_
  rintro id opened ⟨first, field⟩
  rw [ends_note]
  refine (resolveElement_edits (s := opened.note _) (Declarations.Edits.inRange first inRange) id
    tag _ s.typeStack.isEmpty isAttribute field).imp (fun name resolved second => ?_)
    fun _ _ second => first.trans second
  have both : Edited s resolved := first.trans second
  simp only [ends_ite, ends_bind, ends_throw]
  split
  · exact both
  · rw [ends_ofExcept]
    split
    · rename_i form _
      have third := both.tail (.form id form.apply (fun _ => rfl) (fun _ => rfl)
        form.isUntagged_apply)
      simp only [ends_modifyElement]
      split
      · exact third
      · split
        · exact (addToType_edits _ id name isAttribute).imp (fun _ _ last => third.trans last)
            fun _ _ last => third.trans last
        · exact third
    · exact both

/-! ## Types, groups and derivations -/

theorem openType_edits {s : Session} (inRange : s.declarations.InRange) (name : String) :
    (openType name).Ends s (fun _ s' => Edited s s') (fun _ s' => Edited s s') := by
  simp only [openType, ends_bind, ends_get]
  split
  · simp only [ends_ite, ends_bind, ends_throw]
    split
    · exact .refl
    · refine (findType_edits inRange _).imp_done ?_
      rintro id s' ⟨edited, -⟩
      simp only [ends_declarations, ends_pure]
      split <;> exact edited
  · simp only [ends_ite, ends_bind, ends_throw, ends_declare]
    split
    · exact .refl
    · have first : Edits s.declarations s.declarations.anonymousSymbol.1 := .single .mint
      refine (findType_edits (s := { s with declarations := s.declarations.anonymousSymbol.1 })
        (Declarations.Edits.inRange first inRange) _).imp ?_ fun _ _ edited => first.trans edited
      rintro id s' ⟨edited, bound, valued⟩
      simp only [ends_modifyElement, ends_pure]
      exact (first.trans edited).tail (.typed _ id _ bound (fun _ => rfl) (fun _ => rfl) valued)

theorem startType_edits {s : Session} (inRange : s.declarations.InRange) (tag : StartTag)
    (kind : Tag) :
    (startType tag kind).Ends s (fun _ s' => Edited s s') (fun _ s' => Edited s s') := by
  simp only [startType, ends_bind, ends_get]
  refine (openType_edits inRange _).imp_done fun id s' edited => ?_
  simp only [ends_note, ends_ite, ends_bind, ends_modifyType, ends_pushType]
  split
  · exact edited.tail (.complex id)
  · split
    · exact edited.tail (.preserve id)
    · exact edited

theorem openUntagged_edits {s : Session} (inRange : s.declarations.InRange) (parent : TypeId) :
    (openUntagged parent).Ends s (fun _ s' => Edited s s') (fun _ s' => Edited s s') := by
  simp only [openUntagged, ends_bind, ends_declare, ends_modifyType, ends_pushType,
    ends_modifyElement, ends_declarations, ends_setDeclarations, ends_pushElement, ends_pure]
  have minted : Edits s.declarations s.declarations.anonymousSymbol.1 := .single .mint
  have bound := (Declarations.Edits.inRange minted inRange).findOrAddType
    s.declarations.anonymousSymbol.2
  have typed := minted.trans (Declarations.edits_findOrAddType _ s.declarations.anonymousSymbol.2)
  have complex := typed.tail (.complex (s.declarations.anonymousSymbol.1.findOrAddType
    s.declarations.anonymousSymbol.2).2.1)
  have added := complex.tail .addElement
  refine Relation.ReflTransGen.tail ?_ (.addField parent untaggedName _)
  refine Relation.ReflTransGen.tail added (.typed _ (s.declarations.anonymousSymbol.1.findOrAddType
    s.declarations.anonymousSymbol.2).2.1 _ ?_ ?_ ?_ ?_)
  · exact Nat.lt_of_lt_of_le bound (Nat.le_of_eq Array.size_modify.symm)
  · exact fun _ => rfl
  · exact fun _ => rfl
  · exact congrArg TypeDef.isVoid (Declarations.type_modifyType bound _)

theorem openGroup_edits {s : Session} (inRange : s.declarations.InRange) (kind : Tag)
    (minOccurs maxOccurs : Int) :
    (openGroup kind minOccurs maxOccurs).Ends s (fun _ s' => Edited s s')
      (fun _ s' => Edited s s') := by
  simp only [openGroup, ends_bind, ends_get]
  split
  · simp only [ends_ite, ends_bind, ends_throw, ends_pure]
    split
    · exact .refl
    · split
      · exact openUntagged_edits inRange _
      · exact .refl
  · simp only [ends_bind, ends_pure]
    exact openUntagged_edits inRange _
  · simp only [ends_bind, ends_pure]
    exact openUntagged_edits inRange _
  · exact .refl

theorem startGroup_edits {s : Session} (inRange : s.declarations.InRange) (tag : StartTag)
    (kind : Tag) :
    (startGroup tag kind).Ends s (fun _ s' => Edited s s') (fun _ s' => Edited s s') := by
  simp only [startGroup, ends_ite, ends_bind, ends_throw, ends_ofExcept]
  split
  · exact .refl
  · split
    · split
      · refine (openGroup_edits inRange kind _ _).imp_done fun opened s' edited => ?_
        simp only [ends_note, ends_modifyType]
        have chosen := edited.tail (.choose opened.1 (decide (kind = .choice)))
        split
        · rw [ends_modifyElement]
          exact chosen.tail (.form _ _ (fun _ => rfl) (fun _ => rfl) fun _ => rfl)
        · exact chosen
      · exact .refl
    · exact .refl

theorem startDerivation_edits {s : Session} (inRange : s.declarations.InRange) (tag : StartTag)
    (isList : Bool) :
    (startDerivation tag isList).Ends s (fun _ s' => Edited s s') (fun _ s' => Edited s s') := by
  simp only [startDerivation, ends_bind, ends_get]
  split
  · exact .refl
  · split
    · simp only [ends_bind]
      refine (findType_edits inRange _).imp_done ?_
      rintro base s' ⟨edited, bound, valued⟩
      simp only [ends_declarations, ends_ite, ends_bind, ends_throw, ends_note, ends_modifyType]
      split
      · exact edited
      · rename_i acyclic
        exact edited.tail (.derive _ base isList bound (Bool.eq_false_iff.2 acyclic) valued)
    · exact .refl

theorem startEnumerator_edits (s : Session) (tag : StartTag) :
    (startEnumerator tag).Ends s (fun _ s' => Edited s s') (fun _ s' => Edited s s') := by
  simp only [startEnumerator, ends_bind, ends_get]
  split
  · exact .refl
  · simp only [ends_ite, ends_bind, ends_ofExcept]
    split
    · split
      · simp only [ends_note, ends_modifyType]
        exact .single (.enumerate _ _ _)
      · exact .refl
    · exact .refl

/-! ## Documents -/

theorem startSchema_edits (s : Session) (tag : StartTag) :
    (startSchema tag).Ends s (fun _ s' => Edited s s') (fun _ s' => Edited s s') := by
  simp only [startSchema, ends_bind, ends_get, ends_set, ends_note, ends_ite, ends_modify,
    ends_throw, ends_pure]
  have kept (s : Session) (declared : NamespaceId) :
      (keepTopLevel s tag declared).declarations = s.declarations := by
    have attributes (l : List Markup.Attribute) (s : Session) :
        (l.foldl (fun s a => s.setAttribute a.qualifiedName a.value) s).declarations =
          s.declarations := by
      induction l generalizing s with
      | nil => rfl
      | cons a rest ih => exact ih _
    unfold keepTopLevel
    dsimp only
    split
    · exact attributes _ _
    · exact attributes _ _
  split
  · rw [Edited, kept]
    exact .refl
  · split <;> exact .refl

theorem nameDocument_edits (s : Session) (kind : DocumentKind) (location uri : String) :
    (nameDocument kind location uri).Ends s (fun _ s' => Edited s s')
      (fun _ s' => Edited s s') := by
  simp only [nameDocument, ends_bind, ends_get, ends_set]
  split <;> exact .refl

/-! ## Tags -/

theorem keptByActions_edited {s : Session} (inRange : s.declarations.InRange) :
    KeptByActions (Edited s) :=
  have after {m : Session} {action : Action Unit} (edited : Edited s m)
      (ends : m.declarations.InRange →
        action.Ends m (fun _ s' => Edited m s') fun _ s' => Edited m s') :
      action.Ends m (fun _ s' => Edited s s') fun _ s' => Edited s s' :=
    (ends (Declarations.Edits.inRange edited inRange)).imp (fun _ _ more => edited.trans more)
      fun _ _ more => edited.trans more
  { aside := fun _ _ _ _ edited => edited
    popElement := fun _ edited => edited
    popType := fun edited => edited
    startElement := fun tag isAttribute edited =>
      after edited fun inRange => startElement_edits inRange tag isAttribute
    startType := fun tag kind edited => after edited fun inRange => startType_edits inRange tag kind
    startGroup := fun tag kind edited =>
      after edited fun inRange => startGroup_edits inRange tag kind
    startDerivation := fun tag isList edited =>
      after edited fun inRange => startDerivation_edits inRange tag isList
    startEnumerator := fun tag edited => after edited fun _ => startEnumerator_edits _ tag
    startSchema := fun tag edited => after edited fun _ => startSchema_edits _ tag
    nameDocument := fun kind location uri edited =>
      after edited fun _ => nameDocument_edits _ kind location uri }

theorem readStart_edits {s : Session} (inRange : s.declarations.InRange) (tag : StartTag)
    (position : Position) : Edited s (readStart s tag position) :=
  (keptByActions_edited inRange).readStart .refl tag position

/-- An end tag changes no declarations. -/
theorem declarations_readStop (s : Session) (position : Position) :
    (readStop s position).declarations = s.declarations :=
  have kept : KeptByStops fun s' => s'.declarations = s.declarations :=
    ⟨fun _ _ _ _ same => same, fun _ same => same, fun same => same⟩
  kept.readStop rfl position

theorem readStop_edits (s : Session) (position : Position) : Edited s (readStop s position) := by
  rw [Edited, declarations_readStop]

/-! ## Whole documents and compiles -/

theorem keptByReading_edited {s : Session} (inRange : s.declarations.InRange) :
    KeptByReading (Edited s) :=
  (keptByActions_edited inRange).keptByReading fun _ _ edited => edited

theorem readNode_edits {s : Session} (inRange : s.declarations.InRange) (node : Node)
    (position : Position) : Edited s (readNode s node position) :=
  (keptByReading_edited inRange).readNode .refl node position

theorem readDocument_edits {s : Session} (inRange : s.declarations.InRange) (source : Source) :
    Edited s (s.readDocument source) :=
  (keptByReading_edited inRange).readDocument .refl source

end Session

namespace Declaration.Declarations

/-! ## The declarations of a compile -/

/-- What the built-in types are added to one by one. -/
theorem initial_induction {P : Declarations → Prop} (empty : P {})
    (add : ∀ d, ∀ b ∈ Builtin.all, P d → P (d.addType
      { symbol := ⟨.xmlSchema, b.name⟩, builtin := some b, maxValue := b.maxValue }).1) :
    P initial := by
  have added (l : List Builtin) (d : Declarations) (known : ∀ b ∈ l, b ∈ Builtin.all) (own : P d) :
      P (l.foldl (fun d b => (d.addType
        { symbol := ⟨.xmlSchema, b.name⟩, builtin := some b, maxValue := b.maxValue }).1) d) := by
    induction l generalizing d with
    | nil => exact own
    | cons b rest ih =>
      exact ih _ (fun b' member => known b' (List.mem_cons_of_mem _ member))
        (add d b (known b List.mem_cons_self) own)
  exact added Builtin.all {} (fun _ member => member) empty

/-- What holds where there is no type, and of every built-in one, holds of every type at first. -/
theorem forall_type_initial {P : TypeDef → Prop} (blank : P { symbol := ⟨.none, ""⟩ })
    (builtin : ∀ b ∈ Builtin.all,
      P { symbol := ⟨.xmlSchema, b.name⟩, builtin := some b, maxValue := b.maxValue })
    (id : TypeId) : P (initial.type id) := by
  refine initial_induction (P := fun d => ∀ id, P (d.type id)) (fun id => ?_)
    (fun d b known ih id => ?_) id
  · simpa [type] using blank
  · rw [type_addType]
    split
    · exact builtin b known
    · exact ih id

theorem pristine_initial : initial.Pristine where
  record := forall_type_initial (P := fun t => t.record = none) rfl fun _ _ => rfl
  enumeration := forall_type_initial (P := fun t => t.enumeration = none) rfl fun _ _ => rfl
  override := forall_type_initial (P := fun t => t.overrideSymbol = none) rfl fun _ _ => rfl
  builtin {id b} := by
    refine forall_type_initial (P := fun t => t.builtin = some b → b ∈ Builtin.all ∨ _)
      (fun none => ?_) (fun b' known own => ?_) id
    · cases none
    · obtain rfl := Option.some.inj own
      exact .inl known

theorem inRange_empty : InRange {} := by
  refine ⟨fun h => ?_, fun h => ?_, fun h => ?_, fun h => ?_, fun h => ?_⟩
  · cases h
  · cases h
  · cases h
  · simp [type] at h
  · simp [element] at h

theorem inRange_initial : initial.InRange :=
  initial_induction inRange_empty fun _ _ _ inRange => inRange.addType fun _ h => by cases h

theorem listed_initial : initial.Listed := by
  refine (initial_induction (P := fun d => d.InRange ∧ d.Listed)
    ⟨inRange_empty, fun h => ?_, fun _ => ?_, fun h => ?_⟩
    fun d b _ ⟨inRange, listed⟩ => ⟨inRange.addType (fun _ h => by cases h), listed.addType inRange rfl⟩).2
  · cases h
  · simp [type]
  · revert h
    simp [element]
    decide

theorem hasComplexFields_initial : initial.HasComplexFields :=
  forall_type_initial (P := fun t => t.fields ≠ [] → t.builtin = some Builtin.complexType)
    (fun fields => absurd rfl fields) fun _ _ fields => absurd rfl fields

theorem base_initial (id : TypeId) : (initial.type id).base = none :=
  forall_type_initial (P := fun t => t.base = none) rfl (fun _ _ => rfl) id

theorem wellBased_initial : initial.WellBased := by
  refine ⟨inRange_initial, fun id steps cycle => ?_, by decide⟩
  rw [ancestor_succ, base_initial] at cycle
  cases cycle

theorem element_initial (id : ElementId) : initial.element id = {} :=
  initial_induction (P := fun d => d.element id = {}) (by simp [element]) fun _ _ _ h => h

theorem rooted_initial : initial.Rooted := by
  have none (s : Symbol) : initial.roots.find? s = none :=
    initial_induction (P := fun d => d.roots.find? s = none) rfl fun _ _ _ h => h
  constructor
  · intro s id found
    rw [none] at found
    cases found
  · intro s s' id found
    rw [none] at found
    cases found

end Declaration.Declarations

namespace Compilation

theorem declarations_request? {c next : Compilation} {request : Request}
    (h : c.request? = some (next, request)) :
    next.session.declarations = c.session.declarations := by
  unfold request? at h
  split at h
  · cases h
  · simp only [Session.advance?, Option.map_map, Option.map_eq_some_iff, Function.comp_apply,
      Prod.mk.injEq] at h
    obtain ⟨worklist, -, rfl, -⟩ := h
    rfl

theorem run_edits (resolve : Resolver) (limit : Nat) {c : Compilation}
    (inRange : c.session.declarations.InRange) :
    Edits c.session.declarations (run resolve limit c).session.declarations := by
  induction limit generalizing c with
  | zero => exact .refl
  | succ limit ih =>
    unfold run
    split
    · exact .refl
    · rename_i next request wanted
      have same : next.session.declarations = c.session.declarations :=
        declarations_request? wanted
      have step : Edits c.session.declarations
          (next.supply (resolve request)).session.declarations := by
        rw [← same]
        unfold supply
        split
        · exact Session.readDocument_edits (by rw [same]; exact inRange) _
        · exact .refl
      exact step.trans (ih (Declarations.Edits.inRange step inRange))

/-- Whatever a compile reads, it edits the declarations that every compile starts with. -/
theorem edits_run_start (resolve : Resolver) (limit : Nat) (allowUnsupported : Bool)
    (source : Source) (location : String) :
    Edits Declarations.initial
      (run resolve limit (start allowUnsupported source location)).session.declarations := by
  have first : Edits Declarations.initial
      (start allowUnsupported source location).session.declarations :=
    Session.readDocument_edits (s := Session.start location allowUnsupported)
      Declarations.inRange_initial source
  exact first.trans (run_edits resolve limit
    (Declarations.Edits.inRange first Declarations.inRange_initial))

/-- What generation relies on of the declarations that a compile has read. -/
structure AsRead (d : Declarations) : Prop where
  pristine : d.Pristine
  inRange : d.InRange
  rooted : d.Rooted
  hasComplexFields : d.HasComplexFields

/-- The declarations that every compile starts with are so, and each edit keeps them so. -/
theorem asRead_run (resolve : Resolver) (limit : Nat) (allowUnsupported : Bool) (source : Source)
    (location : String) :
    AsRead (run resolve limit (start allowUnsupported source location)).session.declarations := by
  have edits := edits_run_start resolve limit allowUnsupported source location
  constructor
  · exact Declarations.Edits.pristine edits Declarations.pristine_initial
  · exact Declarations.Edits.inRange edits Declarations.inRange_initial
  · exact Declarations.Edits.rooted edits Declarations.inRange_initial Declarations.rooted_initial
  · exact Declarations.Edits.hasComplexFields edits Declarations.hasComplexFields_initial

end Compilation

end XsdRecords
