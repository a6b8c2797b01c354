import XsdRecords.Proofs.Declaration.Reference
import XsdRecords.Proofs.Session.Edits
import XsdRecords.Proofs.Session.Forest

/-! # The names that tags define and refer to

A tag may define a name, as a top-level element, attribute or type does, and it may refer to one.
`Declares` says what a tag that declares something leaves as it is and which names it may add, and
`Refuses` which problems it may have: that a name is unknown is reported only where nothing of that
name is known. -/

namespace XsdRecords.Session

open XsdRecords.Declaration (Declarations ElementId TypeId Element Symbol Reference)
open XsdRecords.Declaration.Declarations (Adds)
open XsdRecords.Markup (StartTag)
open XsdRecords.Vocabulary (Tag)
open XsdRecords.Action

/-! ## What tags define and refer to -/

/-- The name that an element or attribute tag refers to. -/
def elementReference? (s : Session) (tag : StartTag) (isAttribute : Bool) : Option Reference :=
  match s.symbol? (tag.plain? "ref") with
  | some symbol => some ⟨.root isAttribute, symbol⟩
  | none => (s.symbol? (tag.plain? "type")).map (⟨.type, ·⟩)

/-- The name that a derivation refers to. -/
def baseReference? (s : Session) (tag : StartTag) (isList : Bool) : Option Reference :=
  (s.symbol? (tag.plain? (if isList then "itemType" else "base"))).map (⟨.type, ·⟩)

/-- The name that a tag refers to. -/
def reference? (s : Session) (tag : StartTag) (kind : Tag) : Option Reference :=
  match kind.entry.start with
  | .defineAttribute => elementReference? s tag true
  | .defineElement => elementReference? s tag false
  | .deriveList => baseReference? s tag true
  | .restrictType => baseReference? s tag false
  | .extendType => if s.allowUnsupported then baseReference? s tag false else none
  | _ => none

/-- The name that an element or attribute tag defines. -/
def elementDefinition? (s : Session) (tag : StartTag) (isAttribute : Bool) : Option Reference :=
  if s.typeStack.isEmpty then
    some ⟨.root isAttribute, s.target, (tag.plain? "name").getD ""⟩
  else none

/-- The name that a type tag defines. -/
def typeDefinition? (s : Session) (tag : StartTag) : Option Reference :=
  if s.elementStack.isEmpty then some ⟨.type, s.target, (tag.plain? "name").getD ""⟩ else none

/-- The name that a tag defines. -/
def definition? (s : Session) (tag : StartTag) (kind : Tag) : Option Reference :=
  match kind.entry.start with
  | .defineAttribute => elementDefinition? s tag true
  | .defineElement => elementDefinition? s tag false
  | .defineType => typeDefinition? s tag
  | _ => none

/-! ## What declaring leaves as it is -/

/-- What declaring something makes no difference to. -/
structure Setting where
  allowUnsupported : Bool
  registry : Registry
  worklist : Worklist
  reports : List Report
  diagnostic : Diagnostic

/-- The setting of a session. -/
def setting (s : Session) : Setting :=
  ⟨s.allowUnsupported, s.registry, s.worklist, s.journal.reports, s.journal.diagnostic⟩

/-- A name of the target namespace, or one that is made up, is declared where it is used first. -/
def Owns (s : Session) (symbol : Symbol) : Prop :=
  symbol.namespaceId = s.target ∨ symbol.namespaceId = .anonymous

/-- What declaring something does to a session: names stay what they are, and only names of its own
are added. -/
structure Declares (s s' : Session) : Prop where
  setting : s'.setting = s.setting
  elementStack : s.elementStack ⊆ s'.elementStack
  keeps {r : Reference} {place : Nat} : s.declarations.place? r = some place →
    s'.declarations.place? r = some place
  adds {r : Reference} {place : Nat} : s'.declarations.place? r = some place →
    s.declarations.place? r = some place ∨ s.Owns r.symbol

/-- A problem that a tag may have which refers to a name. -/
structure Refuses (s : Session) (reference : Option Reference) (p : Problem) (s' : Session) :
    Prop where
  setting : s'.setting = s.setting
  known : p.IsLocal ∨ ∃ r, reference = some r ∧ p = r.unknown ∧ ¬s.declarations.Knows r

variable {s s' s'' : Session}

theorem target_of_setting (same : s'.setting = s.setting) : s'.target = s.target :=
  congrArg (fun settled : Setting => settled.worklist.currentEntry.target) same

theorem owns_of_setting (same : s'.setting = s.setting) {symbol : Symbol} :
    s'.Owns symbol ↔ s.Owns symbol := by
  rw [Owns, Owns, target_of_setting same]

theorem symbol?_of_setting (same : s'.setting = s.setting) (text : Option String) :
    s'.symbol? text = s.symbol? text := by
  have bindings : s'.worklist.currentEntry.bindings = s.worklist.currentEntry.bindings :=
    congrArg (fun settled : Setting => settled.worklist.currentEntry.bindings) same
  simp only [symbol?, bindings]

theorem Declares.refl (s : Session) : Declares s s :=
  ⟨rfl, List.Subset.refl _, id, .inl⟩

theorem Declares.trans (first : Declares s s') (second : Declares s' s'') : Declares s s'' where
  setting := second.setting.trans first.setting
  elementStack := List.Subset.trans first.elementStack second.elementStack
  keeps found := second.keeps (first.keeps found)
  adds found := by
    cases second.adds found with
    | inl before => exact first.adds before
    | inr own => exact .inr ((owns_of_setting first.setting).1 own)

/-- Where tables stay as they are, and nothing is closed. -/
theorem Declares.ofPlaces (setting : s'.setting = s.setting)
    (elementStack : s.elementStack ⊆ s'.elementStack)
    (places : ∀ r, s'.declarations.place? r = s.declarations.place? r) : Declares s s' :=
  ⟨setting, elementStack, fun found => (places _).trans found,
    fun found => .inl ((places _).symm.trans found)⟩

/-- A name of the session is added. -/
theorem Declares.ofAdds {d : Declarations} {r : Reference} {place : Nat}
    (adds : Adds s.declarations d r place)
    (owns : s.declarations.place? r = none → s.Owns r.symbol) :
    Declares s { s with declarations := d } where
  setting := rfl
  elementStack := List.Subset.refl _
  keeps := adds.keeps
  adds {r' place'} found := by
    by_cases same : r' = r
    · subst same
      cases before : s.declarations.place? r' with
      | none => exact .inr (owns before)
      | some old =>
        have same : place = place' := Option.some.inj (adds.own.symm.trans found)
        exact .inl (by rw [← same, adds.old before])
    · exact .inl ((adds.other r' same).symm.trans found)

/-! ## Elements and attributes -/

/-- A name stands for something already, or is one of the session's own. -/
def Resolves (s : Session) (r : Reference) : Prop :=
  s.declarations.place? r ≠ none ∨ s.Owns r.symbol

/-- The elements of a name are open or defined. -/
def HasOpened (s : Session) (r : Reference) : Prop :=
  ∃ place, s.declarations.place? r = some place ∧
    (r.referent ≠ .type → ⟨place⟩ ∈ s.elementStack)

theorem HasOpened.declares {r : Reference} (opened : s.HasOpened r) (declares : Declares s s') :
    s'.HasOpened r := by
  obtain ⟨place, found, isOpen⟩ := opened
  exact ⟨place, declares.keeps found, fun root => declares.elementStack (isOpen root)⟩

theorem Resolves.of_declares {r : Reference} (resolves : s'.Resolves r) (declares : Declares s s') :
    s.Resolves r := by
  obtain old | owns := resolves
  · obtain ⟨place, found⟩ := Option.ne_none_iff_exists'.1 old
    exact (declares.adds found).imp_left fun before => by simp [before]
  · exact .inr ((owns_of_setting declares.setting).1 owns)

theorem Refuses.ofLocal {reference : Option Reference} {p : Problem} (isLocal : p.IsLocal)
    (setting : s'.setting = s.setting) : Refuses s reference p s' :=
  ⟨setting, .inl isLocal⟩

theorem findType_declares (s : Session) (symbol : Symbol) :
    (findType symbol).Ends s
      (fun id s' => Declares s s' ∧ s'.declarations.place? ⟨.type, symbol⟩ = some id.index ∧
        s.Resolves ⟨.type, symbol⟩)
      (fun p s' => Refuses s (some ⟨.type, symbol⟩) p s' ∧ (s.Owns symbol → p.IsLocal)) := by
  have adds := Declarations.adds_findOrAddType s.declarations symbol
  have isNew : (s.declarations.findOrAddType symbol).2.2 = true ↔
      s.declarations.place? ⟨.type, symbol⟩ = none := by
    unfold Declarations.findOrAddType Declarations.place?
    split <;> simp [*]
  simp only [findType, ends_bind, ends_declare, ends_get, ends_ite, ends_throw, ends_declarations]
  split
  · rename_i foreign
    simp only [Bool.and_eq_true, decide_eq_true_eq] at foreign
    refine ⟨⟨rfl, .inr ⟨_, rfl, rfl, ?_⟩⟩, fun owns => ?_⟩
    · rintro ⟨place, found, -⟩
      rw [isNew.1 foreign.1.1] at found
      cases found
    · exact (owns.elim foreign.1.2 foreign.2).elim
  · rename_i familiar
    have owns (new : s.declarations.place? ⟨.type, symbol⟩ = none) : s.Owns symbol := by
      simp only [isNew.2 new, Bool.true_and, Bool.and_eq_true, decide_eq_true_eq, not_and,
        Decidable.not_not] at familiar
      exact Decidable.or_iff_not_imp_left.2 familiar
    have declares : Declares s { s with declarations := (s.declarations.findOrAddType symbol).1 } :=
      .ofAdds adds owns
    have resolves : s.Resolves ⟨.type, symbol⟩ := by
      by_cases new : s.declarations.place? ⟨.type, symbol⟩ = none
      · exact .inr (owns new)
      · exact .inl new
    split
    · simp only [ends_ite, ends_bind, ends_throw, ends_pure]
      split
      · exact ⟨.ofLocal ⟨rfl, rfl, rfl⟩ rfl, fun _ => ⟨rfl, rfl, rfl⟩⟩
      · exact ⟨declares, adds.own, resolves⟩
    · exact ⟨declares, adds.own, resolves⟩

/-- A top-level element is found or added; one that is added is undefined. -/
theorem findRoot_adds (s : Session) (symbol : Symbol) (isAttribute : Bool) :
    (findRoot symbol isAttribute).Ends s
      (fun id s' => ∃ d, s' = { s with declarations := d } ∧
        Adds s.declarations d ⟨.root isAttribute, symbol⟩ id.index ∧
        (∀ other, (d.element other).isDefined = (s.declarations.element other).isDefined) ∧
        (s.declarations.place? ⟨.root isAttribute, symbol⟩ = none →
          (s.declarations.element id).isDefined = false))
      (fun _ _ => False) := by
  have pushed (other : ElementId) : (s.declarations.addElement.1.element other).isDefined =
      (s.declarations.element other).isDefined := by
    rw [Declarations.element_addElement]
    split
    · rename_i last
      simp [Declarations.element, Array.getD_eq_getD_getElem?, last]
    · rfl
  have new : (s.declarations.element s.declarations.addElement.2).isDefined = false := by
    simp [Declarations.addElement, Declarations.element, Array.getD_eq_getD_getElem?,
      Element.isDefined]
  unfold findRoot
  cases isAttribute with
  | true =>
    refine ⟨_, rfl, Declarations.adds_findOrAddRootAttribute _ _, fun other => ?_, fun h => ?_⟩
    · dsimp only [Declarations.findOrAddRootAttribute]
      split
      · rfl
      · exact pushed other
    · have none : s.declarations.rootAttributes.find? symbol = none := by
        simpa [Declarations.place?] using h
      simpa [Declarations.findOrAddRootAttribute, none] using new
  | false =>
    refine ⟨_, rfl, Declarations.adds_findOrAddRoot _ _, fun other => ?_, fun h => ?_⟩
    · dsimp only [Declarations.findOrAddRoot]
      split
      · rfl
      · exact pushed other
    · have none : s.declarations.roots.find? symbol = none := by
        simpa [Declarations.place?] using h
      simpa [Declarations.findOrAddRoot, none] using new

theorem openElement_declares (s : Session) (isTopLevel isAttribute : Bool) (name : String) :
    (openElement isTopLevel isAttribute name).Ends s
      (fun _ s' => Declares s s' ∧
        (isTopLevel = true → s'.HasOpened ⟨.root isAttribute, s.target, name⟩) ∧
        ∀ r, s.declarations.Knows r → s'.declarations.Knows r)
      (fun p s' => s'.setting = s.setting ∧ p.IsLocal) := by
  unfold openElement
  cases isTopLevel with
  | true =>
    simp only [if_true, ends_bind, ends_get]
    refine (findRoot_adds s ⟨s.target, name⟩ isAttribute).imp ?_ fun _ _ h => h.elim
    rintro id s' ⟨d, rfl, adds, same, -⟩
    simp only [ends_declarations, ends_ite, ends_bind, ends_throw, ends_pushElement, ends_pure]
    split
    · refine ⟨rfl, ?_⟩
      split <;> exact ⟨rfl, rfl, rfl⟩
    · have declares := Declares.ofAdds adds fun _ => .inl rfl
      refine ⟨declares.trans (.ofPlaces rfl (List.subset_cons_self _ _) fun _ => rfl),
        fun _ => ⟨id.index, adds.own, fun _ => List.mem_cons_self⟩, fun r known => ?_⟩
      obtain ⟨place, found, isDefined⟩ := known
      exact ⟨place, declares.keeps found, fun root => (same _).trans (isDefined root)⟩
  | false =>
    simp only [Bool.false_eq_true, if_false, ends_bind, ends_declare, ends_pushElement, ends_pure]
    refine ⟨.ofPlaces rfl (List.subset_cons_self _ _) fun r => rfl, fun h => h.elim,
      fun r known => ?_⟩
    obtain ⟨place, found, isDefined⟩ := known
    exact ⟨place, found, fun root => Declarations.Edit.isDefined_element .addElement
      (isDefined root)⟩

theorem referTo_declares (s : Session) (id : ElementId) (symbol : Symbol)
    (isTopLevel isAttribute : Bool) :
    (referTo id symbol isTopLevel isAttribute).Ends s
      (fun _ s' => Declares s s' ∧ s.Resolves ⟨.root isAttribute, symbol⟩)
      (Refuses s (some ⟨.root isAttribute, symbol⟩)) := by
  unfold referTo
  simp only [ends_bind, ends_ite, ends_throw]
  split
  · refine .ofLocal ?_ rfl
    split <;> exact ⟨rfl, rfl, rfl⟩
  · refine (findRoot_adds s symbol isAttribute).imp ?_ fun _ _ h => h.elim
    rintro target s' ⟨d, rfl, adds, same, fresh⟩
    simp only [ends_declarations, ends_get, ends_modifyElement, ends_pure]
    split
    · rename_i undefined
      simp only [Bool.and_eq_true, Bool.not_eq_true', decide_eq_true_eq] at undefined
      refine ⟨rfl, .inr ⟨_, rfl, ?_, ?_⟩⟩
      · cases isAttribute <;> rfl
      · rintro ⟨place, found, isDefined⟩
        obtain rfl := adds.old found
        have known := (same target).trans (isDefined (by simp))
        rw [undefined.1] at known
        cases known
    · rename_i accepted
      have owns (new : s.declarations.place? ⟨.root isAttribute, symbol⟩ = none) :
          s.Owns symbol := by
        simp only [same, fresh new, Bool.not_false, Bool.true_and, decide_eq_true_eq,
          Decidable.not_not] at accepted
        exact .inl accepted
      refine ⟨(Declares.ofAdds adds owns).trans (.ofPlaces rfl (List.Subset.refl _) fun _ => rfl),
        ?_⟩
      by_cases new : s.declarations.place? ⟨.root isAttribute, symbol⟩ = none
      · exact .inr (owns new)
      · exact .inl new

theorem resolveElement_declares (s : Session) (id : ElementId) (tag : StartTag) (name : String)
    (isTopLevel isAttribute : Bool) :
    (resolveElement id tag name isTopLevel isAttribute).Ends s
      (fun _ s' => Declares s s' ∧ ∀ r, elementReference? s tag isAttribute = some r → s.Resolves r)
      (Refuses s (elementReference? s tag isAttribute)) := by
  simp only [resolveElement, elementReference?, ends_bind, ends_get]
  cases s.symbol? (tag.plain? "ref") with
  | some symbol =>
    refine (referTo_declares s id symbol isTopLevel isAttribute).imp_done ?_
    rintro - s' ⟨declares, resolves⟩
    exact ⟨declares, fun r own => Option.some.inj own ▸ resolves⟩
  | none =>
    cases s.symbol? (tag.plain? "type") with
    | none => exact ⟨.refl s, fun _ own => by cases own⟩
    | some symbol =>
      simp only [ends_bind, Option.map_some]
      refine (findType_declares s symbol).imp ?_ fun _ _ refuses => refuses.1
      rintro type s' ⟨declares, -, resolves⟩
      exact ⟨declares.trans (.ofPlaces rfl (List.Subset.refl _) fun _ => rfl),
        fun r own => Option.some.inj own ▸ resolves⟩

theorem addToType_declares (s : Session) (id : ElementId) (name : String) (isAttribute : Bool) :
    (addToType id name isAttribute).Ends s (fun _ s' => Declares s s')
      (fun p s' => s'.setting = s.setting ∧ p.IsLocal) := by
  simp only [addToType, ends_bind, ends_get]
  split
  · exact .refl s
  · simp only [ends_ite, ends_bind, ends_throw, ends_setDeclarations]
    split
    · exact ⟨trivial, rfl, rfl, rfl⟩
    · exact .ofPlaces rfl (List.Subset.refl _) fun _ => rfl

/-- What a tag that declares something does: it adds names of its own, resolves the name that it refers
to, and opens what it defines. -/
structure Acts (s : Session) (reference definition : Option Reference) (s' : Session) : Prop where
  declares : Declares s s'
  resolves (r : Reference) : reference = some r → s.Resolves r
  opens (r : Reference) : definition = some r → s'.HasOpened r

theorem startElement_acts (s : Session) (tag : StartTag) (isAttribute : Bool) :
    (startElement tag isAttribute).Ends s
      (fun _ s' => Acts s (elementReference? s tag isAttribute)
        (elementDefinition? s tag isAttribute) s')
      (Refuses s (elementReference? s tag isAttribute)) := by
  simp only [startElement, ends_bind, ends_get]
  refine (openElement_declares s s.typeStack.isEmpty isAttribute _).imp ?_
    fun _ _ h => .ofLocal h.2 h.1
  rintro id opened ⟨first, opens, knows⟩
  have reference : elementReference? opened tag isAttribute =
      elementReference? s tag isAttribute := by
    simp only [elementReference?, symbol?_of_setting first.setting]
  have opens (r : Reference) (own : elementDefinition? s tag isAttribute = some r) :
      opened.HasOpened r := by
    unfold elementDefinition? at own
    split at own
    · rename_i isTopLevel
      exact Option.some.inj own ▸ opens isTopLevel
    · cases own
  have noted : Declares opened (opened.note
      (.elementDefined ((tag.plain? "name").getD "") s.typeStack.isEmpty isAttribute)) :=
    .ofPlaces rfl (List.Subset.refl _) fun _ => rfl
  rw [ends_note, ← reference]
  refine (resolveElement_declares (opened.note _) id tag _ s.typeStack.isEmpty isAttribute).imp
    ?_ fun p s' refuses => ?_
  · rintro name resolved ⟨second, resolves⟩
    have both : Declares opened resolved := noted.trans second
    have acts {s' : Session} (third : Declares resolved s') : Acts s
        (elementReference? opened tag isAttribute) (elementDefinition? s tag isAttribute) s' := by
      exact ⟨first.trans (both.trans third), fun r own => (resolves r own).of_declares (first.trans noted),
        fun r own => (opens r own).declares (both.trans third)⟩
    have refuses {p : Problem} (isLocal : p.IsLocal) {s' : Session}
        (same : s'.setting = resolved.setting) :
        Refuses s (elementReference? opened tag isAttribute) p s' :=
      .ofLocal isLocal (same.trans (first.trans both).setting)
    simp only [ends_ite, ends_bind, ends_throw]
    split
    · exact refuses ⟨rfl, rfl, rfl⟩ rfl
    · rw [ends_ofExcept]
      split
      · simp only [ends_modifyElement]
        split
        · exact refuses ⟨rfl, rfl, rfl⟩ rfl
        · split
          · refine (addToType_declares _ id name isAttribute).imp (fun _ s' third => ?_)
              fun _ _ failed => refuses failed.2 failed.1
            refine acts (.trans ?_ third)
            exact .ofPlaces rfl (List.Subset.refl _) fun _ => rfl
          · exact acts (.ofPlaces rfl (List.Subset.refl _) fun _ => rfl)
      · rename_i problem reads
        exact refuses (ElementForm.isOfValue_of_read reads).isLocal rfl
  · refine ⟨refuses.setting.trans first.setting, refuses.known.imp_right fun unknown => ?_⟩
    obtain ⟨r, own, named, new⟩ := unknown
    exact ⟨r, own, named, fun known => new (knows r known)⟩

/-! ## Types, groups, derivations and enumerators -/

theorem openType_acts (s : Session) (tag : StartTag) :
    (openType ((tag.plain? "name").getD "")).Ends s
      (fun _ s' => Acts s none (typeDefinition? s tag) s') (Refuses s none) := by
  have found {s : Session} {symbol : Symbol} (owns : s.Owns symbol) :
      (findType symbol).Ends s
        (fun id s' => Declares s s' ∧ s'.declarations.place? ⟨.type, symbol⟩ = some id.index)
        (fun p s' => s'.setting = s.setting ∧ p.IsLocal) :=
    (findType_declares s symbol).imp (fun _ _ found => ⟨found.1, found.2.1⟩)
      fun _ _ failed => ⟨failed.1.setting, failed.2 owns⟩
  simp only [openType, typeDefinition?, ends_bind, ends_get]
  cases opened : s.elementStack with
  | nil =>
    simp only [ends_ite, ends_bind, ends_throw]
    split
    · exact .ofLocal ⟨rfl, rfl, rfl⟩ rfl
    · refine (found (.inl rfl)).imp ?_ fun _ _ failed => .ofLocal failed.2 failed.1
      rintro id s' ⟨declares, place⟩
      simp only [ends_declarations, ends_pure]
      split
      · exact .ofLocal ⟨rfl, rfl, rfl⟩ declares.setting
      · refine ⟨declares, fun r own => (by cases own), fun r own => ?_⟩
        obtain rfl := Option.some.inj own
        exact ⟨id.index, place, fun root => absurd rfl root⟩
  | cons element rest =>
    simp only [ends_ite, ends_bind, ends_throw, ends_declare]
    split
    · exact .ofLocal ⟨rfl, rfl, rfl⟩ rfl
    · have minted : Declares s { s with declarations := s.declarations.anonymousSymbol.1 } :=
        .ofPlaces rfl (List.Subset.refl _) fun _ => rfl
      refine (found (.inr rfl)).imp ?_
        fun _ _ failed => .ofLocal failed.2 (failed.1.trans minted.setting)
      rintro id s' ⟨declares, -⟩
      simp only [ends_modifyElement, ends_pure]
      refine ⟨(minted.trans declares).trans ?_, fun r own => (by cases own), fun r own => ?_⟩
      · exact .ofPlaces rfl (List.Subset.refl _) fun _ => rfl
      · cases own

theorem Acts.declares_after {reference definition : Option Reference}
    (acts : Acts s reference definition s') (later : Declares s' s'') :
    Acts s reference definition s'' where
  declares := acts.declares.trans later
  resolves := acts.resolves
  opens r own := (acts.opens r own).declares later

theorem startType_acts (s : Session) (tag : StartTag) (kind : Tag) :
    (startType tag kind).Ends s (fun _ s' => Acts s none (typeDefinition? s tag) s')
      (Refuses s none) := by
  simp only [startType, ends_bind, ends_get]
  refine (openType_acts s tag).imp_done fun id s' acts => ?_
  simp only [ends_note, ends_ite, ends_bind, ends_modifyType, ends_pushType]
  split
  · exact acts.declares_after (.ofPlaces rfl (List.Subset.refl _) fun _ => rfl)
  · split
    · exact acts.declares_after (.ofPlaces rfl (List.Subset.refl _) fun _ => rfl)
    · exact acts.declares_after (.ofPlaces rfl (List.Subset.refl _) fun _ => rfl)

theorem openUntagged_declares (s : Session) (parent : TypeId) :
    (openUntagged parent).Ends s (fun _ s' => Declares s s') (fun _ _ => False) := by
  simp only [openUntagged, ends_bind, ends_declare, ends_modifyType, ends_pushType,
    ends_modifyElement, ends_declarations, ends_setDeclarations, ends_pushElement, ends_pure]
  have minted : Declares s { s with declarations := s.declarations.anonymousSymbol.1 } :=
    .ofPlaces rfl (List.Subset.refl _) fun _ => rfl
  have named := Declares.ofAdds (s := { s with declarations := s.declarations.anonymousSymbol.1 })
    (Declarations.adds_findOrAddType s.declarations.anonymousSymbol.1
      s.declarations.anonymousSymbol.2) fun _ => .inr rfl
  refine (minted.trans named).trans ?_
  exact .ofPlaces rfl (List.subset_cons_self _ _) fun _ => rfl

theorem startGroup_declares (s : Session) (tag : StartTag) (kind : Tag) :
    (startGroup tag kind).Ends s (fun _ s' => Declares s s')
      (fun p s' => s'.setting = s.setting ∧ p.IsLocal) := by
  have opened (minOccurs maxOccurs : Int) :
      (openGroup kind minOccurs maxOccurs).Ends s (fun _ s' => Declares s s')
        (fun p s' => s'.setting = s.setting ∧ p.IsLocal) := by
    simp only [openGroup, ends_bind, ends_get]
    split
    · simp only [ends_ite, ends_bind, ends_throw, ends_pure]
      split
      · exact ⟨trivial, rfl, rfl, rfl⟩
      · split
        · exact (openUntagged_declares s _).imp (fun _ _ declares => declares) fun _ _ h => h.elim
        · exact .refl s
    · simp only [ends_bind, ends_pure]
      exact (openUntagged_declares s _).imp (fun _ _ declares => declares) fun _ _ h => h.elim
    · simp only [ends_bind, ends_pure]
      exact (openUntagged_declares s _).imp (fun _ _ declares => declares) fun _ _ h => h.elim
    · exact ⟨rfl, rfl, rfl, rfl⟩
  simp only [startGroup, ends_ite, ends_bind, ends_throw, ends_ofExcept]
  split
  · exact ⟨trivial, rfl, rfl, rfl⟩
  · split
    · split
      · refine (opened _ _).imp_done fun answer s' declares => ?_
        simp only [ends_note, ends_modifyType]
        split
        · rw [ends_modifyElement]
          exact declares.trans (.ofPlaces rfl (List.Subset.refl _) fun _ => rfl)
        · exact declares.trans (.ofPlaces rfl (List.Subset.refl _) fun _ => rfl)
      · rename_i problem reads
        exact ⟨trivial, (isOfValue_of_maxOccurs? reads).isLocal⟩
    · rename_i problem reads
      exact ⟨trivial, (isOfValue_of_minOccurs? reads).isLocal⟩

theorem startDerivation_acts (s : Session) (tag : StartTag) (isList : Bool) :
    (startDerivation tag isList).Ends s
      (fun _ s' => Acts s (baseReference? s tag isList) none s')
      (Refuses s (baseReference? s tag isList)) := by
  simp only [startDerivation, baseReference?, ends_bind, ends_get]
  split
  · refine .ofLocal ?_ rfl
    split <;> exact ⟨rfl, rfl, rfl⟩
  · cases s.symbol? (tag.plain? (if isList then "itemType" else "base")) with
    | none =>
      refine .ofLocal ?_ rfl
      split <;> exact ⟨rfl, rfl, rfl⟩
    | some symbol =>
      simp only [ends_bind, Option.map_some]
      refine (findType_declares s symbol).imp ?_ fun _ _ refuses => refuses.1
      rintro base s' ⟨declares, -, resolves⟩
      simp only [ends_declarations, ends_ite, ends_bind, ends_throw, ends_note, ends_modifyType]
      split
      · exact .ofLocal ⟨rfl, rfl, rfl⟩ declares.setting
      · refine ⟨declares.trans (.ofPlaces rfl (List.Subset.refl _) fun _ => rfl),
          fun r own => Option.some.inj own ▸ resolves, fun r own => ?_⟩
        cases own

theorem startEnumerator_declares (s : Session) (tag : StartTag) :
    (startEnumerator tag).Ends s (fun _ s' => Declares s s')
      (fun p s' => s'.setting = s.setting ∧ p.IsLocal) := by
  simp only [startEnumerator, ends_bind, ends_get]
  split
  · exact ⟨rfl, rfl, rfl, rfl⟩
  · simp only [ends_ite, ends_bind, ends_ofExcept]
    split
    · split
      · simp only [ends_note, ends_modifyType]
        exact .ofPlaces rfl (List.Subset.refl _) fun _ => rfl
      · rename_i problem reads
        exact ⟨trivial, (isOfValue_of_annotatedId? reads).isLocal⟩
    · exact .refl s

/-! ## End tags -/

/-- What an end tag does: it closes at most what is defined or has no tag of its own. -/
structure Shuts (s s' : Session) : Prop where
  setting : s'.setting = s.setting
  declarations : s'.declarations = s.declarations
  elementStack {id : ElementId} : id ∈ s.elementStack → id ∈ s'.elementStack ∨
    (s.declarations.element id).isDefined = true ∨ (s.declarations.element id).isUntagged = true

theorem Shuts.refl (s : Session) : Shuts s s :=
  ⟨rfl, rfl, .inl⟩

theorem endAction_shuts (s : Session) (kind : Tag) :
    (endAction kind).Ends s (fun _ s' => Shuts s s')
      (fun p s' => s'.setting = s.setting ∧ p.IsLocal) := by
  have element : endElement.Ends s (fun _ s' => Shuts s s')
      (fun p s' => s'.setting = s.setting ∧ p.IsLocal) := by
    simp only [endElement, ends_bind, ends_get]
    split
    · exact .refl s
    · rename_i own rest opened
      simp only [ends_ite, ends_bind, ends_throw, ends_set]
      split
      · exact ⟨trivial, rfl, rfl, rfl⟩
      · rename_i isDefined
        refine ⟨rfl, rfl, fun member => ?_⟩
        rw [opened] at member
        cases member with
        | head => exact .inr (.inl (by simpa using isDefined))
        | tail _ later => exact .inl later
  have group : endGroup.Ends s (fun _ s' => Shuts s s')
      (fun p s' => s'.setting = s.setting ∧ p.IsLocal) := by
    simp only [endGroup, ends_modify]
    split
    · rename_i own rest opened
      split
      · rename_i untagged
        refine ⟨rfl, rfl, fun member => ?_⟩
        rw [opened] at member
        cases member with
        | head => exact .inr (.inr untagged)
        | tail _ later => exact .inl later
      · exact .refl s
    · exact .refl s
  unfold endAction
  split
  · exact element
  · exact element
  · exact ⟨rfl, rfl, .inl⟩
  · exact group
  · exact .refl s
  · exact .refl s

end XsdRecords.Session
