import XsdRecords.Proofs.Declaration.Comparison
import XsdRecords.Proofs.Markup.TwoScopes
import XsdRecords.Proofs.Session.Bases
import XsdRecords.Proofs.Session.Disguise
import XsdRecords.Proofs.Session.Ends

/-! # Two runs abreast

`Gives` tells that an action ends without a problem, with which answer and in which state, and its
equations turn it into the steps that the action took.

Two runs read the same part of a document, each in the order of its own document.  What a tag gives
in the first run it gives in the second one: the same is opened, declared and closed, under the
numbers that stand for those of the first run. -/

namespace XsdRecords.Action

open XsdRecords.Declaration (Declarations ElementId TypeId Element TypeDef Symbol)

variable {α β : Type}

/-- An action ends with an answer and a state. -/
def Gives (action : Action α) (s : Session) (answer : α) (t : Session) : Prop :=
  (ExceptT.run action).run s = (.ok answer, t)

variable {s t : Session} {answer : α}

theorem Ends.of_gives {action : Action α} {done : α → Session → Prop}
    {failed : Problem → Session → Prop} (ends : action.Ends s done failed)
    (gives : action.Gives s answer t) : done answer t := by
  unfold Ends at ends
  rw [show (ExceptT.run action).run s = _ from gives] at ends
  exact ends

theorem gives_pure {other : α} :
    Gives (pure answer) s other t ↔ other = answer ∧ t = s := by
  rw [Gives, ExceptT.run_pure, StateT.run_pure]
  exact ⟨fun h => by cases h; exact ⟨rfl, rfl⟩, fun ⟨same, still⟩ => by rw [same, still]; rfl⟩

theorem gives_throw {problem : Problem} : ¬Gives (throw problem : Action α) s answer t :=
  fun h => by cases h

theorem gives_bind {action : Action β} {next : β → Action α} :
    Gives (action >>= next) s answer t ↔
      ∃ first m, Gives action s first m ∧ Gives (next first) m answer t := by
  simp only [Gives, ExceptT.run_bind, StateT.run_bind]
  cases h : (ExceptT.run action).run s with
  | mk result m =>
    cases result with
    | ok first =>
      refine ⟨fun h => ⟨first, m, rfl, h⟩, ?_⟩
      rintro ⟨_, _, same, later⟩
      cases same
      exact later
    | error problem =>
      refine ⟨nofun, ?_⟩
      rintro ⟨_, _, same, -⟩
      cases same

/-- A check that throws before what follows it. -/
theorem gives_check {c : Prop} [Decidable c] {problem : Problem} {f : PUnit → Action α} :
    Gives (if c then (throw problem : Action PUnit) >>= f else f ⟨⟩) s answer t ↔
      ¬c ∧ Gives (f ⟨⟩) s answer t := by
  split
  · rename_i holds
    refine ⟨fun h => ?_, fun h => absurd holds h.1⟩
    obtain ⟨_, _, thrown, -⟩ := gives_bind.1 h
    exact absurd thrown gives_throw
  · rename_i fails
    exact ⟨fun h => ⟨fails, h⟩, fun h => h.2⟩

theorem gives_ofExcept {result : Except Problem α} :
    Gives (ofExcept result) s answer t ↔ result = .ok answer ∧ t = s := by
  cases result with
  | ok found =>
    refine gives_pure.trans ⟨?_, ?_⟩
    · rintro ⟨rfl, rfl⟩
      exact ⟨rfl, rfl⟩
    · rintro ⟨same, rfl⟩
      exact ⟨(Except.ok.inj same).symm, rfl⟩
  | error problem => exact ⟨fun h => absurd h gives_throw, fun h => by cases h.1⟩

/-- Changing a state. -/
theorem gives_modify {change : Session → Session} {answer : PUnit} :
    Gives (modify change : Action PUnit) s answer t ↔ t = change s :=
  ⟨fun h => by cases h; rfl, fun h => by rw [h]; rfl⟩

/-! ## The steps of an action -/

section Steps

variable {f : β → Action α} {g : Unit → Action α}

theorem gives_get {f : Session → Action α} :
    Gives (get >>= f) s answer t ↔ Gives (f s) s answer t :=
  Iff.rfl

theorem gives_note {e : Event} :
    Gives (note e >>= g) s answer t ↔ Gives (g ()) (s.note e) answer t :=
  Iff.rfl

theorem gives_declarations {f : Declarations → Action α} :
    Gives (declarations >>= f) s answer t ↔ Gives (f s.declarations) s answer t :=
  Iff.rfl

theorem gives_modifyElement {id : ElementId} {c : Element → Element} :
    Gives (modifyElement id c >>= g) s answer t ↔
      Gives (g ()) { s with declarations := s.declarations.modifyElement id c } answer t :=
  Iff.rfl

theorem gives_modifyType {id : TypeId} {c : TypeDef → TypeDef} :
    Gives (modifyType id c >>= g) s answer t ↔
      Gives (g ()) { s with declarations := s.declarations.modifyType id c } answer t :=
  Iff.rfl

theorem gives_declare {change : Declarations → Declarations × β} :
    Gives (declare change >>= f) s answer t ↔ Gives (f (change s.declarations).2)
      { s with declarations := (change s.declarations).1 } answer t :=
  Iff.rfl

theorem gives_pushElement {id : ElementId} :
    Gives (pushElement id >>= g) s answer t ↔
      Gives (g ()) { s with elementStack := id :: s.elementStack } answer t :=
  Iff.rfl

end Steps

/-! ## Names -/

/-- Finding a type: a name of another namespace is known, and the type has values. -/
theorem gives_findType {symbol : Symbol} {id : TypeId} :
    Gives (findType symbol) s id t ↔
      ((s.declarations.findOrAddType symbol).2.2 = true →
          symbol.namespaceId = s.target ∨ symbol.namespaceId = .anonymous) ∧
        ((s.declarations.findOrAddType symbol).1.type
          (s.declarations.findOrAddType symbol).2.1).isVoid = false ∧
        id = (s.declarations.findOrAddType symbol).2.1 ∧
        t = { s with declarations := (s.declarations.findOrAddType symbol).1 } := by
  simp only [findType, gives_declare, gives_get, gives_check, gives_declarations]
  refine and_congr ?_ ?_
  · rw [Bool.and_eq_true, Bool.and_eq_true, decide_eq_true_eq, decide_eq_true_eq, and_assoc, not_and,
      not_and_or, not_not, not_not]
    rfl
  · unfold TypeDef.isVoid
    split
    · rename_i b own
      simp only [gives_check, gives_pure, own, Option.any_some, decide_eq_false_iff_not]
    · rename_i other
      have none := Option.eq_none_iff_forall_ne_some.2 other
      simp only [gives_pure, none, Option.any_none, true_and]

theorem gives_findRoot {symbol : Symbol} {isAttribute : Bool} {id : ElementId} :
    Gives (Session.findRoot symbol isAttribute) s id t ↔
      id = (s.declarations.findOrAddRootOf isAttribute symbol).2 ∧
        t = { s with declarations := (s.declarations.findOrAddRootOf isAttribute symbol).1 } := by
  cases isAttribute <;> exact gives_pure

/-- Opening a top-level element, which nothing has defined. -/
theorem gives_openRoot {isAttribute : Bool} {name : String} {id : ElementId} :
    Gives (Session.openElement true isAttribute name) s id t ↔
      id = (s.declarations.findOrAddRootOf isAttribute ⟨s.target, name⟩).2 ∧
        ((s.declarations.findOrAddRootOf isAttribute ⟨s.target, name⟩).1.element id).isDefined =
          false ∧
        t = { s with
          declarations := (s.declarations.findOrAddRootOf isAttribute ⟨s.target, name⟩).1
          elementStack := id :: s.elementStack } := by
  simp only [Session.openElement, if_true, gives_get]
  rw [gives_bind]
  simp only [gives_declarations, gives_check, gives_pushElement, gives_pure, Bool.not_eq_true]
  constructor
  · rintro ⟨found, m, opened, undefined, rfl, rfl⟩
    obtain ⟨rfl, rfl⟩ := gives_findRoot.1 opened
    exact ⟨rfl, undefined, rfl⟩
  · rintro ⟨rfl, undefined, rfl⟩
    exact ⟨_, _, gives_findRoot.2 ⟨rfl, rfl⟩, undefined, rfl, rfl⟩

/-- Opening a field. -/
theorem gives_openField {isAttribute : Bool} {name : String} {id : ElementId} :
    Gives (Session.openElement false isAttribute name) s id t ↔
      id = ⟨s.declarations.elements.size⟩ ∧
        t = { s with
          declarations := s.declarations.addElement.1
          elementStack := id :: s.elementStack } := by
  simp only [Session.openElement, Bool.false_eq_true, if_false, gives_declare, gives_pushElement]
  constructor
  · intro h
    obtain ⟨rfl, rfl⟩ := gives_pure.1 h
    exact ⟨rfl, rfl⟩
  · rintro ⟨rfl, rfl⟩
    exact gives_pure.2 ⟨rfl, rfl⟩

/-- Referring to a top-level element, which is no field and, under a name of another namespace, is
known. -/
theorem gives_referTo {id : ElementId} {symbol : Symbol} {isTopLevel isAttribute : Bool}
    {name : String} :
    Gives (Session.referTo id symbol isTopLevel isAttribute) s name t ↔
      isTopLevel = false ∧
        (((s.declarations.findOrAddRootOf isAttribute symbol).1.element
            (s.declarations.findOrAddRootOf isAttribute symbol).2).isDefined = true ∨
          symbol.namespaceId = s.target) ∧
        name = symbol.localName ∧
        t = { s with
          declarations := (s.declarations.findOrAddRootOf isAttribute symbol).1.modifyElement id
            fun e => { e with
              reference := some (s.declarations.findOrAddRootOf isAttribute symbol).2 } } := by
  simp only [Session.referTo, gives_check, Bool.not_eq_true]
  refine and_congr_right fun _ => ?_
  rw [gives_bind]
  simp only [gives_declarations, gives_get, gives_check, gives_modifyElement, gives_pure]
  have check {m : Session} {found : ElementId} :
      (¬(!(m.declarations.element found).isDefined && decide (symbol.namespaceId ≠ m.target)) = true) ↔
        (m.declarations.element found).isDefined = true ∨ symbol.namespaceId = m.target := by
    rw [Bool.and_eq_true, decide_eq_true_eq, Bool.not_eq_true', not_and_or, Bool.not_eq_false, not_not]
  simp only [check]
  constructor
  · rintro ⟨found, m, opened, known, rfl, rfl⟩
    obtain ⟨rfl, rfl⟩ := gives_findRoot.1 opened
    exact ⟨known, rfl, rfl⟩
  · rintro ⟨known, rfl, rfl⟩
    exact ⟨_, _, gives_findRoot.2 ⟨rfl, rfl⟩, known, rfl, rfl⟩

end XsdRecords.Action

namespace XsdRecords

open XsdRecords.Declaration
open XsdRecords.Declaration.Declarations (Precedes)
open XsdRecords.Markup (StartTag)
open XsdRecords.Vocabulary (Tag Builtin)

/-! ## Changes that keep elements and types alike -/

namespace Declaration

variable {p : Pairing}

theorem Element.Matches.plainly {e e' : Element} (same : e.Matches p e') {f : Element → Element}
    (directType : ∀ e, (f e).directType = e.directType)
    (reference : ∀ e, (f e).reference = e.reference) (plain : ∀ e, (f e).plain = (f e.plain).plain) :
    (f e).Matches p (f e') := by
  refine ⟨?_, ?_, ?_⟩
  · rw [directType, directType]
    exact same.directType
  · rw [reference, reference]
    exact same.reference
  · rw [plain e', same.plain, ← plain e]

theorem TypeDef.Matches.plainly {t t' : TypeDef} (same : t.Matches p t') {f : TypeDef → TypeDef}
    (base : ∀ t, (f t).base = t.base) (fields : ∀ t, (f t).fields = t.fields)
    (plain : ∀ t, (f t).plain = (f t.plain).plain) : (f t).Matches p (f t') := by
  refine ⟨?_, ?_, ?_⟩
  · rw [base, base]
    exact same.base
  · rw [fields, fields]
    exact same.fields
  · rw [plain t', same.plain, ← plain t]

end Declaration

namespace Session

open XsdRecords.Action

/-! ## Sessions of two runs -/

/-- What two runs have besides their declarations. -/
structure Beside (w : Part) (s s' : Session) : Prop where
  allowUnsupported : s'.allowUnsupported = s.allowUnsupported
  tagStack : s'.tagStack = s.tagStack
  skipDepth : s'.skipDepth = s.skipDepth
  worklist : s.worklist.Agrees s'.worklist
  target : s.target = w.target
  scope : s.scope.Alike w.registry s'.scope
  named {entry : String × NamespaceId} : entry ∈ s.scope.bindings.entries → entry.2 ≠ .anonymous

/-- Two runs that work on the same part, with what both hold open. -/
structure Abreast (w : Part) (p : Pairing) (ts : List TypeId) (es : List ElementId)
    (s s' : Session) : Prop where
  tally : Tally w p ts es s.declarations s'.declarations
  typeStack : List.Forall₂ p.type s.typeStack s'.typeStack
  elementStack : List.Forall₂ p.element s.elementStack s'.elementStack
  beside : Beside w s s'

/-- Two runs between two tags of the same part: what is on the paired is held open. -/
def Together (w : Part) (s s' : Session) : Prop :=
  ∃ p, Abreast w p s.typeStack s.elementStack s s'

section

variable {w : Part} {p q : Pairing} {ts ts' : List TypeId} {es es' : List ElementId}
  {s s' t t' : Session}

/-- Both runs change declarations and paired alone, and what is noted. -/
theorem Beside.redeclare (beside : Beside w s s') {d d' : Declarations}
    {elements elements' : List ElementId} {types types' : List TypeId} {journal journal' : Journal} :
    Beside w
      { s with declarations := d, elementStack := elements, typeStack := types, journal := journal }
      { s' with
        declarations := d', elementStack := elements', typeStack := types', journal := journal' } :=
  ⟨beside.allowUnsupported, beside.tagStack, beside.skipDepth, beside.worklist, beside.target,
    beside.scope, beside.named⟩

theorem Beside.target' (beside : Beside w s s') : s'.target = w.target := by
  rw [← beside.target]
  unfold Session.target Worklist.currentEntry
  rw [beside.worklist.current]
  exact beside.worklist.target _

theorem Beside.resolve_ne_anonymous (beside : Beside w s s') (label : String) :
    s.scope.bindings.resolve label ≠ .anonymous := by
  unfold Bindings.resolve
  cases found : s.scope.bindings.entries.lookup label with
  | some id =>
    obtain ⟨before, after, split, -⟩ := List.lookup_eq_some_iff.1 found
    have member : (label, id) ∈ s.scope.bindings.entries :=
      split ▸ List.mem_append_right _ List.mem_cons_self
    exact beside.named member
  | none =>
    dsimp only
    split
    · decide
    · split <;> decide

/-- A name that stands for something that both runs know stands for the same in both. -/
theorem Beside.symbol? (beside : Beside w s s') {text : Option String} {symbol : Symbol}
    (named : s.symbol? text = some symbol) :
    symbol.namespaceId ≠ .anonymous ∧
      (w.registry.IsNumber symbol.namespaceId → s'.symbol? text = some symbol) := by
  cases text with
  | none => cases named
  | some text =>
    have nonempty : text ≠ "" := by
      rintro rfl
      cases named
    rw [symbol?_of_ne nonempty] at named ⊢
    obtain rfl := Option.some.inj named
    refine ⟨beside.resolve_ne_anonymous _, fun shared => ?_⟩
    obtain same | apart := beside.scope.resolve ((Markup.splitName text).1.getD "")
    · exact congrArg (fun id => some (Symbol.mk id _)) same
    · exact absurd shared apart.1

/-- Whether a text is a name does not depend on the run. -/
theorem symbol?_eq_none {text : Option String} (s' : Session)
    (absent : s.symbol? text = none) : s'.symbol? text = none := by
  cases text with
  | none => rfl
  | some text =>
    by_cases empty : text = ""
    · subst empty
      rfl
    · rw [symbol?_of_ne empty] at absent
      cases absent

theorem Abreast.redeclare (abreast : Abreast w p ts es s s') (within : p.Within q)
    {d d' : Declarations} (tally : Tally w q ts' es' d d') :
    Abreast w q ts' es' { s with declarations := d } { s' with declarations := d' } :=
  ⟨tally, abreast.typeStack.imp fun _ _ => within.type,
    abreast.elementStack.imp fun _ _ => within.element, abreast.beside.redeclare⟩

/-! ## Names -/

/-- A type that both runs find or add under a name. -/
theorem findType_abreast (abreast : Abreast w p ts es s s') {symbol : Symbol}
    (named : symbol.namespaceId ≠ .anonymous) {id : TypeId} (gives : (findType symbol).Gives s id t)
    (ahead : t.declarations.Precedes w.stop) :
    w.registry.IsNumber symbol.namespaceId ∧ id.index < t.declarations.types.size ∧ ∃ id' t' q,
      (findType symbol).Gives s' id' t' ∧ Abreast w q ts es t t' ∧ p.Within q ∧ q.type id id' := by
  obtain ⟨known, valued, rfl, rfl⟩ := gives_findType.1 gives
  have allowed (isNew : (s.declarations.findOrAddType symbol).2.2 = true) :
      symbol.namespaceId = w.target :=
    ((known isNew).resolve_right named).trans abreast.beside.target
  obtain ⟨tally, allowed'⟩ := abreast.tally.findNamed named allowed ahead
  have found : (s.declarations.findOrAddType symbol).1.typeTable.find? symbol =
      some (s.declarations.findOrAddType symbol).2.1 := by
    rw [find?_findOrAddType, if_pos rfl]
  refine ⟨(tally.homed.shared found).resolve_left named, (tally.intact.found.1 found).1, _, _, _,
    gives_findType.2 ⟨fun isNew => ?_, ?_, rfl, rfl⟩,
    abreast.redeclare (p.within_withType _ _) tally, p.within_withType _ _, .inr ⟨rfl, rfl⟩⟩
  · exact .inl ((allowed' isNew).trans abreast.beside.target'.symm)
  · exact tally.isVoid ahead (.inr ⟨rfl, rfl⟩) valued

/-- A type that both runs make up. -/
theorem mintType_abreast (abreast : Abreast w p ts es s s') {id : TypeId}
    (gives : (findType s.declarations.anonymousSymbol.2).Gives
      { s with declarations := s.declarations.anonymousSymbol.1 } id t)
    (ahead : t.declarations.Precedes w.stop) :
    (t.declarations.type id).isDefined = false ∧ id.index < t.declarations.types.size ∧
      ∃ id' t' q, (findType s'.declarations.anonymousSymbol.2).Gives
          { s' with declarations := s'.declarations.anonymousSymbol.1 } id' t' ∧
        Abreast w q ts es t t' ∧ p.Within q ∧ q.type id id' := by
  obtain ⟨known, valued, rfl, rfl⟩ := gives_findType.1 gives
  obtain ⟨place, inside, undefined⟩ := madeUp_new abreast.tally.intact
  obtain ⟨place', -, undefined'⟩ := madeUp_new abreast.tally.intact'
  have tally := abreast.tally.mint ahead
  rw [← place] at inside undefined tally
  rw [← place'] at undefined' tally
  exact ⟨undefined, inside, _, _, _,
    gives_findType.2 ⟨fun _ => .inr rfl, isVoid_of_isDefined_eq_false undefined', rfl, rfl⟩,
    abreast.redeclare (p.within_withType _ _) tally, p.within_withType _ _, .inr ⟨rfl, rfl⟩⟩

/-! ## Elements -/

theorem openElement_abreast (abreast : Abreast w p ts es s s') {isTopLevel isAttribute : Bool}
    {name : String} {id : ElementId} (gives : (openElement isTopLevel isAttribute name).Gives s id t)
    (ahead : t.declarations.Precedes w.stop) (defined : (w.stop.element id).isDefined = true) :
    ∃ id' t' q, (openElement isTopLevel isAttribute name).Gives s' id' t' ∧
      Abreast w q ts (id :: es) t t' ∧ p.Within q ∧ q.element id id' := by
  cases isTopLevel with
  | true =>
    obtain ⟨rfl, undefined, rfl⟩ := gives_openRoot.1 gives
    have same : s'.target = s.target := abreast.beside.target'.trans abreast.beside.target.symm
    have tally := abreast.tally.findRoot ahead abreast.beside.target
    have inside := lt_size_of_root tally.intact (adds_findOrAddRootOf _ isAttribute _).own
    have held := tally.holdElement (.inr ⟨rfl, rfl⟩) inside undefined defined
    have within := p.within_withElement
      (s.declarations.findOrAddRootOf isAttribute ⟨s.target, name⟩).2
      (s'.declarations.findOrAddRootOf isAttribute ⟨s.target, name⟩).2
    refine ⟨_, _, _, gives_openRoot.2 ⟨rfl, ?_, rfl⟩, ?_, within, ?_⟩
    · rw [same]
      exact tally.undefined_element (.inr ⟨rfl, rfl⟩) undefined defined
    · rw [same]
      exact ⟨held, abreast.typeStack.imp fun _ _ => within.type,
        .cons (.inr ⟨rfl, rfl⟩) (abreast.elementStack.imp fun _ _ => within.element),
        abreast.beside.redeclare⟩
    · rw [same]
      exact .inr ⟨rfl, rfl⟩
  | false =>
    obtain ⟨rfl, rfl⟩ := gives_openField.1 gives
    have tally := abreast.tally.addElement ahead
    have held := tally.holdElement (.inr ⟨rfl, rfl⟩) (by simp [Declarations.addElement])
      (by rw [Declarations.element_addElement, if_pos rfl]; rfl) defined
    have within := p.within_withElement ⟨s.declarations.elements.size⟩
      ⟨s'.declarations.elements.size⟩
    exact ⟨_, _, _, gives_openField.2 ⟨rfl, rfl⟩,
      ⟨held, abreast.typeStack.imp fun _ _ => within.type,
        .cons (.inr ⟨rfl, rfl⟩) (abreast.elementStack.imp fun _ _ => within.element),
        abreast.beside.redeclare⟩, within, .inr ⟨rfl, rfl⟩⟩

/-- Reference to a top-level element by an element that is open. -/
theorem referTo_abreast (abreast : Abreast w p ts es s s') {id id' : ElementId} (held : id ∈ es)
    (pair : p.element id id') {symbol : Symbol} {isTopLevel isAttribute : Bool} {name : String}
    (gives : (referTo id symbol isTopLevel isAttribute).Gives s name t)
    (ahead : t.declarations.Precedes w.stop) :
    w.registry.IsNumber symbol.namespaceId ∧ ∃ t' q,
      (referTo id' symbol isTopLevel isAttribute).Gives s' name t' ∧ Abreast w q ts es t t' ∧
        p.Within q := by
  obtain ⟨rfl, known, rfl, rfl⟩ := gives_referTo.1 gives
  have inTarget : symbol.namespaceId = w.target := by
    obtain defined | same := known
    · obtain ⟨-, found⟩ | ⟨-, new, absent⟩ :=
        findOrAddRootOf_cases s.declarations isAttribute symbol
      · exact abreast.tally.homed.inTarget found
      · have blank : (s.declarations.findOrAddRootOf isAttribute symbol).1.element
            ⟨s.declarations.elements.size⟩ = {} :=
          (entry_findOrAddRootOf _ isAttribute symbol _).trans (element_new _)
        rw [new, blank] at defined
        cases defined
    · exact same.trans abreast.beside.target
  have defines (target : ElementId) (e : Element) :
      ({ e with reference := some target } : Element).isDefined = true := Bool.or_true _
  have tally := abreast.tally.findRoot
    ((Declarations.precedes_modifyElement _ id fun e _ => defines _ e).trans ahead) inTarget
  have own {d : Declarations} (intact : d.Intact True) :=
    lt_size_of_root (intact_findOrAddRootOf intact isAttribute symbol)
      (adds_findOrAddRootOf d isAttribute symbol).own
  have within := p.within_withElement (s.declarations.findOrAddRootOf isAttribute symbol).2
    (s'.declarations.findOrAddRootOf isAttribute symbol).2
  refine ⟨inTarget ▸ w.known_target, _, _, gives_referTo.2 ⟨rfl, .inr ?_, rfl, rfl⟩,
    abreast.redeclare within (tally.modifyElement _ _ held (within.element pair)
      (fun e _ => defines _ e) (fun e bound => ⟨bound.directType, fun h => ?_⟩)
      (fun e bound => ⟨bound.directType, fun h => ?_⟩)
      fun e e' same => ⟨same.directType, .some (.inr ⟨rfl, rfl⟩), same.plain⟩), within⟩
  · exact inTarget.trans abreast.beside.target'.symm
  · obtain rfl := Option.some.inj h
    exact own abreast.tally.intact
  · obtain rfl := Option.some.inj h
    exact own abreast.tally.intact'

/-- A step that opens elements at most, adds to the declarations and keeps all bases. -/
structure Redeclares (elements : List ElementId) (s t : Session) : Prop where
  precedes : s.declarations.Precedes t.declarations
  bases : s.declarations.KeepsBases t.declarations
  elementStack : t.elementStack = elements ++ s.elementStack
  typeStack : t.typeStack = s.typeStack
  allowUnsupported : t.allowUnsupported = s.allowUnsupported

theorem Redeclares.refl (s : Session) : Redeclares [] s s :=
  ⟨.refl _, .refl _, rfl, rfl, rfl⟩

theorem Redeclares.trans {m : Session} {elements : List ElementId} (first : Redeclares elements s m)
    (second : Redeclares [] m t) : Redeclares elements s t :=
  ⟨first.precedes.trans second.precedes, first.bases.trans second.bases,
    second.elementStack.trans first.elementStack, second.typeStack.trans first.typeStack,
    second.allowUnsupported.trans first.allowUnsupported⟩

theorem Redeclares.note {elements : List ElementId} (redeclares : Redeclares elements s t)
    (e : Event) : Redeclares elements s (t.note e) :=
  ⟨redeclares.precedes, redeclares.bases, redeclares.elementStack, redeclares.typeStack,
    redeclares.allowUnsupported⟩

theorem findType_redeclares {symbol : Symbol} {id : TypeId}
    (gives : (findType symbol).Gives s id t) : Redeclares [] s t := by
  obtain ⟨-, -, -, rfl⟩ := gives_findType.1 gives
  exact ⟨Declarations.precedes_findOrAddType _ symbol,
    .ofSameBut (Declarations.sameBut_findOrAddType _ symbol), rfl, rfl, rfl⟩

theorem redeclares_findOrAddRootOf (s : Session) (isAttribute : Bool) (symbol : Symbol) :
    Redeclares []
      s { s with declarations := (s.declarations.findOrAddRootOf isAttribute symbol).1 } :=
  ⟨precedes_findOrAddRootOf _ isAttribute symbol, fun id => by rw [type_findOrAddRootOf], rfl, rfl,
    rfl⟩

theorem redeclares_modifyElement (s : Session) (id : ElementId) {f : Element → Element}
    (keeps : ∀ e : Element, e.isDefined = true → (f e).isDefined = true) :
    Redeclares [] s { s with declarations := s.declarations.modifyElement id f } :=
  ⟨Declarations.precedes_modifyElement _ id keeps, .modifyElement _ id f, rfl, rfl, rfl⟩

theorem openElement_redeclares {isTopLevel isAttribute : Bool} {name : String} {id : ElementId}
    (gives : (openElement isTopLevel isAttribute name).Gives s id t) : Redeclares [id] s t := by
  cases isTopLevel with
  | true =>
    obtain ⟨rfl, -, rfl⟩ := gives_openRoot.1 gives
    exact ⟨precedes_findOrAddRootOf _ isAttribute _, fun _ => by rw [type_findOrAddRootOf], rfl, rfl,
      rfl⟩
  | false =>
    obtain ⟨rfl, rfl⟩ := gives_openField.1 gives
    exact ⟨Declarations.precedes_addElement _, .ofSameBut (Declarations.sameBut_addElement _), rfl,
      rfl, rfl⟩

theorem referTo_redeclares {id : ElementId} {symbol : Symbol} {isTopLevel isAttribute : Bool}
    {name : String} (gives : (referTo id symbol isTopLevel isAttribute).Gives s name t) :
    Redeclares [] s t := by
  obtain ⟨-, -, -, rfl⟩ := gives_referTo.1 gives
  exact (redeclares_findOrAddRootOf s isAttribute symbol).trans
    (redeclares_modifyElement _ id fun _ _ => Bool.or_true _)

theorem resolveElement_redeclares {id : ElementId} {tag : StartTag} {isTopLevel isAttribute : Bool}
    {name answer : String}
    (gives : (resolveElement id tag name isTopLevel isAttribute).Gives s answer t) :
    Redeclares [] s t := by
  simp only [resolveElement, gives_get] at gives
  split at gives
  · exact referTo_redeclares gives
  · split at gives
    · obtain ⟨type, m, found, rest⟩ := gives_bind.1 gives
      rw [gives_modifyElement, gives_pure] at rest
      obtain ⟨-, rfl⟩ := rest
      exact (findType_redeclares found).trans (redeclares_modifyElement m id fun _ _ => rfl)
    · obtain ⟨-, rfl⟩ := gives_pure.1 gives
      exact .refl _

/-- Both runs give an open element its type or what it refers to. -/
theorem resolveElement_abreast (abreast : Abreast w p ts es s s') {id id' : ElementId}
    (held : id ∈ es) (pair : p.element id id') {tag : StartTag} {isTopLevel isAttribute : Bool}
    {name answer : String}
    (gives : (resolveElement id tag name isTopLevel isAttribute).Gives s answer t)
    (ahead : t.declarations.Precedes w.stop) :
    ∃ t' q, (resolveElement id' tag name isTopLevel isAttribute).Gives s' answer t' ∧
      Abreast w q ts es t t' ∧ p.Within q := by
  simp only [resolveElement, gives_get] at gives ⊢
  cases refers : s.symbol? (tag.plain? "ref") with
  | some symbol =>
    rw [refers] at gives
    obtain ⟨shared, t', q, gives', abreast', within⟩ := referTo_abreast abreast held pair gives ahead
    rw [(abreast.beside.symbol? refers).2 shared]
    exact ⟨t', q, gives', abreast', within⟩
  | none =>
    rw [refers] at gives
    rw [symbol?_eq_none s' refers]
    cases typed : s.symbol? (tag.plain? "type") with
    | none =>
      rw [typed] at gives
      rw [symbol?_eq_none s' typed]
      obtain ⟨rfl, rfl⟩ := gives_pure.1 gives
      exact ⟨s', p, gives_pure.2 ⟨rfl, rfl⟩, abreast, .refl p⟩
    | some symbol =>
      rw [typed] at gives
      obtain ⟨type, m, found, rest⟩ := gives_bind.1 gives
      rw [gives_modifyElement, gives_pure] at rest
      obtain ⟨rfl, rfl⟩ := rest
      have precedes := Declarations.precedes_modifyElement m.declarations id
        (f := fun e => { e with directType := some type }) fun _ _ => rfl
      obtain ⟨named, same⟩ := abreast.beside.symbol? typed
      obtain ⟨shared, inside, type', m', q, found', abreast', within, typePair⟩ :=
        findType_abreast abreast named found (precedes.trans ahead)
      rw [same shared]
      have tally := abreast'.tally.giveType (fun e => { e with directType := some type })
        (fun e => { e with directType := some type' }) held (within.element pair) typePair inside
        (fun _ => rfl) (fun _ => rfl) (fun _ => rfl) (fun _ => rfl) fun _ _ same => same
      refine ⟨_, q, gives_bind.2 ⟨type', m', found', ?_⟩, abreast'.redeclare (.refl q) tally, within⟩
      rw [gives_modifyElement, gives_pure]
      exact ⟨rfl, rfl⟩

/-- What is noted makes no difference. -/
theorem Abreast.note (abreast : Abreast w p ts es s s') (e e' : Event) :
    Abreast w p ts es (s.note e) (s'.note e') :=
  ⟨abreast.tally, abreast.typeStack, abreast.elementStack, abreast.beside.redeclare⟩

/-- What the first run is to make of what it holds open. -/
structure Foresees (w : Part) (t : Session) : Prop where
  ahead : t.declarations.Precedes w.stop
  element {id : ElementId} : id ∈ t.elementStack → (w.stop.element id).isDefined = true
  type {id : TypeId} : id ∈ t.typeStack → (w.stop.type id).isDefined = true
  base {id base : TypeId} : id ∈ t.typeStack → (t.declarations.type id).base = some base →
    (w.final.type id).base = some base

/-- All bases of the innermost open type are defined, as far as an attribute is checked against
them. -/
def KnowsBases (s : Session) : Prop :=
  s.allowUnsupported = false → ∀ parent, s.typeStack.head? = some parent →
    s.declarations.IsComplete parent

instance : DecidablePred KnowsBases := fun s => inferInstanceAs (Decidable
  (s.allowUnsupported = false → ∀ parent ∈ s.typeStack.head?, s.declarations.IsComplete parent))

theorem KnowsBases.redeclare (knows : KnowsBases s) {elements : List ElementId}
    (redeclares : Redeclares elements s t) : KnowsBases t := fun unsupported parent head =>
  (knows (redeclares.allowUnsupported.symm.trans unsupported) parent
    (redeclares.typeStack ▸ head)).mono redeclares.precedes redeclares.bases

theorem gives_addToType {id : ElementId} {name : String} {isAttribute : Bool} {u : Unit}
    {parent : TypeId} {below : List TypeId} (open_ : s.typeStack = parent :: below) :
    (addToType id name isAttribute).Gives s u t ↔
      (isAttribute = true → s.allowUnsupported = false →
          s.declarations.isChoice parent = false ∧
            (s.declarations.elemType parent).isScalar = false) ∧
        t = { s with declarations := s.declarations.addField parent name id } := by
  unfold addToType
  rw [gives_get]
  conv_lhs => rw [open_]
  dsimp only
  rw [gives_check]
  refine and_congr ?_ gives_modify
  cases isAttribute <;> cases s.allowUnsupported <;> simp

/-- Both runs add a field to the innermost open type. -/
theorem addToType_abreast (abreast : Abreast w p ts es s s') {id id' : ElementId}
    (pair : p.element id id') (inside : id.index < s.declarations.elements.size)
    (held : ∀ parent, s.typeStack.head? = some parent → parent ∈ ts) {name : String}
    {isAttribute : Bool} (knows : isAttribute = true → KnowsBases s)
    (knows' : isAttribute = true → KnowsBases s') {u : Unit}
    (gives : (addToType id name isAttribute).Gives s u t) :
    ∃ t', (addToType id' name isAttribute).Gives s' u t' ∧ Abreast w p ts es t t' := by
  have paired := abreast.typeStack
  cases open_ : s.typeStack with
  | nil =>
    rw [open_] at paired
    have open' := List.forall₂_nil_left_iff.1 paired
    unfold addToType at gives ⊢
    rw [gives_get, open_] at gives
    simp only [gives_get, open']
    obtain ⟨rfl, rfl⟩ := gives_pure.1 gives
    exact ⟨s', gives_pure.2 ⟨rfl, rfl⟩, abreast⟩
  | cons parent below =>
    rw [open_] at paired
    obtain ⟨parent', below', types, -, open'⟩ := List.forall₂_cons_left_iff.1 paired
    obtain ⟨allowed, rfl⟩ := (gives_addToType open_).1 gives
    refine ⟨_, (gives_addToType open').2 ⟨fun isAttr unsupported => ?_, rfl⟩,
      abreast.redeclare (.refl p) (abreast.tally.addField (held parent (by rw [open_]; rfl)) types
        pair inside name)⟩
    have unsupported' : s.allowUnsupported = false :=
      abreast.beside.allowUnsupported.symm.trans unsupported
    have alike := abreast.tally.alike types
      (knows isAttr unsupported' parent (by rw [open_]; rfl))
      (knows' isAttr unsupported parent' (by rw [open']; rfl))
    rw [alike.isChoice, alike.elemType]
    exact allowed isAttr unsupported'

theorem Together.isEmpty (together : Together w s s') :
    s'.typeStack.isEmpty = s.typeStack.isEmpty ∧
      s'.elementStack.isEmpty = s.elementStack.isEmpty := by
  obtain ⟨p, abreast⟩ := together
  have types := abreast.typeStack
  have elements := abreast.elementStack
  generalize s.typeStack = a, s'.typeStack = a', s.elementStack = b, s'.elementStack = b' at types elements
  constructor
  · cases types <;> rfl
  · cases elements <;> rfl

theorem ElementForm.matches_apply (form : ElementForm) {e e' : Element} (same : e.Matches p e') :
    (form.apply e).Matches p (form.apply e') :=
  same.plainly (fun _ => rfl) (fun _ => rfl) fun _ => rfl

theorem addToType_redeclares {id : ElementId} {name : String} {isAttribute : Bool} {u : Unit}
    (gives : (addToType id name isAttribute).Gives s u t) : Redeclares [] s t := by
  cases open_ : s.typeStack with
  | nil =>
    unfold addToType at gives
    rw [gives_get, open_] at gives
    obtain ⟨-, rfl⟩ := gives_pure.1 gives
    exact .refl _
  | cons parent below =>
    obtain ⟨-, rfl⟩ := (gives_addToType open_).1 gives
    exact ⟨Declarations.precedes_addField _ parent name id, .modifyType _ parent fun _ => rfl, rfl,
      rfl, rfl⟩

/-- The steps of an element or attribute tag. -/
theorem gives_startElement {tag : StartTag} {isAttribute : Bool} {u : Unit} :
    (startElement tag isAttribute).Gives s u t ↔ ∃ id m name n form,
      (openElement s.typeStack.isEmpty isAttribute ((tag.plain? "name").getD "")).Gives s id m ∧
        (resolveElement id tag ((tag.plain? "name").getD "") s.typeStack.isEmpty isAttribute).Gives
          (m.note (.elementDefined ((tag.plain? "name").getD "") s.typeStack.isEmpty isAttribute))
          name n ∧
        name ≠ "" ∧ ElementForm.read tag isAttribute = .ok form ∧
        (if !s.typeStack.isEmpty then addToType id name isAttribute else pure ()).Gives
          { n with declarations := n.declarations.modifyElement id form.apply } u t := by
  have named {name : String} : name ≠ "" ↔ ¬(!isAttribute && decide (name = "")) = true ∧
      ¬(isAttribute && decide (name = "")) = true := by
    cases isAttribute <;> simp
  unfold startElement
  simp only [gives_get, gives_bind (α := Unit) (β := ElementId), gives_note,
    gives_bind (α := Unit) (β := String), gives_check, gives_bind (α := Unit) (β := ElementForm),
    gives_ofExcept, gives_modifyElement, named]
  constructor
  · rintro ⟨id, m, opened, name, n, resolved, named, form, n, ⟨read, rfl⟩, named', added⟩
    exact ⟨id, m, name, n, form, opened, resolved, ⟨named, named'⟩, read, added⟩
  · rintro ⟨id, m, name, n, form, opened, resolved, ⟨named, named'⟩, read, added⟩
    exact ⟨id, m, opened, name, n, resolved, named, form, n, ⟨read, rfl⟩, named', added⟩

/-- Both runs open an element or attribute. -/
theorem startElement_abreast (together : Together w s s') {tag : StartTag} {isAttribute : Bool}
    (knows : isAttribute = true → KnowsBases s) (knows' : isAttribute = true → KnowsBases s')
    {u : Unit} (gives : (startElement tag isAttribute).Gives s u t) (foresees : Foresees w t) :
    ∃ t', (startElement tag isAttribute).Gives s' u t' ∧ Together w t t' := by
  obtain ⟨sameTypes, -⟩ := together.isEmpty
  obtain ⟨p, abreast⟩ := together
  obtain ⟨id, m, name, n, form, opened, resolved, named, read, added⟩ := gives_startElement.1 gives
  have defines (f : Element) (h : f.isDefined = true) : (form.apply f).isDefined = true := h
  have opens := (openElement_redeclares opened).note
    (.elementDefined ((tag.plain? "name").getD "") s.typeStack.isEmpty isAttribute)
  have resolves := resolveElement_redeclares resolved
  have forms := redeclares_modifyElement n id defines
  have adds : Redeclares [] { n with declarations := n.declarations.modifyElement id form.apply } t := by
    split at added
    · exact addToType_redeclares added
    · obtain ⟨-, rfl⟩ := gives_pure.1 added
      exact .refl _
  have whole := ((opens.trans resolves).trans forms).trans adds
  have later : n.declarations.Precedes w.stop :=
    forms.precedes.trans (adds.precedes.trans foresees.ahead)
  obtain ⟨id', m', q, opened', abreast₁, within₁, pair₁⟩ := openElement_abreast abreast opened
    (resolves.precedes.trans later) (foresees.element (whole.elementStack ▸ List.mem_cons_self))
  have noted := abreast₁.note
    (.elementDefined ((tag.plain? "name").getD "") s.typeStack.isEmpty isAttribute)
    (.elementDefined ((tag.plain? "name").getD "") s.typeStack.isEmpty isAttribute)
  obtain ⟨n', r, resolved', abreast₂, within₂⟩ :=
    resolveElement_abreast noted List.mem_cons_self pair₁ resolved later
  have pair₂ := within₂.element pair₁
  have abreast₃ := abreast₂.redeclare (.refl r) (abreast₂.tally.modifyElement form.apply form.apply
    List.mem_cons_self pair₂ defines (fun _ bound => ⟨bound.directType, bound.reference⟩)
    (fun _ bound => ⟨bound.directType, bound.reference⟩) fun _ _ => form.matches_apply)
  have done {t' : Session} (finish : (if !s'.typeStack.isEmpty then addToType id' name isAttribute
      else pure ()).Gives { n' with declarations := n'.declarations.modifyElement id' form.apply }
        u t') : (startElement tag isAttribute).Gives s' u t' :=
    gives_startElement.2 ⟨id', _, name, _, form, sameTypes ▸ opened', sameTypes ▸ resolved', named,
      read, finish⟩
  have whole' := (((openElement_redeclares opened').note
    (.elementDefined ((tag.plain? "name").getD "") s.typeStack.isEmpty isAttribute)).trans
      (resolveElement_redeclares resolved')).trans (redeclares_modifyElement n' id' defines)
  obtain ⟨t', finish, abreast₄⟩ : ∃ t', (if !s.typeStack.isEmpty then
      addToType id' name isAttribute else pure ()).Gives
        { n' with declarations := n'.declarations.modifyElement id' form.apply } u t' ∧
      Abreast w r s.typeStack (id :: s.elementStack) t t' := by
    split at added
    · rename_i nested
      rw [if_pos nested]
      have types : n.typeStack = s.typeStack := (opens.trans resolves).typeStack
      exact addToType_abreast abreast₃ pair₂ (abreast₃.tally.elements.held List.mem_cons_self).1
        (fun parent head => types ▸ List.mem_of_mem_head? head)
        (fun isAttr => (knows isAttr).redeclare ((opens.trans resolves).trans forms))
        (fun isAttr => (knows' isAttr).redeclare whole') added
    · rename_i top
      rw [if_neg top]
      obtain ⟨-, rfl⟩ := gives_pure.1 added
      exact ⟨_, gives_pure.2 ⟨rfl, rfl⟩, abreast₃⟩
  rw [← sameTypes] at finish
  refine ⟨t', done finish, r, ?_⟩
  rw [whole.typeStack, whole.elementStack]
  exact abreast₄

end

end Session

end XsdRecords
