import XsdRecords.Proofs.Declaration.Renumbering
import XsdRecords.Proofs.Session.Legs

/-! # A run that takes the legs of another

A second run reads the definitions of the first one in its own order.  Between two definitions what
it has declared stands for what the first run has declared in the end: `Halfway`.  It can take any leg
that it has not taken yet, and comes out halfway again. -/

namespace XsdRecords.Session

open XsdRecords.Declaration (Balance Stretch Declarations Element ElementId Pairing Part Renumbers
  Symbol Tally TypeDef TypeId blankType)
open XsdRecords.Markup (Balanced Lexeme Reader Scope Token)

variable {tour : Tour} {p : Pairing} {s s' t' : Session} {r r' q' : Reader}

/-! ## Where legs start -/

/-- What a run has declared where a leg starts is defined, or nothing is known of it. -/
structure Leg.Ready (leg : Leg tour) : Prop where
  homed : leg.start.declarations.Homed tour.base.target tour.base.registry
  freshType {id : TypeId} : (leg.start.declarations.type id).isDefined = false →
    (leg.start.declarations.type id).body = blankType
  freshElement {id : ElementId} : (leg.start.declarations.element id).isDefined = false →
    leg.start.declarations.element id = {}

namespace Leg

variable {leg : Leg tour}

theorem Ready.types (ready : leg.Ready) : leg.types.Sound TypeDef.isDefined blankType where
  settled defined := ((leg.onwards.trans leg.after).preserves.type
    ⟨defined, leg.poised.typeStack ▸ List.not_mem_nil⟩).2.1
  blank := ready.freshType

theorem Ready.elements (ready : leg.Ready) : leg.elements.Sound Element.isDefined {} where
  settled defined := ((leg.onwards.trans leg.after).preserves.element
    ⟨defined, leg.poised.elementStack ▸ List.not_mem_nil⟩).2
  blank := ready.freshElement

/-- What a leg defines, a second run has yet to define. -/
structure Awaited (leg : Leg tour) (p : Pairing) (d' : Declarations) : Prop where
  types : leg.types.Awaited TypeDef.isDefined d'.typeArena p.type
  elements : leg.elements.Awaited Element.isDefined d'.elementArena p.element

/-- What a leg declares, a second run has declared. -/
structure Passed (leg : Leg tour) (p : Pairing) (d' : Declarations) : Prop where
  types : leg.types.Passed TypeDef.isDefined d'.typeArena p.type
  elements : leg.elements.Passed Element.isDefined d'.elementArena p.element

end Leg

/-! ## Halfway -/

/-- A second run between two definitions. -/
structure Halfway (tour : Tour) (p : Pairing) (s' : Session) (r' : Reader) : Prop where
  poised : Poised tour.base tour.reader s' r'
  types : Balance TypeDef.isDefined blankType tour.final.declarations.typeArena
    s'.declarations.typeArena (TypeDef.Matches p) p.type
  elements : Balance Element.isDefined {} tour.final.declarations.elementArena
    s'.declarations.elementArena (Element.Matches p) p.element
  symbol {id id' : TypeId} : p.type id id' →
    (tour.final.declarations.type id).symbol.Alike (s'.declarations.type id').symbol
  root {id id' : ElementId} {isAttribute : Bool} {symbol : Symbol} : p.element id id' →
    (tour.final.declarations.place? ⟨.root isAttribute, symbol⟩ = some id.index ↔
      s'.declarations.place? ⟨.root isAttribute, symbol⟩ = some id'.index)
  builtins {symbol : Symbol} : Declarations.initial.typeTable.find? symbol ≠ none →
    s'.declarations.typeTable.find? symbol ≠ none
  intact' : s'.declarations.Intact True

theorem Poised.agrees {b : Session} {r₀ : Reader} (poised : Poised b r₀ s r) :
    b.worklist.Agrees (s.settled r).worklist :=
  poised.worklist.trans (Worklist.agrees_modifyCurrent poised.inside _)

theorem Poised.target {b : Session} {r₀ : Reader} (poised : Poised b r₀ s r) :
    (s.settled r).target = b.target := by
  unfold Session.target Worklist.currentEntry
  rw [poised.agrees.current]
  exact poised.agrees.target _

/-- The prefixes in scope are the same between any two definitions. -/
theorem Poised.alike {b : Session} {r₀ : Reader} (poised : Poised b r₀ s r)
    (poised' : Poised b r₀ s' r') :
    (s.settled r).scope.Alike b.registry (s'.settled r').scope := by
  unfold settled
  rw [scope_withScope poised.inside, scope_withScope poised'.inside]
  refine ⟨?_, ?_, ?_⟩
  · rw [poised.bindings, poised'.bindings]
    exact List.forall₂_same.2 fun _ _ => ⟨rfl, .inl rfl⟩
  · rw [r.registry_settle]
    exact poised.grows
  · rw [r'.registry_settle]
    exact poised'.grows

theorem Halfway.level (half : Halfway tour p s' r') {leg : Leg tour} (ready : leg.Ready)
    (awaited : leg.Awaited p s'.declarations) :
    Level (leg.part s'.declarations p) leg.start leg.reader s' r' where
  together := by
    have tally : Tally (leg.part s'.declarations p) p [] [] leg.start.declarations s'.declarations := {
      symbol := half.symbol
      root := half.root
      homed := ready.homed
      builtins := half.builtins
      types := (half.types.ledger ready.types awaited.types).release
        (fun {y} (held : y ∈ []) => absurd held List.not_mem_nil)
        (fun {t t'} (same : t.Matches p t') => same.isDefined) fun held => held.elim
      elements := (half.elements.ledger ready.elements awaited.elements).release
        (fun {y} (held : y ∈ []) => absurd held List.not_mem_nil)
        (fun {e e'} (same : e.Matches p e') => same.isDefined) fun held => held.elim
      begun := .refl _
      intact := leg.firm.declarations
      intact' := half.intact' }
    have poised := leg.poised
    have poised' := half.poised
    refine ⟨p, ?_, ?_, ?_, ?_⟩
    · change Tally _ p leg.start.typeStack leg.start.elementStack _ _
      rw [poised.typeStack, poised.elementStack]
      exact tally
    · change List.Forall₂ p.type leg.start.typeStack s'.typeStack
      rw [poised.typeStack, poised'.typeStack]
      exact .nil
    · change List.Forall₂ p.element leg.start.elementStack s'.elementStack
      rw [poised.elementStack, poised'.elementStack]
      exact .nil
    · refine ⟨poised'.allowUnsupported.trans poised.allowUnsupported.symm,
        poised'.tagStack.trans poised.tagStack.symm, poised'.skipDepth.trans poised.skipDepth.symm,
        poised.agrees.symm.trans poised'.agrees, ?_, poised.alike poised', fun member => ?_⟩
      · exact poised.target
      · unfold settled at member
        rw [scope_withScope poised.inside] at member
        exact leg.firm.named (mem_settle member)
  marks := half.poised.marks.trans leg.poised.marks.symm
  inside := leg.poised.inside
  inside' := half.poised.inside
  ok' := half.poised.ok

/-- A run that has taken a leg is halfway again. -/
structure Takes (leg : Leg tour) (p : Pairing) (s' : Session) (q : Pairing) (t' : Session)
    (q' : Reader) : Prop where
  half : Halfway tour q t' q'
  within : p.Within q
  passed : leg.Passed q t'.declarations
  homed : leg.stop.declarations.Homed tour.base.target tour.base.registry
  awaited {other : Leg tour} : leg.Apart other → other.Awaited p s'.declarations →
    other.Awaited q t'.declarations

theorem Poised.of_level {w : Part} {b : Session} {r₀ q : Reader} {t : Session}
    (registry : w.registry = b.registry)
    (known : ∀ entry ∈ (r₀.settle b.scope).2.bindings.entries, b.registry.IsNumber entry.2)
    (poised : Poised b r₀ t q) (level : Level w t q t' q') : Poised b r₀ t' q' := by
  obtain ⟨together, marks, inside, inside', ok'⟩ := level
  obtain ⟨pairing, -, types, elements, beside⟩ := together
  have alike := beside.scope
  unfold settled at alike
  rw [scope_withScope inside, scope_withScope inside', registry] at alike
  refine ⟨⟨marks.trans poised.marks, ?_⟩, ok', inside', ?_, ?_, ?_, ?_, ?_, ?_, ?_⟩
  · rw [← poised.bindings] at known ⊢
    exact alike.bindings_eq known
  · exact beside.allowUnsupported.trans poised.allowUnsupported
  · exact beside.tagStack.trans poised.tagStack
  · exact beside.skipDepth.trans poised.skipDepth
  · change List.Forall₂ _ t.elementStack t'.elementStack at elements
    rw [poised.elementStack] at elements
    exact List.forall₂_nil_left_iff.1 elements
  · change List.Forall₂ _ t.typeStack t'.typeStack at types
    rw [poised.typeStack] at types
    exact List.forall₂_nil_left_iff.1 types
  · exact (poised.agrees.trans beside.worklist).trans
      (Worklist.agrees_modifyCurrent inside' _).symm
  · have grows := alike.grows'
    rw [Reader.registry_settle] at grows
    exact grows

/-- What two legs declare is not the same. -/
theorem Leg.Apart.types {leg other : Leg tour} (apart : leg.Apart other) :
    (∀ {id}, other.types.stop.has id → ¬other.types.start.has id → leg.types.stop.has id →
        leg.types.start.has id) ∧
      ∀ {id}, other.types.Defines TypeDef.isDefined id → ¬leg.types.Defines TypeDef.isDefined id := by
  obtain before | after := apart
  · exact ⟨fun _ fresh is => absurd (Nat.lt_of_lt_of_le is before.types) fresh,
      fun defines own => Bool.false_ne_true (defines.1.symm.trans (before.isDefined_type own.2))⟩
  · exact ⟨fun is _ _ => Nat.lt_of_lt_of_le is after.types,
      fun defines own => Bool.false_ne_true (own.1.symm.trans (after.isDefined_type defines.2))⟩

theorem Leg.Apart.elements {leg other : Leg tour} (apart : leg.Apart other) :
    (∀ {id}, other.elements.stop.has id → ¬other.elements.start.has id → leg.elements.stop.has id →
        leg.elements.start.has id) ∧
      ∀ {id}, other.elements.Defines Element.isDefined id →
        ¬leg.elements.Defines Element.isDefined id := by
  obtain before | after := apart
  · exact ⟨fun _ fresh is => absurd (Nat.lt_of_lt_of_le is before.elements) fresh,
      fun defines own => Bool.false_ne_true (defines.1.symm.trans (before.isDefined_element own.2))⟩
  · exact ⟨fun is _ _ => Nat.lt_of_lt_of_le is after.elements,
      fun defines own => Bool.false_ne_true (own.1.symm.trans (after.isDefined_element defines.2))⟩

theorem Halfway.takes (half : Halfway tour p s' r') {leg : Leg tour}
    (level : Level (leg.part s'.declarations p) leg.stop leg.reader' t' q') :
    ∃ q, Takes leg p s' q t' q' := by
  have known (entry) (member : entry ∈ (tour.reader.settle tour.base.scope).2.bindings.entries) :
      tour.base.registry.IsNumber entry.2 :=
    (tour.firm.intact.known _).bindings entry (mem_settle member)
  have poised := leg.poised'.of_level rfl known level
  obtain ⟨q, tally, -, -, -⟩ := level.together
  change Tally _ q leg.stop.typeStack leg.stop.elementStack leg.stop.declarations
    t'.declarations at tally
  rw [leg.poised'.typeStack, leg.poised'.elementStack] at tally
  have types := tally.types.release (fun held : False => held.elim)
    (fun {t t'} (same : t.Matches q t') => same.isDefined)
    fun held _ => absurd held List.not_mem_nil
  have elements := tally.elements.release (fun held : False => held.elim)
    (fun {e e'} (same : e.Matches q e') => same.isDefined)
    fun held _ => absurd held List.not_mem_nil
  refine ⟨q, ⟨poised, types.balance, elements.balance, tally.symbol, tally.root, tally.builtins,
    tally.intact'⟩, ⟨types.kept, elements.kept⟩, ⟨types.passed, elements.passed⟩, tally.homed,
    fun {other} apart awaited => ⟨?_, ?_⟩⟩
  · refine types.awaited half.types awaited.types id (fun {id'} defined => ?_) apart.types.1
      apart.types.2
    by_contra new
    rw [show (leg.part s'.declarations p).typeOrigin.arena.entry id' = blankType from
      Declaration.body_of_not_has new] at defined
    cases defined
  · refine elements.awaited half.elements awaited.elements id (fun {id'} defined => ?_)
      apart.elements.1 apart.elements.2
    by_contra new
    rw [show (leg.part s'.declarations p).elementOrigin.arena.entry id' = {} from
      Declaration.element_of_not_has new] at defined
    cases defined

/-! ## From leg to leg -/

theorem Tour.acyclic (tour : Tour) : tour.final.declarations.Acyclic := by
  have edits := tour.onwards.edits
  rw [tour.declarations] at edits
  exact (Declarations.wellBased_initial.edits edits).acyclic

/-- A second run that is halfway takes a leg that it awaits. -/
theorem Halfway.step (half : Halfway tour p s' r') {leg : Leg tour} (ready : leg.Ready)
    (awaited : leg.Awaited p s'.declarations) {lexemes' : List Lexeme}
    (tokens : lexemes'.map (·.token) = leg.lexemes.map (·.token)) (rest' : List Lexeme)
    (room' : (readLexemes s' r' (lexemes' ++ rest')).registry.HasRoom)
    (timely' : ∀ v ∈ visitsOf s' r' (lexemes' ++ rest'), v.IsTimely) :
    ∃ visits' t' q' q, Traverses s' r' lexemes' visits' t' q' ∧ Takes leg p s' q t' q' := by
  obtain ⟨visits', t', q', passes', level⟩ := (half.level ready awaited).passes tour.acyclic
    leg.passes tokens (fun _ member => leg.foreseen _ _ member)
    (fun v member => ((leg.passes.firm leg.firm leg.firm'.room).2 v member).1.room) rest' room'
    timely'
  obtain ⟨q, takes⟩ := half.takes level
  exact ⟨visits', t', q', q, passes', takes⟩

theorem Traverses.edits {t : Session} {q : Reader} {lexemes : List Lexeme} {visits : List Visit}
    (passes : Traverses s r lexemes visits t q) (inRange : s.declarations.InRange) : Edited s t := by
  refine passes.run.inv (P := Edited s) .refl (fun untouched before => ?_) fun v _ _ before => ?_
  · rw [Edited, untouched.declarations]
    exact before
  · exact before.trans (readNode_edits (before.inRange inRange) v.node v.position)

/-- A second run takes legs that it awaits, one after another. -/
theorem Halfway.journey {legs : List (Leg tour)} (half : Halfway tour p s' r')
    (ready : ∀ leg ∈ legs, leg.Ready) (apart : legs.Pairwise Leg.Apart)
    (awaited : ∀ leg ∈ legs, leg.Awaited p s'.declarations) {lexemes' : List Lexeme}
    (tokens : lexemes'.map (·.token) = legs.flatMap fun leg => leg.lexemes.map (·.token))
    (rest' : List Lexeme) (room' : (readLexemes s' r' (lexemes' ++ rest')).registry.HasRoom)
    (timely' : ∀ v ∈ visitsOf s' r' (lexemes' ++ rest'), v.IsTimely) :
    ∃ visits' t' q' q, Traverses s' r' lexemes' visits' t' q' ∧ Halfway tour q t' q' ∧ p.Within q ∧
      ∀ leg ∈ legs, leg.Passed q t'.declarations := by
  induction legs generalizing p s' r' lexemes' with
  | nil =>
    obtain rfl := List.map_eq_nil_iff.1 tokens
    exact ⟨[], s', r', p, .nil s' r', half, .refl p, by simp⟩
  | cons leg legs ih =>
    obtain ⟨first, others, rfl, own, tokens⟩ := List.map_eq_append_iff.1 tokens
    obtain ⟨before, apart⟩ := List.pairwise_cons.1 apart
    obtain ⟨here, ready⟩ := List.forall_mem_cons.1 ready
    obtain ⟨now, awaited⟩ := List.forall_mem_cons.1 awaited
    rw [List.append_assoc] at room' timely'
    obtain ⟨visits₁, m, k, q, head, takes⟩ := half.step here now own (others ++ rest') room' timely'
    rw [head.readLexemes_append half.poised.ok] at room'
    rw [head.visitsOf_append half.poised.ok] at timely'
    obtain ⟨visits₂, t', q', last, tail, half', within, passed⟩ := ih takes.half ready apart
      (fun other member => takes.awaited (before other member) (awaited other member)) tokens room'
      fun v member => timely' v (List.mem_append_right _ member)
    have edits := tail.edits takes.half.intact'.inRange
    refine ⟨_, t', q', last, head.append tail, half', takes.within.trans within,
      List.forall_mem_cons.2 ⟨⟨?_, ?_⟩, passed⟩⟩
    · exact takes.passed.types.later within.type fun defined => edits.precedes.isDefined_type defined
    · exact takes.passed.elements.later within.element fun defined =>
        edits.precedes.isDefined_element defined

/-! ## Where a run begins -/

theorem Traverses.unique {t t' : Session} {q q' : Reader} {lexemes : List Lexeme}
    {visits visits' : List Visit} (passes : Traverses s r lexemes visits t q)
    (passes' : Traverses s r lexemes visits' t' q') : visits' = visits ∧ t' = t ∧ q' = q := by
  induction passes generalizing visits' with
  | nil =>
    cases passes'
    exact ⟨rfl, rfl, rfl⟩
  | cons delivered _ _ ih =>
    cases passes' with
    | cons delivered' _ later' =>
      rw [delivered] at delivered'
      cases delivered'
      obtain ⟨rfl, same⟩ := ih later'
      exact ⟨rfl, same⟩

theorem place?_root_initial (isAttribute : Bool) (symbol : Symbol) :
    Declarations.initial.place? ⟨.root isAttribute, symbol⟩ = none :=
  Declarations.initial_induction (P := fun d => d.place? ⟨.root isAttribute, symbol⟩ = none)
    (by cases isAttribute <;> rfl) fun _ _ _ h => by cases isAttribute <;> exact h

theorem homed_initial (target : NamespaceId) (registry : Registry) :
    Declarations.initial.Homed target registry where
  distinct found := by
    rw [place?_root_initial] at found
    cases found
  inTarget found := by
    rw [place?_root_initial] at found
    cases found
  shared {symbol id} found := by
    rw [← Declarations.listed_initial.symbol found]
    refine .inr (Declarations.forall_type_initial
      (P := fun t => registry.IsNumber t.symbol.namespaceId) registry.isNumber_none
      (fun _ _ => Registry.isNumber_fixed (e := (.xmlSchema, xmlSchemaUri)) ?_ registry)
      id)
    decide
  outside found _ _ := by
    rw [found]
    exact Option.some_ne_none _

theorem matches_initial (p : Pairing) (id : TypeId) :
    (Declarations.initial.type id).body.Matches p (Declarations.initial.type id).body :=
  Declarations.forall_type_initial (P := fun t => t.body.Matches p t.body) ⟨.none, .nil, rfl⟩
    (fun _ _ => ⟨.none, .nil, rfl⟩) id

theorem freshType_initial {id : TypeId}
    (undefined : (Declarations.initial.type id).isDefined = false) :
    (Declarations.initial.type id).body = blankType :=
  Declarations.forall_type_initial (P := fun t => t.isDefined = false → t.body = blankType)
    (fun _ => rfl) (fun _ _ undefined => nomatch undefined) id undefined

theorem size_elements_initial : Declarations.initial.elements.size = 0 :=
  Declarations.initial_induction (P := fun d => d.elements.size = 0) rfl fun _ _ _ h => h

/-- A run that has read the opening tag is halfway. -/
theorem Tour.halfway (tour : Tour) (poised : Poised tour.base tour.reader s' r')
    (same : s'.declarations = Declarations.initial) : Halfway tour .initial s' r' := by
  have begun := tour.declarations
  have onwards := tour.onwards
  have precedes := onwards.edits.precedes
  have final {id : TypeId} (defined : (Declarations.initial.type id).isDefined = true) :
      (tour.final.declarations.type id).body = (Declarations.initial.type id).body := by
    rw [← begun] at defined ⊢
    exact (onwards.preserves.type ⟨defined, tour.typeStack ▸ List.not_mem_nil⟩).2.1
  rw [begun] at precedes
  have intact := tour.firm.declarations
  rw [begun] at intact
  constructor
  case poised => exact poised
  case intact' => exact same ▸ intact
  case builtins => exact fun known => same ▸ known
  case root => exact fun pair => pair.elim
  case symbol =>
    rintro id _ ⟨rfl, is⟩
    rw [same]
    exact .inl (precedes.symbol is).symm
  case elements =>
    refine ⟨False.elim, False.elim, False.elim, False.elim, fun {id} is => ?_, False.elim, False.elim⟩
    change id.index < s'.declarations.elements.size at is
    rw [same, size_elements_initial] at is
    cases is
  case types =>
    rw [same]
    refine ⟨?_, ?_, ?_, ?_, fun is => ⟨_, rfl, is⟩, ?_, ?_⟩
    · rintro id _ ⟨rfl, is⟩
      exact Nat.lt_of_lt_of_le is precedes.types
    · rintro id _ ⟨rfl, is⟩
      exact is
    · rintro id _ _ ⟨rfl, -⟩ ⟨rfl, -⟩
      rfl
    · rintro id _ _ ⟨rfl, -⟩ ⟨rfl, -⟩
      rfl
    · rintro _ id ⟨rfl, -⟩ defined
      change TypeDef.Matches _ (tour.final.declarations.type id).body _
      rw [final defined]
      exact matches_initial _ id
    · rintro _ id ⟨rfl, -⟩ undefined
      exact freshType_initial undefined

/-- Where a run begins all its legs are to come. -/
theorem Tour.awaited (tour : Tour) (leg : Leg tour) :
    leg.Awaited .initial Declarations.initial := by
  have precedes := leg.before.edits.precedes
  rw [tour.declarations] at precedes
  refine ⟨⟨?_, ?_⟩, ⟨False.elim, False.elim⟩⟩
  · rintro id _ ⟨rfl, is⟩ - -
    exact Nat.lt_of_lt_of_le is precedes.types
  · rintro id _ ⟨rfl, -⟩ defined defines
    exact Bool.false_ne_true (defines.1.symm.trans (precedes.isDefined_type defined))

/-! ## What holds where legs start -/

/-- What is not defined between two definitions is blank. -/
structure Fresh (d : Declarations) : Prop where
  type {id : TypeId} : (d.type id).isDefined = false → (d.type id).body = blankType
  element {id : ElementId} : (d.element id).isDefined = false → d.element id = {}

theorem Halfway.fresh (half : Halfway tour p s' r') : Fresh s'.declarations where
  type {id} undefined := by
    by_cases is : s'.declarations.typeArena.has id
    · obtain ⟨_, pair⟩ := half.types.covers' is
      exact half.types.blank' pair undefined
    · exact Declaration.body_of_not_has is
  element {id} undefined := by
    by_cases is : s'.declarations.elementArena.has id
    · obtain ⟨_, pair⟩ := half.elements.covers' is
      exact half.elements.blank' pair undefined
    · exact Declaration.element_of_not_has is

/-- A run is a second run of its own. -/
theorem Laid.ready {legs : List (Leg tour)} (laid : Laid tour s' r' legs)
    (half : Halfway tour p s' r') (homed : s'.declarations.Homed tour.base.target tour.base.registry)
    (awaited : ∀ leg ∈ legs, leg.Awaited p s'.declarations) :
    (∀ leg ∈ legs, leg.Ready) ∧ Fresh tour.final.declarations ∧
      tour.final.declarations.Homed tour.base.target tour.base.registry := by
  induction laid generalizing p with
  | nil => exact ⟨by simp, half.fresh, homed⟩
  | cons leg later ih =>
    have fresh := half.fresh
    have here : leg.Ready := ⟨homed, fresh.type, fresh.element⟩
    obtain ⟨now, awaited⟩ := List.forall_mem_cons.1 awaited
    have apart {other : Leg tour} (member : other ∈ _) : leg.Apart other :=
      .inl (later.precedes member)
    have stop : readLexemes leg.start leg.reader (leg.lexemes ++ []) = leg.stop :=
      leg.passes.readLexemes_append leg.poised.ok []
    have visited : visitsOf leg.start leg.reader (leg.lexemes ++ []) = leg.visits := by
      rw [leg.passes.visitsOf_append leg.poised.ok, visitsOf, List.append_nil]
    obtain ⟨_, _, _, q, passes, takes⟩ := half.step here now rfl [] (stop ▸ leg.firm'.room)
      (visited ▸ leg.timely)
    obtain ⟨rfl, rfl, rfl⟩ := leg.passes.unique passes
    obtain ⟨others, final⟩ := ih takes.half takes.homed fun other member =>
      takes.awaited (apart member) (awaited other member)
    exact ⟨List.forall_mem_cons.2 ⟨here, others⟩, final⟩

/-! ## Where both runs end -/

theorem size_le_of_pairs {m n : Nat} {R : Nat → Nat → Prop} (covers : ∀ k < m, ∃ k' < n, R k k')
    (injective : ∀ {j k l}, R j l → R k l → j = k) : m ≤ n := by
  choose f inside related using covers
  have apart : Function.Injective fun k : Fin m => (⟨f k k.2, inside k k.2⟩ : Fin n) := by
    intro j k same
    refine Fin.ext (injective (related j j.2) ?_)
    rw [show f j j.2 = f k k.2 from congrArg Fin.val same]
    exact related k k.2
  simpa using Fintype.card_le_of_injective _ apart

section Ends

variable {legs : List (Leg tour)} (laid : Laid tour tour.base tour.reader legs)
  (half : Halfway tour p t' q') (passed : ∀ leg ∈ legs, leg.Passed p t'.declarations)

include laid half passed

/-- Every element of the first run has a partner, which is defined if the element is. -/
theorem Halfway.exists_element (id : ElementId)
    (is : id.index < tour.final.declarations.elements.size) : ∃ id', p.element id id' ∧
      ((tour.final.declarations.element id).isDefined = true →
        (t'.declarations.element id').isDefined = true) := by
  have paired : ∃ id', p.element id id' := by
    obtain early | ⟨leg, member, own, fresh⟩ :=
      laid.gains (P := fun s => id.index < s.declarations.elements.size) is
    · rw [tour.declarations, size_elements_initial] at early
      cases early
    · exact (passed leg member).elements.covers own fresh
  obtain ⟨id', pair⟩ := paired
  refine ⟨id', pair, fun defined => ?_⟩
  obtain early | ⟨leg, member, own, undefined⟩ :=
    laid.gains (P := fun s => (s.declarations.element id).isDefined = true) defined
  · rw [tour.declarations, Declarations.element_initial] at early
    cases early
  · obtain ⟨_, pair', defined'⟩ := (passed leg member).elements.defines
      ⟨Bool.eq_false_iff.2 undefined, own⟩
    rw [half.elements.unique pair pair']
    exact defined'

variable (within : Pairing.initial.Within p) (precedes : Declarations.initial.Precedes t'.declarations)

include within precedes

/-- Every type of the first run has a partner, which is defined if the type is. -/
theorem Halfway.exists_type (id : TypeId) (is : id.index < tour.final.declarations.types.size) :
    ∃ id', p.type id id' ∧
      ((tour.final.declarations.type id).isDefined = true →
        (t'.declarations.type id').isDefined = true) := by
  have paired : ∃ id', p.type id id' := by
    obtain early | ⟨leg, member, own, fresh⟩ :=
      laid.gains (P := fun s => id.index < s.declarations.types.size) is
    · rw [tour.declarations] at early
      exact ⟨id, within.type ⟨rfl, early⟩⟩
    · exact (passed leg member).types.covers own fresh
  obtain ⟨id', pair⟩ := paired
  refine ⟨id', pair, fun defined => ?_⟩
  obtain early | ⟨leg, member, own, undefined⟩ :=
    laid.gains (P := fun s => (s.declarations.type id).isDefined = true) defined
  · rw [tour.declarations] at early
    have inside : id.index < Declarations.initial.types.size :=
      Declarations.lt_size_of_ne_blank fun blank => by
        rw [blank] at early
        cases early
    rw [half.types.unique pair (within.type ⟨rfl, inside⟩)]
    exact precedes.isDefined_type early
  · obtain ⟨_, pair', defined'⟩ := (passed leg member).types.defines
      ⟨Bool.eq_false_iff.2 undefined, own⟩
    rw [half.types.unique pair pair']
    exact defined'

/-- A run that has taken all legs has declared what the first run has. -/
theorem Halfway.renumbers (fresh : Fresh tour.final.declarations)
    (pristine : tour.final.declarations.Pristine) (pristine' : t'.declarations.Pristine) :
    Renumbers p tour.final.declarations t'.declarations where
  types := by
    refine Nat.le_antisymm (size_le_of_pairs (R := fun k k' => p.type ⟨k'⟩ ⟨k⟩) (fun k is => ?_)
      fun pair pair' => ?_) (size_le_of_pairs (R := fun k k' => p.type ⟨k⟩ ⟨k'⟩) (fun k is => ?_)
      fun pair pair' => ?_)
    · obtain ⟨id, pair⟩ := half.types.covers' (y := ⟨k⟩) is
      exact ⟨id.index, half.types.inFinal pair, pair⟩
    · exact congrArg TypeId.index (half.types.unique pair pair')
    · obtain ⟨id', pair, -⟩ := half.exists_type laid passed within precedes ⟨k⟩ is
      exact ⟨id'.index, half.types.present pair, pair⟩
    · exact congrArg TypeId.index (half.types.injective pair pair')
  elements := by
    refine Nat.le_antisymm (size_le_of_pairs (R := fun k k' => p.element ⟨k'⟩ ⟨k⟩) (fun k is => ?_)
      fun pair pair' => ?_) (size_le_of_pairs (R := fun k k' => p.element ⟨k⟩ ⟨k'⟩) (fun k is => ?_)
      fun pair pair' => ?_)
    · obtain ⟨id, pair⟩ := half.elements.covers' (y := ⟨k⟩) is
      exact ⟨id.index, half.elements.inFinal pair, pair⟩
    · exact congrArg ElementId.index (half.elements.unique pair pair')
    · obtain ⟨id', pair, -⟩ := half.exists_element laid passed ⟨k⟩ is
      exact ⟨id'.index, half.elements.present pair, pair⟩
    · exact congrArg ElementId.index (half.elements.injective pair pair')
  hasType pair := ⟨half.types.inFinal pair, half.types.present pair⟩
  hasElement pair := ⟨half.elements.inFinal pair, half.elements.present pair⟩
  eq_type pair pair' := ⟨fun same => half.types.unique (same ▸ pair) pair',
    fun same => half.types.injective (same ▸ pair) pair'⟩
  eq_element pair pair' := ⟨fun same => half.elements.unique (same ▸ pair) pair',
    fun same => half.elements.injective (same ▸ pair) pair'⟩
  type {id id'} pair := by
    have same := half.types.same pair (TypeDef.matches_blank p _ _) fresh.type fun defined => by
      obtain ⟨other, pair', done⟩ :=
        half.exists_type laid passed within precedes _ (half.types.inFinal pair)
      rw [half.types.unique pair pair']
      exact done defined
    exact ⟨TypeDef.matches_body_iff.1 same, half.symbol pair,
      (pristine'.override id').trans (pristine.override id).symm⟩
  element pair := half.elements.same pair (Element.matches_blank p) fresh.element fun defined => by
    obtain ⟨other, pair', done⟩ := half.exists_element laid passed _ (half.elements.inFinal pair)
    rw [half.elements.unique pair pair']
    exact done defined

end Ends

end XsdRecords.Session
