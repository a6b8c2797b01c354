import XsdRecords.Proofs.Session.Abreast

/-! # Two runs at each tag

What the first of two runs abreast does at a tag, the second one does as well: it opens the same
types and groups, derives the same, adds the same enumerators, and closes what the first one
closes. -/

namespace XsdRecords.Session

open XsdRecords.Declaration
open XsdRecords.Declaration.Declarations (Precedes)
open XsdRecords.Markup (SameTag StartTag)
open XsdRecords.Vocabulary (Tag Builtin)
open XsdRecords.Action

variable {w : Part} {p q : Pairing} {ts : List TypeId} {es : List ElementId} {s s' t t' : Session}

/-! ## Types -/

theorem gives_openType_root {name : String} {id : TypeId} (empty : s.elementStack = []) :
    (openType name).Gives s id t ↔ name ≠ "" ∧ (findType ⟨s.target, name⟩).Gives s id t ∧
      (t.declarations.type id).isDefined = false := by
  unfold openType
  rw [gives_get, empty]
  dsimp only
  rw [gives_check]
  refine and_congr_right fun _ => ?_
  simp only [gives_bind (α := TypeId) (β := TypeId), gives_declarations, gives_check, gives_pure,
    Bool.not_eq_true]
  constructor
  · rintro ⟨_, _, found, undefined, rfl, rfl⟩
    exact ⟨found, undefined⟩
  · rintro ⟨found, undefined⟩
    exact ⟨_, _, found, undefined, rfl, rfl⟩

theorem gives_openType_local {name : String} {id : TypeId} {element : ElementId}
    {below : List ElementId} (open_ : s.elementStack = element :: below) :
    (openType name).Gives s id t ↔ name = "" ∧ ∃ m,
      (findType s.declarations.anonymousSymbol.2).Gives
        { s with declarations := s.declarations.anonymousSymbol.1 } id m ∧
      t = { m with
        declarations := m.declarations.modifyElement element fun e =>
          { e with directType := some id } } := by
  unfold openType
  rw [gives_get]
  conv_lhs => rw [open_]
  dsimp only
  rw [gives_check, not_not]
  refine and_congr_right fun _ => ?_
  rw [gives_declare]
  simp only [gives_bind (α := TypeId) (β := TypeId), gives_modifyElement, gives_pure]
  constructor
  · rintro ⟨_, m, found, rfl, rfl⟩
    exact ⟨m, found, rfl⟩
  · rintro ⟨m, found, rfl⟩
    exact ⟨_, m, found, rfl, rfl⟩

theorem openType_redeclares {name : String} {id : TypeId} (gives : (openType name).Gives s id t) :
    Redeclares [] s t := by
  cases open_ : s.elementStack with
  | nil =>
    obtain ⟨-, found, -⟩ := (gives_openType_root open_).1 gives
    exact findType_redeclares found
  | cons element below =>
    obtain ⟨-, m, found, rfl⟩ := (gives_openType_local open_).1 gives
    have mints : Redeclares [] s { s with declarations := s.declarations.anonymousSymbol.1 } :=
      ⟨Declarations.precedes_anonymousSymbol _, .refl _, rfl, rfl, rfl⟩
    exact (mints.trans (findType_redeclares found)).trans (redeclares_modifyElement m element
      fun _ _ => rfl)

/-- Both runs open the type that a tag defines. -/
theorem openType_abreast (abreast : Abreast w p ts es s s') {name : String} {id : TypeId}
    (held : ∀ element, s.elementStack.head? = some element → element ∈ es)
    (gives : (openType name).Gives s id t) (ahead : t.declarations.Precedes w.stop)
    (defined : (w.stop.type id).isDefined = true) :
    ∃ id' t' q, (openType name).Gives s' id' t' ∧ Abreast w q (id :: ts) es t t' ∧ p.Within q ∧
      q.type id id' := by
  have paired := abreast.elementStack
  cases open_ : s.elementStack with
  | nil =>
    rw [open_] at paired
    have open' := List.forall₂_nil_left_iff.1 paired
    obtain ⟨named, found, undefined⟩ := (gives_openType_root open_).1 gives
    have same : s'.target = s.target := abreast.beside.target'.trans abreast.beside.target.symm
    have known : (⟨s.target, name⟩ : Symbol).namespaceId ≠ .anonymous :=
      abreast.beside.target ▸ w.target_ne_anonymous
    obtain ⟨-, inside, id', t', q, found', abreast', within, pair⟩ :=
      findType_abreast abreast known found ahead
    have held := abreast'.tally.holdType pair inside undefined defined
    refine ⟨id', t', q, (gives_openType_root open').2 ⟨named, same ▸ found', ?_⟩, ?_, within, pair⟩
    · exact abreast'.tally.undefined_type pair undefined defined
    · exact ⟨held, abreast'.typeStack, abreast'.elementStack, abreast'.beside⟩
  | cons element below =>
    rw [open_] at paired
    obtain ⟨element', below', pair, -, open'⟩ := List.forall₂_cons_left_iff.1 paired
    obtain ⟨unnamed, m, found, rfl⟩ := (gives_openType_local open_).1 gives
    have before := Declarations.precedes_modifyElement m.declarations element
      (f := fun e => { e with directType := some id }) fun _ _ => rfl
    obtain ⟨undefined, inside, id', m', q, found', abreast', within, typePair⟩ :=
      mintType_abreast abreast found (before.trans ahead)
    have tally := (abreast'.tally.holdType typePair inside undefined defined).giveType
      (fun e => { e with directType := some id }) (fun e => { e with directType := some id' })
      (held element (by rw [open_]; rfl)) (within.element pair) typePair inside (fun _ => rfl)
      (fun _ => rfl) (fun _ => rfl) (fun _ => rfl) fun _ _ same => same
    exact ⟨id', _, q, (gives_openType_local open').2 ⟨unnamed, m', found', rfl⟩,
      abreast'.redeclare (.refl q) tally, within, typePair⟩

theorem develops_builtin :
    TypeDef.Develops fun t => { t with builtin := some Builtin.complexType } :=
  ⟨fun _ => rfl, fun _ _ => rfl, fun _ => .inr rfl⟩

theorem Abreast.modifyType (abreast : Abreast w p ts es s s') {id id' : TypeId} (held : id ∈ ts)
    (pair : p.type id id') {f : TypeDef → TypeDef} (develops : TypeDef.Develops f)
    (base : ∀ t, (f t).base = t.base) (fields : ∀ t, (f t).fields = t.fields)
    (plain : ∀ t, (f t).plain = (f t.plain).plain) :
    Abreast w p ts es { s with declarations := s.declarations.modifyType id f }
      { s' with declarations := s'.declarations.modifyType id' f } := by
  have within {types elements : Nat} (t : TypeDef) (bound : t.Within types elements) :
      (f t).Within types elements := by
    refine ⟨fun own => ?_, fun member => ?_⟩
    · rw [base] at own
      exact bound.base own
    · rw [fields] at member
      exact bound.field member
  exact abreast.redeclare (.refl p) (abreast.tally.modifyType f f held pair develops develops within
    within fun _ _ same => same.plainly base fields plain)

theorem Abreast.modifyElement (abreast : Abreast w p ts es s s') {id id' : ElementId}
    (held : id ∈ es) (pair : p.element id id') {f : Element → Element}
    (directType : ∀ e, (f e).directType = e.directType)
    (reference : ∀ e, (f e).reference = e.reference) (plain : ∀ e, (f e).plain = (f e.plain).plain) :
    Abreast w p ts es { s with declarations := s.declarations.modifyElement id f }
      { s' with declarations := s'.declarations.modifyElement id' f } := by
  have within {types elements : Nat} (e : Element) (bound : e.Within types elements) :
      (f e).Within types elements := by
    refine ⟨fun own => ?_, fun own => ?_⟩
    · rw [directType] at own
      exact bound.directType own
    · rw [reference] at own
      exact bound.reference own
  refine abreast.redeclare (.refl p) (abreast.tally.modifyElement f f held pair (fun e defined => ?_)
    within within fun _ _ same => same.plainly directType reference plain)
  rw [Element.isDefined, directType, reference]
  exact defined

theorem modifyType_id (d : Declarations) (id : TypeId) : (d.modifyType id fun t => t) = d := by
  have same : d.types.modify id.index (fun t => t) = d.types := by
    apply Array.ext_getElem?
    intro i
    simp [Array.getElem?_modify]
  rw [Declarations.modifyType, same]

/-- What the tag of a type makes of the type besides opening it. -/
def completeType (kind : Tag) (tag : StartTag) (t : TypeDef) : TypeDef :=
  if kind = .complexType then { t with builtin := some Builtin.complexType }
  else if (tag.annotated? "preserveEnumOrder").any isTrue then { t with preserveEnumIds := true }
  else t

theorem develops_completeType (kind : Tag) (tag : StartTag) :
    TypeDef.Develops (completeType kind tag) := by
  unfold completeType
  split
  · exact develops_builtin
  · split
    · exact ⟨fun _ => rfl, fun _ h => h, fun _ => .inl rfl⟩
    · exact ⟨fun _ => rfl, fun _ h => h, fun _ => .inl rfl⟩

theorem plain_completeType (kind : Tag) (tag : StartTag) (t : TypeDef) :
    (completeType kind tag t).base = t.base ∧ (completeType kind tag t).fields = t.fields ∧
      (completeType kind tag t).plain = (completeType kind tag t.plain).plain := by
  unfold completeType
  split
  · exact ⟨rfl, rfl, rfl⟩
  · split <;> exact ⟨rfl, rfl, rfl⟩

theorem gives_startType {tag : StartTag} {kind : Tag} {u : Unit} :
    (startType tag kind).Gives s u t ↔ ∃ id m, (openType ((tag.plain? "name").getD "")).Gives s id m ∧
      t = { m.note (.typeDefined kind.name ((tag.plain? "name").getD "") s.elementStack.isEmpty) with
        declarations := m.declarations.modifyType id (completeType kind tag)
        typeStack := id :: m.typeStack } := by
  unfold startType
  dsimp only
  rw [gives_get]
  simp only [gives_bind (α := Unit) (β := TypeId), gives_note]
  refine exists_congr fun id => exists_congr fun m => and_congr_right fun _ => ?_
  unfold completeType
  split
  · exact gives_modify
  · split
    · exact gives_modify
    · rw [modifyType_id]
      exact gives_modify

/-- Both runs open a type. -/
theorem startType_abreast (together : Together w s s') {tag : StartTag} {kind : Tag} {u : Unit}
    (gives : (startType tag kind).Gives s u t) (foresees : Foresees w t) :
    ∃ t', (startType tag kind).Gives s' u t' ∧ Together w t t' := by
  obtain ⟨-, sameElements⟩ := together.isEmpty
  obtain ⟨p, abreast⟩ := together
  obtain ⟨id, m, opened, rfl⟩ := gives_startType.1 gives
  have redeclares := openType_redeclares opened
  obtain ⟨symbol, isDefined, builtin⟩ := develops_completeType kind tag
  have ahead : m.declarations.Precedes w.stop :=
    (Declarations.precedes_modifyType _ id symbol isDefined builtin).trans foresees.ahead
  obtain ⟨id', m', q, opened', abreast', within, pair⟩ := openType_abreast abreast
    (fun element head => List.mem_of_mem_head? head) opened ahead (foresees.type List.mem_cons_self)
  have plain := plain_completeType kind tag
  have completed := abreast'.modifyType List.mem_cons_self pair (develops_completeType kind tag)
    (fun t => (plain t).1) (fun t => (plain t).2.1) fun t => (plain t).2.2
  refine ⟨_, gives_startType.2 ⟨id', m', opened', rfl⟩, q, ?_, .cons pair completed.typeStack,
    completed.elementStack, abreast'.beside.redeclare⟩
  rw [← redeclares.typeStack, ← List.nil_append s.elementStack, ← redeclares.elementStack]
    at completed
  exact completed.tally

/-! ## Groups -/

theorem gives_openUntagged {parent type : TypeId} {element : ElementId} :
    (openUntagged parent).Gives s (type, element) t ↔
      type = (s.declarations.anonymousSymbol.1.findOrAddType s.declarations.anonymousSymbol.2).2.1 ∧
      ∃ d, d = (s.declarations.anonymousSymbol.1.findOrAddType
          s.declarations.anonymousSymbol.2).1 ∧
        element = (untaggedField d type parent).2 ∧
        t = { s with
          declarations := (untaggedField d type parent).1
          typeStack := type :: s.typeStack
          elementStack := element :: s.elementStack } := by
  constructor
  · intro h
    cases h
    exact ⟨rfl, _, rfl, rfl, rfl⟩
  · rintro ⟨rfl, _, rfl, rfl, rfl⟩
    rfl

theorem precedes_untaggedField (d : Declarations) (type parent : TypeId) :
    d.Precedes (untaggedField d type parent).1 := by
  have typed := Declarations.precedes_modifyType d type (f := complex) (fun _ => rfl)
    (fun _ _ => rfl) fun _ => .inr rfl
  have added := typed.trans (Declarations.precedes_addElement _)
  have untagged := added.trans (Declarations.precedes_modifyElement _ (untaggedField d type parent).2
    (f := untag type) fun _ _ => rfl)
  exact untagged.trans (Declarations.precedes_addField _ parent untaggedName _)

/-- Both runs give a type that is held open an untagged field with a type that nothing has defined. -/
theorem tally_untaggedField {d d' : Declarations} (tally : Tally w p ts es d d')
    {type type' parent parent' : TypeId} (pair : p.type type type')
    (inside : type.index < d.types.size) (undefined : (d.type type).isDefined = false)
    (held : parent ∈ ts) (parents : p.type parent parent')
    (ahead : (untaggedField d type parent).1.Precedes w.stop)
    (typeDefined : (w.stop.type type).isDefined = true)
    (elementDefined : (w.stop.element (untaggedField d type parent).2).isDefined = true) :
    Tally w (p.withElement (untaggedField d type parent).2 (untaggedField d' type' parent').2)
      (type :: ts) ((untaggedField d type parent).2 :: es) (untaggedField d type parent).1
      (untaggedField d' type' parent').1 := by
  have within := p.within_withElement (untaggedField d type parent).2
    (untaggedField d' type' parent').2
  have typed := (tally.holdType pair inside undefined typeDefined).modifyType complex complex
    List.mem_cons_self pair develops_builtin develops_builtin
    (fun t bound => ⟨bound.base, bound.field⟩) (fun t bound => ⟨bound.base, bound.field⟩)
    fun t t' same => same.plainly (fun _ => rfl) (fun _ => rfl) fun _ => rfl
  have untags := Declarations.precedes_modifyElement (d.modifyType type complex).addElement.1
    (untaggedField d type parent).2 (f := untag type) fun _ _ => rfl
  have fields := Declarations.precedes_addField ((d.modifyType type complex).addElement.1.modifyElement
    (untaggedField d type parent).2 (untag type)) parent untaggedName (untaggedField d type parent).2
  have added := typed.addElement (untags.trans (fields.trans ahead))
  have pairs : (p.withElement (untaggedField d type parent).2
      (untaggedField d' type' parent').2).element (untaggedField d type parent).2
      (untaggedField d' type' parent').2 := .inr ⟨rfl, rfl⟩
  have new : (untaggedField d type parent).2.index <
      (d.modifyType type complex).addElement.1.elements.size :=
    Nat.lt_of_lt_of_eq (Nat.lt_succ_self _) (Array.size_push _).symm
  have blank : (d.modifyType type complex).addElement.1.element (untaggedField d type parent).2 = {} :=
    (Declarations.element_addElement _ _).trans (if_pos rfl)
  have held' := added.holdElement pairs new (by rw [blank]; rfl) elementDefined
  have bound : type.index < (d.modifyType type complex).addElement.1.types.size := by
    rwa [Declarations.addElement, Declarations.size_modifyType]
  have untagged := held'.giveType (untag type) (untag type') List.mem_cons_self pairs pair bound
    (fun _ => rfl) (fun _ => rfl) (fun _ => rfl) (fun _ => rfl) fun _ _ => congrArg fun e : Element =>
      { e with formattingMode := e.formattingMode.insert .untagged }
  exact untagged.addField (List.mem_cons_of_mem _ held) parents pairs
    (Nat.lt_of_lt_of_eq new (Declarations.size_modifyElement _ _ _).symm) untaggedName

/-- Both runs add an untagged field that holds a new type. -/
theorem openUntagged_abreast (abreast : Abreast w p ts es s s') {parent parent' : TypeId}
    (held : parent ∈ ts) (pair : p.type parent parent') {type : TypeId} {element : ElementId}
    (gives : (openUntagged parent).Gives s (type, element) t)
    (ahead : t.declarations.Precedes w.stop) (typeDefined : (w.stop.type type).isDefined = true)
    (elementDefined : (w.stop.element element).isDefined = true) :
    ∃ type' element' t' q, (openUntagged parent').Gives s' (type', element') t' ∧
      Abreast w q (type :: ts) (element :: es) t t' ∧ p.Within q ∧ q.type type type' ∧
      q.element element element' := by
  obtain ⟨found, d, own, rfl, rfl⟩ := gives_openUntagged.1 gives
  obtain ⟨place, inside, undefined⟩ := madeUp_new abreast.tally.intact
  obtain ⟨place', -, -⟩ := madeUp_new abreast.tally.intact'
  have minted := abreast.tally.mint (own ▸ (precedes_untaggedField d type parent).trans ahead)
  rw [← place, ← place', ← own, ← found] at minted
  rw [← place, ← own, ← found] at inside undefined
  have typed := tally_untaggedField minted (.inr ⟨rfl, rfl⟩) inside undefined held (.inl pair) ahead
    typeDefined elementDefined
  exact ⟨_, _, _, _, gives_openUntagged.2 ⟨rfl, _, rfl, rfl, rfl⟩,
    ⟨typed, .cons (.inr ⟨rfl, rfl⟩) (abreast.typeStack.imp fun _ _ => .inl),
      .cons (.inr ⟨rfl, rfl⟩) (abreast.elementStack.imp fun _ _ => .inl), abreast.beside.redeclare⟩,
    ⟨.inl, .inl⟩, .inr ⟨rfl, rfl⟩, .inr ⟨rfl, rfl⟩⟩

theorem Beside.outerTag (beside : Beside w s s') : outerTag s' = outerTag s := by
  rw [Session.outerTag, Session.outerTag, beside.tagStack]

theorem isEmpty_of_forall₂ {α β : Type} {R : α → β → Prop} {l : List α} {l' : List β}
    (all : List.Forall₂ R l l') : l'.isEmpty = l.isEmpty := by
  cases all <;> rfl

theorem head?_of_forall₂ {α β : Type} {R : α → β → Prop} {l : List α} {l' : List β}
    (all : List.Forall₂ R l l') : Option.Rel R l.head? l'.head? := by
  cases all with
  | nil => exact .none
  | cons first => exact .some first

theorem tail_of_forall₂ {α β : Type} {R : α → β → Prop} {l : List α} {l' : List β}
    (all : List.Forall₂ R l l') : List.Forall₂ R l.tail l'.tail := by
  cases all with
  | nil => exact .nil
  | cons _ others => exact others

/-- What a group lays out in both runs: a type that they hold open, and an element if there is one. -/
structure Lays (w : Part) (p : Pairing) (type type' : TypeId) (owner owner' : Option ElementId)
    (s s' : Session) : Prop where
  abreast : Abreast w p s.typeStack s.elementStack s s'
  types : p.type type type'
  owners : Option.Rel p.element owner owner'
  held : type ∈ s.typeStack
  owned {id : ElementId} : owner = some id → id ∈ s.elementStack

/-- Both runs open a field without a tag of its own, for a group that is not the content of its type. -/
theorem openField_abreast (abreast : Abreast w p s.typeStack s.elementStack s s')
    {parent parent' : TypeId} (head : s.typeStack.head? = some parent) (pair : p.type parent parent')
    {laid : TypeId × Option ElementId}
    (gives : (openUntagged parent >>= fun opened => pure (opened.1, some opened.2)).Gives s laid t)
    (ahead : t.declarations.Precedes w.stop)
    (types : ∀ id ∈ t.typeStack, (w.stop.type id).isDefined = true)
    (elements : ∀ id ∈ t.elementStack, (w.stop.element id).isDefined = true) :
    ∃ laid' t' q, (openUntagged parent' >>= fun opened =>
        pure (opened.1, some opened.2) : Action (TypeId × Option ElementId)).Gives s' laid' t' ∧
      Lays w q laid.1 laid'.1 laid.2 laid'.2 t t' := by
  obtain ⟨⟨type, element⟩, m, opened, last⟩ := gives_bind.1 gives
  obtain ⟨rfl, rfl⟩ := gives_pure.1 last
  obtain ⟨-, d, -, -, rfl⟩ := gives_openUntagged.1 opened
  obtain ⟨type', element', t', q, opened', abreast', within, typePair, elementPair⟩ :=
    openUntagged_abreast abreast (List.mem_of_mem_head? head) pair opened ahead
      (types type List.mem_cons_self) (elements element List.mem_cons_self)
  exact ⟨_, t', q, gives_bind.2 ⟨_, t', opened', gives_pure.2 ⟨rfl, rfl⟩⟩, abreast', typePair,
    .some elementPair, List.mem_cons_self, fun own => Option.some.inj own ▸ List.mem_cons_self⟩

/-- Both runs find or open what a group lays out. -/
theorem openGroup_abreast (abreast : Abreast w p s.typeStack s.elementStack s s') {kind : Tag}
    {minOccurs maxOccurs : Int} {laid : TypeId × Option ElementId}
    (gives : (openGroup kind minOccurs maxOccurs).Gives s laid t)
    (ahead : t.declarations.Precedes w.stop)
    (types : ∀ id ∈ t.typeStack, (w.stop.type id).isDefined = true)
    (elements : ∀ id ∈ t.elementStack, (w.stop.element id).isDefined = true) :
    ∃ laid' t' q, (openGroup kind minOccurs maxOccurs).Gives s' laid' t' ∧
      Lays w q laid.1 laid'.1 laid.2 laid'.2 t t' := by
  have outer' := abreast.beside.outerTag
  have paired := abreast.typeStack
  have owners := head?_of_forall₂ abreast.elementStack
  unfold openGroup at gives ⊢
  rw [gives_get] at gives
  cases open_ : s.typeStack with
  | nil =>
    rw [open_] at gives
    exact absurd gives gives_throw
  | cons parent below =>
    rw [open_] at paired gives
    obtain ⟨parent', below', pair, -, open'⟩ := List.forall₂_cons_left_iff.1 paired
    have inside : parent ∈ s.typeStack := open_ ▸ List.mem_cons_self
    have fields := (abreast.tally.matches_type inside pair).fields
    simp only [gives_get, open', outer', List.head?_cons] at gives ⊢
    have noOwner : s'.elementStack.head?.isNone = s.elementStack.head?.isNone := by
      rw [← Option.not_isSome, ← Option.not_isSome, isSome_of_rel owners]
    split at gives
    · rename_i outer
      obtain rfl := Option.some.inj ‹some _ = some _›
      rw [gives_check] at gives
      obtain ⟨choice, gives⟩ := gives
      simp only [outer, gives_check, isEmpty_of_forall₂ fields, choice, noOwner, Bool.false_eq_true,
        not_false_eq_true, true_and]
      split at gives
      · rename_i wrapped
        simp only [wrapped, if_true]
        exact openField_abreast abreast (by rw [open_]; rfl) pair gives ahead types elements
      · rename_i bare
        simp only [bare]
        obtain ⟨rfl, rfl⟩ := gives_pure.1 gives
        exact ⟨_, s', p, gives_pure.2 ⟨rfl, rfl⟩, abreast, pair, owners, inside,
          List.mem_of_mem_head?⟩
    · rename_i outer
      obtain rfl := Option.some.inj ‹some _ = some _›
      simp only [outer]
      exact openField_abreast abreast (by rw [open_]; rfl) pair gives ahead types elements
    · rename_i outer
      obtain rfl := Option.some.inj ‹some _ = some _›
      simp only [outer]
      exact openField_abreast abreast (by rw [open_]; rfl) pair gives ahead types elements
    · exact absurd gives gives_throw

theorem gives_startGroup {tag : StartTag} {kind : Tag} {u : Unit} :
    (startGroup tag kind).Gives s u t ↔ (tag.plain? "name").isSome = false ∧
      ∃ least largest laid m, minOccurs? tag = .ok least ∧ maxOccurs? tag = .ok largest ∧
        (openGroup kind (least.getD 1) (largest.getD 1)).Gives s laid m ∧
        t = { m.note (.recordDefined kind.name (least.getD 1) (largest.getD 1)) with
          declarations := match laid.2 with
            | some element => laidOut m.declarations laid.1 element (kind = .choice) (least.getD 1)
                (largest.getD 1)
            | none => m.declarations.modifyType laid.1 (choose (kind = .choice)) } := by
  unfold startGroup
  rw [gives_check, Bool.not_eq_true]
  refine and_congr_right fun _ => ?_
  simp only [gives_bind (α := Unit) (β := Option Int), gives_ofExcept,
    gives_bind (α := Unit) (β := TypeId × Option ElementId), gives_note, gives_modifyType]
  constructor
  · rintro ⟨least, _, ⟨readsLeast, rfl⟩, largest, _, ⟨readsLargest, rfl⟩, ⟨type, owner⟩, m, opened,
      last⟩
    refine ⟨least, largest, ⟨type, owner⟩, m, readsLeast, readsLargest, opened, ?_⟩
    cases owner with
    | none => exact (gives_pure.1 last).2
    | some element => exact gives_modify.1 last
  · rintro ⟨least, largest, ⟨type, owner⟩, m, readsLeast, readsLargest, opened, rfl⟩
    refine ⟨least, _, ⟨readsLeast, rfl⟩, largest, _, ⟨readsLargest, rfl⟩, ⟨type, owner⟩, m, opened,
      ?_⟩
    cases owner with
    | none => exact gives_pure.2 ⟨rfl, rfl⟩
    | some element => exact gives_modify.2 rfl

/-- Both runs open a group. -/
theorem startGroup_abreast (together : Together w s s') {tag : StartTag} {kind : Tag} {u : Unit}
    (gives : (startGroup tag kind).Gives s u t) (foresees : Foresees w t) :
    ∃ t', (startGroup tag kind).Gives s' u t' ∧ Together w t t' := by
  obtain ⟨p, abreast⟩ := together
  obtain ⟨unnamed, least, largest, laid, m, readsLeast, readsLargest, opened, rfl⟩ :=
    gives_startGroup.1 gives
  obtain ⟨ahead, elements, types, -⟩ := foresees
  have chooses := Declarations.precedes_modifyType m.declarations laid.1
    (f := choose (kind = .choice)) (fun _ => rfl) (fun _ h => h) fun _ => .inl rfl
  have before : m.declarations.Precedes w.stop := by
    refine Precedes.trans ?_ ahead
    dsimp only
    split
    · exact chooses.trans (Declarations.precedes_modifyElement _ _ fun _ h => h)
    · exact chooses
  obtain ⟨laid', m', q, opened', abreast', pair, owners, held, owned⟩ :=
    openGroup_abreast abreast opened before (fun _ => types) (fun _ => elements)
  refine ⟨_, gives_startGroup.2 ⟨unnamed, least, largest, laid', m', readsLeast, readsLargest,
    opened', rfl⟩, q, ?_⟩
  have chosen := abreast'.modifyType (f := choose (kind = .choice)) held pair
    ⟨fun _ => rfl, fun _ h => h, fun _ => .inl rfl⟩ (fun _ => rfl) (fun _ => rfl) fun _ => rfl
  obtain ⟨type, owner⟩ := laid
  obtain ⟨type', owner'⟩ := laid'
  dsimp only at owners owned chosen ⊢
  cases owners with
  | none => exact ⟨chosen.tally, chosen.typeStack, chosen.elementStack, chosen.beside.redeclare⟩
  | some owner =>
    have occurs := chosen.modifyElement (owned rfl) owner
      (f := occurAs (least.getD 1) (largest.getD 1)) (fun _ => rfl) (fun _ => rfl) fun _ => rfl
    exact ⟨occurs.tally, occurs.typeStack, occurs.elementStack, occurs.beside.redeclare⟩

/-! ## Derivations and enumerators -/

theorem gives_startDerivation {tag : StartTag} {isList : Bool} {u : Unit} :
    (startDerivation tag isList).Gives s u t ↔ ∃ type below symbol base m,
      s.typeStack = type :: below ∧
        s.symbol? (tag.plain? (if isList then "itemType" else "base")) = some symbol ∧
        (findType symbol).Gives s base m ∧ m.declarations.derivesFrom base type = false ∧
        t = { m.note (.derived (m.declarations.type base).symbol.render isList) with
          declarations := m.declarations.modifyType type fun t =>
            { t with base := some base, isList := t.isList || isList } } := by
  unfold startDerivation
  rw [gives_get]
  cases open_ : s.typeStack with
  | nil =>
    refine iff_of_false gives_throw ?_
    rintro ⟨_, _, _, _, _, h, -⟩
    cases h
  | cons type below =>
    dsimp only
    cases named : s.symbol? (tag.plain? (if isList then "itemType" else "base")) with
    | none =>
      refine iff_of_false gives_throw ?_
      rintro ⟨_, _, _, _, _, -, h, -⟩
      cases h
    | some symbol =>
      dsimp only
      simp only [gives_bind (α := Unit) (β := TypeId), gives_declarations, gives_check, gives_note,
        Bool.not_eq_true]
      constructor
      · rintro ⟨base, m, found, fresh, last⟩
        exact ⟨type, below, symbol, base, m, rfl, rfl, found, fresh, gives_modify.1 last⟩
      · rintro ⟨_, _, _, base, m, same, same', found, fresh, rfl⟩
        cases same
        cases same'
        exact ⟨base, m, found, fresh, gives_modify.2 rfl⟩

/-- The innermost open type has no base yet. -/
def Underived (s : Session) : Prop :=
  ∀ type, s.typeStack.head? = some type → (s.declarations.type type).base = none

instance : DecidablePred Underived := fun s => inferInstanceAs (Decidable
  (∀ type ∈ s.typeStack.head?, (s.declarations.type type).base = none))

/-- Both runs derive the innermost open type. -/
theorem startDerivation_abreast (together : Together w s s') (acyclic : w.final.Acyclic)
    (underived : Underived s) {tag : StartTag} {isList : Bool} {u : Unit}
    (gives : (startDerivation tag isList).Gives s u t) (foresees : Foresees w t) :
    ∃ t', (startDerivation tag isList).Gives s' u t' ∧ Together w t t' := by
  obtain ⟨p, abreast⟩ := together
  obtain ⟨type, below, symbol, base, m, open_, named, found, fresh, rfl⟩ :=
    gives_startDerivation.1 gives
  have redeclares := findType_redeclares found
  have top : s.typeStack.head? = some type := by rw [open_]; rfl
  have paired := abreast.typeStack
  rw [open_] at paired
  obtain ⟨type', below', pair, -, open'⟩ := List.forall₂_cons_left_iff.1 paired
  obtain ⟨known, same⟩ := abreast.beside.symbol? named
  have develops (base : TypeId) : TypeDef.Develops fun t : TypeDef =>
      { t with base := some base, isList := t.isList || isList } :=
    ⟨fun _ => rfl, fun _ _ => Bool.or_true _, fun _ => .inl rfl⟩
  have derives := Declarations.precedes_modifyType m.declarations type (develops base).symbol
    (develops base).isDefined (develops base).builtin
  obtain ⟨shared, inside, base', m', q, found', abreast', within, basePair⟩ :=
    findType_abreast abreast known found (derives.trans foresees.ahead)
  have held : type ∈ s.typeStack := List.mem_of_mem_head? top
  have present : type.index < m.declarations.types.size := (abreast'.tally.types.held held).1
  have final : (w.final.type type).base = some base := by
    refine foresees.base (by rw [← redeclares.typeStack] at held; exact held) ?_
    exact congrArg TypeDef.base (Declarations.type_modifyType present _)
  have fresh' : m'.declarations.derivesFrom base' type' = false := by
    refine Bool.eq_false_iff.2 fun derived => ?_
    -- A cycle in the second run would be one of the first run in the end.
    obtain ⟨steps, -, reached⟩ :=
      Declarations.mem_baseChainWithin_iff.1 (List.contains_iff_mem.1 derived)
    have keeps (id : TypeId) (member : id ∈ s.typeStack) (link : TypeId)
        (own : (m.declarations.type id).base = some link) : (w.final.type id).base = some link := by
      have none := (redeclares.bases type).trans (underived type top)
      have ne : type ≠ id := by
        rintro rfl
        cases none.symm.trans own
      refine foresees.base (by rw [← redeclares.typeStack] at member; exact member) ?_
      exact (congrArg TypeDef.base (Declarations.type_modifyType_of_ne ne _)).trans own
    obtain ⟨last, reached, ends⟩ := abreast'.tally.ancestor keeps basePair reached
    obtain rfl := abreast'.tally.types.injective ends (within.type pair)
    refine acyclic last steps ?_
    rw [Declarations.ancestor_succ, final]
    exact reached
  have tally := abreast'.tally.modifyType _ _ held (within.type pair) (develops base)
    (develops base') (fun t bound => ⟨fun own => Option.some.inj own ▸ inside, bound.field⟩)
    (fun t bound => ⟨fun own => Option.some.inj own ▸ abreast'.tally.types.present basePair,
      bound.field⟩) fun t t' alike => ⟨.some basePair, alike.fields,
        congrArg (fun u : TypeDef => { u with isList := u.isList || isList }) alike.plain⟩
  refine ⟨_, gives_startDerivation.2 ⟨type', below', symbol, base', m', open', same shared, found',
    fresh', rfl⟩, q, ?_, abreast'.typeStack, abreast'.elementStack, abreast'.beside.redeclare⟩
  rw [← redeclares.typeStack, ← List.nil_append s.elementStack, ← redeclares.elementStack] at tally
  exact tally

/-- The innermost open type derives from a built-in type that is known. -/
def KnowsBuiltin (s : Session) : Prop :=
  ∀ type, s.typeStack.head? = some type → s.declarations.builtin type ≠ none

instance : DecidablePred KnowsBuiltin := fun s => inferInstanceAs (Decidable
  (∀ type ∈ s.typeStack.head?, s.declarations.builtin type ≠ none))

theorem gives_startEnumerator {tag : StartTag} {u : Unit} :
    (startEnumerator tag).Gives s u t ↔ ∃ type below, s.typeStack = type :: below ∧
      if (s.declarations.builtin type).any (·.isString) then
        ∃ id, annotatedId? tag = .ok id ∧
          t = { s.note (.enumeratorAdded ((tag.plain? "value").getD "") id) with
            declarations := s.declarations.modifyType type
              (·.addEnumerator ((tag.plain? "value").getD "") id) }
      else t = s := by
  unfold startEnumerator
  rw [gives_get]
  cases open_ : s.typeStack with
  | nil =>
    refine iff_of_false gives_throw ?_
    rintro ⟨_, _, h, -⟩
    cases h
  | cons type below =>
    dsimp only
    cases string : (s.declarations.builtin type).any (·.isString) with
    | true =>
      simp only [if_true, gives_bind (α := Unit) (β := Option Int), gives_ofExcept, gives_note]
      constructor
      · rintro ⟨id, _, ⟨read, rfl⟩, last⟩
        refine ⟨type, below, rfl, ?_⟩
        rw [string, if_pos rfl]
        exact ⟨id, read, gives_modify.1 last⟩
      · rintro ⟨_, _, same, last⟩
        cases same
        rw [string, if_pos rfl] at last
        obtain ⟨id, read, rfl⟩ := last
        exact ⟨id, s, ⟨read, rfl⟩, gives_modify.2 rfl⟩
    | false =>
      simp only [Bool.false_eq_true, if_false]
      constructor
      · intro last
        refine ⟨type, below, rfl, ?_⟩
        rw [string, if_neg Bool.false_ne_true]
        exact (gives_pure.1 last).2
      · rintro ⟨_, _, same, last⟩
        cases same
        rw [string, if_neg Bool.false_ne_true] at last
        exact gives_pure.2 ⟨rfl, last⟩

theorem TypeDef.develops_addEnumerator (value : String) (id : Option Int) :
    TypeDef.Develops (·.addEnumerator value id) :=
  ⟨fun _ => rfl, fun _ h => h, fun _ => .inl rfl⟩

/-- Both runs add an enumerator to the innermost open type, or neither does. -/
theorem startEnumerator_abreast (together : Together w s s') (knows : KnowsBuiltin s)
    (knows' : KnowsBuiltin s') {tag : StartTag} {u : Unit}
    (gives : (startEnumerator tag).Gives s u t) :
    ∃ t', (startEnumerator tag).Gives s' u t' ∧ Together w t t' := by
  obtain ⟨p, abreast⟩ := together
  obtain ⟨type, below, open_, added⟩ := gives_startEnumerator.1 gives
  have top : s.typeStack.head? = some type := by rw [open_]; rfl
  have paired := abreast.typeStack
  rw [open_] at paired
  obtain ⟨type', below', pair, -, open'⟩ := List.forall₂_cons_left_iff.1 paired
  have same := abreast.tally.builtin pair (knows type top) (knows' type' (by rw [open']; rfl))
  rw [← same] at added
  split at added
  · rename_i string
    obtain ⟨id, read, rfl⟩ := added
    have tally := abreast.modifyType (List.mem_of_mem_head? top) pair
      (TypeDef.develops_addEnumerator ((tag.plain? "value").getD "") id) (fun _ => rfl)
      (fun _ => rfl) fun _ => rfl
    refine ⟨{ s'.note (.enumeratorAdded ((tag.plain? "value").getD "") id) with
        declarations := s'.declarations.modifyType type'
          (·.addEnumerator ((tag.plain? "value").getD "") id) },
      gives_startEnumerator.2 ⟨type', below', open', ?_⟩, p, tally.tally, tally.typeStack,
      tally.elementStack, tally.beside.redeclare⟩
    rw [if_pos string]
    exact ⟨id, read, rfl⟩
  · rename_i other
    subst added
    refine ⟨s', gives_startEnumerator.2 ⟨type', below', open', ?_⟩, p, abreast⟩
    rw [if_neg other]

/-! ## Tags that end -/

/-- What one state has open and a later one has closed is defined, and what it is in the end. -/
structure Settles (w : Part) (s t : Session) : Prop where
  element {id : ElementId} : id ∈ s.elementStack → id ∉ t.elementStack →
    (t.declarations.element id).isDefined = true ∧ w.final.element id = t.declarations.element id
  type {id : TypeId} : id ∈ s.typeStack → id ∉ t.typeStack →
    (t.declarations.type id).isDefined = true ∧
      (w.final.type id).body = (t.declarations.type id).body

/-- Both runs close what the first one closes. -/
theorem Abreast.close (abreast : Abreast w p s.typeStack s.elementStack s s')
    (same : t.declarations = s.declarations) (settles : Settles w s t)
    (types : t.typeStack ⊆ s.typeStack) (elements : t.elementStack ⊆ s.elementStack) :
    Tally w p t.typeStack t.elementStack s.declarations s'.declarations :=
  abreast.tally.release types elements
    (fun _ member closed => same ▸ settles.type member closed)
    fun _ member closed => same ▸ settles.element member closed

theorem endElement_abreast (together : Together w s s') {u : Unit}
    (gives : endElement.Gives s u t) (settles : Settles w s t) :
    ∃ t', endElement.Gives s' u t' ∧ Together w t t' := by
  obtain ⟨p, abreast⟩ := together
  have paired := abreast.elementStack
  unfold endElement at gives ⊢
  rw [gives_get] at gives
  cases open_ : s.elementStack with
  | nil =>
    rw [open_] at gives paired
    have open' := List.forall₂_nil_left_iff.1 paired
    obtain ⟨rfl, rfl⟩ := gives_pure.1 gives
    refine ⟨s', ?_, p, abreast⟩
    rw [gives_get, open']
    exact gives_pure.2 ⟨rfl, rfl⟩
  | cons id below =>
    rw [open_] at gives paired
    obtain ⟨id', below', pair, others, open'⟩ := List.forall₂_cons_left_iff.1 paired
    dsimp only at gives
    rw [gives_check] at gives
    obtain ⟨defined, last⟩ := gives
    cases last
    have held : id ∈ s.elementStack := open_ ▸ List.mem_cons_self
    have same := (abreast.tally.matches_element held pair).isDefined
    refine ⟨{ s' with elementStack := below' }, ?_, p, ?_, abreast.typeStack, others,
      abreast.beside.redeclare⟩
    · rw [gives_get]
      conv in s'.elementStack => rw [open']
      dsimp only
      rw [gives_check, same]
      exact ⟨defined, rfl⟩
    · exact abreast.close rfl settles (List.Subset.refl _) (open_ ▸ List.subset_cons_self _ _)

theorem endType_abreast (together : Together w s s') {u : Unit}
    (gives : endType.Gives s u t) (settles : Settles w s t) :
    ∃ t', endType.Gives s' u t' ∧ Together w t t' := by
  obtain ⟨p, abreast⟩ := together
  obtain rfl := gives_modify.1 gives
  refine ⟨_, gives_modify.2 rfl, p, ?_, ?_, abreast.elementStack, abreast.beside.redeclare⟩
  · exact abreast.close rfl settles (List.tail_subset _) (List.Subset.refl _)
  · exact tail_of_forall₂ abreast.typeStack

theorem endGroup_abreast (together : Together w s s') {u : Unit}
    (gives : endGroup.Gives s u t) (settles : Settles w s t) :
    ∃ t', endGroup.Gives s' u t' ∧ Together w t t' := by
  obtain ⟨p, abreast⟩ := together
  obtain rfl := gives_modify.1 gives
  refine ⟨_, gives_modify.2 rfl, p, ?_⟩
  have paired := abreast.elementStack
  cases open_ : s.elementStack with
  | nil =>
    rw [open_] at paired
    simp only [open_, List.forall₂_nil_left_iff.1 paired]
    exact open_ ▸ abreast
  | cons id below =>
    rw [open_] at paired
    obtain ⟨id', below', pair, others, open'⟩ := List.forall₂_cons_left_iff.1 paired
    have held : id ∈ s.elementStack := open_ ▸ List.mem_cons_self
    have same : (s'.declarations.element id').isUntagged = (s.declarations.element id).isUntagged :=
      Element.get_of_plain Element.isUntagged (fun _ => rfl)
        (abreast.tally.matches_element held pair).plain
    simp only [open_, open', same] at settles ⊢
    split
    · rename_i untagged
      rw [if_pos untagged] at settles
      refine ⟨abreast.close rfl settles (List.tail_subset _) (open_ ▸ List.subset_cons_self _ _),
        tail_of_forall₂ abreast.typeStack, others, abreast.beside.redeclare⟩
    · exact abreast

theorem endAction_abreast (together : Together w s s') {kind : Tag} {u : Unit}
    (gives : (endAction kind).Gives s u t) (settles : Settles w s t) :
    ∃ t', (endAction kind).Gives s' u t' ∧ Together w t t' := by
  unfold endAction at gives ⊢
  cases stop : kind.entry.stop with
  | closeElement | closeAttribute =>
    simp only [stop] at gives ⊢
    exact endElement_abreast together gives settles
  | closeType =>
    simp only [stop] at gives ⊢
    exact endType_abreast together gives settles
  | closeRecord =>
    simp only [stop] at gives ⊢
    exact endGroup_abreast together gives settles
  | closeSchema | nothing =>
    simp only [stop] at gives ⊢
    obtain ⟨rfl, rfl⟩ := gives_pure.1 gives
    exact ⟨s', gives_pure.2 ⟨rfl, rfl⟩, together⟩

/-! ## Tags that start -/

theorem startAction_same {tag tag' : StartTag} (same : SameTag tag tag') {kind : Tag}
    (other : kind ≠ .schema) : startAction kind tag' = startAction kind tag := by
  have noSchema : kind.entry.start ≠ .openSchema := by
    revert other
    cases kind <;> decide
  have read (isAttribute : Bool) :
      ElementForm.read tag' isAttribute = ElementForm.read tag isAttribute := by
    simp only [ElementForm.read, minOccurs?, maxOccurs?, annotatedId?, same.plain, same.annotated]
  unfold Session.startAction
  cases start : kind.entry.start with
  | reject | passThrough | skip | refuseGroup => rfl
  | defineAttribute | defineElement =>
    simp only [startElement, resolveElement, same.plain, read]
  | defineRecord => simp only [startGroup, minOccurs?, maxOccurs?, same.plain]
  | defineType => simp only [startType, same.plain, same.annotated]
  | addEnumerator => simp only [startEnumerator, annotatedId?, same.plain, same.annotated]
  | extendType | deriveList | restrictType => simp only [startDerivation, same.plain]
  | importDocument => simp only [startImport, same.plain]
  | includeDocument => simp only [startInclude, same.plain]
  | openSchema => exact absurd start noSchema

/-- A tag comes when what it looks at is known: an attribute, the bases of its type; an enumerator,
the built-in type that its type derives from. -/
structure Timely (kind : Tag) (s : Session) : Prop where
  bases : kind = .attributeTag → KnowsBases s
  builtin : kind = .enumeration → KnowsBuiltin s

instance (kind : Tag) (s : Session) : Decidable (Timely kind s) :=
  decidable_of_iff ((kind = .attributeTag → KnowsBases s) ∧ (kind = .enumeration → KnowsBuiltin s))
    ⟨fun ⟨bases, builtin⟩ => ⟨bases, builtin⟩, fun ⟨bases, builtin⟩ => ⟨bases, builtin⟩⟩

theorem skipContent_abreast (together : Together w s s') (kind : Tag) {u : Unit}
    (gives : (do Action.note (.skipping kind.name); Action.skipContent : Action Unit).Gives s u t) :
    ∃ t', (do Action.note (.skipping kind.name); Action.skipContent : Action Unit).Gives s' u t' ∧
      Together w t t' := by
  obtain rfl := gives_modify.1 (gives_note.1 gives)
  obtain ⟨p, abreast⟩ := together
  obtain ⟨tally, types, elements, allowed, tags, depth, worklist, target, scope, named⟩ :=
    abreast.note (.skipping kind.name) (.skipping kind.name)
  exact ⟨_, gives_note.2 (gives_modify.2 rfl), p, tally, types, elements, allowed, tags,
    congrArg (· + 1) depth, worklist, target, scope, named⟩

/-- Both runs do what a start tag does. -/
theorem startAction_abreast (together : Together w s s') (acyclic : w.final.Acyclic) {kind : Tag}
    (local_ : kind ≠ .schema ∧ kind ≠ .importTag ∧ kind ≠ .includeTag) (timely : Timely kind s)
    (timely' : Timely kind s')
    (underived : kind = .restriction ∨ kind = .extension ∨ kind = .list → Underived s)
    {tag : StartTag} {u : Unit} (gives : (startAction kind tag).Gives s u t)
    (foresees : Foresees w t) : ∃ t', (startAction kind tag).Gives s' u t' ∧ Together w t t' := by
  obtain ⟨noSchema, noImport, noInclude⟩ := local_
  unfold startAction at gives ⊢
  generalize start : kind.entry.start = action at gives ⊢
  cases action with
  | reject | refuseGroup =>
    obtain ⟨_, _, -, thrown⟩ := gives_bind.1 gives
    exact absurd thrown gives_throw
  | passThrough =>
    obtain rfl := gives_modify.1 gives
    obtain ⟨p, abreast⟩ := together
    exact ⟨_, gives_modify.2 rfl, p, abreast.note _ _⟩
  | skip => exact skipContent_abreast together kind gives
  | defineAttribute =>
    obtain rfl := List.mem_singleton.1 (mem_tags_of_start start (by decide))
    exact startElement_abreast together (fun _ => timely.bases rfl) (fun _ => timely'.bases rfl) gives
      foresees
  | defineElement =>
    exact startElement_abreast together (fun h => absurd h Bool.false_ne_true)
      (fun h => absurd h Bool.false_ne_true) gives foresees
  | defineRecord => exact startGroup_abreast together gives foresees
  | defineType => exact startType_abreast together gives foresees
  | addEnumerator =>
    obtain rfl := List.mem_singleton.1 (mem_tags_of_start start (by decide))
    exact startEnumerator_abreast together (timely.builtin rfl) (timely'.builtin rfl) gives
  | extendType =>
    obtain rfl := List.mem_singleton.1 (mem_tags_of_start start (by decide))
    simp only [gives_get] at gives ⊢
    obtain ⟨p, abreast⟩ := together
    rw [abreast.beside.allowUnsupported]
    split at gives
    · rename_i allowed
      simp only [allowed, if_true]
      exact startDerivation_abreast ⟨p, abreast⟩ acyclic (underived (.inr (.inl rfl))) gives foresees
    · obtain ⟨_, _, -, thrown⟩ := gives_bind.1 gives
      exact absurd thrown gives_throw
  | deriveList =>
    obtain rfl := List.mem_singleton.1 (mem_tags_of_start start (by decide))
    exact startDerivation_abreast together acyclic (underived (.inr (.inr rfl))) gives foresees
  | restrictType =>
    obtain rfl := List.mem_singleton.1 (mem_tags_of_start start (by decide))
    exact startDerivation_abreast together acyclic (underived (.inl rfl)) gives foresees
  | importDocument =>
    exact absurd (List.mem_singleton.1 (mem_tags_of_start start (by decide))) noImport
  | includeDocument =>
    exact absurd (List.mem_singleton.1 (mem_tags_of_start start (by decide))) noInclude
  | openSchema =>
    exact absurd (List.mem_singleton.1 (mem_tags_of_start start (by decide))) noSchema

end XsdRecords.Session
