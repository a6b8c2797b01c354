import XsdRecords.Proofs.Generation.Naming

/-! # Naming types once more

A generation may start from declarations that an earlier one has named.  What a check of a top-level
element finds depends on neither naming nor emission, so both generations get equally far:
`nameRoots_finishes`.  The types that the earlier one named are copied and the copies get the same
names: `Renewed`. -/

namespace XsdRecords

open XsdRecords.Declaration (Declarations ElementId TypeId TypeDef Symbol)
open XsdRecords.Declaration.Declarations

namespace Declaration.Declarations

/-! ## Top-level elements in their place -/

/-- What finding the type of a top-level element relies on. -/
structure Placed (d : Declarations) : Prop where
  bases : d.BasesInRange
  directType {id : ElementId} {type : TypeId} :
    (d.element id).directType = some type → type.index < d.types.size
  root {symbol : Symbol} {id : ElementId} :
    d.roots.find? symbol = some id → id.index < d.elements.size
  reference {symbol : Symbol} {id : ElementId} :
    d.roots.find? symbol = some id → (d.element id).reference = none
  injective {symbol other : Symbol} {id : ElementId} :
    d.roots.find? symbol = some id → d.roots.find? other = some id → symbol = other

theorem InRange.placed {d : Declarations} (inRange : d.InRange) (rooted : d.Rooted) : d.Placed :=
  ⟨inRange.bases, inRange.directType, inRange.roots, rooted.reference, rooted.injective⟩

theorem Placed.elementType {d : Declarations} (placed : d.Placed) {symbol : Symbol}
    {id : ElementId} (found : d.roots.find? symbol = some id) :
    d.elementType id = (d.element id).directType :=
  (Renamed.refl d).elementType_root (placed.root found) (placed.reference found)

/-- An element that refers to a top-level element has its type. -/
theorem elementType_of_reference {d : Declarations} {id root : ElementId}
    (reference : (d.element id).reference = some root) (final : (d.element root).reference = none)
    (inside : root.index < d.elements.size) : d.elementType id = (d.element root).directType := by
  have inside' : id.index < d.elements.size := by
    apply Nat.lt_of_not_le
    intro outside
    rw [element, Array.getD_eq_getD_getElem?, Array.getElem?_eq_none outside] at reference
    cases reference
  have ne : id.index ≠ root.index := by
    intro same
    obtain rfl : id = root := congrArg ElementId.mk same
    rw [final] at reference
    cases reference
  obtain ⟨n, size⟩ : ∃ n, d.elements.size = n + 2 := ⟨d.elements.size - 2, by omega⟩
  rw [elementType, size, elementTypeWithin, reference]
  dsimp only
  rw [elementTypeWithin, final]

theorem SameShape.placed {d d' : Declarations} (same : SameShape d d') (placed : d.Placed) :
    d'.Placed where
  bases id base h := by
    rw [same.base] at h
    rw [same.size]
    exact placed.bases id base h
  directType h := by
    rw [same.element] at h
    rw [same.size]
    exact placed.directType h
  root h := by
    rw [same.roots] at h
    rw [same.elements]
    exact placed.root h
  reference h := by
    rw [same.roots] at h
    rw [same.element]
    exact placed.reference h
  injective h h' := by
    rw [same.roots] at h h'
    exact placed.injective h h'

/-! ## Checks -/

/-- Types that a check takes for one another. -/
structure ChecksAlike (d d' : Declarations) (type type' : TypeId) : Prop where
  builtin : d'.builtin type' = d.builtin type
  symbol : d.builtin type = none → (d'.type type').symbol = (d.type type).symbol

/-- A check looks at the type of an element and at how often it may occur. -/
theorem check_congr {d d' : Declarations} {id : ElementId}
    (isDefined : (d'.element id).isDefined = (d.element id).isDefined)
    (minOccurs : (d'.element id).minOccurs = (d.element id).minOccurs)
    (maxOccurs : (d'.element id).maxOccurs = (d.element id).maxOccurs)
    (types : Option.Rel (ChecksAlike d d') (d.elementType id) (d'.elementType id))
    (record name : String) : d'.check record name id = d.check record name id := by
  unfold Declarations.check
  dsimp only
  rw [isDefined, minOccurs, maxOccurs]
  generalize d.elementType id = a, d'.elementType id = b at types
  cases types with
  | none => rfl
  | some alike =>
    rename_i type type'
    dsimp only
    rw [alike.builtin]
    cases built : d.builtin type with
    | none => rw [alike.symbol built]
    | some builtin => rfl

theorem SameShape.check {d d' : Declarations} (same : SameShape d d') (record name : String)
    (id : ElementId) : d'.check record name id = d.check record name id := by
  unfold Declarations.check
  simp only [same.element, same.elementType, same.builtin, same.symbol]

end Declaration.Declarations

namespace Generation

/-! ## Steps of naming -/

/-- What naming the type of one top-level element does to declarations. -/
inductive NamesRoot (d : Declarations) (symbol : Symbol) (id : ElementId) : Declarations → Prop
  | skip (free : ∀ type, d.elementType id = some type → d.isComplex type = true →
      (d.type type).symbol = symbol) : NamesRoot d symbol id d
  | name (type : TypeId) :
      NamesRoot d symbol id
        (d.modifyType type fun t => { t with overrideSymbol := some symbol })
  | copy {type : TypeId} {d' : Declarations} (typed : d.elementType id = some type)
      (complex : d.isComplex type = true) (copies : GivesCopy d symbol id type d') :
      NamesRoot d symbol id d'

theorem nameRoot_namesRoot (g : Generation) (symbol : Symbol) {id : ElementId}
    (inside : id.index < g.declarations.elements.size) :
    NamesRoot g.declarations symbol id (g.nameRoot symbol id).declarations := by
  unfold nameRoot
  cases typed : g.declarations.elementType id with
  | none => exact .skip fun type found => by rw [typed] at found; cases found
  | some type =>
    dsimp only
    split
    · rename_i free
      refine .skip fun other found complex => ?_
      rw [typed] at found
      obtain rfl := Option.some.inj found
      simpa [complex] using free
    · rename_i wanted
      have complex : g.declarations.isComplex type = true := by
        simp only [Bool.or_eq_true, not_or, Bool.not_eq_true, Bool.not_eq_false'] at wanted
        exact wanted.1
      cases named : (g.declarations.type type).overrideSymbol with
      | none => exact .name type
      | some name => exact .copy typed complex (givesCopy g.declarations symbol inside type)

section Step

variable {d d' : Declarations} {symbol : Symbol} {id : ElementId}

theorem NamesRoot.elementCount (names : NamesRoot d symbol id d') :
    d'.elements.size = d.elements.size := by
  cases names with
  | skip | name => rfl
  | copy _ _ copies => exact copies.elementCount

theorem NamesRoot.roots (names : NamesRoot d symbol id d') : d'.roots = d.roots := by
  cases names with
  | skip | name => rfl
  | copy _ _ copies => exact copies.roots

/-- Another name changes no stem. -/
theorem stem_setName (d : Declarations) (type other : TypeId) (overrideSymbol : Option Symbol) :
    ((d.modifyType type fun t => { t with overrideSymbol }).type other).stem =
      (d.type other).stem :=
  get_type_modifyType TypeDef.stem d type other fun _ => rfl

theorem NamesRoot.keepsStems (names : NamesRoot d symbol id d') : KeepsStems d d' := by
  cases names with
  | skip => exact ⟨Nat.le_refl _, fun _ => rfl⟩
  | name => exact ⟨Nat.le_of_eq (size_modifyType _ _ _).symm, fun _ => stem_setName _ _ _ _⟩
  | copy _ _ copies =>
    exact ⟨copies.size ▸ Nat.le_succ _, fun bound => by rw [copies.old bound]⟩

/-- An element keeps its type, or the type is a new one of the stem that it had. -/
theorem NamesRoot.element (names : NamesRoot d symbol id d') (other : ElementId) :
    d'.element other = d.element other ∨
      ∃ type copy, d.elementType other = some type ∧ d.isComplex type = true ∧
        copy.index < d'.types.size ∧ (d'.type copy).stem = (d.type type).stem ∧
          d'.element other = { d.element other with directType := some copy } := by
  cases names with
  | skip | name => exact .inl rfl
  | @copy type _ typed complex copies =>
    rw [copies.element]
    split
    · rename_i same
      subst same
      refine .inr ⟨type, ⟨d.types.size⟩, typed, complex, ?_, ?_, rfl⟩
      · rw [copies.size]
        exact Nat.lt_succ_self _
      · obtain ⟨minted, copied⟩ := copies.copied
        rw [copied]
        rfl
    · exact .inl rfl

theorem NamesRoot.placed (names : NamesRoot d symbol id d') (placed : d.Placed) : d'.Placed where
  bases type base h := by
    have size := names.keepsStems.size
    suffices h : ∃ old, (d.type old).base = some base from
      let ⟨old, h⟩ := h
      Nat.lt_of_lt_of_le (placed.bases old base h) size
    cases names with
    | skip => exact ⟨type, h⟩
    | name own =>
      have same := TypeDef.get_of_stem TypeDef.base (fun _ => rfl)
        (stem_setName d own type (some symbol))
      exact ⟨type, same.symm.trans h⟩
    | @copy original _ _ _ copies =>
      by_cases last : type.index = d.types.size
      · obtain ⟨minted, copied⟩ := copies.copied
        obtain rfl : type = ⟨d.types.size⟩ := congrArg TypeId.mk last
        rw [copied] at h
        exact ⟨original, h⟩
      · rw [copies.type_of_ne last] at h
        exact ⟨type, h⟩
  directType {other type} h := by
    rcases names.element other with same | ⟨-, copy, -, -, inRange, -, same⟩
    · rw [same] at h
      exact Nat.lt_of_lt_of_le (placed.directType h) names.keepsStems.size
    · rw [same] at h
      rwa [← Option.some.inj h]
  root h := by
    rw [names.roots] at h
    rw [names.elementCount]
    exact placed.root h
  reference {_ other} h := by
    rw [names.roots] at h
    rcases names.element other with same | ⟨type, copy, -, -, -, -, same⟩
    · rw [same]
      exact placed.reference h
    · rw [same]
      exact placed.reference h
  injective h h' := by
    rw [names.roots] at h h'
    exact placed.injective h h'

/-- The check of a top-level element finds the same. -/
theorem NamesRoot.check (names : NamesRoot d symbol id d') (placed : d.Placed) {name : Symbol}
    {root : ElementId} (found : d.roots.find? name = some root) (record field : String) :
    d'.check record field root = d.check record field root := by
  have found' : d'.roots.find? name = some root := by rw [names.roots, found]
  have typed := placed.elementType found
  have typed' := (names.placed placed).elementType found'
  rcases names.element root with same | ⟨type, copy, own, complex, inRange, stem, same⟩
  · refine check_congr (by rw [same]) (by rw [same]) (by rw [same]) ?_ _ _
    rw [typed', typed, same]
    cases direct : (d.element root).directType with
    | none => exact .none
    | some type =>
      have bound := placed.directType direct
      refine .some ⟨names.keepsStems.builtin placed.bases bound (names.keepsStems.stem bound),
        fun _ => ?_⟩
      cases names with
      | skip => rfl
      | name => exact get_type_modifyType TypeDef.symbol _ _ _ fun _ => rfl
      | copy _ _ copies => rw [copies.old bound]
  · have bound := lt_size_of_isComplex complex
    have direct : (d.element root).directType = some type := typed ▸ own
    refine check_congr ?_ (by rw [same]) (by rw [same]) ?_ _ _
    · simp [same, Declaration.Element.isDefined, direct]
    · rw [typed', own, same]
      refine .some ⟨names.keepsStems.builtin placed.bases bound stem, fun none => ?_⟩
      obtain ⟨b, built, -⟩ := exists_builtin_of_isComplex complex
      rw [none] at built
      cases built

end Step

/-! ## How far naming gets -/

/-- What naming some top-level elements keeps. -/
structure KeepsChecks (d d' : Declarations) : Prop where
  placed : d.Placed → d'.Placed
  roots : d'.roots = d.roots
  check {symbol : Symbol} {id : ElementId} (placed : d.Placed) (found : d.roots.find? symbol = some id)
    (record name : String) : d'.check record name id = d.check record name id

theorem KeepsChecks.trans {a b c : Declarations} (ab : KeepsChecks a b) (bc : KeepsChecks b c) :
    KeepsChecks a c where
  placed placed := bc.placed (ab.placed placed)
  roots := bc.roots.trans ab.roots
  check placed found record name :=
    (bc.check (ab.placed placed) (ab.roots ▸ found) record name).trans
      (ab.check placed found record name)

theorem NamesRoot.keepsChecks {d d' : Declarations} {symbol : Symbol} {id : ElementId}
    (names : NamesRoot d symbol id d') : KeepsChecks d d' :=
  ⟨names.placed, names.roots, fun placed found => names.check placed found⟩

theorem KeepsChecks.of_sameShape {d d' : Declarations} (same : SameShape d d') : KeepsChecks d d' :=
  ⟨same.placed, same.roots, fun _ _ record name => same.check record name _⟩

theorem nameRoots_keepsChecks (roots : List (Symbol × ElementId)) {g : Generation}
    (placed : g.declarations.Placed)
    (found : ∀ root ∈ roots, g.declarations.roots.find? root.1 = some root.2) :
    KeepsChecks g.declarations (nameRoots g roots).1.declarations ∧
      ((nameRoots g roots).2 = true ↔ ∀ root ∈ roots,
        ∃ passed, g.declarations.check "root" root.1.localName root.2 = .ok passed) := by
  induction roots generalizing g with
  | nil => exact ⟨⟨id, rfl, fun _ _ _ _ => rfl⟩, by simp [nameRoots]⟩
  | cons root rest ih =>
    obtain ⟨symbol, id⟩ := root
    have own := found (symbol, id) List.mem_cons_self
    unfold nameRoots
    cases checked : g.declarations.check "root" symbol.localName id with
    | error problem =>
      refine ⟨⟨fun h => h, rfl, fun _ _ _ _ => rfl⟩, ?_⟩
      simp [checked]
    | ok passed =>
      have names := nameRoot_namesRoot g symbol (placed.root own)
      have later : ∀ root ∈ rest,
          (g.nameRoot symbol id).declarations.roots.find? root.1 = some root.2 := by
        intro root member
        rw [names.roots]
        exact found root (List.mem_cons_of_mem _ member)
      obtain ⟨keeps, finishes⟩ := ih (names.placed placed) later
      refine ⟨names.keepsChecks.trans keeps, ?_⟩
      rw [finishes, List.forall_mem_cons]
      refine ⟨fun all => ⟨⟨passed, checked⟩, fun root member => ?_⟩, fun all root member => ?_⟩
      · rw [← names.check placed (found root (List.mem_cons_of_mem _ member))]
        exact all root member
      · rw [names.check placed (found root (List.mem_cons_of_mem _ member))]
        exact all.2 root member

/-! ## Copies of named types -/

/-- Every top-level element of a complex type has given its type its name, unless the type is named like
it anyway. -/
def NamesTypes (d : Declarations) : Prop :=
  ∀ symbol id type, d.roots.find? symbol = some id → d.elementType id = some type →
    d.isComplex type = true → (d.type type).symbol ≠ symbol →
      (d.type type).overrideSymbol = some symbol

/-- A copy that a top-level element got of its complex type when it was named once more. -/
structure IsCopy (d again : Declarations) (type copy : TypeId) (symbol : Symbol)
    (id : ElementId) : Prop where
  root : d.roots.find? symbol = some id
  typed : d.elementType id = some type
  complex : d.isComplex type = true
  other : (d.type type).symbol ≠ symbol
  element : again.element id = { d.element id with directType := some copy }
  new : d.types.size ≤ copy.index
  inRange : copy.index < again.types.size
  copied : ∃ minted, again.type copy =
    { d.type type with
      symbol := minted, overrideSymbol := some symbol, record := none, enumeration := none }

/-- What holds of declarations when some top-level elements are named once more. -/
structure Renewed (d : Declarations) (done : List (Symbol × ElementId)) (again : Declarations) :
    Prop where
  elementCount : again.elements.size = d.elements.size
  roots : again.roots = d.roots
  size : d.types.size ≤ again.types.size
  old {type : TypeId} : type.index < d.types.size → again.type type = d.type type
  element (id : ElementId) : again.element id = d.element id ∨
    ∃ type copy symbol, IsCopy d again type copy symbol id
  later {id : ElementId} : id ∉ done.map (·.2) → again.element id = d.element id
  copied {symbol : Symbol} {id : ElementId} {type : TypeId} : (symbol, id) ∈ done →
    d.elementType id = some type → d.isComplex type = true → (d.type type).symbol ≠ symbol →
      ∃ copy, IsCopy d again type copy symbol id

theorem Renewed.nil (d : Declarations) : Renewed d [] d :=
  ⟨rfl, rfl, Nat.le_refl _, fun _ => rfl, fun _ => .inl rfl, fun _ => rfl,
    fun member => by cases member⟩

section Renewal

variable {d again : Declarations} {done : List (Symbol × ElementId)}

theorem Renewed.keepsStems (renewed : Renewed d done again) : KeepsStems d again :=
  ⟨renewed.size, fun bound => by rw [renewed.old bound]⟩

theorem Renewed.reference (renewed : Renewed d done again) (id : ElementId) :
    (again.element id).reference = (d.element id).reference := by
  rcases renewed.element id with same | ⟨type, copy, symbol, isCopy⟩
  · rw [same]
  · rw [isCopy.element]

/-- Another element that is named leaves a copy alone. -/
theorem IsCopy.step {d' : Declarations} {type copy other : TypeId} {symbol symbol' : Symbol}
    {id id' : ElementId} (isCopy : IsCopy d again type copy symbol id) (ne : id ≠ id')
    (copies : GivesCopy again symbol' id' other d') : IsCopy d d' type copy symbol id where
  root := isCopy.root
  typed := isCopy.typed
  complex := isCopy.complex
  other := isCopy.other
  element := by rw [copies.element, if_neg ne, isCopy.element]
  new := isCopy.new
  inRange := by
    rw [copies.size]
    exact Nat.lt_succ_of_lt isCopy.inRange
  copied := by
    rw [copies.old isCopy.inRange]
    exact isCopy.copied

/-- An element that needs no name changes nothing. -/
theorem Renewed.skip (renewed : Renewed d done again) {symbol : Symbol} {id : ElementId}
    (free : ∀ type, d.elementType id = some type → d.isComplex type = true →
      (d.type type).symbol = symbol) :
    Renewed d (done ++ [(symbol, id)]) again where
  elementCount := renewed.elementCount
  roots := renewed.roots
  size := renewed.size
  old := renewed.old
  element := renewed.element
  later absent := renewed.later fun member => absent (by simp_all)
  copied member typed complex other := by
    rcases List.mem_append.1 member with before | new
    · exact renewed.copied before typed complex other
    · obtain ⟨rfl, rfl⟩ := Prod.mk.inj (List.mem_singleton.1 new)
      exact absurd (free _ typed complex) other

/-- An element of a complex type gets a copy of it. -/
theorem Renewed.copy {d' : Declarations} (renewed : Renewed d done again) {symbol : Symbol}
    {id : ElementId} {type : TypeId} (found : d.roots.find? symbol = some id)
    (fresh : id ∉ done.map (·.2)) (typed : d.elementType id = some type)
    (complex : d.isComplex type = true) (other : (d.type type).symbol ≠ symbol)
    (copies : GivesCopy again symbol id type d') :
    Renewed d (done ++ [(symbol, id)]) d' := by
  have bound := lt_size_of_isComplex complex
  have own : IsCopy d d' type ⟨again.types.size⟩ symbol id := by
    refine ⟨found, typed, complex, other, ?_, renewed.size, ?_, ?_⟩
    · rw [copies.element, if_pos rfl, renewed.later fresh]
    · rw [copies.size]
      exact Nat.lt_succ_self _
    · obtain ⟨minted, copied⟩ := copies.copied
      exact ⟨minted, by rw [copied, renewed.old bound]⟩
  refine ⟨copies.elementCount.trans renewed.elementCount, copies.roots.trans renewed.roots, ?_,
    fun {t} h => ?_, fun other => ?_, fun {other} absent => ?_, fun {symbol' other type'} member
    typed' complex' other' => ?_⟩
  · rw [copies.size]
    exact Nat.le_succ_of_le renewed.size
  · rw [copies.old (Nat.lt_of_lt_of_le h renewed.size), renewed.old h]
  · by_cases same : other = id
    · exact .inr ⟨_, _, _, same ▸ own⟩
    · rw [copies.element, if_neg same]
      exact (renewed.element other).imp (fun h => h)
        fun ⟨_, _, _, isCopy⟩ => ⟨_, _, _, isCopy.step same copies⟩
  · have ne : other ≠ id := by
      rintro rfl
      exact absent (by simp)
    rw [copies.element, if_neg ne]
    exact renewed.later fun member => absent (by simp_all)
  · rcases List.mem_append.1 member with before | new
    · obtain ⟨copy, isCopy⟩ := renewed.copied before typed' complex' other'
      have ne : other ≠ id := by
        rintro rfl
        exact fresh (List.mem_map.2 ⟨_, before, rfl⟩)
      exact ⟨copy, isCopy.step ne copies⟩
    · obtain ⟨rfl, rfl⟩ := Prod.mk.inj (List.mem_singleton.1 new)
      obtain rfl := Option.some.inj (typed.symm.trans typed')
      exact ⟨_, own⟩

/-- One step of naming once more. -/
theorem Renewed.nameRoot {g : Generation} (renewed : Renewed d done g.declarations)
    (placed : d.Placed) (names : NamesTypes d) {symbol : Symbol} {id : ElementId}
    (found : d.roots.find? symbol = some id) (fresh : id ∉ done.map (·.2)) :
    Renewed d (done ++ [(symbol, id)]) (g.nameRoot symbol id).declarations := by
  have inside : id.index < g.declarations.elements.size := by
    rw [renewed.elementCount]
    exact placed.root found
  have sameType : g.declarations.elementType id = d.elementType id := by
    have root := placed.reference found
    rw [(Renamed.refl g.declarations).elementType_root inside (by rw [renewed.reference, root]),
      renewed.later fresh, placed.elementType found]
  unfold Generation.nameRoot
  rw [sameType]
  cases typed : d.elementType id with
  | none => exact renewed.skip fun type h => by rw [typed] at h; cases h
  | some type =>
    dsimp only
    have only {other : TypeId} (h : d.elementType id = some other) : other = type :=
      Option.some.inj (h.symm.trans typed)
    have bound := placed.directType (placed.elementType found ▸ typed)
    rw [renewed.keepsStems.isComplex placed.bases bound (renewed.keepsStems.stem bound),
      renewed.old bound]
    cases complex : d.isComplex type with
    | false =>
      refine renewed.skip fun other h complex' => ?_
      rw [only h, complex] at complex'
      cases complex'
    | true =>
      by_cases same : (d.type type).symbol = symbol
      · simp only [Bool.not_true, Bool.false_or, decide_eq_true_eq, same, if_true]
        exact renewed.skip fun other h _ => only h ▸ same
      · simp only [Bool.not_true, Bool.false_or, decide_eq_true_eq, same, if_false,
          names symbol id type found typed complex same, Option.isSome_some, if_true]
        exact renewed.copy found fresh typed complex same
          (givesCopy g.declarations symbol inside type)

/-- Naming once more that gets to the end has copied the type of every top-level element. -/
theorem nameRoots_renewed (placed : d.Placed) (names : NamesTypes d)
    (rest : List (Symbol × ElementId)) {g : Generation} (renewed : Renewed d done g.declarations)
    (found : ∀ root ∈ rest, d.roots.find? root.1 = some root.2)
    (distinct : ((done ++ rest).map (·.2)).Nodup) (finished : (nameRoots g rest).2 = true) :
    Renewed d (done ++ rest) (nameRoots g rest).1.declarations := by
  induction rest generalizing done g with
  | nil =>
    rw [List.append_nil]
    exact renewed
  | cons root rest ih =>
    obtain ⟨symbol, id⟩ := root
    unfold nameRoots at finished ⊢
    cases checked : g.declarations.check "root" symbol.localName id with
    | error problem =>
      rw [checked] at finished
      cases finished
    | ok passed =>
      simp only [checked] at finished ⊢
      have fresh : id ∉ done.map (·.2) := by
        intro member
        rw [List.map_append, List.nodup_append] at distinct
        exact distinct.2.2 id member id (List.mem_map.2 ⟨_, List.mem_cons_self, rfl⟩) rfl
      have step := renewed.nameRoot placed names (found _ List.mem_cons_self) fresh
      have distinctRest : ((done ++ [(symbol, id)] ++ rest).map (·.2)).Nodup := by
        rwa [List.append_assoc]
      have all := ih step (fun root member => found root (List.mem_cons_of_mem _ member))
        distinctRest finished
      rwa [List.append_assoc] at all

/-! ## Types and their copies -/

/-- A type, where elements are named once more: the type itself, or the copy that took its place. -/
inductive Corresponds (d again : Declarations) : TypeId → TypeId → Prop
  | same {type : TypeId} (bound : type.index < d.types.size) : Corresponds d again type type
  | copy {type copy : TypeId} {symbol : Symbol} {id : ElementId}
      (isCopy : IsCopy d again type copy symbol id) : Corresponds d again type copy

theorem Corresponds.bound {type other : TypeId} (corresponds : Corresponds d again type other) :
    type.index < d.types.size := by
  cases corresponds with
  | same bound => exact bound
  | copy isCopy => exact lt_size_of_isComplex isCopy.complex

theorem Corresponds.stem (renewed : Renewed d done again) {type other : TypeId}
    (corresponds : Corresponds d again type other) :
    (again.type other).stem = (d.type type).stem := by
  cases corresponds with
  | same bound => exact renewed.keepsStems.stem bound
  | copy isCopy =>
    obtain ⟨minted, copied⟩ := isCopy.copied
    rw [copied]
    rfl

section Views

variable (renewed : Renewed d done again) (placed : d.Placed)

include renewed placed

theorem Corresponds.builtin {type other : TypeId} (corresponds : Corresponds d again type other) :
    again.builtin other = d.builtin type :=
  renewed.keepsStems.builtin placed.bases corresponds.bound (corresponds.stem renewed)

theorem Corresponds.isComplex {type other : TypeId} (corresponds : Corresponds d again type other) :
    again.isComplex other = d.isComplex type :=
  renewed.keepsStems.isComplex placed.bases corresponds.bound (corresponds.stem renewed)

theorem IsCopy.elementType {type copy : TypeId} {symbol : Symbol}
    {id : ElementId} (isCopy : IsCopy d again type copy symbol id) :
    again.elementType id = some copy := by
  have inside : id.index < again.elements.size := by
    rw [renewed.elementCount]
    exact placed.root isCopy.root
  rw [(Renamed.refl again).elementType_root inside
    (by rw [renewed.reference, placed.reference isCopy.root]), isCopy.element]

/-- The types of an element correspond. -/
theorem Renewed.elementType (id : ElementId) :
    Option.Rel (Corresponds d again) (d.elementType id) (again.elementType id) := by
  -- By the steps of the walk along references, at the end of which the types are direct ones.
  suffices within : ∀ limit id, Option.Rel (Corresponds d again) (d.elementTypeWithin limit id)
      (again.elementTypeWithin limit id) by
    have walk := within d.elements.size id
    unfold Declarations.elementType
    rwa [renewed.elementCount]
  intro limit
  induction limit with
  | zero => exact fun _ => .none
  | succ limit ih =>
    intro id
    rw [elementTypeWithin, elementTypeWithin, renewed.reference]
    cases reference : (d.element id).reference with
    | some next => exact ih next
    | none =>
      rcases renewed.element id with same | ⟨type, copy, symbol, isCopy⟩
      · dsimp only
        rw [same]
        cases direct : (d.element id).directType with
        | none => exact .none
        | some type => exact .some (.same (placed.directType direct))
      · have typed := isCopy.typed
        rw [placed.elementType isCopy.root] at typed
        dsimp only
        rw [isCopy.element, typed]
        exact .some (.copy isCopy)

theorem Renewed.elementElemType (id : ElementId) :
    again.elementElemType id = d.elementElemType id := by
  have maxOccurs : (again.element id).maxOccurs = (d.element id).maxOccurs := by
    rcases renewed.element id with same | ⟨type, copy, symbol, isCopy⟩
    · rw [same]
    · rw [isCopy.element]
  have types := renewed.elementType placed id
  unfold Declarations.elementElemType
  generalize d.elementType id = a, again.elementType id = b at types
  cases types with
  | none => rfl
  | some corresponds =>
    have same := renewed.keepsStems.elemType placed.bases corresponds.bound
      (corresponds.stem renewed)
    simp only [maxOccurs, same]

/-- A check finds the same. -/
theorem Renewed.check (record name : String) (id : ElementId) :
    again.check record name id = d.check record name id := by
  have types : Option.Rel (ChecksAlike d again) (d.elementType id) (again.elementType id) := by
    have types := renewed.elementType placed id
    generalize d.elementType id = a, again.elementType id = b at types
    cases types with
    | none => exact .none
    | some corresponds =>
      refine .some ⟨corresponds.builtin renewed placed, fun none => ?_⟩
      cases corresponds with
      | same bound => rw [renewed.old bound]
      | copy isCopy =>
        obtain ⟨b, built, -⟩ := exists_builtin_of_isComplex isCopy.complex
        rw [none] at built
        cases built
  rcases renewed.element id with same | ⟨type, copy, symbol, isCopy⟩
  · exact check_congr (by rw [same]) (by rw [same]) (by rw [same]) types _ _
  · have typed := isCopy.typed
    rw [placed.elementType isCopy.root] at typed
    refine check_congr ?_ (by rw [isCopy.element]) (by rw [isCopy.element]) types _ _
    simp [isCopy.element, Declaration.Element.isDefined, typed]

end Views

end Renewal

end Generation

end XsdRecords
