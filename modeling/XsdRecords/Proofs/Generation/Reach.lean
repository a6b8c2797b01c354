import Mathlib.Data.Set.Card
import XsdRecords.Proofs.Generation.DeclaredFields
import XsdRecords.Proofs.Generation.Wrappers

/-! # What a generation emits

A run that does not fail emits what the top-level elements reach and nothing else: no type that a
reached field has is missed, and none is emitted for another reason.  Hence the number of records is
that of the complex types that are reached and of the arrays whose items need a record. -/

namespace XsdRecords

namespace Declaration.Declarations

open XsdRecords.Vocabulary (Builtin)

/-! ## Types with fields -/

theorem HasComplexFields.isComplex {d : Declarations} (complex : d.HasComplexFields) {owner : TypeId}
    {entry : String × ElementId} (member : entry ∈ (d.type owner).fields) :
    d.isComplex owner = true := by
  rw [isComplex_of_builtin (builtin_of_own (complex owner (List.ne_nil_of_mem member)))]
  rfl

theorem Renamed.hasComplexFields {d d' : Declarations} (renamed : Renamed d d')
    (complex : d.HasComplexFields) : d'.HasComplexFields := by
  intro id fields
  by_cases bound : id.index < d'.types.size
  · obtain ⟨original, -, same⟩ := renamed.copy bound
    rw [TypeDef.get_of_body TypeDef.fields (fun _ => rfl) same] at fields
    rw [TypeDef.get_of_body TypeDef.builtin (fun _ => rfl) same]
    exact complex original fields
  · rw [type_of_size_le (Nat.le_of_not_lt bound)] at fields
    exact absurd rfl fields

end Declaration.Declarations

namespace Generation

open XsdRecords.Declaration (Declarations ElementId TypeId TypeDef Symbol SymbolTable)
open XsdRecords.Layout
open XsdRecords.Vocabulary (Builtin)

/-! ## Reached types -/

/-- The types that the complex types of top-level elements reach through the types of fields. -/
inductive Reached (d : Declarations) : TypeId → Prop
  | root {symbol : Symbol} {id : ElementId} {type : TypeId} (found : d.roots.find? symbol = some id)
      (typed : d.elementType id = some type) (complex : d.isComplex type = true) : Reached d type
  | field {owner type : TypeId} {entry : String × ElementId} (reached : Reached d owner)
      (member : entry ∈ (d.type owner).fields) (typed : d.elementType entry.2 = some type) :
      Reached d type

/-- A generation changes neither top-level elements nor the fields of types. -/
theorem Extends.reached {g g' : Generation} (grows : Extends g g') {type : TypeId} :
    Reached g'.declarations type ↔ Reached g.declarations type := by
  constructor
  · intro reached
    induction reached with
    | root found typed complex =>
      rw [grows.shape.roots] at found
      rw [grows.shape.elementType] at typed
      rw [grows.shape.isComplex] at complex
      exact .root found typed complex
    | field _ member typed ih =>
      rw [grows.shape.elementType] at typed
      exact .field ih (grows.mem_fields.1 member) typed
  · intro reached
    induction reached with
    | root found typed complex =>
      rw [← grows.shape.roots] at found
      rw [← grows.shape.elementType] at typed
      rw [← grows.shape.isComplex] at complex
      exact .root found typed complex
    | field _ member typed ih =>
      rw [← grows.shape.elementType] at typed
      exact .field ih (grows.mem_fields.2 member) typed

theorem Extends.hasComplexFields {g g' : Generation} (grows : Extends g g')
    (complex : g.declarations.HasComplexFields) : g'.declarations.HasComplexFields := by
  intro id fields
  obtain ⟨entry, member⟩ := List.exists_mem_of_ne_nil _ fields
  rw [grows.shape.ofCore TypeDef.builtin (fun _ => rfl)]
  exact complex id (List.ne_nil_of_mem (grows.mem_fields.1 member))

/-! ## Nothing else is emitted -/

section Step

variable {start : Declarations} {reach : TypeId → Prop} {g g' : Generation}

/-- Types with an output are reached. -/
structure MarksReached (reach : TypeId → Prop) (g : Generation) : Prop where
  record {type : TypeId} {record : RecordId} :
    (g.declarations.type type).record = some record → reach type
  enumeration {type : TypeId} {enumeration : EnumerationId} :
    (g.declarations.type type).enumeration = some enumeration → reach type

theorem MarksReached.begun (records : ∀ type, (g.declarations.type type).record = none)
    (enumerations : ∀ type, (g.declarations.type type).enumeration = none) :
    MarksReached reach g := by
  constructor
  · intro type record marked
    rw [records] at marked
    cases marked
  · intro type enumeration marked
    rw [enumerations] at marked
    cases marked

theorem Step.marksReached (step : Step start reach g g') (marked : MarksReached reach g) :
    MarksReached reach g' := by
  cases step with
  | journal | field | table | orphan => exact ⟨marked.record, marked.enumeration⟩
  | sort type =>
    have same := marks_sortFields g.declarations type
    exact ⟨fun h => marked.record ((same _).1.symm.trans h),
      fun h => marked.enumeration ((same _).2.symm.trans h)⟩
  | record reached fresh marks =>
    refine ⟨fun h => ?_, fun h => marked.enumeration ((marks.enumeration _).symm.trans h)⟩
    rcases marks.marks_cases h with ⟨rfl, -⟩ | old
    · exact reached
    · exact marked.record old
  | enumeration reached marks =>
    refine ⟨fun h => marked.record ((marks.record _).symm.trans h), fun h => ?_⟩
    rw [marks.types] at h
    split at h
    · rename_i same
      exact same ▸ reached
    · exact marked.enumeration h

end Step

/-! ## The number of records -/

/-- A place refers to one record. -/
theorem RefersTo.unique {g : Generation} {place : TypeId × Nat} {id other : RecordId}
    (refers : RefersTo g place id) (refers' : RefersTo g place other) : id = other := by
  obtain ⟨record, field, marked, member, constraint⟩ := refers
  obtain ⟨record', field', marked', member', constraint'⟩ := refers'
  obtain rfl := Option.some.inj (marked.symm.trans marked')
  obtain rfl := Option.some.inj (member.symm.trans member')
  cases constraint.symm.trans constraint'
  rfl

theorem ncard_index_lt (n : Nat) : {id : RecordId | id.index < n}.ncard = n := by
  have image : {id : RecordId | id.index < n} =
      RecordId.mk '' (Finset.range n : Set Nat) := by
    ext ⟨index⟩
    simp
  rw [image, Set.ncard_image_of_injective _ fun _ _ same => RecordId.mk.inj same,
    Set.ncard_coe_finset, Finset.card_range]

/-- No two types have one record. -/
theorem ncard_marked {g : Generation} (sound : Sound g) :
    {id : RecordId | ∃ type, (g.declarations.type type).record = some id}.ncard =
      {type | (g.declarations.type type).record.isSome = true}.ncard := by
  have marked : ∀ type, (g.declarations.type type).record.isSome = true →
      ∃ id, (g.declarations.type type).record = some id := fun _ => Option.isSome_iff_exists.1
  choose own marked using marked
  symm
  refine Set.ncard_congr own (fun type some => ⟨type, marked type some⟩) ?_ ?_
  · intro type other some some' same
    exact sound.injective (marked type some) ((marked other some').trans (congrArg _ same.symm))
  · rintro record ⟨type, found⟩
    have some : (g.declarations.type type).record.isSome = true := by rw [found]; rfl
    exact ⟨type, some, Option.some.inj ((marked type some).symm.trans found)⟩

/-- Each record that no type has is that of the one place that refers to it. -/
theorem ncard_wrappers {g : Generation} (wraps : WrapsOnce g) :
    {id : RecordId | id.index < g.schema.records.size ∧
        ∀ type, (g.declarations.type type).record ≠ some id}.ncard =
      {place | ∃ id, RefersTo g place id ∧
        ∀ type, (g.declarations.type type).record ≠ some id}.ncard := by
  have refers : ∀ id : RecordId, (id.index < g.schema.records.size ∧
      ∀ type, (g.declarations.type type).record ≠ some id) →
        ∃ place, RefersTo g place id ∧ ∀ other, RefersTo g other id → other = place := by
    rintro id ⟨inside, unmarked⟩
    exact wraps.once inside unmarked
  choose place refers only using refers
  refine Set.ncard_congr place (fun id free => ⟨id, refers id free, free.2⟩) ?_ ?_
  · intro id other free free' same
    have refers' := refers other free'
    rw [← same] at refers'
    exact (refers id free).unique refers'
  · rintro spot ⟨id, refersTo, unmarked⟩
    have free := And.intro (wraps.inRange refersTo) unmarked
    exact ⟨id, free, (only id free spot refersTo).symm⟩

/-- Records are those of types, one each, and those that one place refers to each. -/
theorem size_records {g : Generation} (sound : Sound g) (wraps : WrapsOnce g) :
    g.schema.records.size = {type | (g.declarations.type type).record.isSome = true}.ncard +
      {place | ∃ id, RefersTo g place id ∧
        ∀ type, (g.declarations.type type).record ≠ some id}.ncard := by
  have split : {id : RecordId | id.index < g.schema.records.size} =
      {id | ∃ type, (g.declarations.type type).record = some id} ∪
        {id | id.index < g.schema.records.size ∧
          ∀ type, (g.declarations.type type).record ≠ some id} := by
    ext id
    constructor
    · intro inside
      by_cases marked : ∃ type, (g.declarations.type type).record = some id
      · exact .inl marked
      · exact .inr ⟨inside, not_exists.1 marked⟩
    · rintro (⟨type, marked⟩ | ⟨inside, -⟩)
      · exact sound.record_lt marked
      · exact inside
  have finite : {id : RecordId | id.index < g.schema.records.size}.Finite := by
    by_cases none : g.schema.records.size = 0
    · simp [none]
    · exact Set.finite_of_ncard_ne_zero ((ncard_index_lt _).trans_ne none)
  have count := (ncard_index_lt g.schema.records.size).symm
  rw [split] at count
  rw [← ncard_marked sound, ← ncard_wrappers wraps]
  refine count.trans (Set.ncard_union_eq (Set.disjoint_left.2 ?_)
    (finite.subset (split ▸ Set.subset_union_left))
    (finite.subset (split ▸ Set.subset_union_right)))
  rintro id ⟨type, marked⟩ ⟨-, unmarked⟩
  exact unmarked type marked

/-! ## Runs that do not fail -/

/-- The items of the field of an entry need a record: they may be nil, and are no records yet. -/
def WrapsItems (g : Generation) (entry : String × ElementId) : Prop :=
  ∃ type builtin, g.declarations.elementType entry.2 = some type ∧
    g.declarations.builtin type = some builtin ∧ g.declarations.isComplex type = false ∧
      HasNillableItems g.declarations entry.2 (g.fieldMode entry.2 type builtin)

/-- A field of a reached type, told by its place among the fields, whose items need a record. -/
def WrapsAt (g : Generation) (place : TypeId × Nat) : Prop :=
  Reached g.declarations place.1 ∧ g.declarations.isComplex place.1 = true ∧
    ∃ entry, (g.declarations.attributesFirst (g.declarations.type place.1).fields)[place.2]? =
      some entry ∧ WrapsItems g entry

/-- What a run has emitted is what its declarations reach. -/
structure EmitsReached (g : Generation) : Prop where
  record (type : TypeId) : (g.declarations.type type).record.isSome = true ↔
    g.declarations.isComplex type = true ∧ Reached g.declarations type
  enumeration (type : TypeId) : (g.declarations.type type).enumeration.isSome = true ↔
    g.declarations.isComplex type = false ∧ (g.declarations.type type).enumerators ≠ [] ∧
      ∃ owner entry, Reached g.declarations owner ∧ g.declarations.isComplex owner = true ∧
        entry ∈ (g.declarations.type owner).fields ∧ g.declarations.elementType entry.2 = some type
  count : g.schema.records.size =
    {type | g.declarations.isComplex type = true ∧ Reached g.declarations type}.ncard +
      {place | WrapsAt g place}.ncard

theorem forall₂_getElem? {α β : Type} {R : α → β → Prop} {xs : List α} {ys : List β}
    (related : List.Forall₂ R xs ys) {i : Nat} {x : α} (found : xs[i]? = some x) :
    ∃ y, ys[i]? = some y ∧ R x y := by
  induction related generalizing i with
  | nil => simp at found
  | cons head _ ih =>
    cases i with
    | zero =>
      obtain rfl := Option.some.inj found
      exact ⟨_, rfl, head⟩
    | succ i => exact ih found

section Emitted

variable {g : Generation}
  (sound : Sound g) (filled : ∀ type, Filled g type)
  (complexFields : g.declarations.HasComplexFields)
  (emitted : ∀ type, Reached g.declarations type → Emitted g type)

include filled complexFields in
/-- Where the types of top-level elements are emitted, every reached type is. -/
theorem emitted_of_reached
    (roots : ∀ symbol id type, g.declarations.roots.find? symbol = some id →
      g.declarations.elementType id = some type → g.declarations.isComplex type = true →
        Emitted g type) {type : TypeId} (reached : Reached g.declarations type) :
    Emitted g type := by
  induction reached with
  | root found typed complex => exact roots _ _ _ found typed complex
  | field _ member typed ih =>
    obtain ⟨record, marked, -⟩ := ih.complex (complexFields.isComplex member)
    obtain ⟨i, place⟩ := List.getElem?_of_mem (mem_attributesFirst.2 member)
    obtain ⟨field, -, type', -, typed', -, -, emitted, -⟩ :=
      forall₂_getElem? (filled _ record marked) place
    obtain rfl := Option.some.inj (typed.symm.trans typed')
    exact emitted

include filled emitted in
/-- The places that refer to a wrapper are those of the arrays whose items need a record. -/
theorem wrapsAt_iff (marks : MarksReached (Reached g.declarations) g) (sound : Sound g)
    {place : TypeId × Nat} : WrapsAt g place ↔
      ∃ id, RefersTo g place id ∧ ∀ type, (g.declarations.type type).record ≠ some id := by
  constructor
  · rintro ⟨reached, complex, entry, member, type, builtin, typed, built, scalar, items⟩
    obtain ⟨record, marked, -⟩ := (emitted _ reached).complex complex
    obtain ⟨field, place', own⟩ := forall₂_getElem? (filled _ record marked) member
    obtain ⟨type', builtin', typed', built', -, done, shape⟩ := own
    obtain rfl := Option.some.inj (typed.symm.trans typed')
    obtain rfl := Option.some.inj (built.symm.trans built')
    rw [if_pos ((wrapsItems_plainField g entry type builtin).2 ⟨done.scalar scalar, items⟩)] at shape
    obtain ⟨wrapper, rfl, wraps⟩ := shape
    exact ⟨wrapper, ⟨record, _, marked, place', rfl⟩, wraps.unmarked⟩
  · rintro ⟨id, ⟨record, field, marked, member, constraint⟩, unmarked⟩
    obtain ⟨entry, place', type, builtin, typed, built, -, done, shape⟩ :=
      forall₂_getElem? (List.Forall₂.flip (filled place.1 record marked)) member
    refine ⟨marks.record marked, sound.complex marked, entry, place', type, builtin, typed, built, ?_⟩
    dsimp only at shape
    split at shape
    · rename_i wrapped
      obtain ⟨noRecord, items⟩ := (wrapsItems_plainField g entry type builtin).1 wrapped
      refine ⟨?_, items⟩
      rw [← Bool.not_eq_true]
      intro complex
      obtain ⟨own, found, -⟩ := done.complex complex
      rw [noRecord] at found
      cases found
    · subst shape
      rw [plainField, constraint_typedField] at constraint
      cases found : (g.declarations.type type).record with
      | none => cases enumeration : (g.declarations.type type).enumeration <;>
          simp [found, enumeration] at constraint
      | some own =>
        simp only [found, Option.map_some] at constraint
        cases constraint
        exact absurd found (unmarked type)

include sound filled complexFields emitted in
/-- Where fields and marks are as they are when everything reached is emitted, nothing else is. -/
theorem emitsReached (wraps : WrapsOnce g) (marks : MarksReached (Reached g.declarations) g)
    (enumerated : ∀ {type enumeration}, (g.declarations.type type).enumeration = some enumeration →
      g.declarations.isComplex type = false ∧ (g.declarations.type type).enumerators ≠ []) :
    EmitsReached g := by
  have record (type : TypeId) : (g.declarations.type type).record.isSome = true ↔
      g.declarations.isComplex type = true ∧ Reached g.declarations type := by
    constructor
    · intro some
      obtain ⟨record, marked⟩ := Option.isSome_iff_exists.1 some
      exact ⟨sound.complex marked, marks.record marked⟩
    · rintro ⟨complex, reached⟩
      obtain ⟨record, marked, -⟩ := (emitted type reached).complex complex
      rw [marked]
      rfl
  refine ⟨record, fun type => ⟨fun some => ?_, ?_⟩, ?_⟩
  · obtain ⟨enumeration, marked⟩ := Option.isSome_iff_exists.1 some
    obtain ⟨scalar, enumerators⟩ := enumerated marked
    refine ⟨scalar, enumerators, ?_⟩
    cases marks.enumeration marked with
    | root _ _ complex =>
      rw [scalar] at complex
      cases complex
    | field reached member typed =>
      exact ⟨_, _, reached, complexFields.isComplex member, member, typed⟩
  · rintro ⟨scalar, enumerators, owner, entry, reached, -, member, typed⟩
    obtain ⟨enumeration, marked, -⟩ :=
      (emitted type (.field reached member typed)).enumerated scalar enumerators
    rw [marked]
    rfl
  · rw [size_records sound wraps]
    simp only [record, wrapsAt_iff filled emitted marks sound]

end Emitted

/-! ## Runs -/

/-- A run that does not fail emits what the top-level elements reach and nothing else. -/
theorem run_emitsReached {g : Generation} (pristine : g.declarations.Pristine)
    (inRange : g.declarations.InRange) (rooted : g.declarations.Rooted)
    (complexFields : g.declarations.HasComplexFields) (ok : (run g).hasFailed = false) :
    EmitsReached (run g) := by
  obtain ⟨start, named, schema, whole⟩ := run_named pristine inRange rooted ok
  have unmarked (type : TypeId) := named.renamed.unmarked pristine type
  have root {id : ElementId} (member : id ∈ g.declarations.roots.toSorted.map (·.2)) :
      ∃ symbol, start.declarations.roots.find? symbol = some id := by
    obtain ⟨⟨symbol, _⟩, listed, rfl⟩ := List.mem_map.1 member
    rw [named.renamed.roots]
    exact ⟨symbol, SymbolTable.mem_toSorted.1 listed⟩
  rw [whole] at ok ⊢
  have steps : Steps start.declarations (Reached start.declarations) start _ :=
    foldl_emitRoot_steps (g.declarations.roots.toSorted.map (·.2)) ⟨.field, id⟩
      fun id member type typed complex => by
        obtain ⟨symbol, found⟩ := root member
        exact .root found typed complex
  obtain ⟨grown, roots⟩ := foldl_emitRoot_growsBelow _ (named.sound pristine schema) ok
  generalize (g.declarations.roots.toSorted.map (·.2)).foldl emitRoot start = done at *
  -- What each step keeps, from a start without marks and records.
  have begun : GivesOnce start.declarations start ∧ WrapsOnce start ∧
      MarksReached (Reached start.declarations) start :=
    ⟨.begun (fun _ => rfl) (fun _ => rfl) schema, .begun (fun type => (unmarked type).1) schema,
      .begun (fun type => (unmarked type).1) fun type => (unmarked type).2⟩
  obtain ⟨-, wraps, marks⟩ := steps.inv (P := fun m => GivesOnce start.declarations m ∧
    WrapsOnce m ∧ MarksReached (Reached start.declarations) m) ok begun
    fun step ok ⟨once, wraps, marks⟩ => ⟨step.givesOnce once,
      step.wrapsOnce ok (fun type => (unmarked type).1) once wraps, step.marksReached marks⟩
  have grows := grown.grows
  have filled := grown.filled_of_empty schema
  have complex := grows.hasComplexFields (named.renamed.hasComplexFields complexFields)
  have emitted (type : TypeId) (reached : Reached done.declarations type) : Emitted done type := by
    refine emitted_of_reached filled complex (fun symbol id type found typed complex => ?_) reached
    rw [grows.shape.roots, named.renamed.roots] at found
    rw [grows.shape.elementType] at typed
    rw [grows.shape.isComplex] at complex
    exact roots id (List.mem_map.2 ⟨_, SymbolTable.mem_toSorted.2 found, rfl⟩) type typed complex
  refine emitsReached grown.sound filled complex emitted wraps ⟨fun marked =>
    grows.reached.2 (marks.record marked), fun marked => grows.reached.2 (marks.enumeration marked)⟩
    fun marked => ?_
  rcases grows.newEnumeration marked with old | new
  · rw [(unmarked _).2] at old
    cases old
  · rw [grows.shape.isComplex, grows.shape.enumerators]
    exact new

end Generation

end XsdRecords
