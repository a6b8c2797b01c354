import XsdRecords.Proofs.Generation.Naming
import XsdRecords.Proofs.Layout.WellFormed

/-! # What is generated is well formed

A field of an entry fits its element type, since a complex type has become a record before a field of
it is made, and a simple type never does. -/

namespace XsdRecords.Generation

open XsdRecords.Declaration (Declarations ElementId TypeId TypeDef Symbol)
open XsdRecords.Layout
open XsdRecords.Vocabulary (Builtin)

/-- The built-in types are those of the table, and the one of complex types. -/
def KnownBuiltins (d : Declarations) : Prop :=
  ∀ type b, (d.type type).builtin = some b → b ∈ Builtin.all ∨ b = Builtin.complexType

theorem KnownBuiltins.mem_all {d : Declarations} (known : KnownBuiltins d) {type : TypeId}
    {b : Builtin} (found : d.builtin type = some b) (scalar : b.isComplex = false) :
    b ∈ Builtin.all := by
  obtain ⟨t, -, own⟩ := List.exists_of_findSome?_eq_some found
  rcases known t b own with member | rfl
  · exact member
  · cases scalar

/-- The element type of a simple type holds no records. -/
theorem KnownBuiltins.isAggregate_elemType {d : Declarations} (known : KnownBuiltins d)
    {type : TypeId} (scalar : d.isComplex type = false) :
    (d.elemType type).isAggregate = false := by
  unfold Declarations.elemType
  cases found : d.builtin type with
  | none => rfl
  | some b =>
    have simple : b.isComplex = false := (Declarations.isComplex_of_builtin found).symm.trans scalar
    have none := Builtin.isAggregate_elemType_of_mem (known.mem_all found simple)
    dsimp only
    split
    · rwa [ElemType.isAggregate_widenToArray]
    · exact none

theorem KnownBuiltins.isAggregate_elementElemType {d : Declarations} (known : KnownBuiltins d)
    {id : ElementId} {type : TypeId} (typed : d.elementType id = some type)
    (scalar : d.isComplex type = false) : (d.elementElemType id).isAggregate = false := by
  have none := known.isAggregate_elemType scalar
  simp only [Declarations.elementElemType, typed]
  split
  · rwa [ElemType.isAggregate_widenToArray]
  · exact none

/-! ## Fields -/

theorem recordElemType_isAggregate (kind : RecordKind) (isSingle : Bool) :
    (recordElemType kind isSingle).isAggregate = true := by
  cases kind <;> cases isSingle <;> rfl

theorem sequence_iff_recordElemType (kind : RecordKind) (isSingle : Bool) :
    kind = .sequence ↔
      recordElemType kind isSingle = .list ∨ recordElemType kind isSingle = .table := by
  cases kind <;> cases isSingle <;> simp [recordElemType]

theorem choice_iff_recordElemType (kind : RecordKind) (isSingle : Bool) :
    kind = .choice ↔
      recordElemType kind isSingle = .choice ∨ recordElemType kind isSingle = .choiceArray := by
  cases kind <;> cases isSingle <;> simp [recordElemType]

theorem isArray_eq_false_of_isAggregate {t : ElemType} (h : t.isAggregate = true) :
    t.isArray = false := by
  cases t <;> first | rfl | cases h

theorem fieldShape_of_unmarked {g : Generation} {type : TypeId}
    (unmarked : (g.declarations.type type).record = none) (id : ElementId) :
    g.fieldShape id type = (g.declarations.elementElemType id, none) := by
  simp only [fieldShape, unmarked]

theorem fieldShape_of_marked {g : Generation} {type : TypeId} {record : RecordId}
    (marked : (g.declarations.type type).record = some record) (id : ElementId) :
    g.fieldShape id type =
      (recordElemType (g.schema.record record).kind
        (decide ((g.declarations.element id).maxOccurs = 1)), some (.record record)) := by
  simp only [fieldShape, marked]

theorem isAggregate_fieldShape_of_marked {g : Generation} {type : TypeId} {record : RecordId}
    (marked : (g.declarations.type type).record = some record) (id : ElementId) :
    (g.fieldShape id type).1.isAggregate = true := by
  rw [fieldShape_of_marked marked]
  exact recordElemType_isAggregate _ _

/-- A field whose values are records of a schema, and its element type that of such records. -/
theorem fieldWellFormed_of_record {s : RecordSchema} {field : Field} (record : RecordId)
    (own : field.constraint = some (.record record)) (inRange : record.index < s.records.size)
    (isSingle : Bool) (elemType : field.elemType = recordElemType (s.record record).kind isSingle)
    (plain : field.defaultValue = none) : FieldWellFormed s field := by
  have only {id : RecordId} (h : field.constraint = some (.record id)) : id = record := by
    rw [own] at h
    simpa [eq_comm] using h
  have aggregate : field.elemType.isAggregate = true := by
    rw [elemType]
    exact recordElemType_isAggregate _ _
  exact {
    record_lt := fun h => by rwa [only h]
    enumeration_lt := fun h => by
      rw [own] at h
      cases h
    aggregate_iff := ⟨fun _ => ⟨record, own⟩, fun _ => aggregate⟩
    sequence_iff := fun h => by
      rw [only h, elemType]
      exact sequence_iff_recordElemType _ _
    choice_iff := fun h => by
      rw [only h, elemType]
      exact choice_iff_recordElemType _ _
    notVoid := fun void => by
      rw [void] at aggregate
      cases aggregate
    default := fun h => by
      rw [plain] at h
      cases h }

/-- A field whose values are no records, and may be enumerators of a schema. -/
theorem fieldWellFormed_of_enumeration {s : RecordSchema} {field : Field}
    (enumeration : Option EnumerationId)
    (own : field.constraint = enumeration.map .enumeration)
    (inRange : ∀ id, enumeration = some id → id.index < s.enumerations.size)
    (simple : field.elemType.isAggregate = false) (notVoid : field.elemType ≠ .void)
    (default : ∀ value, field.defaultValue = some value →
      value.elemType = field.elemType ∧ field.nullable = false) : FieldWellFormed s field := by
  have noRecord (id : RecordId) : field.constraint ≠ some (.record id) := by
    rw [own]
    cases enumeration <;> simp
  exact {
    record_lt := fun h => absurd h (noRecord _)
    enumeration_lt := fun {id} h => inRange id (by
      rw [own] at h
      simpa using h)
    aggregate_iff := by
      constructor
      · intro aggregate
        rw [simple] at aggregate
        cases aggregate
      · rintro ⟨id, h⟩
        exact absurd h (noRecord id)
    sequence_iff := fun h => absurd h (noRecord _)
    choice_iff := fun h => absurd h (noRecord _)
    notVoid
    default := default _ }

/-- The field of the items of an array fits its element type. -/
theorem IsItem.wellFormed {g : Generation} {field : Field} (item : IsItem g field) :
    FieldWellFormed g.schema field := by
  obtain ⟨elemType, enumeration, isArray, inRange, rfl⟩ := item
  obtain ⟨-, simple, notVoid⟩ := (ElemType.isScalar_iff _).1 (ElemType.isScalar_ofArray isArray)
  exact fieldWellFormed_of_enumeration enumeration rfl inRange simple notVoid
    fun value h => by cases h

/-- The field of a type that has become a record holds the records of its values. -/
theorem plainField_wellFormed_of_marked {g : Generation} {entry : String × ElementId}
    {type : TypeId} {builtin : Builtin} {record : RecordId}
    (marked : (g.declarations.type type).record = some record)
    (inRange : record.index < g.schema.records.size) :
    FieldWellFormed g.schema (g.plainField entry type builtin) := by
  have shape := fieldShape_of_marked marked entry.2
  refine fieldWellFormed_of_record record ?_ inRange _ (congrArg Prod.fst shape) ?_
  · change ((g.fieldShape entry.2 type).2 <|> _) = _
    rw [shape]
    rfl
  · change g.defaultOf entry.2 type = none
    simp [defaultOf, isAggregate_fieldShape_of_marked marked]

/-- The field of any other type holds scalars, if its element does. -/
theorem plainField_wellFormed_of_unmarked {g : Generation} (sound : Sound g)
    {entry : String × ElementId} {type : TypeId} {builtin : Builtin}
    (unmarked : (g.declarations.type type).record = none)
    (simple : (g.declarations.elementElemType entry.2).isAggregate = false)
    (notVoid : g.declarations.elementElemType entry.2 ≠ .void) :
    FieldWellFormed g.schema (g.plainField entry type builtin) := by
  have shape := fieldShape_of_unmarked unmarked entry.2
  have elemType : (g.plainField entry type builtin).elemType =
      g.declarations.elementElemType entry.2 := congrArg Prod.fst shape
  refine fieldWellFormed_of_enumeration (g.declarations.type type).enumeration ?_
    (fun _ => sound.enumeration_lt) (elemType ▸ simple) (elemType ▸ notVoid) fun value h => ?_
  · change ((g.fieldShape entry.2 type).2 <|> _) = _
    rw [shape]
    rfl
  · change g.defaultOf entry.2 type = some value at h
    constructor
    · rw [elemType]
      simp only [defaultOf, shape] at h
      split at h
      · cases h
      · exact DefaultValue.elemType_of_read? h
    · change ((g.declarations.element entry.2).minOccurs = 0 &&
        (g.declarations.element entry.2).maxOccurs ≤ 1 && (g.defaultOf entry.2 type).isNone) = false
      rw [h]
      simp

/-- The field of an entry fits its element type. -/
theorem FieldOf.wellFormed {g : Generation} (sound : Sound g) (known : KnownBuiltins g.declarations)
    {entry : String × ElementId} {field : Field} (own : FieldOf g entry field) :
    FieldWellFormed g.schema field := by
  obtain ⟨type, builtin, typed, built, notVoid, emitted, shape⟩ := own
  dsimp only at shape
  cases complex : g.declarations.isComplex type with
  | true =>
    obtain ⟨record, marked, inRange, -⟩ := emitted.complex complex
    have notArray : (g.plainField entry type builtin).elemType.isArray = false :=
      isArray_eq_false_of_isAggregate (isAggregate_fieldShape_of_marked marked entry.2)
    rw [if_neg (by simp [wrapsItems, notArray])] at shape
    rw [shape]
    exact plainField_wellFormed_of_marked marked inRange
  | false =>
    split at shape
    · obtain ⟨wrapper, rfl, wraps⟩ := shape
      have kind : (g.schema.record wrapper).kind = .sequence := by rw [wraps.eq]
      exact fieldWellFormed_of_record wrapper rfl wraps.inRange false (by rw [kind]; rfl) rfl
    · rw [shape]
      exact plainField_wellFormed_of_unmarked sound (emitted.scalar complex)
        (known.isAggregate_elementElemType typed complex) notVoid

/-! ## Records -/

/-- A sound generation has a well-formed schema. -/
theorem Sound.wellFormed {g : Generation} (sound : Sound g)
    (known : KnownBuiltins g.declarations) : g.schema.WellFormed :=
  sound.store.wellFormed fun id field member => by
    rcases sound.fields id field member with ⟨entry, own⟩ | item
    · exact own.wellFormed sound known
    · exact item.wellFormed

/-- A generation that starts without output is sound. -/
theorem Named.sound {d : Declarations} {done : List (Symbol × ElementId)} {g : Generation}
    (named : Named d done g.declarations) (pristine : d.Pristine) (schema : g.schema = {}) :
    Sound g := by
  have unmarked (type : TypeId) := named.renamed.unmarked pristine type
  refine ⟨?_, fun marked => ?_, fun marked => ?_, fun marked => ?_, fun marked => ?_,
    fun marked => ?_, fun marked => ?_, fun id field member => ?_⟩
  · rw [schema]
    exact RecordSchema.consistent_empty
  · rw [(unmarked _).1] at marked
    cases marked
  · rw [(unmarked _).1] at marked
    cases marked
  · rw [(unmarked _).1] at marked
    cases marked
  · rw [(unmarked _).1] at marked
    cases marked
  · rw [(unmarked _).1] at marked
    cases marked
  · rw [(unmarked _).2] at marked
    cases marked
  · rw [schema] at member
    simp [RecordSchema.record] at member

theorem KnownBuiltins.sameShape {d d' : Declarations} (known : KnownBuiltins d)
    (shape : d.SameShape d') : KnownBuiltins d' := by
  intro type b found
  rw [shape.ofCore TypeDef.builtin (fun _ => rfl)] at found
  exact known type b found

/-- A generation that does not fail grows from its named top-level elements, without output yet, and
fills every record. -/
theorem run_growsBelow {g : Generation} (pristine : g.declarations.Pristine)
    (inRange : g.declarations.InRange) (rooted : g.declarations.Rooted)
    (ok : (run g).hasFailed = false) :
    ∃ start, Named g.declarations g.declarations.roots.toSorted start.declarations ∧
      GrowsBelow start (run g) ∧ ∀ type, Filled (run g) type := by
  obtain ⟨start, named, schema, whole⟩ := run_named pristine inRange rooted ok
  rw [whole] at ok ⊢
  obtain ⟨grown, -⟩ := foldl_emitRoot_growsBelow _ (named.sound pristine schema) ok
  exact ⟨start, named, grown, grown.filled_of_empty schema⟩

/-- What a generation that does not fail generates is well formed. -/
theorem run_wellFormed {g : Generation} (pristine : g.declarations.Pristine)
    (inRange : g.declarations.InRange) (rooted : g.declarations.Rooted)
    (ok : (run g).hasFailed = false) : (run g).schema.WellFormed := by
  obtain ⟨start, named, grown, -⟩ := run_growsBelow pristine inRange rooted ok
  refine grown.sound.wellFormed (KnownBuiltins.sameShape ?_ grown.grows.shape)
  exact fun _ _ found => named.renamed.knownBuiltin pristine found

end XsdRecords.Generation
