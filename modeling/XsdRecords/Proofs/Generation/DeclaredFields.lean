import XsdRecords.Proofs.Generation.WellFormed

/-! # The fields that a record gets

No entry of a type is lost, doubled or moved on the way to its record: attributes come first, and
otherwise the order of the declaration stays.  What each field says is read off its entry and off
what the type of the entry became. -/

namespace XsdRecords.Generation

open XsdRecords.Declaration (Declarations ElementId TypeId TypeDef Symbol SymbolTable)
open XsdRecords.Layout
open XsdRecords.Vocabulary (Builtin)

/-! ## What a field says -/

/-- A table of the nillable items of an array: its records are no type's. -/
def IsNillableTable (g : Generation) (field : Field) (wrapper : RecordId) : Prop :=
  field.elemType = .table ∧ field.constraint = some (.record wrapper) ∧
    ∃ elemType enumeration, elemType.isArray = true ∧
      IsWrapper g wrapper (itemField elemType enumeration)

/-- An array whose items may be nil, and which has no default value. -/
def HasNillableItems (d : Declarations) (id : ElementId) (mode : FormattingMode) : Prop :=
  mode.contains .nillable = true ∧ (d.elementElemType id).isArray = true ∧
    (d.element id).defaultValue = ""

/-- A field is that of an element of a type, under the name that a type declares it with. -/
structure Renders (g : Generation) (entry : String × ElementId) (type : TypeId) (field : Field) :
    Prop where
  typed : g.declarations.elementType entry.2 = some type
  name : field.name =
    if (g.declarations.element entry.2).isUntagged = true ∨ entry.1 = "" ∨
      entry.1.startsWith "FIELD_" = true then none else some entry.1
  id : field.id = (g.declarations.element entry.2).id
  wrapped : (g.declarations.type type).record = none →
    HasNillableItems g.declarations entry.2 field.formattingMode →
      ∃ wrapper, IsNillableTable g field wrapper
  unwrapped : ¬((g.declarations.type type).record = none ∧
      HasNillableItems g.declarations entry.2 field.formattingMode) →
    field.constraint = ((g.declarations.type type).record.map .record <|>
      (g.declarations.type type).enumeration.map .enumeration)

/-- The items of a field are wrapped exactly if its type is no record and its items may be nil. -/
theorem wrapsItems_plainField (g : Generation) (entry : String × ElementId) (type : TypeId)
    (builtin : Builtin) :
    wrapsItems (g.plainField entry type builtin)
        (g.declarations.element entry.2).defaultValue = true ↔
      (g.declarations.type type).record = none ∧
        HasNillableItems g.declarations entry.2
          (g.plainField entry type builtin).formattingMode := by
  have elemType : (g.plainField entry type builtin).elemType = (g.fieldShape entry.2 type).1 := rfl
  simp only [wrapsItems, Bool.and_eq_true, decide_eq_true_eq, elemType, HasNillableItems]
  cases marked : (g.declarations.type type).record with
  | none => simp [fieldShape, marked, and_assoc]
  | some record =>
    have notArray : (g.fieldShape entry.2 type).1.isArray = false :=
      isArray_eq_false_of_isAggregate (isAggregate_fieldShape_of_marked marked entry.2)
    simp [notArray]

/-- The field of an entry says what the entry does. -/
theorem FieldOf.renders {g : Generation} {entry : String × ElementId} {field : Field}
    (own : FieldOf g entry field) : ∃ type, Renders g entry type field := by
  obtain ⟨type, builtin, typed, -, -, -, shape⟩ := own
  have wraps := wrapsItems_plainField g entry type builtin
  have named : (g.plainField entry type builtin).name =
      if (g.declarations.element entry.2).isUntagged = true ∨ entry.1 = "" ∨
        entry.1.startsWith "FIELD_" = true then none else some entry.1 := by
    change fieldName (g.declarations.element entry.2) entry.1 = _
    simp only [fieldName, fieldStart, Bool.or_eq_true, decide_eq_true_eq, or_assoc]
    exact if_congr Iff.rfl rfl rfl
  dsimp only at shape
  refine ⟨type, ?_⟩
  split at shape
  · rename_i wrapped
    obtain ⟨wrapper, rfl, isWrapper⟩ := shape
    obtain ⟨unmarked, items⟩ := wraps.1 wrapped
    refine ⟨typed, named, rfl, fun _ _ => ⟨wrapper, rfl, rfl, _, _, ?_, isWrapper⟩,
      fun notWrapped => absurd ⟨unmarked, items⟩ notWrapped⟩
    simp only [wrapsItems, Bool.and_eq_true] at wrapped
    exact wrapped.1.2
  · rename_i plain
    subst shape
    exact ⟨typed, named, rfl, fun unmarked items => absurd (wraps.2 ⟨unmarked, items⟩) plain,
      fun _ => constraint_typedField ..⟩

/-! ## Where the entries of a type are declared -/

/-- The type that a type has its entries from: the type itself, or the one that it was copied from
for a top-level element. -/
inductive DeclaredBy (d d' : Declarations) (type : TypeId) : TypeId → Prop
  | itself (bound : type.index < d.types.size) : DeclaredBy d d' type type
  | original {symbol : Symbol} {id : ElementId} {original : TypeId}
      (new : d.types.size ≤ type.index) (found : d.roots.find? symbol = some id)
      (typed : d.elementType id = some original) (retyped : d'.elementType id = some type) :
      DeclaredBy d d' type original

theorem Named.declaredBy {d : Declarations} {start : Declarations}
    (named : Named d d.roots.toSorted start) (inRange : d.InRange) (rooted : d.Rooted)
    {type : TypeId} (bound : type.index < start.types.size) :
    ∃ original, DeclaredBy d start type original ∧ original.index < d.types.size ∧
      (start.type type).body = (d.type original).body := by
  by_cases old : type.index < d.types.size
  · exact ⟨type, .itself old, old, named.renamed.body old⟩
  · obtain ⟨symbol, id, original, member, typed, inside, direct, body⟩ :=
      named.copied (Nat.le_of_not_lt old) bound
    have found := SymbolTable.mem_toSorted.1 member
    refine ⟨original, .original (Nat.le_of_not_lt old) found typed ?_, inside, body⟩
    rw [named.renamed.elementType_root (inRange.roots found) (rooted.reference found), direct]

theorem DeclaredBy.sameShape {d d' d'' : Declarations} {type original : TypeId}
    (declared : DeclaredBy d d' type original) (shape : d'.SameShape d'') :
    DeclaredBy d d'' type original := by
  cases declared with
  | itself bound => exact .itself bound
  | original new found typed retyped =>
    exact .original new found typed ((shape.elementType _).trans retyped)

theorem length_attributesFirst (d : Declarations) (fields : List (String × ElementId)) :
    (d.attributesFirst fields).length = fields.length := by
  simp only [Declarations.attributesFirst, List.length_append]
  induction fields with
  | nil => rfl
  | cons field rest ih =>
    cases marked : d.isAttributeField field <;> simp [marked] <;> omega

/-! ## The records of a generation -/

section Run

variable {g : Generation} (pristine : g.declarations.Pristine) (inRange : g.declarations.InRange)
  (rooted : g.declarations.Rooted) (ok : (run g).hasFailed = false) {type : TypeId}
  {record : RecordId} (marked : ((run g).declarations.type type).record = some record)

include pristine inRange rooted ok marked

/-- A type that gets a record goes back to the type that it is declared by.  Its body is what it was
when the top-level elements had been named. -/
theorem run_declaredBy : ∃ start original,
    Named g.declarations g.declarations.roots.toSorted start.declarations ∧
      GrowsBelow start (run g) ∧ Filled (run g) type ∧
      DeclaredBy g.declarations (run g).declarations type original ∧
      original.index < g.declarations.types.size ∧
      (start.declarations.type type).body = (g.declarations.type original).body := by
  obtain ⟨start, named, grown, filled⟩ := run_growsBelow pristine inRange rooted ok
  have complex : start.declarations.isComplex type = true := by
    rw [← grown.grows.shape.isComplex]
    exact grown.sound.complex marked
  obtain ⟨original, declared, bound, body⟩ :=
    named.declaredBy inRange rooted (Declarations.lt_size_of_isComplex complex)
  exact ⟨start, original, named, grown, filled type, declared.sameShape grown.grows.shape, bound,
    body⟩

/-- A generation that does not fail gives a record the fields that its type declares. -/
theorem run_fields :
    record.index < (run g).schema.records.size ∧
      ∃ original, DeclaredBy g.declarations (run g).declarations type original ∧
        List.Forall₂ (fun entry field => ∃ type, Renders (run g) entry type field)
          (g.declarations.attributesFirst (g.declarations.type original).fields)
          ((run g).schema.record record).fields := by
  obtain ⟨start, original, named, grown, filled, declared, -, body⟩ :=
    run_declaredBy pristine inRange rooted ok marked
  have filled := filled record marked
  rw [grown.grows.shape.attributesFirst, grown.grows.fields,
    TypeDef.get_of_body TypeDef.fields (fun _ => rfl) body,
    named.renamed.attributesFirst] at filled
  exact ⟨grown.sound.record_lt marked, original, declared, filled.imp fun _ _ own => own.renders⟩

/-- A generation that does not fail gives a record the kind of the type that it goes back to. -/
theorem run_kind : ∃ original, DeclaredBy g.declarations (run g).declarations type original ∧
    ((run g).schema.record record).kind = recordKind g.declarations original := by
  obtain ⟨start, original, named, grown, -, declared, bound, body⟩ :=
    run_declaredBy pristine inRange rooted ok marked
  refine ⟨original, declared, ?_⟩
  rw [grown.sound.kind marked, grown.grows.recordKind, recordKind, recordKind,
    named.renamed.keepsStems.isChoice inRange.bases bound
      (TypeDef.get_of_body TypeDef.stem (fun _ => rfl) body)]

end Run

end XsdRecords.Generation
