import XsdRecords.Proofs.Generation.Extension

/-! # What becomes of what is emitted

Whatever is said of an emission goes by the same cases.  A type is undefined, or it becomes a record or
an enumeration, or there is nothing to emit; a record is there already, or its name is taken, or it is
created and filled; the types of its fields are emitted one after the other, unless a field is not as it
should be.  The cases are told apart here, once. -/

namespace XsdRecords.Generation

open XsdRecords.Declaration (Declarations ElementId TypeId)
open XsdRecords.Layout

variable (emit : Generation → TypeId → Generation) {g : Generation} {type : TypeId}

/-! ## Records -/

/-- The generation in which a type has just become a record. -/
def withRecord (g : Generation) (type : TypeId) (schema : RecordSchema) (record : RecordId) :
    Generation :=
  (Generation.modifyType { g with schema } type fun t => { t with record := some record }).note
    (.recordEmitted (g.declarations.type type).outputSymbol.localName
      (recordKind g.declarations type))

/-- Fills the record of a type: emits the types of its fields, and then the fields. -/
def fillRecord (emit : Generation → TypeId → Generation) (type : TypeId) (record : RecordId)
    (name : String) (fields : List (String × ElementId)) (g : Generation) : Generation :=
  let types := emitFieldTypes emit type name g fields
  if types.2 then fields.foldl (emitField record name) types.1 else types.1

section NewRecord

theorem emitRecord_of_marked (marked : (g.declarations.type type).record.isSome = true) :
    emitRecord emit g type = g :=
  if_pos marked

variable (unmarked : (g.declarations.type type).record = none)

include unmarked

theorem emitRecord_of_error {fault : SchemaFault}
    (created : g.schema.createRecord (recordName? (g.declarations.type type).outputSymbol)
      (recordKind g.declarations type) = .error fault) :
    emitRecord emit g type =
      g.report (.nameCollision (g.declarations.type type).outputSymbol.localName) := by
  unfold recordKind at created
  simp [emitRecord, unmarked, created]

theorem emitRecord_of_created {schema : RecordSchema} {record : RecordId}
    (created : g.schema.createRecord (recordName? (g.declarations.type type).outputSymbol)
      (recordKind g.declarations type) = .ok (schema, record)) :
    emitRecord emit g type =
      fillRecord emit type record (g.declarations.type type).outputSymbol.localName
        (g.declarations.type type).fields (g.withRecord type schema record) := by
  unfold recordKind at created
  unfold emitRecord fillRecord withRecord recordKind
  simp only [unmarked, created, Option.isSome_none, Bool.false_eq_true, if_false]
  generalize emitFieldTypes emit type _ _ _ = types
  obtain ⟨left, going⟩ := types
  cases going <;> rfl

end NewRecord

/-- What becomes of the record of a type: it is there already, or its name is taken, or it is created
and filled. -/
inductive RecordOutcome (emit : Generation → TypeId → Generation) (g : Generation) (type : TypeId) :
    Generation → Prop
  | marked {record : RecordId} (marked : (g.declarations.type type).record = some record) :
      RecordOutcome emit g type g
  | taken (unmarked : (g.declarations.type type).record = none) :
      RecordOutcome emit g type
        (g.report (.nameCollision (g.declarations.type type).outputSymbol.localName))
  | created {schema : RecordSchema} {record : RecordId}
      (unmarked : (g.declarations.type type).record = none)
      (created : g.schema.createRecord (recordName? (g.declarations.type type).outputSymbol)
        (recordKind g.declarations type) = .ok (schema, record)) :
      RecordOutcome emit g type
        (fillRecord emit type record (g.declarations.type type).outputSymbol.localName
          (g.declarations.type type).fields (g.withRecord type schema record))

theorem emitRecord_outcome (g : Generation) (type : TypeId) :
    RecordOutcome emit g type (emitRecord emit g type) := by
  cases unmarked : (g.declarations.type type).record with
  | some record =>
    rw [emitRecord_of_marked emit (by rw [unmarked]; rfl)]
    exact .marked unmarked
  | none =>
    cases created : g.schema.createRecord (recordName? (g.declarations.type type).outputSymbol)
        (recordKind g.declarations type) with
    | error fault =>
      rw [emitRecord_of_error emit unmarked created]
      exact .taken unmarked
    | ok made =>
      rw [emitRecord_of_created emit unmarked created]
      exact .created unmarked created

/-! ## The types of fields -/

/-- A field that passes its check has a type, and that a built-in one. -/
theorem check_eq_ok {d : Declarations} {record name : String} {id : ElementId} {done : Unit}
    (h : d.check record name id = .ok done) :
    ∃ type builtin, d.elementType id = some type ∧ d.builtin type = some builtin := by
  unfold Declarations.check at h
  dsimp only at h
  split at h
  · cases h
  · cases typed : d.elementType id with
    | none => simp [typed] at h
    | some type =>
      cases built : d.builtin type with
      | none => simp [typed, built] at h
      | some builtin => exact ⟨type, builtin, rfl, built⟩

/-- A check that is not passed fails the generation. -/
theorem isFailure_of_check {d : Declarations} {record name : String} {id : ElementId}
    {problem : Problem} (h : d.check record name id = .error problem) :
    problem.severity.isFailure = true := by
  unfold Declarations.check at h
  dsimp only at h
  repeat' split at h
  all_goals cases h
  all_goals rfl

variable {entry : String × ElementId}

theorem hasFailed_of_check {recordName : String} {problem : Problem}
    (wrong : g.declarations.check recordName entry.1 entry.2 = .error problem) :
    (g.report problem).hasFailed = true :=
  hasFailed_report_of_isFailure g (isFailure_of_check wrong)

/-- What becomes of the types of fields: the first field is not as it should be, or has its owner for
its type, or its type is emitted before those of the others. -/
inductive FieldTypesOutcome (emit : Generation → TypeId → Generation) (owner : TypeId)
    (recordName : String) (entry : String × ElementId) (rest : List (String × ElementId))
    (g : Generation) : Generation × Bool → Prop
  | refused {problem : Problem}
      (wrong : g.declarations.check recordName entry.1 entry.2 = .error problem) :
      FieldTypesOutcome emit owner recordName entry rest g (g.report problem, false)
  | own (typed : g.declarations.elementType entry.2 = some owner) :
      FieldTypesOutcome emit owner recordName entry rest g
        (emitFieldTypes emit owner recordName g rest)
  | emitted {type : TypeId} (typed : g.declarations.elementType entry.2 = some type)
      (other : type ≠ owner)
      (passed : g.declarations.check recordName entry.1 entry.2 = .ok ()) :
      FieldTypesOutcome emit owner recordName entry rest g
        (emitFieldTypes emit owner recordName (emit g type) rest)

theorem emitFieldTypes_outcome (owner : TypeId) (recordName : String) (entry : String × ElementId)
    (rest : List (String × ElementId)) (g : Generation) :
    FieldTypesOutcome emit owner recordName entry rest g
      (emitFieldTypes emit owner recordName g (entry :: rest)) := by
  unfold emitFieldTypes
  split
  · rename_i untyped
    split
    · rename_i problem wrong
      exact .refused wrong
    · rename_i passed
      obtain ⟨type, -, typed, -⟩ := check_eq_ok passed
      rw [typed] at untyped
      cases untyped
  · rename_i type typed
    split
    · rename_i own
      exact .own (own ▸ typed)
    · rename_i other
      split
      · rename_i problem wrong
        exact .refused wrong
      · rename_i passed
        exact .emitted typed other passed

/-- What reports and emissions of types keep is kept where the types of fields are emitted. -/
theorem emitFieldTypes_related {emit : Generation → TypeId → Generation}
    {R : Generation → Generation → Prop} (refl : ∀ g, R g g)
    (trans : ∀ {a b c : Generation}, R a b → R b c → R a c)
    (report : ∀ g problem, R g (g.report problem)) (emits : ∀ g type, R g (emit g type))
    (owner : TypeId) (recordName : String) (entries : List (String × ElementId)) (g : Generation) :
    R g (emitFieldTypes emit owner recordName g entries).1 := by
  induction entries generalizing g with
  | nil => exact refl g
  | cons entry rest ih =>
    have outcome := emitFieldTypes_outcome emit owner recordName entry rest g
    generalize emitFieldTypes emit owner recordName g (entry :: rest) = result at outcome ⊢
    cases outcome with
    | refused wrong => exact report g _
    | own typed => exact ih g
    | emitted typed other passed => exact trans (emits g _) (ih _)

/-- The types of fields are all emitted unless the generation fails. -/
theorem emitFieldTypes_finished {emit : Generation → TypeId → Generation} (owner : TypeId)
    (recordName : String) (entries : List (String × ElementId)) {g : Generation}
    (ok : (emitFieldTypes emit owner recordName g entries).1.hasFailed = false) :
    (emitFieldTypes emit owner recordName g entries).2 = true := by
  induction entries generalizing g with
  | nil => rfl
  | cons entry rest ih =>
    have outcome := emitFieldTypes_outcome emit owner recordName entry rest g
    generalize emitFieldTypes emit owner recordName g (entry :: rest) = result at ok outcome ⊢
    cases outcome with
    | refused wrong =>
      rw [hasFailed_of_check wrong] at ok
      cases ok
    | own typed => exact ih ok
    | emitted typed other passed => exact ih ok

/-! ## Types -/

/-- What becomes of a type: it is undefined, or it becomes a record, or there is nothing to emit, or it
becomes an enumeration. -/
inductive TypeOutcome (emit : Generation → TypeId → Generation) (g : Generation) (type : TypeId) :
    Generation → Prop
  | undefined (unknown : g.declarations.builtin type = none) :
      TypeOutcome emit g type
        (g.report (.noDefinition (g.declarations.type type).symbol.localName))
  | record (complex : g.declarations.isComplex type = true) :
      TypeOutcome emit g type
        (emitRecord emit { g with declarations := g.declarations.sortFields type } type)
  | plain (scalar : g.declarations.isComplex type = false)
      (none : (g.declarations.type type).enumerators = []) : TypeOutcome emit g type g
  | enumeration (scalar : g.declarations.isComplex type = false)
      (some : (g.declarations.type type).enumerators ≠ []) :
      TypeOutcome emit g type (g.emitEnumeration type)

theorem emitTypeWithin_outcome (limit : Nat) (g : Generation) (type : TypeId) :
    TypeOutcome (emitTypeWithin limit) g type (emitTypeWithin (limit + 1) g type) := by
  unfold emitTypeWithin
  split
  · rename_i unknown
    exact .undefined unknown
  · rename_i builtin found
    have isComplex := Declarations.isComplex_of_builtin found
    split
    · rename_i complex
      exact .record (isComplex.trans complex)
    · rename_i scalar
      have scalar := isComplex.trans (Bool.eq_false_iff.2 scalar)
      split
      · rename_i none
        exact .plain scalar (List.isEmpty_iff.1 none)
      · rename_i some
        exact .enumeration scalar (mt List.isEmpty_iff.2 some)

/-- The type of a top-level element is emitted if it is complex. -/
theorem emitRoot_outcome (g : Generation) (id : ElementId) :
    (∃ type, g.declarations.elementType id = some type ∧ g.declarations.isComplex type = true ∧
        g.emitRoot id = g.emitType type) ∨
      (∀ type, g.declarations.elementType id = some type → g.declarations.isComplex type = false) ∧
        g.emitRoot id = g := by
  unfold emitRoot
  split
  · rename_i untyped
    refine .inr ⟨fun type typed => ?_, rfl⟩
    rw [untyped] at typed
    cases typed
  · rename_i type typed
    split
    · rename_i complex
      exact .inl ⟨type, typed, complex, rfl⟩
    · rename_i scalar
      refine .inr ⟨fun other found => ?_, rfl⟩
      obtain rfl := Option.some.inj (typed.symm.trans found)
      exact Bool.eq_false_iff.2 scalar

end XsdRecords.Generation
