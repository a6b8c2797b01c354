import XsdRecords.Proofs.Generation.Once

/-! # Handles that are looked up

A type keeps the place of its record, and an emission looks up what is at that place.  In a schema
that has no such place the emission cannot go on.  `run?` is a run that stops there: it looks before
each lookup.  A run whose types have got their records in its own schema never stops, whether it
fails or not: `run?_eq`. -/

namespace XsdRecords.Generation

open XsdRecords.Declaration (Declarations ElementId TypeId)
open XsdRecords.Layout

/-! ## Emission that looks before it looks up -/

/-- The records that are looked up to emit a field of a record: that of its type, which tells the
element type, and the one that the field is appended to.  A record that wraps items is only looked up
when it has just been made. -/
def lookups (g : Generation) (record : RecordId) (id : ElementId) : List RecordId :=
  match g.declarations.elementType id with
  | none => []
  | some type =>
    if g.declarations.elementElemType id = .void then []
    else
      (g.declarations.type type).record.toList ++
        if (g.declarations.builtin type).isSome then [record] else []

/-- Emits the field of an element, if the records that are looked up are there. -/
def emitField? (record : RecordId) (recordName : String) (g : Generation)
    (field : String × ElementId) : Option Generation :=
  if (g.lookups record field.2).all fun id => id.index < g.schema.records.size then
    some (emitField record recordName g field)
  else none

/-- Emits the enumeration of a type, if it is there when its enumerators are added. -/
def emitEnumeration? (g : Generation) (type : TypeId) : Option Generation :=
  let t := g.declarations.type type
  if t.enumeration.isSome then some g
  else
    match g.schema.createEnumeration (enumerationName? t.outputSymbol.localName) with
    | .error _ => some (g.emitEnumeration type)
    | .ok (schema, id) =>
      if id.index < schema.enumerations.size then some (g.emitEnumeration type) else none

/-- Checks the fields of a type in turn and emits their types with `emit`. -/
def emitFieldTypes? (emit : Generation → TypeId → Option Generation) (owner : TypeId)
    (recordName : String) (g : Generation) :
    List (String × ElementId) → Option (Generation × Bool)
  | [] => some (g, true)
  | (name, id) :: rest =>
    match g.declarations.elementType id with
    | none =>
      match g.declarations.check recordName name id with
      | .error problem => some (g.report problem, false)
      | .ok _ => emitFieldTypes? emit owner recordName g rest
    | some type =>
      if type = owner then emitFieldTypes? emit owner recordName g rest
      else
        match g.declarations.check recordName name id with
        | .error problem => some (g.report problem, false)
        | .ok _ => (emit g type).bind fun g => emitFieldTypes? emit owner recordName g rest

/-- Emits the record of a type, unless there is one already. -/
def emitRecord? (emit : Generation → TypeId → Option Generation) (g : Generation) (type : TypeId) :
    Option Generation :=
  let t := g.declarations.type type
  if t.record.isSome then some g
  else
    let name := t.outputSymbol.localName
    let kind : RecordKind := if g.declarations.isChoice type then .choice else .sequence
    match g.schema.createRecord (recordName? t.outputSymbol) kind with
    | .error _ => some (g.report (.nameCollision name))
    | .ok (schema, id) =>
      let g := Generation.modifyType { g with schema } type fun t => { t with record := some id }
      let g := g.note (.recordEmitted name kind)
      (emitFieldTypes? emit type name g t.fields).bind fun
        | (g, false) => some g
        | (g, true) => t.fields.foldlM (emitField? id name) g

/-- Emits a type and what it reaches, through at most `limit` types one inside another. -/
def emitTypeWithin? : Nat → Generation → TypeId → Option Generation
  | 0, g, _ => some g
  | limit + 1, g, type =>
    match g.declarations.builtin type with
    | none => some (g.report (.noDefinition (g.declarations.type type).symbol.localName))
    | some builtin =>
      if builtin.isComplex then
        let g := { g with declarations := g.declarations.sortFields type }
        emitRecord? (emitTypeWithin? limit) g type
      else if (g.declarations.type type).enumerators.isEmpty then some g
      else g.emitEnumeration? type

/-- Emits the type of a top-level element, if it is complex. -/
def emitRoot? (g : Generation) (id : ElementId) : Option Generation :=
  match g.declarations.elementType id with
  | none => some g
  | some type =>
    if g.declarations.isComplex type then
      emitTypeWithin? (g.declarations.types.size + 1) g type
    else some g

/-- Generates the record schema of the declarations, unless a record or an enumeration is looked up
that is not in the schema. -/
def run? (g : Generation) : Option Generation :=
  let (g, named) := nameRoots { g with schema := {} } g.declarations.roots.toSorted
  if named then
    let g := g.noteTypes
    (g.declarations.roots.toSorted.map (·.2)).foldlM emitRoot? g
  else some g

/-- Fills the record of a type. -/
def fillRecord? (emit : Generation → TypeId → Option Generation) (type : TypeId)
    (record : RecordId) (name : String) (fields : List (String × ElementId)) (g : Generation) :
    Option Generation :=
  (emitFieldTypes? emit type name g fields).bind fun types =>
    if types.2 then fields.foldlM (emitField? record name) types.1 else some types.1

section NewRecord

variable (emit? : Generation → TypeId → Option Generation) {g : Generation} {type : TypeId}

theorem emitRecord?_of_marked (marked : (g.declarations.type type).record.isSome = true) :
    emitRecord? emit? g type = some g :=
  if_pos marked

variable (unmarked : (g.declarations.type type).record = none)

include unmarked

theorem emitRecord?_of_error {fault : SchemaFault}
    (created : g.schema.createRecord (recordName? (g.declarations.type type).outputSymbol)
      (recordKind g.declarations type) = .error fault) :
    emitRecord? emit? g type =
      some (g.report (.nameCollision (g.declarations.type type).outputSymbol.localName)) := by
  unfold recordKind at created
  simp [emitRecord?, unmarked, created]

theorem emitRecord?_of_created {schema : RecordSchema} {record : RecordId}
    (created : g.schema.createRecord (recordName? (g.declarations.type type).outputSymbol)
      (recordKind g.declarations type) = .ok (schema, record)) :
    emitRecord? emit? g type =
      fillRecord? emit? type record (g.declarations.type type).outputSymbol.localName
        (g.declarations.type type).fields (g.withRecord type schema record) := by
  unfold recordKind at created
  unfold emitRecord? fillRecord? withRecord recordKind
  simp only [unmarked, created, Option.isSome_none, Bool.false_eq_true, if_false]
  refine Option.bind_congr fun types _ => ?_
  obtain ⟨left, going⟩ := types
  cases going <;> rfl

end NewRecord

/-! ## Emissions grow -/

/-- Nothing is marked in declarations without types, so all that is marked later is new. -/
theorem allows_empty (g : Generation) : Allows {} (fun _ => True) g :=
  ⟨fun _ _ _ => trivial, fun _ => rfl⟩

/-- The record of a type, which is in the schema. -/
structure HasRecord (g : Generation) (type : TypeId) (record : RecordId) : Prop where
  marked : (g.declarations.type type).record = some record
  inRange : record.index < g.schema.records.size

theorem HasRecord.owns {g : Generation} {type : TypeId} {record : RecordId}
    (has : HasRecord g type record) : Owns {} g type record :=
  ⟨rfl, has.marked, has.inRange⟩

theorem Extends.hasRecord {g g' : Generation} (grows : Extends g g') {type : TypeId}
    {record : RecordId} (has : HasRecord g type record) : HasRecord g' type record :=
  ⟨grows.record has.marked, Nat.lt_of_lt_of_le has.inRange grows.records⟩

/-- The records that types have are in the schema. -/
def MarksInRange (g : Generation) : Prop :=
  ∀ type record, (g.declarations.type type).record = some record →
    record.index < g.schema.records.size

theorem MarksInRange.of_eq {g g' : Generation} (inRange : MarksInRange g)
    (records : ∀ type, (g'.declarations.type type).record = (g.declarations.type type).record)
    (size : g.schema.records.size ≤ g'.schema.records.size) : MarksInRange g' :=
  fun type record marked =>
    Nat.lt_of_lt_of_le (inRange type record ((records type).symm.trans marked)) size

theorem MarksRecord.marksInRange {g g' : Generation} {type : TypeId} {record : RecordId}
    (marks : MarksRecord g g' type record) (inRange : MarksInRange g) : MarksInRange g' := by
  intro other id marked
  rw [marks.size]
  rcases marks.marks_cases marked with ⟨-, rfl⟩ | old
  · exact Nat.lt_succ_self _
  · exact Nat.lt_succ_of_lt (inRange other id old)

theorem Step.marksInRange {start : Declarations} {reach : TypeId → Prop} {g g' : Generation}
    (step : Step start reach g g') (inRange : MarksInRange g) : MarksInRange g' := by
  have size := step.grows.records
  cases step with
  | journal | field | table | orphan => exact inRange.of_eq (fun _ => rfl) size
  | sort type => exact inRange.of_eq (fun _ => (marks_sortFields _ _ _).1) size
  | enumeration _ marks => exact inRange.of_eq marks.record size
  | record _ _ marks => exact marks.marksInRange inRange

theorem Steps.marksInRange {start : Declarations} {reach : TypeId → Prop} {g g' : Generation}
    (steps : Steps start reach g g') (inRange : MarksInRange g) : MarksInRange g' := by
  induction steps with
  | refl => exact inRange
  | tail _ step ih => exact step.marksInRange ih

/-! ## Handles of the own schema -/

section Safe

variable {g : Generation}

theorem emitField?_eq (inRange : MarksInRange g) {record : RecordId}
    (own : record.index < g.schema.records.size) (recordName : String)
    (entry : String × ElementId) :
    emitField? record recordName g entry = some (emitField record recordName g entry) := by
  refine if_pos (List.all_eq_true.2 fun id looked => decide_eq_true ?_)
  unfold lookups at looked
  split at looked
  · cases looked
  · split at looked
    · cases looked
    · rcases List.mem_append.1 looked with marked | appended
      · exact inRange _ id (Option.mem_toList.1 marked)
      · split at appended
        · rwa [List.mem_singleton.1 appended]
        · cases appended

theorem foldlM_emitField?_eq {owner : TypeId} {record : RecordId} (recordName : String)
    (entries : List (String × ElementId)) (inRange : MarksInRange g)
    (has : HasRecord g owner record) :
    entries.foldlM (emitField? record recordName) g =
      some (entries.foldl (emitField record recordName) g) := by
  induction entries generalizing g with
  | nil => rfl
  | cons entry rest ih =>
    have steps : Steps {} (fun _ => True) g (emitField record recordName g entry) :=
      emitField_steps has.owns recordName entry
    rw [List.foldlM_cons, emitField?_eq inRange has.inRange]
    exact ih (steps.marksInRange inRange) (steps.grows.hasRecord has)

theorem emitEnumeration?_eq (g : Generation) (type : TypeId) :
    g.emitEnumeration? type = some (g.emitEnumeration type) := by
  unfold emitEnumeration?
  dsimp only
  split
  · rename_i marked
    rw [emitEnumeration, if_pos marked]
  · split
    · rfl
    · rename_i schema id created
      obtain ⟨names, -, rfl, rfl⟩ := RecordSchema.createEnumeration_eq_ok created
      exact if_pos (by simp)

/-- Emission that agrees with `emit` where the records that types have are in the schema. -/
def Agrees (emit : Generation → TypeId → Generation)
    (emit? : Generation → TypeId → Option Generation) : Prop :=
  ∀ g type, MarksInRange g → emit? g type = some (emit g type)

variable {emit : Generation → TypeId → Generation}
  {emit? : Generation → TypeId → Option Generation} (agrees : Agrees emit emit?)
  (emits : TakesSteps {} (fun _ => True) emit)

include agrees emits

theorem emitFieldTypes?_eq (owner : TypeId) (recordName : String)
    (entries : List (String × ElementId)) (inRange : MarksInRange g) :
    emitFieldTypes? emit? owner recordName g entries =
      some (emitFieldTypes emit owner recordName g entries) := by
  induction entries generalizing g with
  | nil => rfl
  | cons entry rest ih =>
    obtain ⟨name, id⟩ := entry
    unfold emitFieldTypes? emitFieldTypes
    cases g.declarations.elementType id with
    | none =>
      cases g.declarations.check recordName name id with
      | error problem => rfl
      | ok passed => exact ih inRange
    | some type =>
      dsimp only
      by_cases same : type = owner
      · rw [if_pos same, if_pos same]
        exact ih inRange
      · rw [if_neg same, if_neg same]
        cases g.declarations.check recordName name id with
        | error problem => rfl
        | ok passed =>
          dsimp only
          rw [agrees g type inRange, Option.bind_some]
          exact ih ((emits g type (allows_empty g) trivial).marksInRange inRange)

theorem emitRecord?_eq {type : TypeId} (complex : g.declarations.isComplex type = true)
    (inRange : MarksInRange g) : emitRecord? emit? g type = some (emitRecord emit g type) := by
  cases unmarked : (g.declarations.type type).record with
  | some record =>
    have marked : (g.declarations.type type).record.isSome = true := by rw [unmarked]; rfl
    rw [emitRecord?_of_marked emit? marked, emitRecord_of_marked emit marked]
  | none =>
    cases created : g.schema.createRecord (recordName? (g.declarations.type type).outputSymbol)
        (recordKind g.declarations type) with
    | error fault =>
      rw [emitRecord?_of_error emit? unmarked created, emitRecord_of_error emit unmarked created]
    | ok made =>
      obtain ⟨schema, record⟩ := made
      rw [emitRecord?_of_created emit? unmarked created, emitRecord_of_created emit unmarked created]
      have marks := marksRecord_withRecord complex unmarked created
      generalize g.withRecord type schema record = begun at marks ⊢
      have begunInRange := marks.marksInRange inRange
      have has : HasRecord begun type record := ⟨marks.marked, begunInRange _ _ marks.marked⟩
      have types : Steps {} (fun _ => True) begun _ :=
        emitFieldTypes_steps emits (trivial : True)
          (g.declarations.type type).outputSymbol.localName (g.declarations.type type).fields
          (allows_empty begun) fun entry member => marks.grows.mem_fields.2 member
      rw [fillRecord?, fillRecord, emitFieldTypes?_eq agrees emits _ _ _ begunInRange,
        Option.bind_some]
      split
      · exact foldlM_emitField?_eq _ _ (types.marksInRange begunInRange) (types.grows.hasRecord has)
      · rfl

end Safe

theorem emitTypeWithin?_eq (limit : Nat) : Agrees (emitTypeWithin limit) (emitTypeWithin? limit) := by
  induction limit with
  | zero => exact fun _ _ _ => rfl
  | succ limit ih =>
    intro g type inRange
    unfold emitTypeWithin? emitTypeWithin
    cases found : g.declarations.builtin type with
    | none => rfl
    | some builtin =>
      dsimp only
      by_cases complex : builtin.isComplex = true
      · rw [if_pos complex, if_pos complex]
        have sorted : Step {} (fun _ => True) g
          { g with declarations := g.declarations.sortFields type } := .sort type
        refine emitRecord?_eq ih (emitTypeWithin_steps limit) ?_ (sorted.marksInRange inRange)
        rw [sorted.grows.shape.isComplex, Declarations.isComplex_of_builtin found, complex]
      · rw [if_neg complex, if_neg complex]
        cases (g.declarations.type type).enumerators.isEmpty with
        | true => rfl
        | false => exact emitEnumeration?_eq g type

theorem emitRoot?_eq {g : Generation} (inRange : MarksInRange g) (id : ElementId) :
    g.emitRoot? id = some (g.emitRoot id) := by
  unfold emitRoot? emitRoot emitType
  cases g.declarations.elementType id with
  | none => rfl
  | some type =>
    cases complex : g.declarations.isComplex type with
    | true => simp only [complex, if_true, emitTypeWithin?_eq _ g type inRange]
    | false => simp only [complex, Bool.false_eq_true, if_false]

theorem foldlM_emitRoot?_eq (ids : List ElementId) {g : Generation} (inRange : MarksInRange g) :
    ids.foldlM emitRoot? g = some (ids.foldl emitRoot g) := by
  induction ids generalizing g with
  | nil => rfl
  | cons id rest ih =>
    have steps : Steps {} (fun _ => True) g (g.emitRoot id) :=
      emitRoot_steps (allows_empty g) fun _ _ _ => trivial
    rw [List.foldlM_cons, emitRoot?_eq inRange]
    exact ih (steps.marksInRange inRange)

/-- A run of declarations that nothing was generated for looks up no record and no enumeration outside
its schema. -/
theorem run?_eq {g : Generation} (unmarked : ∀ type, (g.declarations.type type).record = none) :
    run? g = some (run g) := by
  have marks := nameRoots_marks g.declarations.roots.toSorted { g with schema := {} }
  unfold run? run
  rcases named : nameRoots { g with schema := {} } g.declarations.roots.toSorted with ⟨m, going⟩
  rw [named] at marks
  cases going with
  | false => rfl
  | true =>
    refine foldlM_emitRoot?_eq _ fun type record marked => ?_
    rw [(noteTypes_keeps m).1, (marks type).1, unmarked] at marked
    cases marked

end XsdRecords.Generation
