import XsdRecords.Proofs.Generation.Repeats
import XsdRecords.Proofs.Generation.Termination

/-! # Steps of a second generation

Where a second generation repeats the first, it takes its steps state by state, and never looks up a
mark that is not yet one of its own schema: for a field, for the types of the fields of a record, and
for a type and its copy. -/

namespace XsdRecords

open XsdRecords.Declaration (Declarations Element ElementId TypeId TypeDef Symbol SymbolTable)
open XsdRecords.Declaration.Declarations
open XsdRecords.Layout
open XsdRecords.Vocabulary (Builtin)

namespace Generation

/-! ## Fields -/

@[simp] theorem schema_readDefault (g : Generation) (recordName name text : String)
    (type : ElemType) : (g.readDefault recordName name text type).1.schema = g.schema := by
  unfold readDefault
  split
  · rfl
  · split <;> rfl

@[simp] theorem declarations_readDefault (g : Generation) (recordName name text : String)
    (type : ElemType) :
    (g.readDefault recordName name text type).1.declarations = g.declarations := by
  unfold readDefault
  split
  · rfl
  · split <;> rfl

/-- What is read does not depend on the generation. -/
theorem readDefault_snd (g h : Generation) (recordName name text : String) (type : ElemType) :
    (h.readDefault recordName name text type).2 = (g.readDefault recordName name text type).2 := by
  unfold readDefault
  split
  · rfl
  · cases DefaultValue.read? type text <;> rfl

@[simp] theorem declarations_appendField (g : Generation) (record : RecordId)
    (recordName name : String) (field : Field) :
    (g.appendField record recordName name field).declarations = g.declarations := by
  unfold appendField
  split <;> rfl

theorem schema_appendField {g h : Generation} (schema : h.schema = g.schema) (record : RecordId)
    (recordName name : String) (field : Field) :
    (h.appendField record recordName name field).schema =
      (g.appendField record recordName name field).schema := by
  unfold appendField
  rw [schema]
  cases g.schema.appendField record field with
  | error fault => exact schema
  | ok made => rfl

theorem wrapItems_congr {g h : Generation} (schema : h.schema = g.schema) (elemType : ElemType)
    (enumeration : Option EnumerationId) :
    h.wrapItems elemType enumeration = g.wrapItems elemType enumeration := by
  unfold wrapItems
  rw [schema]

@[simp] theorem declarations_emitTypedField (g : Generation) (record : RecordId)
    (recordName name : String) (id : ElementId) (type : TypeId) (mode : FormattingMode) :
    (g.emitTypedField record recordName name id type mode).declarations = g.declarations := by
  unfold emitTypedField
  dsimp only
  split
  · split
    · exact declarations_readDefault ..
    · rw [declarations_appendField]
      exact declarations_readDefault ..
  · rw [declarations_appendField, declarations_readDefault]

@[simp] theorem declarations_emitField (record : RecordId) (recordName : String) (g : Generation)
    (entry : String × ElementId) :
    (emitField record recordName g entry).declarations = g.declarations := by
  unfold emitField
  dsimp only
  split
  · rfl
  · split
    · rfl
    · split
      · rfl
      · exact declarations_emitTypedField ..

section Fields

variable {g h : Generation} {id : ElementId} {type other : TypeId} {directType : Option TypeId}
  (schema : h.schema = g.schema)
  (element : h.declarations.element id = { g.declarations.element id with directType })
  (elemType : h.declarations.elementElemType id = g.declarations.elementElemType id)
  (record : (h.declarations.type other).record = (g.declarations.type type).record)

include schema element elemType record

theorem fieldShape_congr : h.fieldShape id other = g.fieldShape id type := by
  unfold fieldShape
  rw [record]
  cases (g.declarations.type type).record with
  | none => rw [elemType]
  | some record => simp only [element, schema]

variable (enumeration :
  (h.declarations.type other).enumeration = (g.declarations.type type).enumeration)

include enumeration

theorem typedField_congr (name : String) (mode : FormattingMode) (value : Option DefaultValue) :
    h.typedField name id other mode value = g.typedField name id type mode value := by
  unfold typedField
  rw [fieldShape_congr schema element elemType record, enumeration, element]
  rfl

/-- The schema after a field depends on the schema before it, and on the marks of its type. -/
theorem schema_emitTypedField_congr (owner : RecordId) (recordName name : String)
    (mode : FormattingMode) :
    (h.emitTypedField owner recordName name id other mode).schema =
      (g.emitTypedField owner recordName name id type mode).schema := by
  have text : (h.declarations.element id).defaultValue =
      (g.declarations.element id).defaultValue := by rw [element]
  have shape := fieldShape_congr schema element elemType record
  unfold emitTypedField
  dsimp only
  rw [text, shape, readDefault_snd g h]
  generalize (g.declarations.element id).defaultValue = t
  generalize (g.readDefault recordName name t (g.fieldShape id type).1).2 = value
  have left := schema_readDefault g recordName name t (g.fieldShape id type).1
  have left' := declarations_readDefault g recordName name t (g.fieldShape id type).1
  have right := schema_readDefault h recordName name t (g.fieldShape id type).1
  have right' := declarations_readDefault h recordName name t (g.fieldShape id type).1
  generalize (g.readDefault recordName name t (g.fieldShape id type).1).1 = m at left left' ⊢
  generalize (h.readDefault recordName name t (g.fieldShape id type).1).1 = n at right right' ⊢
  have same : n.schema = m.schema := right.trans (schema.trans left.symm)
  rw [← left', ← right'] at element elemType record enumeration
  rw [typedField_congr same element elemType record enumeration name mode value]
  split
  · rw [enumeration, wrapItems_congr same]
    cases m.wrapItems (m.typedField name id type mode value).elemType
        (m.declarations.type type).enumeration with
    | error fault => exact same
    | ok made =>
      obtain ⟨wrapped, wrapper⟩ := made
      dsimp only
      apply schema_appendField
      rfl
  · exact schema_appendField same _ _ _ _

end Fields

section Lockstep

variable {done : Generation} {again : Declarations} {g h : Generation}

theorem emitField_grows {owner : TypeId} {record : RecordId} (has : HasRecord g owner record)
    (recordName : String) (entry : String × ElementId) :
    Extends g (emitField record recordName g entry) := by
  have steps : Steps {} (fun _ => True) g (emitField record recordName g entry) :=
    emitField_steps has.owns recordName entry
  exact steps.grows

theorem fieldMode_congr {id : ElementId} {type other : TypeId} {directType : Option TypeId}
    (element : h.declarations.element id = { g.declarations.element id with directType })
    (isList : h.declarations.isList other = g.declarations.isList type) (builtin : Builtin) :
    h.fieldMode id other builtin = g.fieldMode id type builtin := by
  simp only [fieldMode, element, isList]

section Field

variable (twice : Twice done again) (step : InStep done again g h) {owner : TypeId}
  {record : RecordId} (own : (g.declarations.type owner).record = some record)
  {entry : String × ElementId} (member : entry ∈ (done.declarations.type owner).fields)

include twice step own member

/-- The records that are looked up for a field are those of the first generation. -/
theorem InStep.lookups : h.lookups record entry.2 = g.lookups record entry.2 := by
  have elemType := step.elementElemType twice entry.2
  unfold Generation.lookups
  rcases step.elementType twice entry.2 with
    ⟨typed, typed'⟩ | ⟨type, other, typed, typed', corresponds⟩ <;> rw [typed, typed']
  obtain ⟨sameRecord, -⟩ := step.marks twice own member typed typed' corresponds
  simp only [elemType, sameRecord, step.builtin twice corresponds]

theorem InStep.schema_emitField (recordName : String) :
    (Generation.emitField record recordName h entry).schema =
      (Generation.emitField record recordName g entry).schema := by
  have elemType := step.elementElemType twice entry.2
  obtain ⟨directType, element⟩ := step.element twice entry.2
  unfold Generation.emitField
  dsimp only
  rcases step.elementType twice entry.2 with
    ⟨typed, typed'⟩ | ⟨type, other, typed, typed', corresponds⟩ <;> rw [typed, typed']
  · exact step.schema
  · obtain ⟨sameRecord, sameEnumeration⟩ := step.marks twice own member typed typed' corresponds
    dsimp only
    rw [elemType, step.builtin twice corresponds]
    split
    · exact step.schema
    · cases g.declarations.builtin type with
      | none => exact step.schema
      | some builtin =>
        dsimp only
        rw [fieldMode_congr element (step.isList twice corresponds)]
        exact schema_emitTypedField_congr step.schema element elemType sameRecord sameEnumeration
          _ _ _ _

/-- The second generation finds the records that it looks up, and emits the field of the first. -/
theorem InStep.emitField (recordName : String)
    (later : Extends (Generation.emitField record recordName g entry) done) :
    emitField? record recordName h entry = some (Generation.emitField record recordName h entry) ∧
      InStep done again (Generation.emitField record recordName g entry)
        (Generation.emitField record recordName h entry) := by
  have inside := step.inRange owner record own
  have grows := emitField_grows ⟨own, inside⟩ recordName entry
  refine ⟨?_, step.congr (step.schema_emitField twice own member recordName) later
    (declarations_emitField ..) (declarations_emitField ..) grows.records⟩
  have first := emitField?_eq step.inRange inside recordName entry
  unfold emitField? at first ⊢
  rw [step.lookups twice own member, step.schema]
  split at first
  · rw [if_pos ‹_›]
  · cases first

end Field

theorem foldl_emitField_grows {owner : TypeId} {record : RecordId} (has : HasRecord g owner record)
    (recordName : String) (entries : List (String × ElementId)) :
    Extends g (entries.foldl (Generation.emitField record recordName) g) := by
  have steps : Steps {} (fun _ => True) g (entries.foldl (Generation.emitField record recordName) g) :=
    foldl_emitField_steps recordName entries has.owns
  exact steps.grows

theorem InStep.foldl_emitField (twice : Twice done again) (step : InStep done again g h)
    {owner : TypeId} {record : RecordId} (own : (g.declarations.type owner).record = some record)
    (recordName : String) (entries : List (String × ElementId))
    (subset : entries ⊆ (done.declarations.type owner).fields)
    (later : Extends (entries.foldl (Generation.emitField record recordName) g) done) :
    entries.foldlM (emitField? record recordName) h =
        some (entries.foldl (Generation.emitField record recordName) h) ∧
      InStep done again (entries.foldl (Generation.emitField record recordName) g)
        (entries.foldl (Generation.emitField record recordName) h) := by
  induction entries generalizing g h with
  | nil => exact ⟨rfl, step⟩
  | cons entry rest ih =>
    have has : HasRecord g owner record := ⟨own, step.inRange owner record own⟩
    have grows := emitField_grows has recordName entry
    have rest_grows := foldl_emitField_grows (grows.hasRecord has) recordName rest
    obtain ⟨found, next⟩ := step.emitField twice own (subset List.mem_cons_self) recordName
      (rest_grows.trans later)
    rw [List.foldlM_cons, found]
    exact ih next (grows.record own) (List.subset_of_cons_subset subset) later

/-! ## Types -/

/-- Sorting the fields of a type makes no difference to the second generation. -/
theorem InStep.sort (step : InStep done again g h) (type : TypeId)
    (later : Extends { g with declarations := g.declarations.sortFields type } done) :
    InStep done again { g with declarations := g.declarations.sortFields type } h where
  schema := step.schema
  later := later
  shape := step.shape
  fields := step.fields
  copy isCopy := by
    rw [(marks_sortFields _ _ _).1]
    exact step.copy isCopy
  kept := step.kept
  enumeration := step.enumeration
  inRange := step.inRange.of_eq (fun _ => (marks_sortFields _ _ _).1) (Nat.le_refl _)

/-- Sorting the fields of a type makes no difference to the first generation. -/
theorem InStep.sortAgain (step : InStep done again g h) (type : TypeId) :
    InStep done again g { h with declarations := h.declarations.sortFields type } where
  schema := step.schema
  later := step.later
  shape := step.shape.trans (sameShape_sortFields _ _)
  fields t := by
    rw [← step.fields, ← step.shape.attributesFirst, ← step.shape.attributesFirst]
    exact attributesFirst_fields_sortFields h.declarations type t
  copy isCopy := by
    rw [(marks_sortFields _ _ _).1]
    exact step.copy isCopy
  kept bound := by
    rw [(marks_sortFields _ _ _).1]
    exact step.kept bound
  enumeration t := by
    rw [(marks_sortFields _ _ _).2]
    exact step.enumeration t
  inRange := step.inRange

/-- The emission of a type with a record sorts its fields at most. -/
theorem emitTypeWithin_marked (limit : Nat) {type : TypeId}
    (complex : g.declarations.isComplex type = true)
    (marked : (g.declarations.type type).record.isSome = true) :
    emitTypeWithin? limit g type = some (emitTypeWithin limit g type) ∧
      (emitTypeWithin limit g type = g ∨
        emitTypeWithin limit g type =
          { g with declarations := g.declarations.sortFields type }) := by
  cases limit with
  | zero => exact ⟨rfl, .inl rfl⟩
  | succ limit =>
    obtain ⟨builtin, built, isComplex⟩ := exists_builtin_of_isComplex complex
    have still : ((g.declarations.sortFields type).type type).record.isSome = true := by
      rw [(marks_sortFields _ _ _).1, marked]
    simp [emitTypeWithin?, emitTypeWithin, built, isComplex, emitRecord?, emitRecord, still]

/-- The emission of a simple type without enumerators does nothing, or reports that it is not
defined. -/
theorem emitTypeWithin_simple (limit : Nat) {type : TypeId}
    (simple : g.declarations.isComplex type = false)
    (enumerators : (g.declarations.type type).enumerators = []) :
    emitTypeWithin? limit g type = some (emitTypeWithin limit g type) ∧
      (emitTypeWithin limit g type).declarations = g.declarations ∧
        (emitTypeWithin limit g type).schema = g.schema := by
  cases limit with
  | zero => exact ⟨rfl, rfl, rfl⟩
  | succ limit =>
    cases built : g.declarations.builtin type with
    | none =>
      simp [emitTypeWithin?, emitTypeWithin, built, report]
    | some builtin =>
      have isComplex : builtin.isComplex = false :=
        (isComplex_of_builtin built).symm.trans simple
      simp [emitTypeWithin?, emitTypeWithin, built, isComplex, enumerators]

theorem InStep.emit_kept (twice : Twice done again) (step : InStep done again g h) (limit : Nat)
    {type : TypeId} (complex : done.declarations.isComplex type = true)
    (marked : (done.declarations.type type).record.isSome = true) :
    emitTypeWithin? limit h type = some (emitTypeWithin limit h type) ∧
      InStep done again g (emitTypeWithin limit h type) := by
  have bound := lt_size_of_isComplex complex
  have complex' : h.declarations.isComplex type = true := by
    rw [step.isComplex twice (.same bound), ← step.later.shape.isComplex, complex]
  obtain ⟨found, unchanged | sorted⟩ := emitTypeWithin_marked limit complex' (by
    rw [step.kept bound, marked])
  · rw [unchanged] at found ⊢
    exact ⟨found, step⟩
  · rw [sorted] at found ⊢
    exact ⟨found, step.sortAgain type⟩

/-- A type that keeps its mark, or a simple one, is emitted by neither. -/
theorem InStep.emit_settled (twice : Twice done again) (step : InStep done again g h) (limit : Nat)
    {type : TypeId} (bound : type.index < done.declarations.types.size)
    (complex : done.declarations.isComplex type = true →
      (g.declarations.type type).record.isSome = true)
    (simple : done.declarations.isComplex type = false →
      (done.declarations.type type).enumerators = [])
    (later : Extends (emitTypeWithin limit g type) done) :
    emitTypeWithin? limit h type = some (emitTypeWithin limit h type) ∧
      InStep done again (emitTypeWithin limit g type) (emitTypeWithin limit h type) := by
  have isComplex := step.later.shape.isComplex type
  have isComplex' := step.isComplex twice (.same bound)
  cases own : done.declarations.isComplex type with
  | true =>
    have marked := complex own
    rw [own] at isComplex
    have kept : (done.declarations.type type).record.isSome = true := by
      obtain ⟨record, found⟩ := Option.isSome_iff_exists.1 marked
      rw [step.later.record found]
      rfl
    -- Either emission sorts the fields at most, which the other does not see.
    obtain ⟨-, unchanged | sorted⟩ := emitTypeWithin_marked limit isComplex.symm marked
    · rw [unchanged]
      exact step.emit_kept twice limit own kept
    · rw [sorted] at later ⊢
      exact (step.sort type later).emit_kept twice limit own kept
  | false =>
    have none := simple own
    rw [own] at isComplex
    rw [← isComplex] at isComplex'
    obtain ⟨-, declarations, schema⟩ := emitTypeWithin_simple limit isComplex.symm (by
      rw [← step.later.shape.enumerators, none])
    obtain ⟨found, declarations', schema'⟩ := emitTypeWithin_simple limit isComplex' (by
      rw [step.shape.enumerators, twice.renewed.old bound, none])
    exact ⟨found, step.congr (by rw [schema', schema, step.schema]) later declarations declarations'
      (by rw [schema])⟩

theorem emitFieldTypes_grows (limit : Nat) (owner : TypeId) (recordName : String)
    (entries : List (String × ElementId)) (g : Generation) :
    Extends g (emitFieldTypes (emitTypeWithin limit) owner recordName g entries).1 := by
  refine emitFieldTypes_related .refl .trans ?_ (emitTypeWithin_grows limit) owner _ entries g
  exact fun _ _ => .of_eq rfl rfl

theorem emitRecord_grows (limit : Nat) (g : Generation) {type : TypeId}
    (complex : g.declarations.isComplex type = true) :
    Extends g (emitRecord (emitTypeWithin limit) g type) := by
  have steps : Steps {} (fun _ => True) g (emitRecord (emitTypeWithin limit) g type) :=
    emitRecord_steps (emitTypeWithin_steps limit) trivial (allows_empty g) complex
  exact steps.grows

/-- The second generation emits copies as the first one emitted the types. -/
def EmitsCopies (done : Generation) (again : Declarations) (limit : Nat) : Prop :=
  ∀ g h type copy symbol id, InStep done again g h →
    IsCopy done.declarations again type copy symbol id →
      Extends (emitTypeWithin limit g type) done →
        emitTypeWithin? limit h copy = some (emitTypeWithin limit h copy) ∧
          InStep done again (emitTypeWithin limit g type) (emitTypeWithin limit h copy)

section FieldTypes

variable (twice : Twice done again) (step : InStep done again g h) {limit : Nat}
  (emits : EmitsCopies done again limit) {owner copy : TypeId} {symbol : Symbol} {id : ElementId}
  (isCopy : IsCopy done.declarations again owner copy symbol id) {record : RecordId}
  (own : (g.declarations.type owner).record = some record)

include twice step emits isCopy own

/-- How the types of a field are emitted: by neither, since they are the owners; by the second alone,
to whose owner a field of the own type still refers by the first; or by both. -/
theorem InStep.fieldType {entry : String × ElementId}
    (member : entry ∈ (done.declarations.type owner).fields) {type other : TypeId}
    (typed : g.declarations.elementType entry.2 = some type)
    (typed' : h.declarations.elementType entry.2 = some other)
    (corresponds : Corresponds done.declarations again type other) :
    (type = owner ∧ other = copy) ∨
      (type = owner ∧ other ≠ copy ∧
        PassesCheck g.declarations entry.2 ∧
          emitTypeWithin? limit h other = some (emitTypeWithin limit h other) ∧
            InStep done again g (emitTypeWithin limit h other)) ∨
      (type ≠ owner ∧ other ≠ copy ∧
        (Extends (emitTypeWithin limit g type) done →
          emitTypeWithin? limit h other = some (emitTypeWithin limit h other) ∧
            InStep done again (emitTypeWithin limit g type) (emitTypeWithin limit h other))) := by
  cases corresponds with
  | copy isCopy' =>
    have unique := twice.copy_unique isCopy' isCopy
    by_cases same : type = owner
    · exact .inl ⟨same, unique.1 same⟩
    · exact .inr (.inr ⟨same, fun same' => same (unique.2 same'), fun later =>
        emits g h type other _ _ step isCopy' later⟩)
  | same bound =>
    have ne : type ≠ copy := by
      rintro rfl
      exact absurd bound (Nat.not_lt.2 isCopy.new)
    obtain ⟨marked, simple, passes⟩ := step.settled twice own member typed typed' bound
    by_cases same : type = owner
    · obtain ⟨found, next⟩ := step.emit_kept twice limit (same ▸ isCopy.complex) (by
        rw [same, step.later.record own]
        rfl)
      exact .inr (.inl ⟨same, ne, passes same, found, next⟩)
    · exact .inr (.inr ⟨same, ne, step.emit_settled twice limit bound marked simple⟩)

theorem InStep.emitFieldTypes (recordName : String) (entries : List (String × ElementId))
    (subset : entries ⊆ (done.declarations.type owner).fields)
    (later : Extends (emitFieldTypes (emitTypeWithin limit) owner recordName g entries).1 done) :
    emitFieldTypes? (emitTypeWithin? limit) copy recordName h entries =
        some (Generation.emitFieldTypes (emitTypeWithin limit) copy recordName h entries) ∧
      InStep done again
        (Generation.emitFieldTypes (emitTypeWithin limit) owner recordName g entries).1
        (Generation.emitFieldTypes (emitTypeWithin limit) copy recordName h entries).1 ∧
      (Generation.emitFieldTypes (emitTypeWithin limit) copy recordName h entries).2 =
        (Generation.emitFieldTypes (emitTypeWithin limit) owner recordName g entries).2 := by
  induction entries generalizing g h with
  | nil => exact ⟨rfl, step, rfl⟩
  | cons entry rest ih =>
    obtain ⟨name, field⟩ := entry
    have subset' := List.subset_of_cons_subset subset
    have check := step.check twice recordName name field
    have reports (problem : Problem) (later : Extends (g.report problem) done) :
        InStep done again (g.report problem) (h.report problem) :=
      step.congr step.schema later rfl rfl (Nat.le_refl _)
    rcases step.elementType twice field with
      ⟨typed, typed'⟩ | ⟨type, other, typed, typed', corresponds⟩
    · simp only [Generation.emitFieldTypes, emitFieldTypes?, typed, typed', check] at later ⊢
      cases checked : g.declarations.check recordName name field with
      | error problem =>
        rw [checked] at later
        exact ⟨rfl, reports problem later, rfl⟩
      | ok passed =>
        rw [checked] at later
        exact ih step own subset' later
    · simp only [Generation.emitFieldTypes, emitFieldTypes?, typed, typed', check] at later ⊢
      rcases step.fieldType twice emits isCopy own (subset List.mem_cons_self) typed typed'
        corresponds with ⟨same, same'⟩ | ⟨same, ne', passes, found, next⟩ | ⟨ne, ne', next⟩
      · rw [if_pos same] at later ⊢
        rw [if_pos same', if_pos same']
        exact ih step own subset' later
      · rw [if_pos same] at later ⊢
        rw [if_neg ne', if_neg ne', passes recordName]
        dsimp only
        rw [found, Option.bind_some]
        exact ih next own subset' later
      · rw [if_neg ne] at later ⊢
        rw [if_neg ne', if_neg ne']
        cases checked : g.declarations.check recordName name field with
        | error problem =>
          rw [checked] at later
          exact ⟨rfl, reports problem later, rfl⟩
        | ok passed =>
          rw [checked] at later
          dsimp only at later ⊢
          have grows := emitFieldTypes_grows limit owner recordName rest
            (emitTypeWithin limit g type)
          obtain ⟨found, next⟩ := next (grows.trans later)
          rw [found, Option.bind_some]
          exact ih next ((emitTypeWithin_grows limit g type).record own) subset' later

end FieldTypes

/-- A type and its copy get records alike. -/
theorem InStep.marksRecord {g' h' : Generation} (twice : Twice done again)
    (step : InStep done again g h) {type copy : TypeId} {symbol : Symbol} {id : ElementId}
    (isCopy : IsCopy done.declarations again type copy symbol id) {record : RecordId}
    (marks : MarksRecord g g' type record) (marks' : MarksRecord h h' copy record)
    (schema : h'.schema = g'.schema) (later : Extends g' done) : InStep done again g' h' where
  schema := schema
  later := later
  shape := step.shape.trans marks'.grows.shape
  fields t := by
    rw [← step.fields, ← step.shape.attributesFirst, ← step.shape.attributesFirst]
    exact marks'.grows.fields t
  copy {t t'} _ _ isCopy' := by
    have unique := twice.copy_unique isCopy' isCopy
    rw [marks.types, marks'.types]
    by_cases same : t = type
    · rw [if_pos same, if_pos (unique.1 same)]
    · rw [if_neg same, if_neg fun same' => same (unique.2 same')]
      exact step.copy isCopy'
  kept {t} bound := by
    have ne : t ≠ copy := by
      rintro rfl
      exact absurd bound (Nat.not_lt.2 isCopy.new)
    rw [marks'.types, if_neg ne]
    exact step.kept bound
  enumeration t := by
    rw [marks'.enumeration]
    exact step.enumeration t
  inRange := marks.marksInRange step.inRange

theorem emitFieldTypes_grows_fillRecord (limit : Nat) {type : TypeId} {record : RecordId}
    (has : HasRecord g type record) (name : String) (fields : List (String × ElementId)) :
    Extends (Generation.emitFieldTypes (emitTypeWithin limit) type name g fields).1
      (fillRecord (emitTypeWithin limit) type record name fields g) := by
  have grows := emitFieldTypes_grows limit type name fields g
  unfold fillRecord
  dsimp only
  split
  · exact foldl_emitField_grows (grows.hasRecord has) name fields
  · exact .refl _

theorem fillRecord_grows (limit : Nat) {type : TypeId} {record : RecordId}
    (has : HasRecord g type record) (name : String) (fields : List (String × ElementId)) :
    Extends g (fillRecord (emitTypeWithin limit) type record name fields g) :=
  (emitFieldTypes_grows limit type name fields g).trans
    (emitFieldTypes_grows_fillRecord limit has name fields)

/-- The records of a type and of its copy are filled alike. -/
theorem InStep.fillRecord (twice : Twice done again) (step : InStep done again g h) {limit : Nat}
    (emits : EmitsCopies done again limit) {type copy : TypeId} {symbol : Symbol} {id : ElementId}
    (isCopy : IsCopy done.declarations again type copy symbol id) {record : RecordId}
    (own : (g.declarations.type type).record = some record) (name : String)
    (fields : List (String × ElementId)) (subset : fields ⊆ (done.declarations.type type).fields)
    (later : Extends (fillRecord (emitTypeWithin limit) type record name fields g) done) :
    fillRecord? (emitTypeWithin? limit) copy record name fields h =
        some (Generation.fillRecord (emitTypeWithin limit) copy record name fields h) ∧
      InStep done again (Generation.fillRecord (emitTypeWithin limit) type record name fields g)
        (Generation.fillRecord (emitTypeWithin limit) copy record name fields h) := by
  have grows := emitFieldTypes_grows limit type name fields g
  have filled := emitFieldTypes_grows_fillRecord limit ⟨own, step.inRange _ _ own⟩ name fields
  obtain ⟨found, next, same⟩ :=
    step.emitFieldTypes twice emits isCopy own name fields subset (filled.trans later)
  unfold Generation.fillRecord fillRecord? at *
  rw [found, Option.bind_some]
  dsimp only at later ⊢
  rw [same]
  split at later
  · rw [if_pos ‹_›, if_pos ‹_›, if_pos ‹_›]
    exact next.foldl_emitField twice (grows.record own) name fields subset later
  · rw [if_neg ‹_›, if_neg ‹_›, if_neg ‹_›]
    exact ⟨rfl, next⟩

theorem InStep.emitRecord (twice : Twice done again) (step : InStep done again g h) {limit : Nat}
    (emits : EmitsCopies done again limit) {type copy : TypeId} {symbol : Symbol} {id : ElementId}
    (isCopy : IsCopy done.declarations again type copy symbol id)
    (fields : (h.declarations.type copy).fields = (g.declarations.type type).fields)
    (later : Extends (emitRecord (emitTypeWithin limit) g type) done) :
    emitRecord? (emitTypeWithin? limit) h copy =
        some (Generation.emitRecord (emitTypeWithin limit) h copy) ∧
      InStep done again (Generation.emitRecord (emitTypeWithin limit) g type)
        (Generation.emitRecord (emitTypeWithin limit) h copy) := by
  have complex : g.declarations.isComplex type = true := by
    rw [← step.later.shape.isComplex, isCopy.complex]
  have complex' : h.declarations.isComplex copy = true := by
    rw [step.isComplex twice (.copy isCopy), complex]
  have symbols := step.outputSymbol twice isCopy
  have records := step.copy isCopy
  cases unmarked : (g.declarations.type type).record with
  | some record =>
    have marked : (g.declarations.type type).record.isSome = true := by rw [unmarked]; rfl
    have marked' := records.symm ▸ marked
    rw [emitRecord?_of_marked _ marked', emitRecord_of_marked _ marked, emitRecord_of_marked _ marked']
    exact ⟨rfl, step⟩
  | none =>
    have unmarked' := records.trans unmarked
    have creates : h.schema.createRecord (recordName? (h.declarations.type copy).outputSymbol)
        (recordKind h.declarations copy) =
      g.schema.createRecord (recordName? (g.declarations.type type).outputSymbol)
        (recordKind g.declarations type) := by
      rw [step.schema, symbols, recordKind, recordKind, step.isChoice twice (.copy isCopy)]
    cases created : g.schema.createRecord (recordName? (g.declarations.type type).outputSymbol)
        (recordKind g.declarations type) with
    | error fault =>
      have created' := creates.trans created
      rw [emitRecord_of_error _ unmarked created] at later ⊢
      rw [emitRecord?_of_error _ unmarked' created', emitRecord_of_error _ unmarked' created']
      exact ⟨rfl, step.congr step.schema later rfl rfl (Nat.le_refl _)⟩
    | ok made =>
      obtain ⟨schema, record⟩ := made
      have created' := creates.trans created
      have marks := marksRecord_withRecord complex unmarked created
      have marks' := marksRecord_withRecord complex' unmarked' created'
      rw [emitRecord_of_created _ unmarked created] at later ⊢
      rw [emitRecord?_of_created _ unmarked' created', emitRecord_of_created _ unmarked' created',
        symbols, fields]
      have has : HasRecord (g.withRecord type schema record) type record :=
        ⟨marks.marked, marks.marksInRange step.inRange _ _ marks.marked⟩
      have begun := step.marksRecord twice isCopy marks marks' rfl
        ((fillRecord_grows limit has _ _).trans later)
      exact begun.fillRecord twice emits isCopy marks.marked _ _
        (fun entry member => step.later.mem_fields.2 member) later

/-- A type and its copy are emitted alike, through any number of types one inside another. -/
theorem emitsCopies (twice : Twice done again) (limit : Nat) : EmitsCopies done again limit := by
  induction limit with
  | zero => exact fun _ _ _ _ _ _ step _ _ => ⟨rfl, step⟩
  | succ limit ih =>
    intro g h type copy symbol id step isCopy later
    have complex : g.declarations.isComplex type = true := by
      rw [← step.later.shape.isComplex, isCopy.complex]
    obtain ⟨builtin, built, isComplex⟩ := exists_builtin_of_isComplex complex
    have built' := (step.builtin twice (.copy isCopy)).trans built
    simp only [emitTypeWithin, emitTypeWithin?, built, built', isComplex, if_true] at later ⊢
    have grows := emitRecord_grows limit { g with declarations := g.declarations.sortFields type }
      (by rw [← complex]; exact (sameShape_sortFields g.declarations type).isComplex type)
    have sorted := (step.sort type (grows.trans later)).sortAgain copy
    refine sorted.emitRecord twice ih isCopy ?_ later
    have inside : copy.index < h.declarations.types.size := by
      rw [step.shape.size]
      exact isCopy.inRange
    change ((h.declarations.sortFields copy).type copy).fields =
      ((g.declarations.sortFields type).type type).fields
    rw [fields_sortFields _ _ inside, fields_sortFields _ _ (lt_size_of_isComplex complex)]
    exact step.attributesFirst twice isCopy

end Lockstep

end Generation

end XsdRecords
