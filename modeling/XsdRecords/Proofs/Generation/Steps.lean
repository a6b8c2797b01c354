import XsdRecords.Proofs.Generation.Types

/-! # The steps of an emission

Whether it fails or not, an emission takes a few kinds of steps.  `Step` lists them, each with what is
known when it is taken, so that an invariant of emissions need only be kept by each of them. -/

namespace XsdRecords.Generation

open XsdRecords.Declaration (Declarations ElementId TypeId)
open XsdRecords.Layout

/-! ## Steps -/

/-- Appends a field to a record, whatever its name. -/
def push (schema : RecordSchema) (record : RecordId) (field : Field) : RecordSchema :=
  schema.modifyRecord record fun r => { r with fields := r.fields ++ [field] }

/-- A record of a type that had none when the emission started. -/
structure Owns (start : Declarations) (g : Generation) (owner : TypeId) (record : RecordId) :
    Prop where
  fresh : (start.type owner).record = none
  marked : (g.declarations.type owner).record = some record
  inRange : record.index < g.schema.records.size

/-- One step of an emission that started with the declarations `start` and emits types of `reach`. -/
inductive Step (start : Declarations) (reach : TypeId → Prop) (g : Generation) : Generation → Prop
  | journal (journal : Journal) (kept : g.hasFailed = true → journal.hasFailed = true) :
      Step start reach g { g with journal }
  | sort (type : TypeId) :
      Step start reach g { g with declarations := g.declarations.sortFields type }
  | record {type : TypeId} {record : RecordId} {g' : Generation} (reached : reach type)
      (fresh : (start.type type).record = none) (marks : MarksRecord g g' type record)
      (journal : g'.journal = g.journal) : Step start reach g g'
  | enumeration {type : TypeId} {g' : Generation} (reached : reach type)
      (marks : MarksEnumeration g g' type)
      (kept : g.hasFailed = true → g'.hasFailed = true) : Step start reach g g'
  | field {owner : TypeId} {record : RecordId} (owns : Owns start g owner record) (field : Field)
      (constraint : ∀ id, field.constraint = some (.record id) →
        ∃ type, (g.declarations.type type).record = some id) :
      Step start reach g { g with schema := push g.schema record field }
  | table {owner : TypeId} {record : RecordId} (owns : Owns start g owner record)
      {elemType : ElemType} {enumeration : Option EnumerationId} {schema : RecordSchema}
      {wrapper : RecordId} (wraps : g.wrapItems elemType enumeration = .ok (schema, wrapper))
      (field : Field) (constraint : field.constraint = some (.record wrapper)) :
      Step start reach g { g with schema := push schema record field }
  /-- Items are wrapped for a table whose name is taken. -/
  | orphan {elemType : ElemType} {enumeration : Option EnumerationId} {schema : RecordSchema}
      {wrapper : RecordId} (wraps : g.wrapItems elemType enumeration = .ok (schema, wrapper))
      (journal : Journal) (failed : journal.hasFailed = true) :
      Step start reach g { g with schema, journal }

/-- Steps one after another. -/
abbrev Steps (start : Declarations) (reach : TypeId → Prop) : Generation → Generation → Prop :=
  Relation.ReflTransGen (Step start reach)

section Step

variable {start : Declarations} {reach : TypeId → Prop} {g g' : Generation}

/-- Each step extends the generation. -/
theorem Step.grows (step : Step start reach g g') : Extends g g' := by
  cases step with
  | journal => exact .of_eq rfl rfl
  | sort type => exact extends_sortFields g type
  | record reached fresh marks => exact marks.grows
  | enumeration reached marks => exact marks.grows
  | field owns field => exact extends_modifyRecord g owns.marked owns.inRange field
  | @table owner record owns elemType enumeration schema wrapper wraps field =>
    obtain ⟨grows, -⟩ := extends_wrapItems wraps
    exact grows.trans (extends_modifyRecord { g with schema } owns.marked
      (Nat.lt_of_lt_of_le owns.inRange grows.records) field)
  | orphan wraps => exact (extends_wrapItems wraps).1.trans (.of_eq rfl rfl)

/-- No step undoes a failure. -/
theorem Step.hasFailed (step : Step start reach g g') (failed : g.hasFailed = true) :
    g'.hasFailed = true := by
  cases step with
  | journal journal kept => exact kept failed
  | sort | field | table => exact failed
  | record reached fresh marks journal =>
    unfold Generation.hasFailed at *
    rw [journal, failed]
  | enumeration reached marks kept => exact kept failed
  | orphan wraps journal failed => exact failed

theorem Steps.grows (steps : Steps start reach g g') : Extends g g' := by
  induction steps with
  | refl => exact .refl g
  | tail _ step ih => exact ih.trans step.grows

/-- What holds at the start and is kept by every step of a generation that does not fail, holds at
the end. -/
theorem Steps.inv {P : Generation → Prop} (steps : Steps start reach g g')
    (ok : g'.hasFailed = false) (before : P g)
    (keeps : ∀ {m m' : Generation}, Step start reach m m' → m'.hasFailed = false → P m → P m') :
    P g' := by
  induction steps with
  | refl => exact before
  | tail _ step ih =>
    exact keeps step ok (ih (unfailed_before step.hasFailed ok))

end Step

/-! ## What an emission may reach -/

theorem mem_attributesFirst {d : Declarations} {fields : List (String × ElementId)}
    {entry : String × ElementId} : entry ∈ d.attributesFirst fields ↔ entry ∈ fields := by
  simp only [Declarations.attributesFirst, List.mem_append, List.mem_filter]
  cases d.isAttributeField entry <;> simp

theorem Extends.mem_fields {g g' : Generation} (grows : Extends g g') {owner : TypeId}
    {entry : String × ElementId} :
    entry ∈ (g'.declarations.type owner).fields ↔ entry ∈ (g.declarations.type owner).fields := by
  rw [← mem_attributesFirst (d := g.declarations), grows.fields, mem_attributesFirst]

/-- With a type `reach` holds of the types of its fields, and types without a record had none when
the emission started. -/
structure Allows (start : Declarations) (reach : TypeId → Prop) (g : Generation) : Prop where
  closed {owner type : TypeId} {entry : String × ElementId} : reach owner →
    entry ∈ (g.declarations.type owner).fields →
      g.declarations.elementType entry.2 = some type → reach type
  fresh {type : TypeId} :
    (g.declarations.type type).record = none → (start.type type).record = none

theorem Extends.allows {start : Declarations} {reach : TypeId → Prop} {g g' : Generation}
    (grows : Extends g g') (allows : Allows start reach g) : Allows start reach g' where
  closed reached member typed := by
    rw [grows.shape.elementType] at typed
    exact allows.closed reached (grows.mem_fields.1 member) typed
  fresh unmarked := allows.fresh (grows.record_eq_none unmarked)

/-! ## Emissions are sequences of steps -/

section Emission

variable {start : Declarations} {reach : TypeId → Prop} {g : Generation}

theorem step_report (g : Generation) (p : Problem) : Step start reach g (g.report p) :=
  .journal _ fun failed => hasFailed_report failed p

theorem step_note (g : Generation) (e : Event) : Step start reach g (g.note e) :=
  .journal _ fun failed => failed

theorem appendField_steps {owner : TypeId} {record : RecordId} (owns : Owns start g owner record)
    (recordName name : String) {field : Field}
    (constraint : ∀ id, field.constraint = some (.record id) →
      ∃ type, (g.declarations.type type).record = some id) :
    Steps start reach g (g.appendField record recordName name field) := by
  unfold appendField
  split
  · rename_i schema appended
    obtain ⟨-, rfl⟩ := RecordSchema.appendField_eq_ok appended
    exact .single (.field owns field constraint)
  · exact .single (step_report g _)

theorem emitTypedField_steps {owner : TypeId} {record : RecordId}
    (owns : Owns start g owner record) (recordName name : String) (id : ElementId) (type : TypeId)
    (mode : FormattingMode) :
    Steps start reach g (g.emitTypedField record recordName name id type mode) := by
  have read (text : String) (elemType : ElemType) : ∃ journal value,
      g.readDefault recordName name text elemType = ({ g with journal }, value) ∧
        (g.hasFailed = true → journal.hasFailed = true) := by
    unfold readDefault
    split
    · exact ⟨_, _, rfl, fun failed => failed⟩
    · split
      · exact ⟨_, _, rfl, fun failed => failed⟩
      · exact ⟨_, _, rfl, fun failed => hasFailed_report failed _⟩
  obtain ⟨journal, value, read, kept⟩ :=
    read (g.declarations.element id).defaultValue (g.fieldShape id type).1
  have first : Step start reach g { g with journal } := .journal journal kept
  have owns' : Owns start { g with journal } owner record :=
    ⟨owns.fresh, owns.marked, owns.inRange⟩
  unfold emitTypedField
  simp only [read]
  split
  · split
    · exact .tail (.single first) (step_report _ _)
    · rename_i schema wrapper wraps
      refine .tail (.single first) ?_
      unfold appendField
      split
      · rename_i schema' appended
        obtain ⟨-, rfl⟩ := RecordSchema.appendField_eq_ok appended
        exact .table owns' wraps _ rfl
      · exact .orphan wraps _ (hasFailed_report_of_isFailure { g with journal } rfl)
  · refine .trans (.single first) (appendField_steps owns' _ _ fun id constrained => ⟨type, ?_⟩)
    rw [constraint_typedField] at constrained
    cases marked : (g.declarations.type type).record with
    | none =>
      cases enumerated : (g.declarations.type type).enumeration <;>
        simp [marked, enumerated] at constrained
    | some record => simpa [marked] using constrained

theorem emitField_steps {owner : TypeId} {record : RecordId} (owns : Owns start g owner record)
    (recordName : String) (entry : String × ElementId) :
    Steps start reach g (emitField record recordName g entry) := by
  unfold emitField
  dsimp only
  split
  · exact .refl
  · split
    · exact .single (step_report g _)
    · split
      · exact .refl
      · exact emitTypedField_steps owns _ _ _ _ _

theorem Extends.owns {g' : Generation} (grows : Extends g g') {owner : TypeId} {record : RecordId}
    (owns : Owns start g owner record) : Owns start g' owner record :=
  ⟨owns.fresh, grows.record owns.marked, Nat.lt_of_lt_of_le owns.inRange grows.records⟩

theorem foldl_emitField_steps {owner : TypeId} {record : RecordId} (recordName : String)
    (entries : List (String × ElementId)) (owns : Owns start g owner record) :
    Steps start reach g (entries.foldl (emitField record recordName) g) := by
  induction entries generalizing g with
  | nil => exact .refl
  | cons entry rest ih =>
    have first : Steps start reach g (emitField record recordName g entry) :=
      emitField_steps owns recordName entry
    exact first.trans (ih (first.grows.owns owns))

theorem emitEnumeration_steps {type : TypeId} (reached : reach type)
    (scalar : g.declarations.isComplex type = false)
    (enumerators : (g.declarations.type type).enumerators ≠ []) :
    Steps start reach g (g.emitEnumeration type) := by
  cases unmarked : (g.declarations.type type).enumeration with
  | some enumeration =>
    have unchanged : g.emitEnumeration type = g := by
      simp [emitEnumeration, unmarked]
    rw [unchanged]
  | none =>
    cases created : g.schema.createEnumeration
        (enumerationName? (g.declarations.type type).outputSymbol.localName) with
    | error fault =>
      rw [emitEnumeration_taken unmarked created]
      exact .single (step_report g _)
    | ok made =>
      obtain ⟨declarations, records, size, -⟩ := emitEnumeration_new unmarked created
      exact .single (.enumeration reached
        ⟨scalar, enumerators, unmarked, declarations, records, size,
          enumeration_emitEnumeration unmarked created⟩
        fun failed => hasFailed_emitEnumeration failed type)

/-- An emission of types that takes steps alone. -/
def TakesSteps (start : Declarations) (reach : TypeId → Prop)
    (emit : Generation → TypeId → Generation) : Prop :=
  ∀ g type, Allows start reach g → reach type → Steps start reach g (emit g type)

theorem emitFieldTypes_steps {emit : Generation → TypeId → Generation}
    (emits : TakesSteps start reach emit) {owner : TypeId} (reached : reach owner)
    (recordName : String) (entries : List (String × ElementId))
    (allows : Allows start reach g)
    (entries_subset : entries ⊆ (g.declarations.type owner).fields) :
    Steps start reach g (emitFieldTypes emit owner recordName g entries).1 := by
  induction entries generalizing g with
  | nil => exact .refl
  | cons entry rest ih =>
    have later := List.subset_of_cons_subset entries_subset
    have outcome := emitFieldTypes_outcome emit owner recordName entry rest g
    generalize emitFieldTypes emit owner recordName g (entry :: rest) = result at outcome ⊢
    cases outcome with
    | refused wrong => exact .single (step_report g _)
    | own typed => exact ih allows later
    | emitted typed other passed =>
      have first := emits g _ allows
        (allows.closed reached (entries_subset List.mem_cons_self) typed)
      exact first.trans (ih (first.grows.allows allows)
        fun entry member => first.grows.mem_fields.2 (later member))

theorem emitRecord_steps {emit : Generation → TypeId → Generation}
    (emits : TakesSteps start reach emit) {type : TypeId} (reached : reach type)
    (allows : Allows start reach g) (complex : g.declarations.isComplex type = true) :
    Steps start reach g (emitRecord emit g type) := by
  have outcome := emitRecord_outcome emit g type
  generalize emitRecord emit g type = result at outcome ⊢
  cases outcome with
  | marked marked => exact .refl
  | taken unmarked => exact .single (step_report g _)
  | @created schema record unmarked created =>
    unfold fillRecord
    dsimp only
    have marks : MarksRecord g (Generation.modifyType { g with schema } type fun t =>
        { t with record := some record }) type record := ⟨complex, unmarked, created, rfl⟩
    have first : Steps start reach g (g.withRecord type schema record) :=
      .tail (.single (.record reached (allows.fresh unmarked) marks rfl)) (step_note _ _)
    have noted := marksRecord_withRecord complex unmarked created
    generalize g.withRecord type schema record = begun at first noted ⊢
    have owns : Owns start begun type record :=
      ⟨allows.fresh unmarked, noted.marked, noted.inRange⟩
    have types := emitFieldTypes_steps emits reached
      (g.declarations.type type).outputSymbol.localName _ (first.grows.allows allows)
      fun entry member => first.grows.mem_fields.2 member
    split
    · exact first.trans (types.trans (foldl_emitField_steps _ _ (types.grows.owns owns)))
    · exact first.trans types

theorem emitTypeWithin_steps (limit : Nat) :
    TakesSteps start reach (emitTypeWithin limit) := by
  induction limit with
  | zero => exact fun _ _ _ _ => .refl
  | succ limit ih =>
    intro g type allows reached
    have outcome := emitTypeWithin_outcome limit g type
    generalize emitTypeWithin (limit + 1) g type = result at outcome ⊢
    cases outcome with
    | undefined unknown => exact .single (step_report g _)
    | record complex =>
      have sorted : Step start reach g { g with declarations := g.declarations.sortFields type } :=
        .sort type
      refine .trans (.single sorted) (emitRecord_steps ih reached (sorted.grows.allows allows) ?_)
      rw [sorted.grows.shape.isComplex, complex]
    | plain scalar none => exact .refl
    | enumeration scalar some => exact emitEnumeration_steps reached scalar some

theorem emitRoot_steps {id : ElementId} (allows : Allows start reach g)
    (reached : ∀ type, g.declarations.elementType id = some type →
      g.declarations.isComplex type = true → reach type) : Steps start reach g (g.emitRoot id) := by
  obtain ⟨type, typed, complex, emitted⟩ | ⟨-, unchanged⟩ := emitRoot_outcome g id
  · rw [emitted]
    exact emitTypeWithin_steps _ g type allows (reached type typed complex)
  · rw [unchanged]

theorem foldl_emitRoot_steps (ids : List ElementId) (allows : Allows start reach g)
    (reached : ∀ id ∈ ids, ∀ type, g.declarations.elementType id = some type →
      g.declarations.isComplex type = true → reach type) :
    Steps start reach g (ids.foldl emitRoot g) := by
  induction ids generalizing g with
  | nil => exact .refl
  | cons id rest ih =>
    have first := emitRoot_steps allows (reached id List.mem_cons_self)
    refine first.trans (ih (first.grows.allows allows) fun other member type typed complex => ?_)
    rw [first.grows.shape.elementType] at typed
    rw [first.grows.shape.isComplex] at complex
    exact reached other (List.mem_cons_of_mem _ member) type typed complex

end Emission

end XsdRecords.Generation
