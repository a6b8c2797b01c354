import XsdRecords.Proofs.Generation.Extension

/-! # Emitting the fields of a record

`Sound` is the invariant of an emission.  A field that is emitted without a failure is the field of
its entry, is the last of its record, and changes no other record. -/

namespace XsdRecords.Generation

open XsdRecords.Declaration (ElementId TypeId)
open XsdRecords.Layout
open XsdRecords.Vocabulary (Builtin)

/-! ## The invariant -/

/-- The field of the single items of an array. -/
def IsItem (g : Generation) (field : Field) : Prop :=
  ∃ elemType enumeration, elemType.isArray = true ∧
    (∀ id, enumeration = some id → id.index < g.schema.enumerations.size) ∧
    field = itemField elemType enumeration

theorem Extends.isItem {g g' : Generation} (grows : Extends g g') {field : Field}
    (item : IsItem g field) : IsItem g' field := by
  obtain ⟨elemType, enumeration, isArray, inRange, rfl⟩ := item
  exact ⟨elemType, enumeration, isArray,
    fun id own => Nat.lt_of_lt_of_le (inRange id own) grows.enumerations, rfl⟩

/-- The invariant of an emission. -/
structure Sound (g : Generation) : Prop where
  store : g.schema.Consistent
  record_lt {type : TypeId} {record : RecordId} :
    (g.declarations.type type).record = some record → record.index < g.schema.records.size
  complex {type : TypeId} {record : RecordId} :
    (g.declarations.type type).record = some record → g.declarations.isComplex type = true
  injective {type other : TypeId} {record : RecordId} :
    (g.declarations.type type).record = some record →
      (g.declarations.type other).record = some record → type = other
  name {type : TypeId} {record : RecordId} :
    (g.declarations.type type).record = some record →
      (g.schema.record record).name = recordName? (g.declarations.type type).outputSymbol
  kind {type : TypeId} {record : RecordId} :
    (g.declarations.type type).record = some record →
      (g.schema.record record).kind = recordKind g.declarations type
  enumeration_lt {type : TypeId} {enumeration : EnumerationId} :
    (g.declarations.type type).enumeration = some enumeration →
      enumeration.index < g.schema.enumerations.size
  fields (record : RecordId) : ∀ field ∈ (g.schema.record record).fields,
    (∃ entry, FieldOf g entry field) ∨ IsItem g field

theorem Extends.of_eq {g g' : Generation} (declarations : g'.declarations = g.declarations)
    (schema : g'.schema = g.schema) : Extends g g' := by
  cases g
  cases g'
  cases declarations
  cases schema
  exact ⟨.refl _, fun _ => rfl, id, .inl, id, .inl, Nat.le_refl _, Nat.le_refl _, fun _ => rfl,
    fun _ => rfl, fun _ _ => rfl⟩

/-! ## Failures are kept -/

theorem hasFailed_foldl {α : Type} {step : Generation → α → Generation}
    (keeps : ∀ g a, g.hasFailed = true → (step g a).hasFailed = true) (l : List α)
    {g : Generation} (h : g.hasFailed = true) : (l.foldl step g).hasFailed = true := by
  induction l generalizing g with
  | nil => exact h
  | cons a rest ih => exact ih (keeps g a h)

theorem hasFailed_appendField {g : Generation} (h : g.hasFailed = true) (record : RecordId)
    (recordName name : String) (field : Field) :
    (g.appendField record recordName name field).hasFailed = true := by
  unfold appendField
  split
  · exact h
  · exact hasFailed_report h _

theorem hasFailed_readDefault {g : Generation} (h : g.hasFailed = true)
    (recordName name text : String) (type : ElemType) :
    (g.readDefault recordName name text type).1.hasFailed = true := by
  unfold readDefault
  split
  · exact h
  · split
    · exact h
    · exact hasFailed_report h _

theorem hasFailed_emitTypedField_of_readDefault {g : Generation} {recordName name : String}
    {id : ElementId} {type : TypeId}
    (failed : (g.readDefault recordName name (g.declarations.element id).defaultValue
      (g.fieldShape id type).1).1.hasFailed = true) (record : RecordId) (mode : FormattingMode) :
    (g.emitTypedField record recordName name id type mode).hasFailed = true := by
  unfold emitTypedField
  dsimp only
  split
  · split
    · exact hasFailed_report failed _
    · exact hasFailed_appendField (by simpa using failed) _ _ _ _
  · exact hasFailed_appendField failed _ _ _ _

theorem hasFailed_emitTypedField {g : Generation} (h : g.hasFailed = true) (record : RecordId)
    (recordName name : String) (id : ElementId) (type : TypeId) (mode : FormattingMode) :
    (g.emitTypedField record recordName name id type mode).hasFailed = true :=
  hasFailed_emitTypedField_of_readDefault (hasFailed_readDefault h _ _ _ _) record mode

theorem hasFailed_emitField {g : Generation} (h : g.hasFailed = true) (record : RecordId)
    (recordName : String) (entry : String × ElementId) :
    (emitField record recordName g entry).hasFailed = true := by
  unfold emitField
  dsimp only
  split
  · exact h
  · split
    · exact hasFailed_report h _
    · split
      · exact h
      · exact hasFailed_emitTypedField h _ _ _ _ _ _

/-! ## Steps of the emission of a field -/

/-- A default value that is read without a failure is the one of the field. -/
theorem readDefault_eq {g : Generation} {recordName name : String} {id : ElementId}
    {type : TypeId}
    (ok : (g.readDefault recordName name (g.declarations.element id).defaultValue
      (g.fieldShape id type).1).1.hasFailed = false) :
    g.readDefault recordName name (g.declarations.element id).defaultValue
      (g.fieldShape id type).1 = (g, g.defaultOf id type) := by
  unfold readDefault defaultOf at *
  dsimp only at *
  split at ok
  · rw [if_pos ‹_›, if_pos ‹_›]
  · rw [if_neg ‹_›, if_neg ‹_›]
    split at ok
    · rename_i found
      rw [found]
    · rw [hasFailed_report_of_isFailure g rfl] at ok
      cases ok

/-- A field is constrained by what its type became. -/
theorem constraint_typedField (g : Generation) (name : String) (id : ElementId) (type : TypeId)
    (mode : FormattingMode) (value : Option DefaultValue) :
    (g.typedField name id type mode value).constraint =
      ((g.declarations.type type).record.map .record <|>
        (g.declarations.type type).enumeration.map .enumeration) := by
  change ((g.fieldShape id type).2 <|> _) = _
  unfold fieldShape
  cases (g.declarations.type type).record <;> rfl

/-- What wrapping items does: it cannot fail. -/
theorem wrapItems_eq_ok {g : Generation} {elemType : ElemType}
    {enumeration : Option EnumerationId} {schema : RecordSchema} {wrapper : RecordId}
    (h : g.wrapItems elemType enumeration = .ok (schema, wrapper)) :
    wrapper = ⟨g.schema.records.size⟩ ∧
      schema.records.size = g.schema.records.size + 1 ∧
      schema.enumerations = g.schema.enumerations ∧
      (∀ id, schema.record id = if id = wrapper then { fields := [itemField elemType enumeration] }
        else g.schema.record id) ∧
      (g.schema.Consistent → schema.Consistent) := by
  unfold wrapItems at h
  rw [RecordSchema.createRecord_none] at h
  have created : g.schema.createRecord none .sequence = .ok _ := RecordSchema.createRecord_none _ _
  have item := RecordSchema.appendField_anonymous
    { g.schema with records := g.schema.records.push {} } ⟨g.schema.records.size⟩
    (itemField elemType enumeration) rfl rfl
  simp only [bind, Except.bind, item, pure, Except.pure, Except.ok.injEq, Prod.mk.injEq] at h
  obtain ⟨rfl, rfl⟩ := h
  refine ⟨rfl, by simp [RecordSchema.modifyRecord], rfl, fun id => ?_, fun consistent => ?_⟩
  · rw [RecordSchema.record_modifyRecord_eq _ _ _ _ (by simp)]
    split
    · rw [RecordSchema.record_push, if_pos rfl]
      rfl
    · rename_i other
      rw [RecordSchema.record_push, if_neg fun same => other (congrArg RecordId.mk same)]
  · exact (consistent.createRecord created).appendField item

theorem wrapItems_ne_error (g : Generation) (elemType : ElemType)
    (enumeration : Option EnumerationId) (fault : SchemaFault) :
    g.wrapItems elemType enumeration ≠ .error fault := by
  unfold wrapItems
  rw [RecordSchema.createRecord_none]
  have item := RecordSchema.appendField_anonymous
    { g.schema with records := g.schema.records.push {} } ⟨g.schema.records.size⟩
    (itemField elemType enumeration) rfl rfl
  simp [bind, Except.bind, item, pure, Except.pure]

/-- The growth of a generation by one field of one record, up to the record of new wrappers. -/
structure GrowsBy (g g' : Generation) (record : RecordId) (fields : List Field) : Prop where
  declarations : g'.declarations = g.declarations
  grows : Extends g g'
  sound : Sound g'
  own : (g'.schema.record record).fields = (g.schema.record record).fields ++ fields
  others {other : RecordId} : other ≠ record → other.index < g.schema.records.size →
    g'.schema.record other = g.schema.record other

theorem GrowsBy.trans {a b c : Generation} {record : RecordId} {first second : List Field}
    (ab : GrowsBy a b record first) (bc : GrowsBy b c record second) :
    GrowsBy a c record (first ++ second) where
  declarations := bc.declarations.trans ab.declarations
  grows := ab.grows.trans bc.grows
  sound := bc.sound
  own := by rw [bc.own, ab.own, List.append_assoc]
  others ne inRange :=
    (bc.others ne (Nat.lt_of_lt_of_le inRange ab.grows.records)).trans (ab.others ne inRange)

/-- A schema that differs in one record, which some type has, and in that by fields only. -/
theorem extends_modifyRecord (g : Generation) {owner : TypeId} {record : RecordId}
    (marked : (g.declarations.type owner).record = some record)
    (inRange : record.index < g.schema.records.size) (field : Field) :
    Extends g { g with schema := g.schema.modifyRecord record fun r =>
      { r with fields := r.fields ++ [field] } } where
  shape := .refl _
  fields _ := rfl
  record := id
  newRecord := .inl
  enumeration := id
  newEnumeration := .inl
  records := Nat.le_of_eq (RecordSchema.size_modifyRecord ..).symm
  enumerations := Nat.le_refl _
  name _ := RecordSchema.get_record_modifyRecord Record.name _ _ _ fun _ => rfl
  kind _ := RecordSchema.get_record_modifyRecord Record.kind _ _ _ fun _ => rfl
  unmarked _ free := by
    rw [RecordSchema.record_modifyRecord_eq _ _ _ _ inRange, if_neg]
    rintro rfl
    exact free owner marked

theorem appendField_growsBy {g : Generation} (sound : Sound g) {owner : TypeId}
    {record : RecordId} (marked : (g.declarations.type owner).record = some record)
    {recordName name : String} {field : Field} {entry : String × ElementId}
    (own : FieldOf g entry field)
    (ok : (g.appendField record recordName name field).hasFailed = false) :
    GrowsBy g (g.appendField record recordName name field) record [field] := by
  unfold appendField at *
  split at ok
  case h_2 =>
    rw [hasFailed_report_of_isFailure g rfl] at ok
    cases ok
  case h_1 schema appended =>
    have consistent := sound.store.appendField appended
    obtain ⟨-, rfl⟩ := RecordSchema.appendField_eq_ok appended
    have inRange := sound.record_lt marked
    have grows := extends_modifyRecord g marked inRange field
    have records := RecordSchema.record_modifyRecord_eq g.schema record
      (f := fun r => { r with fields := r.fields ++ [field] }) (h := inRange)
    refine ⟨rfl, grows, ?_, ?_, ?_⟩
    · refine ⟨consistent, fun m => ?_, sound.complex, sound.injective, fun m => ?_, fun m => ?_,
        sound.enumeration_lt, fun id member inside => ?_⟩
      · exact Nat.lt_of_lt_of_le (sound.record_lt m) grows.records
      · exact (grows.name (sound.record_lt m)).trans (sound.name m)
      · exact (grows.kind (sound.record_lt m)).trans (sound.kind m)
      · have cases : (∃ entry, FieldOf g entry member) ∨ IsItem g member := by
          rw [records] at inside
          split at inside
          · rcases List.mem_append.1 inside with old | new
            · exact sound.fields record member old
            · rw [List.mem_singleton.1 new]
              exact .inl ⟨entry, own⟩
          · exact sound.fields id member inside
        exact cases.imp (fun ⟨e, h⟩ => ⟨e, grows.fieldOf h⟩) grows.isItem
    · rw [records, if_pos rfl]
    · intro other ne _
      rw [records, if_neg ne]

/-- A new wrapper changes no record that was there. -/
theorem extends_wrapItems {g : Generation} {elemType : ElemType}
    {enumeration : Option EnumerationId} {schema : RecordSchema} {wrapper : RecordId}
    (h : g.wrapItems elemType enumeration = .ok (schema, wrapper)) :
    Extends g { g with schema } ∧
      ∀ {id : RecordId}, id.index < g.schema.records.size →
        schema.record id = g.schema.record id := by
  obtain ⟨rfl, size, enumerations, records, -⟩ := wrapItems_eq_ok h
  have old {id : RecordId} (h : id.index < g.schema.records.size) :
      schema.record id = g.schema.record id := by
    rw [records, if_neg]
    rintro rfl
    exact Nat.lt_irrefl _ h
  exact ⟨
    { shape := .refl _
      fields := fun _ => rfl
      record := id
      newRecord := .inl
      enumeration := id
      newEnumeration := .inl
      records := by simp [size]
      enumerations := by simp [enumerations]
      name := fun h => by rw [old h]
      kind := fun h => by rw [old h]
      unmarked := fun h _ => old h }, old⟩

/-- A new wrapper is sound. -/
theorem wrapItems_growsBy {g : Generation} (sound : Sound g) {record : RecordId}
    (inRange : record.index < g.schema.records.size) {elemType : ElemType}
    {enumeration : Option EnumerationId} (isArray : elemType.isArray = true)
    (enumeration_lt : ∀ id, enumeration = some id → id.index < g.schema.enumerations.size)
    {schema : RecordSchema} {wrapper : RecordId}
    (h : g.wrapItems elemType enumeration = .ok (schema, wrapper)) :
    GrowsBy g { g with schema } record [] ∧
      IsWrapper { g with schema } wrapper (itemField elemType enumeration) := by
  obtain ⟨grows, old⟩ := extends_wrapItems h
  obtain ⟨rfl, size, -, records, consistent⟩ := wrapItems_eq_ok h
  refine ⟨⟨rfl, grows, ?_, ?_, fun _ h => old h⟩, ?_, ?_, ?_⟩
  · refine ⟨consistent sound.store, fun m => ?_, sound.complex, sound.injective, fun m => ?_,
      fun m => ?_, fun m => ?_, fun id member inside => ?_⟩
    · exact Nat.lt_of_lt_of_le (sound.record_lt m) grows.records
    · exact (grows.name (sound.record_lt m)).trans (sound.name m)
    · exact (grows.kind (sound.record_lt m)).trans (sound.kind m)
    · exact Nat.lt_of_lt_of_le (sound.enumeration_lt m) grows.enumerations
    · have cases : (∃ entry, FieldOf g entry member) ∨ IsItem g member := by
        rw [records] at inside
        split at inside
        · rw [List.mem_singleton.1 inside]
          exact .inr ⟨elemType, enumeration, isArray, enumeration_lt, rfl⟩
        · exact sound.fields id member inside
      exact cases.imp (fun ⟨e, h⟩ => ⟨e, grows.fieldOf h⟩) grows.isItem
  · rw [old inRange, List.append_nil]
  · simp [size]
  · intro type marked
    have := sound.record_lt marked
    exact Nat.lt_irrefl _ this
  · rw [records, if_pos rfl]

/-! ## Fields -/

/-- A field that is emitted without a failure is that of its entry. -/
theorem emitField_growsBy {g : Generation} (sound : Sound g) {owner : TypeId} {record : RecordId}
    (marked : (g.declarations.type owner).record = some record) {recordName : String}
    {entry : String × ElementId} {type : TypeId} {builtin : Builtin}
    (typed : g.declarations.elementType entry.2 = some type)
    (built : g.declarations.builtin type = some builtin) (emitted : Emitted g type)
    (ok : (emitField record recordName g entry).hasFailed = false) :
    ∃ field, FieldOf (emitField record recordName g entry) entry field ∧
      GrowsBy g (emitField record recordName g entry) record [field] := by
  unfold emitField at *
  simp only [typed, built] at ok ⊢
  split at ok
  case isTrue =>
    rw [hasFailed_report_of_isFailure g rfl] at ok
    cases ok
  case isFalse notVoid =>
    rw [if_neg notVoid]
    have read := readDefault_eq
      (unfailed_before (fun failed => hasFailed_emitTypedField_of_readDefault failed _ _) ok)
    have plain : g.typedField entry.1 entry.2 type (g.fieldMode entry.2 type builtin)
        (g.defaultOf entry.2 type) = g.plainField entry type builtin := rfl
    unfold emitTypedField at *
    simp only [read, plain] at ok ⊢
    split at ok
    case isFalse unwrapped =>
      rw [if_neg unwrapped]
      have own : FieldOf g entry (g.plainField entry type builtin) :=
        ⟨type, builtin, typed, built, notVoid, emitted, by dsimp only; rw [if_neg unwrapped]⟩
      have grows := appendField_growsBy sound marked own ok
      exact ⟨_, grows.grows.fieldOf own, grows⟩
    case isTrue wrapped =>
      rw [if_pos wrapped]
      cases items : g.wrapItems (g.plainField entry type builtin).elemType
          (g.declarations.type type).enumeration with
      | error fault => exact absurd items (wrapItems_ne_error _ _ _ _)
      | ok made =>
        obtain ⟨schema, wrapper⟩ := made
        simp only [items] at ok ⊢
        have isArray : (g.plainField entry type builtin).elemType.isArray = true := by
          simp only [wrapsItems, Bool.and_eq_true] at wrapped
          exact wrapped.1.2
        have ⟨growsFirst, wraps⟩ := wrapItems_growsBy sound (sound.record_lt marked) isArray
          (fun _ h => sound.enumeration_lt h) items
        have own : FieldOf { g with schema } entry
            (wrappedField (g.plainField entry type builtin) wrapper) := by
          refine ⟨type, builtin, typed, built, notVoid, growsFirst.grows.emitted emitted, ?_⟩
          rw [growsFirst.grows.plainField emitted]
          dsimp only
          rw [if_pos wrapped]
          exact ⟨wrapper, rfl, wraps⟩
        have grows := appendField_growsBy (g := { g with schema }) growsFirst.sound marked own ok
        exact ⟨_, grows.grows.fieldOf own, growsFirst.trans grows⟩

/-- Fields that are emitted without a failure are those of their entries, in order. -/
theorem foldl_emitField_growsBy {owner : TypeId} {record : RecordId} {recordName : String}
    (entries : List (String × ElementId)) {g : Generation} (sound : Sound g)
    (marked : (g.declarations.type owner).record = some record)
    (ready : ∀ entry ∈ entries, ∃ type builtin,
      g.declarations.elementType entry.2 = some type ∧
        g.declarations.builtin type = some builtin ∧ Emitted g type)
    (ok : (entries.foldl (emitField record recordName) g).hasFailed = false) :
    ∃ fields,
      List.Forall₂ (FieldOf (entries.foldl (emitField record recordName) g)) entries fields ∧
      GrowsBy g (entries.foldl (emitField record recordName) g) record fields := by
  induction entries generalizing g with
  | nil => exact ⟨[], .nil, ⟨rfl, .refl g, sound, (List.append_nil _).symm, fun _ _ => rfl⟩⟩
  | cons entry rest ih =>
    have stepOk := unfailed_before
      (hasFailed_foldl (fun g a h => hasFailed_emitField h record recordName a) rest) ok
    obtain ⟨type, builtin, typed, built, emitted⟩ := ready entry List.mem_cons_self
    obtain ⟨field, own, first⟩ := emitField_growsBy sound marked typed built emitted stepOk
    have readyRest : ∀ entry' ∈ rest, ∃ type builtin,
        (emitField record recordName g entry).declarations.elementType entry'.2 = some type ∧
          (emitField record recordName g entry).declarations.builtin type = some builtin ∧
          Emitted (emitField record recordName g entry) type := by
      intro entry' member
      obtain ⟨type, builtin, typed, built, emitted⟩ := ready entry' (List.mem_cons_of_mem _ member)
      exact ⟨type, builtin, by rw [first.grows.shape.elementType, typed],
        by rw [first.grows.shape.builtin, built], first.grows.emitted emitted⟩
    obtain ⟨fields, owns, last⟩ :=
      ih first.sound (first.grows.record marked) readyRest ok
    exact ⟨field :: fields, .cons (last.grows.fieldOf own) owns, first.trans last⟩

end XsdRecords.Generation
