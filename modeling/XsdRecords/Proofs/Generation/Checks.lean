import XsdRecords.Proofs.Generation.InStep
import XsdRecords.Proofs.Generation.DeclaredFields

/-! # What is checked of the fields of a record

The entries of a type are checked before their types are emitted, but for those of the type itself,
and the default values of its fields are read when the fields are.  A generation that does not fail
has therefore checked and read everything that its records were made from: `Vetted`. -/

namespace XsdRecords.Generation

open XsdRecords.Declaration (Declarations ElementId TypeId TypeDef)
open XsdRecords.Layout
open XsdRecords.Vocabulary (Builtin)

/-! ## Checks -/

/-- An element whose check is passed has a type, occurs in order, and is no array of arrays as far as
its built-in type tells. -/
structure WellOccurring (d : Declarations) (id : ElementId) (type : TypeId) (builtin : Builtin) :
    Prop where
  typed : d.elementType id = some type
  built : d.builtin type = some builtin
  nonneg : 0 ≤ (d.element id).minOccurs
  ordered : (d.element id).minOccurs ≤ (d.element id).maxOccurs
  single : 1 < (d.element id).maxOccurs → builtin.elemType.isArray = false

theorem PassesCheck.of_eq_ok {d : Declarations} {record name : String} {id : ElementId} {done : Unit}
    (checked : d.check record name id = .ok done) : PassesCheck d id := by
  intro record' name'
  have passes := check_isOk d id record' name' record name
  rw [checked] at passes
  cases again : d.check record' name' id with
  | ok _ => rfl
  | error problem =>
    rw [again] at passes
    cases passes

theorem PassesCheck.wellOccurring {d : Declarations} {id : ElementId} (passes : PassesCheck d id) :
    ∃ type builtin, WellOccurring d id type builtin := by
  have checked := passes "" ""
  obtain ⟨type, builtin, typed, built⟩ := check_eq_ok checked
  simp only [Declarations.check, typed, built] at checked
  repeat' split at checked
  all_goals try cases checked
  rename_i nonneg ordered single
  exact ⟨type, builtin, typed, built, by omega, by omega,
    fun repeated => by simpa [repeated] using single⟩

/-- An entry of a type that passes its check, or is of the type itself and needs none. -/
def Checked (d : Declarations) (owner : TypeId) (entry : String × ElementId) : Prop :=
  d.elementType entry.2 = some owner ∨ PassesCheck d entry.2

theorem Checked.sameShape {d d' : Declarations} {owner : TypeId} {entry : String × ElementId}
    (checked : Checked d owner entry) (same : d.SameShape d') : Checked d' owner entry :=
  checked.imp (fun own => (same.elementType _).trans own)
    fun passes record name => (same.check record name _).trans (passes record name)

/-- The default value of a field of scalars or arrays is read, if it has a text. -/
def ReadsDefault (g : Generation) (entry : String × ElementId) : Prop :=
  ∀ type builtin, g.declarations.elementType entry.2 = some type →
    g.declarations.builtin type = some builtin →
    (g.declarations.element entry.2).defaultValue ≠ "" →
    (g.fieldShape entry.2 type).1.isAggregate = false → (g.defaultOf entry.2 type).isSome = true

/-- A type that becomes a record later has no default value then. -/
theorem ReadsDefault.extends {g g' : Generation} {entry : String × ElementId}
    (reads : ReadsDefault g entry) (grows : Extends g g') : ReadsDefault g' entry := by
  intro type builtin typed built text scalar
  cases marked : (g'.declarations.type type).record with
  | some record =>
    rw [isAggregate_fieldShape_of_marked marked] at scalar
    cases scalar
  | none =>
    have shape : g'.fieldShape entry.2 type = g.fieldShape entry.2 type := by
      rw [fieldShape_of_unmarked marked, fieldShape_of_unmarked (grows.record_eq_none marked),
        grows.shape.elementElemType]
    rw [grows.shape.elementType] at typed
    rw [grows.shape.builtin] at built
    rw [grows.shape.element] at text
    rw [shape] at scalar
    have same : g'.defaultOf entry.2 type = g.defaultOf entry.2 type := by
      simp only [defaultOf, shape, grows.shape.element]
    rw [same]
    exact reads type builtin typed built text scalar

/-- What a generation has made sure of about an entry of a type with a record. -/
structure Vetted (g : Generation) (owner : TypeId) (entry : String × ElementId) : Prop where
  checked : Checked g.declarations owner entry
  readsDefault : ReadsDefault g entry

/-! ## Emissions vet the entries of new records -/

/-- A generation that grows, and that has vetted the entries of its new records unless it fails. -/
structure Vets (g g' : Generation) : Prop where
  grows : Extends g g'
  hasFailed : g.hasFailed = true → g'.hasFailed = true
  vetted {type : TypeId} {record : RecordId} : g'.hasFailed = false →
    (g.declarations.type type).record = none → (g'.declarations.type type).record = some record →
      ∀ entry ∈ (g'.declarations.type type).fields, Vetted g' type entry

theorem Vetted.extends {g g' : Generation} {owner : TypeId} {entry : String × ElementId}
    (vetted : Vetted g owner entry) (grows : Extends g g') : Vetted g' owner entry :=
  ⟨vetted.checked.sameShape grows.shape, vetted.readsDefault.extends grows⟩

/-- Nothing is to be vetted where no type becomes a record. -/
theorem Vets.of_record {g g' : Generation} (grows : Extends g g')
    (hasFailed : g.hasFailed = true → g'.hasFailed = true)
    (same : ∀ type, (g'.declarations.type type).record = (g.declarations.type type).record) :
    Vets g g' where
  grows := grows
  hasFailed := hasFailed
  vetted _ before after := by
    rw [same, before] at after
    cases after

theorem Vets.refl (g : Generation) : Vets g g :=
  .of_record (.refl g) id fun _ => rfl

theorem vets_report (g : Generation) (p : Problem) : Vets g (g.report p) :=
  .of_record (.of_eq rfl rfl) (fun failed => hasFailed_report failed p) fun _ => rfl

/-- A generation that has not failed had not failed before. -/
theorem Vets.going {g g' : Generation} (vets : Vets g g') (ok : g'.hasFailed = false) :
    g.hasFailed = false :=
  unfailed_before vets.hasFailed ok

theorem Vets.trans {a b c : Generation} (ab : Vets a b) (bc : Vets b c) : Vets a c where
  grows := ab.grows.trans bc.grows
  hasFailed failed := bc.hasFailed (ab.hasFailed failed)
  vetted {type record} ok before after entry member := by
    cases between : (b.declarations.type type).record with
    | none => exact bc.vetted ok between after entry member
    | some record =>
      have inside := bc.grows.mem_fields.1 member
      exact (ab.vetted (bc.going ok) before between entry inside).extends bc.grows

/-- An emission of a type vets the entries of the records that it makes. -/
abbrev EmitsVetted (emit : Generation → TypeId → Generation) : Prop :=
  ∀ g type, Vets g (emit g type)

section Emission

variable {emit : Generation → TypeId → Generation} (emits : EmitsVetted emit)

include emits

theorem emitFieldTypes_vets (owner : TypeId) (recordName : String)
    (entries : List (String × ElementId)) (g : Generation) :
    Vets g (emitFieldTypes emit owner recordName g entries).1 :=
  emitFieldTypes_related .refl .trans vets_report emits owner recordName entries g

/-- Where the types of all fields are emitted, all entries are checked. -/
theorem emitFieldTypes_checked (owner : TypeId) (recordName : String)
    (entries : List (String × ElementId)) {g : Generation}
    (finished : (emitFieldTypes emit owner recordName g entries).2 = true) :
    ∀ entry ∈ entries, Checked g.declarations owner entry := by
  induction entries generalizing g with
  | nil => simp
  | cons entry rest ih =>
    have outcome := emitFieldTypes_outcome emit owner recordName entry rest g
    generalize emitFieldTypes emit owner recordName g (entry :: rest) = result at finished outcome
    refine List.forall_mem_cons.2 ?_
    cases outcome with
    | refused wrong => cases finished
    | own typed => exact ⟨.inl typed, ih finished⟩
    | @emitted type typed other passed =>
      refine ⟨.inr (.of_eq_ok passed), fun entry' member => ?_⟩
      -- The other entries are checked in what the emission leaves, where checks come out the same.
      have later := ih finished entry' member
      have shape := (emits g type).grows.shape
      exact later.imp (fun own => (shape.elementType _).symm.trans own)
        fun passes record name => (shape.check record name _).symm.trans (passes record name)

end Emission

/-- A field that is emitted without a failure has had its default value read. -/
theorem readsDefault_of_emitField {g : Generation} {record : RecordId} {recordName : String}
    {entry : String × ElementId} (ok : (emitField record recordName g entry).hasFailed = false) :
    ReadsDefault g entry := by
  intro type builtin typed built text scalar
  unfold emitField at ok
  simp only [typed, built] at ok
  split at ok
  · rw [hasFailed_report_of_isFailure g rfl] at ok
    cases ok
  · have reading := unfailed_before
      (fun failed => hasFailed_emitTypedField_of_readDefault failed _ _) ok
    simp only [readDefault, text, decide_false, scalar, Bool.or_false, Bool.false_eq_true,
      if_false] at reading
    simp only [defaultOf, text, decide_false, scalar, Bool.or_false, Bool.false_eq_true, if_false]
    cases read : DefaultValue.read? (g.fieldShape entry.2 type).1
        (g.declarations.element entry.2).defaultValue with
    | some value => rfl
    | none =>
      simp only [read] at reading
      rw [hasFailed_report_of_isFailure g rfl] at reading
      cases reading

theorem emitField_vets {g : Generation} {owner : TypeId} {record : RecordId}
    (has : HasRecord g owner record) (recordName : String) (entry : String × ElementId) :
    Vets g (emitField record recordName g entry) :=
  .of_record (emitField_grows has recordName entry)
    (fun failed => hasFailed_emitField failed record recordName entry)
    fun type => by rw [declarations_emitField]

/-- Fields that are emitted without a failure have had their default values read. -/
theorem foldl_emitField_vets {owner : TypeId} {record : RecordId} (recordName : String)
    (entries : List (String × ElementId)) {g : Generation} (has : HasRecord g owner record) :
    Vets g (entries.foldl (emitField record recordName) g) ∧
      ((entries.foldl (emitField record recordName) g).hasFailed = false →
        ∀ entry ∈ entries, ReadsDefault (entries.foldl (emitField record recordName) g) entry) := by
  induction entries generalizing g with
  | nil => exact ⟨.refl g, fun _ => by simp⟩
  | cons entry rest ih =>
    have first := emitField_vets has recordName entry
    obtain ⟨later, reads⟩ := ih (first.grows.hasRecord has)
    refine ⟨first.trans later, fun ok => List.forall_mem_cons.2 ⟨?_, reads ok⟩⟩
    exact (readsDefault_of_emitField (later.going ok)).extends (first.trans later).grows

/-- A record that is filled has the entries of its type vetted, and new ones on the way. -/
theorem fillRecord_vets {emit : Generation → TypeId → Generation} (emits : EmitsVetted emit)
    {g : Generation} {type : TypeId} {record : RecordId} (has : HasRecord g type record)
    (name : String) (fields : List (String × ElementId)) :
    Vets g (fillRecord emit type record name fields g) ∧
      ((fillRecord emit type record name fields g).hasFailed = false →
        ∀ entry ∈ fields, Vetted (fillRecord emit type record name fields g) type entry) := by
  have types := emitFieldTypes_vets emits type name fields g
  obtain ⟨fills, reads⟩ := foldl_emitField_vets name fields (types.grows.hasRecord has)
  refine ⟨?_, fun ok entry member => ?_⟩
  · unfold fillRecord
    dsimp only
    split
    · exact types.trans fills
    · exact types
  · obtain ⟨typesOk, filled⟩ := fillRecord_eq ok
    rw [filled] at ok ⊢
    have checked := emitFieldTypes_checked emits type name fields
      (emitFieldTypes_finished type name fields typesOk) entry member
    exact ⟨checked.sameShape (types.trans fills).grows.shape, reads ok entry member⟩

/-- A complex type that becomes a record has its entries vetted. -/
theorem emitRecord_vets {emit : Generation → TypeId → Generation} (emits : EmitsVetted emit)
    {g : Generation} {type : TypeId} (complex : g.declarations.isComplex type = true) :
    Vets g (emitRecord emit g type) := by
  have outcome := emitRecord_outcome emit g type
  generalize emitRecord emit g type = result at outcome ⊢
  cases outcome with
  | marked marked => exact .refl g
  | taken unmarked => exact vets_report g _
  | @created schema record unmarked created =>
    have marks := marksRecord_withRecord complex unmarked created
    obtain ⟨fills, own⟩ := fillRecord_vets emits ⟨marks.marked, marks.inRange⟩
      (g.declarations.type type).outputSymbol.localName (g.declarations.type type).fields
    have grows := marks.grows.trans fills.grows
    refine ⟨grows, fills.hasFailed, fun {other id} ok before after entry member => ?_⟩
    by_cases same : other = type
    · subst same
      exact own ok entry (grows.mem_fields.1 member)
    · refine fills.vetted ok ?_ after entry member
      rw [marks.types, if_neg same]
      exact before

theorem vets_sortFields (g : Generation) (type : TypeId) :
    Vets g { g with declarations := g.declarations.sortFields type } :=
  .of_record (extends_sortFields g type) id fun _ => (marks_sortFields _ _ _).1

/-- The emission of an enumeration makes no record. -/
theorem emitEnumeration_vets {g : Generation} {type : TypeId}
    (scalar : g.declarations.isComplex type = false)
    (enumerators : (g.declarations.type type).enumerators ≠ []) :
    Vets g (g.emitEnumeration type) := by
  have steps : Steps g.declarations (fun _ => True) g (g.emitEnumeration type) :=
    emitEnumeration_steps trivial scalar enumerators
  refine .of_record steps.grows (fun failed => hasFailed_emitEnumeration failed type) fun other => ?_
  cases unmarked : (g.declarations.type type).enumeration with
  | some enumeration => simp [emitEnumeration, unmarked]
  | none =>
    cases created : g.schema.createEnumeration
        (enumerationName? (g.declarations.type type).outputSymbol.localName) with
    | error fault =>
      rw [emitEnumeration_taken unmarked created]
      rfl
    | ok made =>
      rw [(emitEnumeration_new unmarked created).1]
      exact Declarations.get_type_modifyType TypeDef.record _ _ _ fun _ => rfl

theorem emitTypeWithin_vets (limit : Nat) : EmitsVetted (emitTypeWithin limit) := by
  induction limit with
  | zero => exact fun g _ => .refl g
  | succ limit ih =>
    intro g type
    have outcome := emitTypeWithin_outcome limit g type
    generalize emitTypeWithin (limit + 1) g type = result at outcome ⊢
    cases outcome with
    | undefined unknown => exact vets_report g _
    | record complex =>
      have sorted := vets_sortFields g type
      refine sorted.trans (emitRecord_vets ih ?_)
      rw [sorted.grows.shape.isComplex, complex]
    | plain scalar none => exact .refl g
    | enumeration scalar some => exact emitEnumeration_vets scalar some

theorem emitRoot_vets (g : Generation) (id : ElementId) : Vets g (g.emitRoot id) := by
  obtain ⟨type, -, -, emitted⟩ | ⟨-, unchanged⟩ := emitRoot_outcome g id
  · rw [emitted]
    exact emitTypeWithin_vets _ g type
  · rw [unchanged]
    exact .refl g

theorem foldl_emitRoot_vets (ids : List ElementId) (g : Generation) :
    Vets g (ids.foldl emitRoot g) :=
  List.foldlRecOn ids _ (.refl g) fun m before id _ => before.trans (emitRoot_vets m id)

/-- A generation that does not fail has vetted the entries of every type with a record. -/
theorem run_vetted {g : Generation} (pristine : g.declarations.Pristine)
    (inRange : g.declarations.InRange) (rooted : g.declarations.Rooted)
    (ok : (run g).hasFailed = false) {type : TypeId} {record : RecordId}
    (marked : ((run g).declarations.type type).record = some record) :
    ∀ entry ∈ ((run g).declarations.type type).fields, Vetted (run g) type entry := by
  obtain ⟨start, named, -, whole⟩ := run_named pristine inRange rooted ok
  rw [whole] at ok marked ⊢
  exact (foldl_emitRoot_vets _ start).vetted ok (named.renamed.unmarked pristine type).1 marked

end XsdRecords.Generation
