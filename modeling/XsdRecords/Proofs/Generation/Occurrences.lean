import XsdRecords.Proofs.Declaration.Given
import XsdRecords.Proofs.Generation.Checks

/-! # Fields that may be absent or repeated

A field may be null if its element may be absent, is not repeated and has no default value; what a
default value that is empty or stands for records leaves undone is seen here.  A repeated element is
a field of arrays, and the arrays of a list type are not nested in another.  A generation that does
not fail has checked the occurrences of every top-level element, and of every field but those that
have the type that they are in. -/

namespace XsdRecords.Layout.ElemType

theorem isArray_widenToArray (t : ElemType) :
    t.widenToArray.isArray = (t.isArray || t.isScalar) := by
  cases t <;> rfl

theorem widenToArray_of_isArray {t : ElemType} (h : t.isArray = true) : t.widenToArray = t := by
  cases t <;> first | rfl | cases h

end XsdRecords.Layout.ElemType

namespace XsdRecords.Generation

open XsdRecords.Declaration (Declarations ElementId TypeId)
open XsdRecords.Layout
open XsdRecords.Vocabulary (Builtin)

variable {g : Generation} {entry : String × ElementId} {field : Field}

/-! ## Fields that may be null -/

theorem nullable_plainField (g : Generation) (entry : String × ElementId) (type : TypeId)
    (builtin : Builtin) :
    (g.plainField entry type builtin).nullable =
      (decide ((g.declarations.element entry.2).minOccurs = 0) &&
        decide ((g.declarations.element entry.2).maxOccurs ≤ 1) &&
        (g.defaultOf entry.2 type).isNone) :=
  rfl

theorem elemType_plainField (g : Generation) (entry : String × ElementId) (type : TypeId)
    (builtin : Builtin) :
    (g.plainField entry type builtin).elemType = (g.fieldShape entry.2 type).1 :=
  rfl

/-- There is a default value exactly if there is a text, and the field holds no records. -/
theorem ReadsDefault.isNone_iff (reads : ReadsDefault g entry) {type : TypeId} {builtin : Builtin}
    (typed : g.declarations.elementType entry.2 = some type)
    (built : g.declarations.builtin type = some builtin) :
    (g.defaultOf entry.2 type).isNone = true ↔
      (g.declarations.element entry.2).defaultValue = "" ∨
        (g.fieldShape entry.2 type).1.isAggregate = true := by
  constructor
  · intro absent
    by_contra given
    rw [not_or, Bool.not_eq_true] at given
    have present := reads type builtin typed built given.1 given.2
    rw [Option.isNone_iff_eq_none.1 absent] at present
    cases present
  · intro missing
    rw [defaultOf, if_pos (by simpa using missing)]
    rfl

/-- A field may be null exactly if its element may be absent and is not repeated, and has no default
value or one that is not attached: an empty text, or a text for records. -/
theorem FieldOf.nullable_iff (own : FieldOf g entry field) (reads : ReadsDefault g entry) :
    field.nullable = true ↔
      (g.declarations.element entry.2).minOccurs = 0 ∧
        (g.declarations.element entry.2).maxOccurs ≤ 1 ∧
        ((g.declarations.element entry.2).defaultValue = "" ∨ field.elemType.isAggregate = true) := by
  obtain ⟨type, builtin, typed, built, -, -, shape⟩ := own
  have absent := reads.isNone_iff typed built
  have plain := nullable_plainField g entry type builtin
  dsimp only at shape
  split at shape
  · rename_i wraps
    obtain ⟨wrapper, rfl, -⟩ := shape
    have none : (g.declarations.element entry.2).defaultValue = "" := by
      simp only [wrapsItems, Bool.and_eq_true, decide_eq_true_eq] at wraps
      exact wraps.2
    change (g.plainField entry type builtin).nullable = true ↔ _
    rw [plain]
    simp [absent, none]
  · subst shape
    rw [plain, elemType_plainField]
    simp [absent, and_assoc]

/-! ## Fields that are repeated -/

/-- The element type of an array, once its items are wrapped if they may be nil. -/
def HoldsArray (g : Generation) (field : Field) (elemType : ElemType) : Prop :=
  field.elemType = elemType ∨
    ∃ wrapper enumeration, field.elemType = .table ∧
      field.constraint = some (.record wrapper) ∧
      IsWrapper g wrapper (itemField elemType enumeration)

/-- A simple type has arrays for values exactly if its built-in type has, or has scalars and the type
is a list. -/
theorem isArray_elemType_iff {d : Declarations} {type : TypeId} {builtin : Builtin}
    (built : d.builtin type = some builtin) :
    (d.elemType type).isArray = true ↔ builtin.elemType.isArray = true ∨
      d.isList type = true ∧ builtin.elemType.isScalar = true := by
  simp only [Declarations.elemType, built]
  split
  · rename_i list
    simp [ElemType.isArray_widenToArray, list]
  · rename_i list
    simp [list]

/-- The element type of a repeated element of an array type is that of a single one. -/
theorem elementElemType_of_isArray {d : Declarations} {id : ElementId} {type : TypeId}
    (typed : d.elementType id = some type) (isArray : (d.elemType type).isArray = true) :
    d.elementElemType id = d.elemType type := by
  simp only [Declarations.elementElemType, typed]
  split
  · exact ElemType.widenToArray_of_isArray isArray
  · rfl

theorem builtin_of_isComplex {d : Declarations} {type : TypeId} (complex : d.isComplex type = true) :
    d.builtin type = some Builtin.complexType := by
  obtain ⟨builtin, built, isComplex⟩ := Declarations.exists_builtin_of_isComplex complex
  obtain rfl : builtin = Builtin.complexType := by simpa [Builtin.isComplex] using isComplex
  exact built

/-- A complex type has records for values. -/
theorem isArray_elemType_of_isComplex {d : Declarations} {type : TypeId}
    (complex : d.isComplex type = true) : (d.elemType type).isArray = false := by
  rw [← Bool.not_eq_true, isArray_elemType_iff (builtin_of_isComplex complex)]
  rintro (isArray | ⟨-, isScalar⟩)
  · cases isArray
  · cases isScalar

theorem FieldOf.holdsArray (own : FieldOf g entry field) {type : TypeId}
    (typed : g.declarations.elementType entry.2 = some type)
    (isArray : (g.declarations.elemType type).isArray = true) :
    HoldsArray g field (g.declarations.elemType type) := by
  obtain ⟨type', builtin, typed', built, -, emitted, shape⟩ := own
  obtain rfl := Option.some.inj (typed.symm.trans typed')
  have scalar : g.declarations.isComplex type = false := by
    rw [← Bool.not_eq_true]
    intro complex
    rw [isArray_elemType_of_isComplex complex] at isArray
    cases isArray
  have elemType : (g.plainField entry type builtin).elemType = g.declarations.elemType type := by
    rw [elemType_plainField, fieldShape_of_unmarked (emitted.scalar scalar),
      elementElemType_of_isArray typed isArray]
  dsimp only at shape
  split at shape
  · obtain ⟨wrapper, rfl, wraps⟩ := shape
    rw [elemType] at wraps
    exact .inr ⟨wrapper, _, rfl, rfl, wraps⟩
  · subst shape
    exact .inl elemType

/-- What becomes of a repeated element of a type: its values are arrays already only if the type is a
list of scalars, and then it has the field of a single list. -/
structure Repeated (g : Generation) (field : Field) (type : TypeId) : Prop where
  isArray_iff : (g.declarations.elemType type).isArray = true ↔
    g.declarations.isList type = true ∧
      ∃ builtin, g.declarations.builtin type = some builtin ∧ builtin.elemType.isScalar = true
  holdsArray : (g.declarations.elemType type).isArray = true →
    HoldsArray g field (g.declarations.elemType type)

theorem FieldOf.repeated (own : FieldOf g entry field) {owner type : TypeId}
    (checked : Checked g.declarations owner entry) (complex : g.declarations.isComplex owner = true)
    (typed : g.declarations.elementType entry.2 = some type)
    (many : 1 < (g.declarations.element entry.2).maxOccurs) : Repeated g field type := by
  refine ⟨?_, own.holdsArray typed⟩
  obtain ⟨builtin, built, single⟩ : ∃ builtin, g.declarations.builtin type = some builtin ∧
      builtin.elemType.isArray = false := by
    rcases checked with itself | passes
    · obtain rfl := Option.some.inj (itself.symm.trans typed)
      exact ⟨_, builtin_of_isComplex complex, rfl⟩
    · obtain ⟨type', builtin, occurs⟩ := passes.wellOccurring
      obtain rfl := Option.some.inj (typed.symm.trans occurs.typed)
      exact ⟨builtin, occurs.built, occurs.single many⟩
  rw [isArray_elemType_iff built, single]
  simp [built]

/-! ## The fields of a generation -/

/-- A record that a generation makes without a failure has the fields of its entries, and all of these
are vetted. -/
theorem run_vettedFields {g : Generation} (pristine : g.declarations.Pristine)
    (inRange : g.declarations.InRange) (rooted : g.declarations.Rooted)
    (ok : (run g).hasFailed = false) {type : TypeId} {record : RecordId}
    (marked : ((run g).declarations.type type).record = some record) :
    (run g).declarations.isComplex type = true ∧
      List.Forall₂ (fun entry field => Vetted (run g) type entry ∧ FieldOf (run g) entry field)
        ((run g).declarations.attributesFirst ((run g).declarations.type type).fields)
        ((run g).schema.record record).fields := by
  have vetted := run_vetted pristine inRange rooted ok marked
  obtain ⟨start, -, grown, filled⟩ := run_growsBelow pristine inRange rooted ok
  exact ⟨grown.sound.complex marked, (List.forall₂_and_left _ _).2
    ⟨fun entry member => vetted entry (mem_attributesFirst.1 member), filled type record marked⟩⟩

/-- A generation changes nothing of an element but its type. -/
theorem element_run {g : Generation} (pristine : g.declarations.Pristine)
    (inRange : g.declarations.InRange) (rooted : g.declarations.Rooted)
    (ok : (run g).hasFailed = false) (id : ElementId) :
    ∃ directType, (run g).declarations.element id =
      { g.declarations.element id with directType } := by
  obtain ⟨start, named, -, whole⟩ := run_named pristine inRange rooted ok
  rw [whole, (foldl_emitRoot_vets _ start).grows.shape.element]
  exact named.renamed.element id

end XsdRecords.Generation

/-! ## Occurrences that are in order -/

namespace XsdRecords.Generation

open XsdRecords.Declaration (Declarations Element ElementId Symbol SymbolTable TypeId)
open XsdRecords.Layout

theorem PassesCheck.inOrder {d : Declarations} {id : ElementId} (passes : PassesCheck d id) :
    (d.element id).occurs.InOrder := by
  obtain ⟨_, _, occurs⟩ := passes.wellOccurring
  exact ⟨occurs.nonneg, occurs.ordered⟩

/-! ## Top-level elements -/

/-- Naming a type changes the type of an element at most. -/
theorem occurs_nameRoot (g : Generation) (symbol : Symbol) (root id : ElementId) :
    ((g.nameRoot symbol root).declarations.element id).occurs =
      (g.declarations.element id).occurs := by
  unfold nameRoot
  split
  · rfl
  · split
    · rfl
    · split
      · exact Declarations.get_element_modifyElement Element.occurs _ root id fun _ => rfl
      · rfl

/-- The occurrences of top-level elements are in order if all of these are named. -/
theorem nameRoots_inOrder (roots : List (Symbol × ElementId)) {g : Generation}
    (finished : (nameRoots g roots).2 = true) :
    ∀ root ∈ roots, (g.declarations.element root.2).occurs.InOrder := by
  induction roots generalizing g with
  | nil => simp
  | cons root rest ih =>
    unfold nameRoots at finished
    cases checked : g.declarations.check "root" root.1.localName root.2 with
    | error problem =>
      simp only [checked] at finished
      cases finished
    | ok done =>
      simp only [checked] at finished
      refine List.forall_mem_cons.2 ⟨(PassesCheck.of_eq_ok checked).inOrder, fun other member => ?_⟩
      have later := ih finished other member
      rwa [occurs_nameRoot] at later

/-! ## Generations -/

/-- The occurrences of a top-level element are in order in a generation that does not fail. -/
theorem inOrder_root {g : Generation} (ok : (run g).hasFailed = false) {symbol : Symbol}
    {id : ElementId} (found : g.declarations.roots.find? symbol = some id) :
    (g.declarations.element id).occurs.InOrder :=
  nameRoots_inOrder _ (nameRoots_finished_of_run ok) (symbol, id) (SymbolTable.mem_toSorted.2 found)

/-- The occurrences of a field are in order in a generation that does not fail, unless the field has
the type that it is in. -/
theorem inOrder_field {g : Generation} (pristine : g.declarations.Pristine)
    (inRange : g.declarations.InRange) (rooted : g.declarations.Rooted)
    (ok : (run g).hasFailed = false) {type : TypeId} {record : RecordId}
    (marked : ((run g).declarations.type type).record = some record) {entry : String × ElementId}
    (member : entry ∈ ((run g).declarations.type type).fields)
    (other : (run g).declarations.elementType entry.2 ≠ some type) :
    (g.declarations.element entry.2).occurs.InOrder := by
  have vetted := run_vetted pristine inRange rooted ok marked entry member
  obtain ⟨directType, same⟩ := element_run pristine inRange rooted ok entry.2
  have checked := (vetted.checked.resolve_left other).inOrder
  rwa [same] at checked

end XsdRecords.Generation
