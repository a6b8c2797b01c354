import XsdRecords.Proofs.Generation.Handles
import XsdRecords.Proofs.Generation.Renewal

/-! # What a second generation repeats

A generation leaves its marks in the declarations, and a second one starts from these.  It emits the
copies that top-level elements get of the types that were named after them, and no other type with a
mark.  `Repeats` tells when this is enough to take the steps of the first one, and `InStep` relates
the states of the two: what is looked up in the one is found alike in the other. -/

namespace XsdRecords

open XsdRecords.Declaration (Declarations Element ElementId TypeId TypeDef Symbol SymbolTable)
open XsdRecords.Declaration.Declarations
open XsdRecords.Layout
open XsdRecords.Vocabulary (Builtin)

namespace Generation

/-! ## What a second generation repeats -/

/-- Whether an element refers to a top-level element. -/
def RefersToRoot (d : Declarations) (id : ElementId) : Prop :=
  ∃ symbol root, d.roots.find? symbol = some root ∧ (d.element id).reference = some root

instance (d : Declarations) (id : ElementId) : Decidable (RefersToRoot d id) :=
  decidable_of_iff (∃ root ∈ d.roots.toSorted, (d.element id).reference = some root.2)
    ⟨fun ⟨root, member, refers⟩ => ⟨root.1, root.2, SymbolTable.mem_toSorted.1 member, refers⟩,
      fun ⟨symbol, root, found, refers⟩ =>
        ⟨(symbol, root), SymbolTable.mem_toSorted.2 found, refers⟩⟩

/-- Whether an element passes its check, whatever it is the field of. -/
def PassesCheck (d : Declarations) (id : ElementId) : Prop :=
  ∀ record name, d.check record name id = .ok ()

/-- The names are for the problem only that a check may find. -/
theorem check_isOk (d : Declarations) (id : ElementId) (record name record' name' : String) :
    (d.check record name id).isOk = (d.check record' name' id).isOk := by
  unfold Declarations.check
  dsimp only
  split
  · rfl
  · cases d.elementType id with
    | none => rfl
    | some type =>
      cases built : d.builtin type with
      | none => simp only [built]; rfl
      | some builtin =>
        simp only [built]
        repeat' split
        all_goals rfl

instance (d : Declarations) (id : ElementId) : Decidable (PassesCheck d id) :=
  decidable_of_iff ((d.check "" "" id).isOk = true) (by
    constructor
    · intro passes record name
      rw [check_isOk d id "" "" record name] at passes
      cases checked : d.check record name id with
      | ok done => rfl
      | error problem =>
        rw [checked] at passes
        cases passes
    · intro passes
      rw [passes]
      rfl)

/-- A field of a record that a second generation emits like the first one.  A simple type must not have
become an enumeration, and a complex type must be copied again, or have become a record before the
owner of the field, or be the owner. -/
structure Settled (d : Declarations) (owner : TypeId) (record : RecordId)
    (entry : String × ElementId) (type : TypeId) : Prop where
  simple : d.isComplex type = false → (d.type type).enumerators = []
  complex : d.isComplex type = true → RefersToRoot d entry.2 ∨
    (∃ earlier, (d.type type).record = some earlier ∧ earlier.index < record.index) ∨
      type = owner ∧ PassesCheck d entry.2

instance (d : Declarations) (owner : TypeId) (record : RecordId) (entry : String × ElementId)
    (type : TypeId) : Decidable (Settled d owner record entry type) :=
  decidable_of_iff ((d.isComplex type = false → (d.type type).enumerators = []) ∧
      (d.isComplex type = true → RefersToRoot d entry.2 ∨
        (∃ earlier ∈ (d.type type).record, earlier.index < record.index) ∨
          type = owner ∧ PassesCheck d entry.2))
    ⟨fun h => ⟨h.1, h.2⟩, fun h => ⟨h.simple, h.complex⟩⟩

/-- Declarations, with the marks of a generation, for which a second one repeats the first. -/
structure Repeats (d : Declarations) : Prop where
  /-- No top-level element of a complex type is one that the type is named like. -/
  root {symbol : Symbol} {id : ElementId} {type : TypeId} : d.roots.find? symbol = some id →
    d.elementType id = some type → d.isComplex type = true → (d.type type).symbol ≠ symbol
  field {owner type : TypeId} {record : RecordId} {entry : String × ElementId} :
    (d.type owner).record = some record → entry ∈ (d.type owner).fields →
      d.elementType entry.2 = some type → Settled d owner record entry type

instance (d : Declarations) : Decidable (Repeats d) :=
  decidable_of_iff
    ((∀ root ∈ d.roots.toSorted, ∀ type ∈ d.elementType root.2,
        d.isComplex type = true → (d.type type).symbol ≠ root.1) ∧
      ∀ place < d.types.size, ∀ record ∈ (d.type ⟨place⟩).record,
        ∀ entry ∈ (d.type ⟨place⟩).fields, ∀ type ∈ d.elementType entry.2,
          Settled d ⟨place⟩ record entry type) (by
    constructor
    · rintro ⟨root, field⟩
      refine ⟨fun found typed => root _ (SymbolTable.mem_toSorted.2 found) _ typed,
        fun {owner _ _ _} marked member typed => field owner.index ?_ _ marked _ member _ typed⟩
      refine lt_size_of_ne_blank fun blank => ?_
      rw [blank] at marked
      cases marked
    · intro repeats
      exact ⟨fun root member type typed => repeats.root (SymbolTable.mem_toSorted.1 member) typed,
        fun place _ record marked entry member type typed => repeats.field marked member typed⟩)

/-- What is known of the end of a first generation, and of the declarations that a second one has named
again. -/
structure Twice (done : Generation) (again : Declarations) : Prop where
  placed : done.declarations.Placed
  names : NamesTypes done.declarations
  renewed : Renewed done.declarations done.declarations.roots.toSorted again
  root {symbol : Symbol} {id : ElementId} {type : TypeId} :
    done.declarations.roots.find? symbol = some id → done.declarations.elementType id = some type →
      done.declarations.isComplex type = true → (done.declarations.type type).symbol ≠ symbol
  field {owner type : TypeId} {record : RecordId} {entry : String × ElementId} :
    (done.declarations.type owner).record = some record →
      entry ∈ (done.declarations.type owner).fields →
        done.declarations.elementType entry.2 = some type →
          Settled done.declarations owner record entry type
  record {type : TypeId} {record : RecordId} :
    (done.declarations.type type).record = some record → done.declarations.isComplex type = true
  enumeration {type : TypeId} {enumeration : EnumerationId} :
    (done.declarations.type type).enumeration = some enumeration →
      done.declarations.isComplex type = false ∧ (done.declarations.type type).enumerators ≠ []

/-- A state of the first generation and one of the second: the schema is the same, and the copy of a
type has the mark that the type had then. -/
structure InStep (done : Generation) (again : Declarations) (g h : Generation) : Prop where
  schema : h.schema = g.schema
  later : Extends g done
  shape : again.SameShape h.declarations
  fields (type : TypeId) : again.attributesFirst (h.declarations.type type).fields =
    again.attributesFirst (again.type type).fields
  copy {type copy : TypeId} {symbol : Symbol} {id : ElementId} :
    IsCopy done.declarations again type copy symbol id →
      (h.declarations.type copy).record = (g.declarations.type type).record
  kept {type : TypeId} : type.index < done.declarations.types.size →
    (h.declarations.type type).record = (done.declarations.type type).record
  enumeration (type : TypeId) :
    (h.declarations.type type).enumeration = (again.type type).enumeration
  inRange : MarksInRange g

theorem InStep.congr {done : Generation} {again : Declarations} {g h g' h' : Generation}
    (step : InStep done again g h) (schema : h'.schema = g'.schema)
    (later : Extends g' done) (declarations : g'.declarations = g.declarations)
    (declarations' : h'.declarations = h.declarations)
    (size : g.schema.records.size ≤ g'.schema.records.size) : InStep done again g' h' where
  schema := schema
  later := later
  shape := declarations' ▸ step.shape
  fields := declarations' ▸ step.fields
  copy := declarations ▸ declarations' ▸ step.copy
  kept := declarations' ▸ step.kept
  enumeration := declarations' ▸ step.enumeration
  inRange := step.inRange.of_eq (fun _ => by rw [declarations]) size

/-- A type that became a record before another is marked when the other is. -/
theorem InStep.marked_of_lt {done : Generation} {again : Declarations} {g h : Generation}
    (step : InStep done again g h) {owner type : TypeId} {record earlier : RecordId}
    (own : (g.declarations.type owner).record = some record)
    (marked : (done.declarations.type type).record = some earlier)
    (before : earlier.index < record.index) :
    (g.declarations.type type).record = some earlier := by
  rcases step.later.newRecord marked with old | ⟨-, new⟩
  · exact old
  · have inside := step.inRange owner record own
    omega

/-! ## What both see -/

section Views

variable {done : Generation} {again : Declarations} {g h : Generation}
  (twice : Twice done again) (step : InStep done again g h)

include twice

/-- An element got one copy, and that of one type. -/
theorem Twice.copy_unique {type copy type' copy' : TypeId} {symbol symbol' : Symbol}
    {id id' : ElementId} (isCopy : IsCopy done.declarations again type copy symbol id)
    (isCopy' : IsCopy done.declarations again type' copy' symbol' id') :
    type = type' ↔ copy = copy' := by
  have own {type copy : TypeId} {symbol : Symbol} {id : ElementId}
      (isCopy : IsCopy done.declarations again type copy symbol id) :
      (done.declarations.type type).overrideSymbol = some symbol ∧
        (again.type copy).overrideSymbol = some symbol := by
    obtain ⟨minted, copied⟩ := isCopy.copied
    exact ⟨twice.names _ _ _ isCopy.root isCopy.typed isCopy.complex isCopy.other, by rw [copied]⟩
  have same (symbols : symbol = symbol') : type = type' ∧ copy = copy' := by
    subst symbols
    obtain rfl := Option.some.inj (isCopy.root.symm.trans isCopy'.root)
    refine ⟨Option.some.inj (isCopy.typed.symm.trans isCopy'.typed), ?_⟩
    have element := isCopy.element.symm.trans isCopy'.element
    exact Option.some.inj (congrArg Element.directType element)
  constructor
  · rintro rfl
    exact (same (Option.some.inj ((own isCopy).1.symm.trans (own isCopy').1))).2
  · rintro rfl
    exact (same (Option.some.inj ((own isCopy).2.symm.trans (own isCopy').2))).1

theorem Twice.isAttributeField : again.isAttributeField = done.declarations.isAttributeField := by
  funext field
  unfold Declarations.isAttributeField
  rcases twice.renewed.element field.2 with same | ⟨type, copy, symbol, isCopy⟩
  · rw [same]
  · rw [isCopy.element]
    rfl

/-- A reference to a top-level element of a complex type leads to the copy. -/
theorem Twice.copied_of_refersToRoot {id : ElementId} {type : TypeId}
    (refers : RefersToRoot done.declarations id)
    (typed : done.declarations.elementType id = some type)
    (complex : done.declarations.isComplex type = true) :
    ∃ copy symbol root, IsCopy done.declarations again type copy symbol root ∧
      again.elementType id = some copy := by
  obtain ⟨symbol, root, found, reference⟩ := refers
  have final := twice.placed.reference found
  have inside := twice.placed.root found
  rw [elementType_of_reference reference final inside] at typed
  have own : done.declarations.elementType root = some type := by
    rw [twice.placed.elementType found, typed]
  obtain ⟨copy, isCopy⟩ := twice.renewed.copied (SymbolTable.mem_toSorted.2 found) own complex
    (twice.root found own complex)
  refine ⟨copy, symbol, root, isCopy, ?_⟩
  rw [elementType_of_reference (by rw [twice.renewed.reference, reference])
    (by rw [twice.renewed.reference, final]) (by rwa [twice.renewed.elementCount]), isCopy.element]

include step

theorem InStep.elementType (id : ElementId) :
    (g.declarations.elementType id = none ∧ h.declarations.elementType id = none) ∨
      ∃ type other, g.declarations.elementType id = some type ∧
        h.declarations.elementType id = some other ∧
          Corresponds done.declarations again type other := by
  have types := twice.renewed.elementType twice.placed id
  rw [step.later.shape.elementType, ← step.shape.elementType] at types
  generalize g.declarations.elementType id = a, h.declarations.elementType id = b at types
  cases types with
  | none => exact .inl ⟨rfl, rfl⟩
  | some corresponds => exact .inr ⟨_, _, rfl, rfl, corresponds⟩

theorem InStep.check (record name : String) (id : ElementId) :
    h.declarations.check record name id = g.declarations.check record name id := by
  rw [step.shape.check, twice.renewed.check twice.placed, step.later.shape.check]

theorem InStep.builtin {type other : TypeId}
    (corresponds : Corresponds done.declarations again type other) :
    h.declarations.builtin other = g.declarations.builtin type := by
  rw [step.shape.builtin, corresponds.builtin twice.renewed twice.placed,
    step.later.shape.builtin]

theorem InStep.isComplex {type other : TypeId}
    (corresponds : Corresponds done.declarations again type other) :
    h.declarations.isComplex other = g.declarations.isComplex type := by
  rw [Declarations.isComplex, Declarations.isComplex, step.builtin twice corresponds]

theorem InStep.isList {type other : TypeId}
    (corresponds : Corresponds done.declarations again type other) :
    h.declarations.isList other = g.declarations.isList type := by
  rw [step.shape.isList, ← step.later.shape.isList]
  exact twice.renewed.keepsStems.isList twice.placed.bases corresponds.bound
    (corresponds.stem twice.renewed)

theorem InStep.isChoice {type other : TypeId}
    (corresponds : Corresponds done.declarations again type other) :
    h.declarations.isChoice other = g.declarations.isChoice type := by
  rw [step.shape.isChoice, ← step.later.shape.isChoice]
  exact twice.renewed.keepsStems.isChoice twice.placed.bases corresponds.bound
    (corresponds.stem twice.renewed)

theorem InStep.elementElemType (id : ElementId) :
    h.declarations.elementElemType id = g.declarations.elementElemType id := by
  rw [step.shape.elementElemType, twice.renewed.elementElemType twice.placed,
    step.later.shape.elementElemType]

/-- The elements differ in their own types only. -/
theorem InStep.element (id : ElementId) : ∃ directType,
    h.declarations.element id = { g.declarations.element id with directType } := by
  rw [step.shape.element, ← step.later.shape.element]
  rcases twice.renewed.element id with same | ⟨type, copy, symbol, isCopy⟩
  · exact ⟨_, same⟩
  · exact ⟨_, isCopy.element⟩

theorem InStep.outputSymbol {type copy : TypeId} {symbol : Symbol} {id : ElementId}
    (isCopy : IsCopy done.declarations again type copy symbol id) :
    (h.declarations.type copy).outputSymbol = (g.declarations.type type).outputSymbol := by
  have named := twice.names _ _ _ isCopy.root isCopy.typed isCopy.complex isCopy.other
  obtain ⟨minted, copied⟩ := isCopy.copied
  rw [step.shape.outputSymbol, ← step.later.shape.outputSymbol, copied]
  simp only [TypeDef.outputSymbol, named, Option.getD_some]

/-- A copy has the fields of its type, in the same order when both are sorted. -/
theorem InStep.attributesFirst {type copy : TypeId} {symbol : Symbol} {id : ElementId}
    (isCopy : IsCopy done.declarations again type copy symbol id) :
    h.declarations.attributesFirst (h.declarations.type copy).fields =
      g.declarations.attributesFirst (g.declarations.type type).fields := by
  have first : again.attributesFirst = done.declarations.attributesFirst := by
    funext fields
    simp only [Declarations.attributesFirst, twice.isAttributeField]
  obtain ⟨minted, copied⟩ := isCopy.copied
  rw [step.shape.attributesFirst, step.fields, copied, ← step.later.fields,
    ← step.later.shape.attributesFirst, first]

/-- A field whose type is not a copy in the second generation: a complex type is marked in the first
one, a simple one has no enumerators, and a field of the own type passes its check. -/
theorem InStep.settled {owner type : TypeId} {record : RecordId} {entry : String × ElementId}
    (own : (g.declarations.type owner).record = some record)
    (member : entry ∈ (done.declarations.type owner).fields)
    (typed : g.declarations.elementType entry.2 = some type)
    (typed' : h.declarations.elementType entry.2 = some type)
    (bound : type.index < done.declarations.types.size) :
    (done.declarations.isComplex type = true →
        (g.declarations.type type).record.isSome = true) ∧
      (done.declarations.isComplex type = false → (done.declarations.type type).enumerators = []) ∧
        (type = owner → PassesCheck g.declarations entry.2) := by
  rw [← step.later.shape.elementType] at typed
  rw [step.shape.elementType] at typed'
  have own' := step.later.record own
  have settled := twice.field own' member typed
  have notCopied (complex : done.declarations.isComplex type = true) :
      ¬RefersToRoot done.declarations entry.2 := by
    intro refers
    obtain ⟨copy, symbol, root, isCopy, found⟩ :=
      twice.copied_of_refersToRoot refers typed complex
    obtain rfl := Option.some.inj (typed'.symm.trans found)
    exact absurd bound (Nat.not_lt.2 isCopy.new)
  refine ⟨fun complex => ?_, settled.simple, fun same record name => ?_⟩
  · rcases settled.complex complex with refers | ⟨earlier, marked, less⟩ | ⟨rfl, -⟩
    · exact absurd refers (notCopied complex)
    · rw [step.marked_of_lt own marked less]
      rfl
    · rw [own]
      rfl
  · subst same
    have complex := twice.record own'
    rcases settled.complex complex with refers | ⟨earlier, marked, less⟩ | ⟨-, passes⟩
    · exact absurd refers (notCopied complex)
    · obtain rfl := Option.some.inj (marked.symm.trans own')
      exact absurd less (Nat.lt_irrefl _)
    · rw [← step.later.shape.check]
      exact passes record name

omit step in
/-- Neither a complex type nor one without enumerators became an enumeration. -/
theorem Twice.enumeration_eq_none {type : TypeId} (none : done.declarations.isComplex type = true ∨
    (done.declarations.type type).enumerators = []) :
    (done.declarations.type type).enumeration = .none := by
  rw [Option.eq_none_iff_forall_not_mem]
  intro enumeration found
  obtain ⟨simple, enumerators⟩ := twice.enumeration found
  rcases none with complex | nil
  · rw [simple] at complex
    cases complex
  · exact enumerators nil

omit step in
/-- A type that is settled has the record that it will have. -/
theorem Twice.record_eq_of_settled {type : TypeId} (later : Extends g done)
    (marked : done.declarations.isComplex type = true →
      (g.declarations.type type).record.isSome = true) :
    (done.declarations.type type).record = (g.declarations.type type).record := by
  cases found : (done.declarations.type type).record with
  | none => exact (later.record_eq_none found).symm
  | some record =>
    obtain ⟨own, before⟩ := Option.isSome_iff_exists.1 (marked (twice.record found))
    rw [before, ← later.record before, found]

/-- The type of a field has the same marks in both. -/
theorem InStep.marks {owner type other : TypeId} {record : RecordId} {entry : String × ElementId}
    (own : (g.declarations.type owner).record = some record)
    (member : entry ∈ (done.declarations.type owner).fields)
    (typed : g.declarations.elementType entry.2 = some type)
    (typed' : h.declarations.elementType entry.2 = some other)
    (corresponds : Corresponds done.declarations again type other) :
    (h.declarations.type other).record = (g.declarations.type type).record ∧
      (h.declarations.type other).enumeration = (g.declarations.type type).enumeration := by
  rw [step.enumeration]
  cases corresponds with
  | copy isCopy =>
    have none := twice.enumeration_eq_none (.inl isCopy.complex)
    obtain ⟨minted, copied⟩ := isCopy.copied
    rw [copied, step.later.enumeration_eq_none none]
    exact ⟨step.copy isCopy, rfl⟩
  | same bound =>
    obtain ⟨marked, simple, -⟩ := step.settled twice own member typed typed' bound
    have none : (done.declarations.type type).enumeration = .none := by
      cases complex : done.declarations.isComplex type with
      | true => exact twice.enumeration_eq_none (.inl complex)
      | false => exact twice.enumeration_eq_none (.inr (simple complex))
    rw [step.kept bound, twice.renewed.old bound, none, step.later.enumeration_eq_none none]
    exact ⟨twice.record_eq_of_settled step.later marked, rfl⟩

end Views

end Generation

end XsdRecords
