import XsdRecords.Proofs.Generation.Types

/-! # Generating whatever has happened before

A generation writes to the journal and never looks at its events.  A generation that echoes another
differs from it in the events of the journal alone, and every step keeps it so: in particular the same
records, enumerations and diagnostics come about. -/

namespace XsdRecords.Generation

open XsdRecords.Declaration (Declarations ElementId TypeId TypeDef Symbol)
open XsdRecords.Layout

/-- A generation with other events. -/
def withEvents (g : Generation) (events : List Event) : Generation :=
  { g with journal := { g.journal with events } }

@[simp] theorem declarations_withEvents (g : Generation) (events : List Event) :
    (g.withEvents events).declarations = g.declarations := rfl

@[simp] theorem schema_withEvents (g : Generation) (events : List Event) :
    (g.withEvents events).schema = g.schema := rfl

/-- Generations that differ in the events of their journals alone. -/
def Echoes (g g' : Generation) : Prop :=
  ∃ events, g' = g.withEvents events

/-- A field whose default value was read is laid out and appended. -/
def layField (record : RecordId) (recordName name : String) (id : ElementId) (type : TypeId)
    (mode : FormattingMode) (text : String) (g : Generation) (value : Option DefaultValue) :
    Generation :=
  let field := g.typedField name id type mode value
  if wrapsItems field text then
    match g.wrapItems field.elemType (g.declarations.type type).enumeration with
    | .error fault => g.report (.output fault)
    | .ok (schema, wrapper) =>
      Generation.appendField { g with schema } record recordName name (wrappedField field wrapper)
  else g.appendField record recordName name field

/-- What follows if the top-level elements could be named: their types are noted and emitted. -/
def emitNamed (named : Generation × Bool) : Generation :=
  let noted := named.1.noteTypes
  if named.2 then (noted.declarations.roots.toSorted.map (·.2)).foldl emitRoot noted else named.1

namespace Echoes

variable {g g' : Generation}

theorem note (echoes : Echoes g g') (e : Event) : Echoes (g.note e) (g'.note e) := by
  obtain ⟨events, rfl⟩ := echoes
  exact ⟨e :: events, rfl⟩

theorem report (echoes : Echoes g g') (p : Problem) : Echoes (g.report p) (g'.report p) := by
  obtain ⟨events, rfl⟩ := echoes
  exact ⟨.reported ⟨p, g.source, {}⟩ :: events, rfl⟩

theorem withSchema (echoes : Echoes g g') (schema : RecordSchema) :
    Echoes { g with schema } { g' with schema } := by
  obtain ⟨events, rfl⟩ := echoes
  exact ⟨events, rfl⟩

theorem modifySchema (echoes : Echoes g g') (f : RecordSchema → RecordSchema) :
    Echoes { g with schema := f g.schema } { g' with schema := f g'.schema } := by
  obtain ⟨events, rfl⟩ := echoes
  exact ⟨events, rfl⟩

theorem withDeclarations (echoes : Echoes g g') (declarations : Declarations) :
    Echoes { g with declarations } { g' with declarations } := by
  obtain ⟨events, rfl⟩ := echoes
  exact ⟨events, rfl⟩

theorem modifyType (echoes : Echoes g g') (type : TypeId) (f : TypeDef → TypeDef) :
    Echoes (g.modifyType type f) (g'.modifyType type f) := by
  obtain ⟨events, rfl⟩ := echoes
  exact ⟨events, rfl⟩

theorem declarations (echoes : Echoes g g') : g'.declarations = g.declarations := by
  obtain ⟨events, rfl⟩ := echoes
  rfl

theorem foldl {α : Type} {step : Generation → α → Generation}
    (each : ∀ {g g'} a, Echoes g g' → Echoes (step g a) (step g' a)) (entries : List α)
    (echoes : Echoes g g') : Echoes (entries.foldl step g) (entries.foldl step g') := by
  induction entries generalizing g g' with
  | nil => exact echoes
  | cons a rest ih => exact ih (each a echoes)

theorem ite {c : Prop} [Decidable c] {yes yes' no no' : Generation} (ifYes : Echoes yes yes')
    (ifNo : Echoes no no') : Echoes (if c then yes else no) (if c then yes' else no') := by
  split
  · exact ifYes
  · exact ifNo

/-! ## Names of top-level elements -/

theorem nameRoot (echoes : Echoes g g') (symbol : Symbol) (id : ElementId) :
    Echoes (g.nameRoot symbol id) (g'.nameRoot symbol id) := by
  have echoes' := echoes
  obtain ⟨events, rfl⟩ := echoes'
  unfold Generation.nameRoot
  simp only [declarations_withEvents]
  split
  · exact echoes
  · refine ite echoes (ite ?_ (echoes.modifyType _ _))
    exact ((echoes.withDeclarations _).note _).modifyType _ _

theorem nameRoots (echoes : Echoes g g') (roots : List (Symbol × ElementId)) :
    Echoes (g.nameRoots roots).1 (g'.nameRoots roots).1 ∧
      (g'.nameRoots roots).2 = (g.nameRoots roots).2 := by
  induction roots generalizing g g' with
  | nil => exact ⟨echoes, rfl⟩
  | cons root rest ih =>
    have named := ih (echoes.nameRoot root.1 root.2)
    have reported := echoes.report
    obtain ⟨events, rfl⟩ := echoes
    unfold Generation.nameRoots
    simp only [declarations_withEvents]
    split
    · exact ⟨reported _, rfl⟩
    · exact named

/-! ## Fields -/

theorem appendField (echoes : Echoes g g') (record : RecordId) (recordName name : String)
    (field : Field) : Echoes (g.appendField record recordName name field)
      (g'.appendField record recordName name field) := by
  have filled := echoes.withSchema
  have reported := echoes.report
  obtain ⟨events, rfl⟩ := echoes
  unfold Generation.appendField
  simp only [schema_withEvents]
  split
  · exact filled _
  · exact reported _

theorem readDefault (echoes : Echoes g g') (recordName name text : String) (type : ElemType) :
    Echoes (g.readDefault recordName name text type).1 (g'.readDefault recordName name text type).1 ∧
      (g'.readDefault recordName name text type).2 = (g.readDefault recordName name text type).2 := by
  unfold Generation.readDefault
  split
  · exact ⟨echoes, rfl⟩
  · split
    · exact ⟨echoes, rfl⟩
    · exact ⟨echoes.report _, rfl⟩

theorem layField (echoes : Echoes g g') (record : RecordId) (recordName name : String)
    (id : ElementId) (type : TypeId) (mode : FormattingMode) (text : String)
    (value : Option DefaultValue) :
    Echoes (Generation.layField record recordName name id type mode text g value)
      (Generation.layField record recordName name id type mode text g' value) := by
  have started := echoes
  obtain ⟨events, rfl⟩ := started
  refine ite ?_ (echoes.appendField _ _ _ _)
  rw [show (g.withEvents events).typedField name id type mode value =
      g.typedField name id type mode value from rfl,
    show (g.withEvents events).wrapItems = g.wrapItems from rfl, declarations_withEvents]
  split
  · exact echoes.report _
  · exact (echoes.withSchema _).appendField _ _ _ _

theorem emitTypedField (echoes : Echoes g g') (record : RecordId) (recordName name : String)
    (id : ElementId) (type : TypeId) (mode : FormattingMode) :
    Echoes (g.emitTypedField record recordName name id type mode)
      (g'.emitTypedField record recordName name id type mode) := by
  have lays (g : Generation) : g.emitTypedField record recordName name id type mode =
      (let text := (g.declarations.element id).defaultValue
      let read := g.readDefault recordName name text (g.fieldShape id type).1
      Generation.layField record recordName name id type mode text read.1 read.2) := rfl
  obtain ⟨read, value⟩ := echoes.readDefault recordName name
    (g.declarations.element id).defaultValue (g.fieldShape id type).1
  have laid := read.layField record recordName name id type mode
    (g.declarations.element id).defaultValue (g.readDefault recordName name
      (g.declarations.element id).defaultValue (g.fieldShape id type).1).2
  obtain ⟨events, rfl⟩ := echoes
  rw [lays, lays]
  dsimp only [declarations_withEvents]
  rw [show (g.withEvents events).fieldShape id type = g.fieldShape id type from rfl, value]
  exact laid

theorem emitField (record : RecordId) (recordName : String) (entry : String × ElementId)
    (echoes : Echoes g g') : Echoes (emitField record recordName g entry)
      (emitField record recordName g' entry) := by
  have reported := echoes.report
  have typed := echoes.emitTypedField
  have started := echoes
  obtain ⟨events, rfl⟩ := started
  unfold Generation.emitField
  simp only [declarations_withEvents]
  split
  · exact echoes
  · refine ite (reported _) ?_
    split
    · exact echoes
    · exact typed _ _ _ _ _ _

/-! ## Types -/

theorem addEnumerators (echoes : Echoes g g') (id : EnumerationId) (name : String)
    (enumerators : List (String × Int)) :
    Echoes (g.addEnumerators id name enumerators) (g'.addEnumerators id name enumerators) := by
  refine echoes.foldl (fun enumerator echoes => ?_) enumerators
  have filled := echoes.withSchema
  have reported := echoes.report
  obtain ⟨events, rfl⟩ := echoes
  dsimp only [schema_withEvents]
  split
  · exact filled _
  · exact reported _

theorem emitEnumeration (echoes : Echoes g g') (type : TypeId) :
    Echoes (g.emitEnumeration type) (g'.emitEnumeration type) := by
  have started := echoes
  have reported := echoes.report
  have created := echoes.withSchema
  obtain ⟨events, rfl⟩ := started
  unfold Generation.emitEnumeration
  simp only [declarations_withEvents, schema_withEvents]
  refine ite echoes ?_
  split
  · exact reported _
  · rename_i schema id _
    have filled := (((created schema).note (.enumerationEmitted
      (g.declarations.type type).outputSymbol.localName)).modifyType type
        fun t => { t with enumeration := some id }).addEnumerators id
          (g.declarations.type type).outputSymbol.localName (g.declarations.type type).enumerators
    exact ite filled (filled.modifySchema (·.modifyEnumeration id (·.alphabetize)))

section Emit

variable {emit : Generation → TypeId → Generation}
  (emits : ∀ {g g'} type, Echoes g g' → Echoes (emit g type) (emit g' type))

include emits

theorem emitFieldTypes (echoes : Echoes g g') (owner : TypeId) (recordName : String)
    (entries : List (String × ElementId)) :
    Echoes (emitFieldTypes emit owner recordName g entries).1
        (emitFieldTypes emit owner recordName g' entries).1 ∧
      (Generation.emitFieldTypes emit owner recordName g' entries).2 =
        (Generation.emitFieldTypes emit owner recordName g entries).2 := by
  induction entries generalizing g g' with
  | nil => exact ⟨echoes, rfl⟩
  | cons entry rest ih =>
    have passed := ih echoes
    have emitted (type : TypeId) := ih (emits type echoes)
    have reported := echoes.report
    obtain ⟨events, rfl⟩ := echoes
    unfold Generation.emitFieldTypes
    simp only [declarations_withEvents]
    split
    · split
      · exact ⟨reported _, rfl⟩
      · exact passed
    · split
      · exact passed
      · split
        · exact ⟨reported _, rfl⟩
        · exact emitted _

theorem emitRecord (echoes : Echoes g g') (type : TypeId) :
    Echoes (emitRecord emit g type) (emitRecord emit g' type) := by
  have started := echoes
  obtain ⟨events, rfl⟩ := started
  cases unmarked : (g.declarations.type type).record with
  | some record =>
    have marked : (g.declarations.type type).record.isSome = true := by rw [unmarked]; rfl
    rw [emitRecord_of_marked emit marked,
      emitRecord_of_marked emit (show ((g.withEvents events).declarations.type type).record.isSome =
        true from marked)]
    exact echoes
  | none =>
    have unmarked' : ((g.withEvents events).declarations.type type).record = none := unmarked
    cases created : g.schema.createRecord (recordName? (g.declarations.type type).outputSymbol)
      (recordKind g.declarations type) with
    | error fault =>
      rw [emitRecord_of_error emit unmarked created, emitRecord_of_error emit unmarked' created]
      exact echoes.report _
    | ok made =>
      obtain ⟨schema, record⟩ := made
      rw [emitRecord_of_created emit unmarked created, emitRecord_of_created emit unmarked' created]
      have marked : Echoes (g.withRecord type schema record)
          ((g.withEvents events).withRecord type schema record) :=
        ((echoes.withSchema schema).modifyType type _).note _
      obtain ⟨typed, finished⟩ := emitFieldTypes emits marked type
        (g.declarations.type type).outputSymbol.localName (g.declarations.type type).fields
      unfold fillRecord
      rw [declarations_withEvents]
      dsimp only
      rw [finished]
      exact ite (typed.foldl (fun entry echoes => emitField record _ entry echoes) _) typed

end Emit

theorem emitTypeWithin (limit : Nat) (echoes : Echoes g g') (type : TypeId) :
    Echoes (emitTypeWithin limit g type) (emitTypeWithin limit g' type) := by
  induction limit generalizing g g' type with
  | zero => exact echoes
  | succ limit ih =>
    have reported := echoes.report
    have sorted := echoes.withDeclarations
    have enumerated := echoes.emitEnumeration
    have started := echoes
    obtain ⟨events, rfl⟩ := started
    unfold Generation.emitTypeWithin
    simp only [declarations_withEvents]
    split
    · exact reported _
    · refine ite ?_ (ite echoes (enumerated type))
      exact emitRecord (fun type echoes => ih echoes type) (sorted _) type

theorem emitRoot (echoes : Echoes g g') (id : ElementId) : Echoes (g.emitRoot id) (g'.emitRoot id) := by
  have emitted := echoes.emitTypeWithin
  have started := echoes
  obtain ⟨events, rfl⟩ := started
  unfold Generation.emitRoot
  simp only [declarations_withEvents]
  split
  · exact echoes
  · exact ite (emitted _ _) echoes

theorem noteTypes (echoes : Echoes g g') : Echoes g.noteTypes g'.noteTypes := by
  have noted : Echoes (g.declarations.typeTable.toSorted.foldl
        (fun g entry => g.note (.typeSeen (g.declarations.renderType entry.2))) g)
      (g.declarations.typeTable.toSorted.foldl
        (fun g entry => g.note (.typeSeen (g.declarations.renderType entry.2))) g') := by
    refine echoes.foldl (fun entry echoes => ?_) _
    have added := echoes.note
    obtain ⟨events, rfl⟩ := echoes
    exact added _
  obtain ⟨events, rfl⟩ := echoes
  exact noted

theorem emitNamed {named named' : Generation × Bool} (echoes : Echoes named.1 named'.1)
    (finished : named'.2 = named.2) :
    Echoes (Generation.emitNamed named) (Generation.emitNamed named') := by
  have noted := echoes.noteTypes
  unfold Generation.emitNamed
  dsimp only
  rw [finished, noted.declarations]
  exact ite (noted.foldl (fun id echoes => echoes.emitRoot id) _) echoes

/-- A generation gives the same result and the same diagnostic whatever has happened before. -/
theorem run (echoes : Echoes g g') : Echoes g.run g'.run := by
  have runs (g : Generation) : g.run = Generation.emitNamed
      (Generation.nameRoots { g with schema := {} } g.declarations.roots.toSorted) := rfl
  have started := echoes.withSchema {}
  have roots := congrArg (·.roots.toSorted) echoes.declarations
  obtain ⟨named, finished⟩ := started.nameRoots g.declarations.roots.toSorted
  rw [runs, runs, show g'.declarations.roots.toSorted = g.declarations.roots.toSorted from roots]
  exact named.emitNamed finished

end Echoes

end XsdRecords.Generation
