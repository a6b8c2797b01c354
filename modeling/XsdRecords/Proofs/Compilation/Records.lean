import XsdRecords.Proofs.Compilation.WellFormed
import XsdRecords.Proofs.Generation.DeclaredFields
import XsdRecords.Proofs.Generation.Occurrences
import XsdRecords.Proofs.Generation.Reach
import XsdRecords.Proofs.Generation.Roots
import XsdRecords.Proofs.Generation.Termination

/-! # The records that a compile delivers

Records and enumerations are emitted for the types that top-level elements reach, and each record
has the fields that its type declares.  Every top-level element of a complex type has a record of
its own exactly if none of them shares a type of its own name.  The check of an element looks at the
built-in type alone: it refuses to repeat a built-in array, but not a list of scalars, whose arrays
become those of the repeated field. -/

namespace XsdRecords.Compilation

open XsdRecords.Generation (DeclaredBy EmitsReached GivesOnce NamesakesUnshared RecordsOfRoots
  Renders Repeated emitStep runWith)
open XsdRecords.Markup (Source)

/-! ## What is emitted -/

/-- A generation, whatever its declarations, ends at a depth of its own and gives no type two
outputs; one that a compile delivers the schema of emits what top-level elements reach. -/
theorem emission_delivered :
    (∀ g : Generation,
      (∃ levels, ∀ limit bottom, levels ≤ limit →
        Generation.run g = runWith (emitStep^[limit] bottom) g) ∧
      GivesOnce g.declarations (Generation.run g)) ∧
    ∀ (resolve : Resolver) (limit : Nat) (allowUnsupported : Bool) (source : Markup.Source)
      (location : String) (compiled : Compiled),
      (run resolve limit (start allowUnsupported source location)).finish.result = .ok compiled →
      let read := (run resolve limit (start allowUnsupported source location)).session
      compiled.schema = (Generation.run read.generation).schema ∧
        EmitsReached (Generation.run read.generation) := by
  refine ⟨fun g => ⟨Generation.exists_run_eq_runWith g, Generation.run_givesOnce g⟩, ?_⟩
  intro resolve limit allowUnsupported source location compiled h
  obtain ⟨ok, schema⟩ := finish_eq_ok h
  have read := asRead_run resolve limit allowUnsupported source location
  exact ⟨schema, Generation.run_emitsReached read.pristine read.inRange read.rooted
    read.hasComplexFields ok⟩

theorem emission_delivered_sharedType : ∃ compiled,
    (run (Library.resolver []) 1 (start false sharedType "")).finish.result = .ok compiled ∧
      let read := (run (Library.resolver []) 1 (start false sharedType "")).session
      compiled.schema = (Generation.run read.generation).schema ∧
        EmitsReached (Generation.run read.generation) := by
  obtain ⟨compiled, delivers⟩ := sharedType_delivers
  exact ⟨compiled, delivers, emission_delivered.2 _ _ _ _ _ compiled delivers⟩

/-! ## Top-level elements -/

/-- The records of the top-level elements in a schema that a compile delivers. -/
theorem recordsOfRoots_delivered_iff (resolve : Resolver) (limit : Nat) (allowUnsupported : Bool)
    (source : Source) (location : String) (compiled : Compiled)
    (h : (run resolve limit (start allowUnsupported source location)).finish.result =
      .ok compiled) :
    let read := (run resolve limit (start allowUnsupported source location)).session
    let generated := Generation.run read.generation
    compiled.schema = generated.schema ∧
      (RecordsOfRoots read.declarations generated ↔ NamesakesUnshared read.declarations) := by
  obtain ⟨ok, schema⟩ := finish_eq_ok h
  have read := asRead_run resolve limit allowUnsupported source location
  exact ⟨schema, Generation.recordsOfRoots_iff read.pristine read.inRange read.rooted ok⟩

theorem recordsOfRoots_delivered_sharedType : ∃ compiled,
    (run (Library.resolver []) 1 (start false sharedType "")).finish.result = .ok compiled ∧
      let read := (run (Library.resolver []) 1 (start false sharedType "")).session
      let generated := Generation.run read.generation
      compiled.schema = generated.schema ∧
        (RecordsOfRoots read.declarations generated ↔ NamesakesUnshared read.declarations) := by
  obtain ⟨compiled, delivers⟩ := sharedType_delivers
  exact ⟨compiled, delivers, recordsOfRoots_delivered_iff _ _ _ _ _ compiled delivers⟩

/-! ## Fields -/

/-- Every record of a type has the fields that the type declares, attributes before elements, and
each says what its entry does. -/
theorem fields_delivered (resolve : Resolver) (limit : Nat) (allowUnsupported : Bool)
    (source : Markup.Source) (location : String) (compiled : Compiled)
    (h : (run resolve limit (start allowUnsupported source location)).finish.result =
      .ok compiled) :
    let read := (run resolve limit (start allowUnsupported source location)).session
    let generated := Generation.run read.generation
    compiled.schema = generated.schema ∧
      ∀ type record, (generated.declarations.type type).record = some record →
        record.index < compiled.schema.records.size ∧
          ∃ original, DeclaredBy read.declarations generated.declarations type original ∧
            (compiled.schema.record record).fields.length =
              (read.declarations.type original).fields.length ∧
            List.Forall₂ (fun entry field => ∃ type, Renders generated entry type field)
              (read.declarations.attributesFirst (read.declarations.type original).fields)
              (compiled.schema.record record).fields := by
  obtain ⟨ok, schema⟩ := finish_eq_ok h
  have read := asRead_run resolve limit allowUnsupported source location
  refine ⟨schema, fun type record marked => ?_⟩
  rw [schema]
  obtain ⟨inside, original, declared, fields⟩ :=
    Generation.run_fields read.pristine read.inRange read.rooted ok marked
  refine ⟨inside, original, declared, ?_, fields⟩
  rw [← fields.length_eq]
  exact Generation.length_attributesFirst _ _

theorem fields_delivered_sharedType : ∃ compiled,
    (run (Library.resolver []) 1 (start false sharedType "")).finish.result = .ok compiled ∧
      let read := (run (Library.resolver []) 1 (start false sharedType "")).session
      let generated := Generation.run read.generation
      compiled.schema = generated.schema ∧
        ∀ type record, (generated.declarations.type type).record = some record →
          record.index < compiled.schema.records.size ∧
            ∃ original, DeclaredBy read.declarations generated.declarations type original ∧
              (compiled.schema.record record).fields.length =
                (read.declarations.type original).fields.length ∧
              List.Forall₂ (fun entry field => ∃ type, Renders generated entry type field)
                (read.declarations.attributesFirst (read.declarations.type original).fields)
                (compiled.schema.record record).fields := by
  obtain ⟨compiled, delivers⟩ := sharedType_delivers
  exact ⟨compiled, delivers, fields_delivered _ _ _ _ _ compiled delivers⟩

/-! ## Repeated elements -/

/-- An element that may occur more than once is delivered with a type whose values are arrays only if
that type is a list of scalars, and its field then is the same as that of a single list. -/
theorem repeated_delivered (resolve : Resolver) (limit : Nat) (allowUnsupported : Bool)
    (source : Source) (location : String) (compiled : Compiled)
    (h : (run resolve limit (start allowUnsupported source location)).finish.result =
      .ok compiled) :
    let generated := Generation.run
      (run resolve limit (start allowUnsupported source location)).session.generation
    ∀ type record, (generated.declarations.type type).record = some record →
      List.Forall₂
        (fun entry field => ∀ type', generated.declarations.elementType entry.2 = some type' →
          1 < (generated.declarations.element entry.2).maxOccurs → Repeated generated field type')
        (generated.declarations.attributesFirst (generated.declarations.type type).fields)
        (compiled.schema.record record).fields := by
  intro generated type record marked
  obtain ⟨ok, schema⟩ := finish_eq_ok h
  have read := asRead_run resolve limit allowUnsupported source location
  obtain ⟨complex, fields⟩ :=
    Generation.run_vettedFields read.pristine read.inRange read.rooted ok marked
  rw [schema]
  refine fields.imp ?_
  rintro entry field ⟨vetted, own⟩ type' typed many
  exact own.repeated vetted.1 complex typed many

/-- A repeated element of a list type. -/
def repeatedList : Source :=
  .bytes (["<x:schema xmlns:x='http://www.w3.org/2001/XMLSchema'>",
    "<x:simpleType name='L'>", "<x:list itemType='x:int'/>", "</x:simpleType>",
    "<x:element name='R'>", "<x:complexType>", "<x:sequence>",
    "<x:element name='f' type='L' maxOccurs='unbounded'/>",
    "</x:sequence>", "</x:complexType>", "</x:element>",
    "</x:schema>"].flatMap Text.Utf8.encodeText)

set_option maxRecDepth 100000 in
theorem repeated_delivered_repeatedList : ∃ compiled,
    (run (Library.resolver []) 1 (start false repeatedList "")).finish.result = .ok compiled ∧
      let generated := Generation.run
        (run (Library.resolver []) 1 (start false repeatedList "")).session.generation
      ∃ type entry field type', (generated.declarations.type type).record = some ⟨0⟩ ∧
        generated.declarations.attributesFirst (generated.declarations.type type).fields = [entry] ∧
        (compiled.schema.record ⟨0⟩).fields = [field] ∧
        generated.declarations.elementType entry.2 = some type' ∧
        1 < (generated.declarations.element entry.2).maxOccurs ∧
        (generated.declarations.elemType type').isArray = true ∧
        Repeated generated field type' := by
  obtain ⟨compiled, delivers⟩ := exists_eq_ok_of_isOk
    (c := run (Library.resolver []) 1 (start false repeatedList "")) (by decide +kernel)
  refine ⟨compiled, delivers, ?_⟩
  intro generated
  obtain ⟨marked, entries, typed, many, isArray⟩ :
      (generated.declarations.type ⟨47⟩).record = some ⟨0⟩ ∧
        generated.declarations.attributesFirst (generated.declarations.type ⟨47⟩).fields =
          [("f", ⟨1⟩)] ∧
        generated.declarations.elementType ⟨1⟩ = some ⟨46⟩ ∧
        1 < (generated.declarations.element ⟨1⟩).maxOccurs ∧
        (generated.declarations.elemType ⟨46⟩).isArray = true := by
    decide +kernel
  have fields := repeated_delivered _ _ _ _ _ compiled delivers ⟨47⟩ ⟨0⟩ marked
  change List.Forall₂ _ (generated.declarations.attributesFirst
    (generated.declarations.type ⟨47⟩).fields) _ at fields
  rw [entries] at fields
  cases given : (compiled.schema.record ⟨0⟩).fields with
  | nil =>
    rw [given] at fields
    cases fields
  | cons field rest =>
    rw [given] at fields
    obtain ⟨repeated, none⟩ := List.forall₂_cons.1 fields
    obtain rfl := List.forall₂_nil_left_iff.1 none
    exact ⟨⟨47⟩, ("f", ⟨1⟩), field, ⟨46⟩, marked, entries, rfl, typed, many, isArray,
      repeated ⟨46⟩ typed many⟩

end XsdRecords.Compilation
