import XsdRecords.Proofs.Compilation.WellFormed
import XsdRecords.Proofs.Generation.Outdated

/-! # Generating again what was read

The first generation of a session depends on nothing that the schema holds, and the handles that it looks
up are its own.  It leaves its handles in the declarations, so that a second one makes copies only and may
look up a handle of the first schema. -/

namespace XsdRecords

open XsdRecords.Generation (EmitsCopiesOnly Repeats)
open XsdRecords.Layout (RecordSchema)
open XsdRecords.Markup (Source)

/-- Generates into a schema, unless a record or an enumeration is looked up that is not in it. -/
def Session.generateInto? (s : Session) (schema : RecordSchema) :
    Option (Session × RecordSchema) :=
  (Generation.run? { s.generation with schema }).map fun g =>
    ({ s with declarations := g.declarations, journal := g.journal, position := {} }, g.schema)

/-- A schema is emptied before anything is generated into it. -/
theorem Session.generateInto?_eq {s : Session} {schema : RecordSchema}
    (found : Generation.run? s.generation = some (Generation.run s.generation)) :
    s.generateInto? schema = some s.generate := by
  have emptied : Generation.run? { s.generation with schema } = Generation.run? s.generation := rfl
  rw [generateInto?, emptied, found]
  rfl

namespace Compilation

/-- After documents were read, in whatever schema, the first generation leaves one schema and looks up
nothing outside it; what a second one makes are copies, and this is the same schema again where it
repeats the first. -/
theorem generate_again (resolve : Resolver) (limit : Nat) (allowUnsupported : Bool) (source : Source)
    (location : String) :
    let read := (run resolve limit (start allowUnsupported source location)).session
    let first := read.generate
    (∀ schema, read.generateInto? schema = some first) ∧
      (first.1.hasFailed = false →
        EmitsCopiesOnly first.1.declarations (Generation.run first.1.generation)) ∧
      (Repeats first.1.declarations →
        first.1.generateInto? first.2 = some first.1.generate ∧ first.1.generate.2 = first.2) := by
  intro read first
  have asRead := asRead_run resolve limit allowUnsupported source location
  have declarations : first.1.generation.declarations =
      (Generation.run read.generation).declarations := rfl
  refine ⟨fun schema => ?_, fun ok => ?_, fun repeats => ?_⟩
  · exact Session.generateInto?_eq (Generation.run?_eq asRead.pristine.record)
  · exact Generation.run_emitsCopiesOnly (g := read.generation) asRead.pristine asRead.inRange
      asRead.rooted asRead.hasComplexFields ok declarations
  · obtain ⟨found, same⟩ := Generation.run_again (g := read.generation) asRead.pristine
      asRead.inRange asRead.rooted declarations repeats
    exact ⟨Session.generateInto?_eq found, same⟩

/-- Top-level elements that refer to each other. -/
def referringRoots : Source :=
  .bytes (["<x:schema xmlns:x='http://www.w3.org/2001/XMLSchema'>", "<x:element name='A' type='T'/>",
    "<x:complexType name='T'>", "<x:sequence>", "<x:element name='i' type='x:int'/>",
    "<x:element ref='B'/>", "</x:sequence>", "</x:complexType>", "<x:element name='B'>",
    "<x:complexType>", "<x:sequence>", "<x:element ref='A'/>", "<x:element ref='B'/>",
    "</x:sequence>", "</x:complexType>", "</x:element>", "</x:schema>"].flatMap
      Text.Utf8.encodeText)

set_option maxRecDepth 100000 in
theorem generate_again_referringRoots :
    let first := (run (Library.resolver []) 1 (start false referringRoots "")).session.generate
    first.1.hasFailed = false ∧ Repeats first.1.declarations ∧ first.2.records.size = 2 ∧
      first.1.generateInto? first.2 = some first.1.generate ∧ first.1.generate.2 = first.2 ∧
      EmitsCopiesOnly first.1.declarations (Generation.run first.1.generation) := by
  have evaluated :
      let first := (run (Library.resolver []) 1 (start false referringRoots "")).session.generate
      first.1.hasFailed = false ∧ Repeats first.1.declarations ∧ first.2.records.size = 2 := by
    decide +kernel
  obtain ⟨ok, repeats, size⟩ := evaluated
  obtain ⟨-, copies, again⟩ := generate_again (Library.resolver []) 1 false referringRoots ""
  exact ⟨ok, repeats, size, (again repeats).1, (again repeats).2, copies ok⟩

/-- A top-level element that its type is named like. -/
def namedLikeType : Source :=
  .bytes (["<x:schema xmlns:x='http://www.w3.org/2001/XMLSchema'>",
    "<x:element name='Foo' type='Foo'/>", "<x:complexType name='Foo'>",
    "<x:attribute name='a' type='x:int'/>", "</x:complexType>", "</x:schema>"].flatMap
      Text.Utf8.encodeText)

/-- A record inside a record. -/
def nestedRecord : Source :=
  .bytes (["<x:schema xmlns:x='http://www.w3.org/2001/XMLSchema'>", "<x:element name='E'>",
    "<x:complexType>", "<x:sequence>", "<x:element name='f'>", "<x:complexType>",
    "<x:attribute name='a' type='x:int'/>", "</x:complexType>", "</x:element>", "</x:sequence>",
    "</x:complexType>", "</x:element>", "</x:schema>"].flatMap Text.Utf8.encodeText)

set_option maxRecDepth 100000 in
/-- A type that is not copied is lost, and the handle of its record is looked up where a field has it. -/
theorem generate_again_outdated :
    (let read := (run (Library.resolver []) 1 (start false namedLikeType "")).session;
      read.hasFailed = false ∧ read.generate.1.hasFailed = false ∧
        read.generate.2.records.size = 1 ∧ read.generate.1.generate.2.records.size = 0) ∧
      let read := (run (Library.resolver []) 1 (start false nestedRecord "")).session
      read.hasFailed = false ∧ read.generate.1.hasFailed = false ∧
        (read.generate.1.generateInto? read.generate.2).isNone = true := by
  decide +kernel

end Compilation

end XsdRecords
