import XsdRecords.Generation.Emission
import XsdRecords.Session.Reading

/-! # Compiling a schema

A compilation reads its first document, then every document that was named, one after another, and
generates the record schema in the end.  Which document it wants next, `request?` tells; the answer,
or that there is none, is given by `supply`.  `run` does both with a resolver. -/

namespace XsdRecords

open XsdRecords.Markup (Source)
open XsdRecords.Layout (RecordSchema)

/-- Generates the record schema of what was read; problems are those of the top-level document. -/
def Session.generate (s : Session) : Session × RecordSchema :=
  let g := Generation.run
    { declarations := s.declarations
      journal := s.journal
      source := s.worklist.top.location }
  ({ s with declarations := g.declarations, journal := g.journal, position := {} }, g.schema)

/-- A request for a document of a target namespace. -/
structure Request where
  location : String
  uri : String
  deriving DecidableEq, Repr

/-- A compilation under way: what was read and what was asked for, the last first. -/
structure Compilation where
  session : Session
  requests : List Request := []

/-- What a compilation makes of its documents. -/
structure Compiled where
  schema : RecordSchema
  targetNamespace : String
  attributes : List (String × String)
  diagnostic : Diagnostic

/-- How a compilation ends: with a result or a diagnostic, with its requests in order and with
its journal. -/
structure Outcome where
  result : Except Diagnostic Compiled
  requests : List Request
  journal : Journal

/-- Where documents come from. -/
abbrev Resolver := Request → Option Source

namespace Compilation

/-- A compilation that has read its first document. -/
def start (allowUnsupported : Bool) (source : Source) (location : String) : Compilation :=
  { session := (Session.start location allowUnsupported).readDocument source }

/-- The next document that a compilation wants, if it has not failed and wants one. -/
def request? (c : Compilation) : Option (Compilation × Request) :=
  if c.session.hasFailed then none
  else
    c.session.advance?.map fun s =>
      let entry := s.worklist.currentEntry
      let request : Request := ⟨entry.location, s.registry.uri entry.target⟩
      (⟨s.note (.requestedDocument request.location request.uri), request :: c.requests⟩, request)

theorem request?_of_hasFailed {c : Compilation} (h : c.session.hasFailed = true) :
    c.request? = none := by
  rw [request?, if_pos h]

def supply (c : Compilation) (source : Option Source) : Compilation :=
  match source with
  | some source => { c with session := c.session.readDocument source }
  | none =>
    { c with
      session := c.session.report (.unresolvedSchema c.session.worklist.currentEntry.location) }

/-- Reads at most `limit` further documents. -/
def run (resolve : Resolver) : Nat → Compilation → Compilation
  | 0, c => c
  | limit + 1, c =>
    match c.request? with
    | none => c
    | some (c, request) => run resolve limit (c.supply (resolve request))

def finish (c : Compilation) : Outcome :=
  let requests := c.requests.reverse
  if c.session.hasFailed then
    ⟨.error c.session.journal.diagnostic, requests, c.session.journal⟩
  else
    let (s, schema) := c.session.generate
    if s.hasFailed then ⟨.error s.journal.diagnostic, requests, s.journal⟩
    else
      let s := s.note (.compiled schema.records.size schema.enumerations.size)
      ⟨.ok ⟨schema, s.targetUri, s.sortedAttributes, s.journal.diagnostic⟩, requests, s.journal⟩

end Compilation

/-- Documents by location. -/
abbrev Library := List (String × Source)

namespace Library

/-- The resolver that finds documents by their location alone. -/
def resolver (l : Library) : Resolver :=
  fun request => l.lookup request.location

/-- A bound on the documents that a compilation reads after the first.  It reads no location twice
for one target namespace, every target namespace but one is the value of an attribute in some
document, and it ends at the first location that the library does not hold. -/
def limit (l : Library) (first : Source) : Nat :=
  l.length * l.foldl (fun size (_, source) => size + source.size) (first.size + 2) + 1

end Library

def compile (allowUnsupported : Bool) (library : Library) (source : Source) (location : String) :
    Outcome :=
  (Compilation.run library.resolver (library.limit source)
    (Compilation.start allowUnsupported source location)).finish

/-- Compiles a text that names no other documents. -/
def compileText (text : String) : Outcome :=
  compile false [] (.ofText text) ""

end XsdRecords
