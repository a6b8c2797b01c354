import XsdRecords.Proofs.Generation.WellFormed
import XsdRecords.Proofs.Session.Edits

/-! # What a compile delivers

A compile that delivers a record schema has read its documents and generated the schema without a
failure.  The schema is well formed, whatever the documents were. -/

namespace XsdRecords

open XsdRecords.Markup (Source)

/-- The generation that a session starts when everything is read. -/
def Session.generation (s : Session) : Generation :=
  { declarations := s.declarations
    journal := s.journal
    source := s.worklist.top.location }

namespace Compilation

theorem exists_eq_ok_of_isOk {c : Compilation} (isOk : c.finish.result.isOk = true) :
    ∃ compiled, c.finish.result = .ok compiled := by
  cases result : c.finish.result with
  | error diagnostic =>
    rw [result] at isOk
    cases isOk
  | ok compiled => exact ⟨compiled, rfl⟩

/-- A compilation that delivers a schema read its documents without a failure. -/
theorem hasFailed_of_finish_eq_ok {c : Compilation} {compiled : Compiled}
    (h : c.finish.result = .ok compiled) : c.session.hasFailed = false := by
  unfold finish at h
  dsimp only at h
  split at h
  · cases h
  · rename_i ok
    exact Bool.eq_false_iff.2 ok

/-- A compilation that delivers a schema generated it without a failure. -/
theorem finish_eq_ok {c : Compilation} {compiled : Compiled}
    (h : c.finish.result = .ok compiled) :
    (Generation.run c.session.generation).hasFailed = false ∧
      compiled.schema = (Generation.run c.session.generation).schema := by
  unfold finish at h
  dsimp only at h
  split at h
  · cases h
  · have generated : c.session.generate.1.hasFailed =
        (Generation.run c.session.generation).hasFailed := rfl
    have schema : c.session.generate.2 = (Generation.run c.session.generation).schema := rfl
    rw [generated] at h
    split at h
    · cases h
    · rename_i ok
      cases h
      exact ⟨Bool.eq_false_iff.2 ok, schema⟩

/-- For every resolver, option and documents, a record schema that a compile delivers is well
formed. -/
theorem schema_wellFormed (resolve : Resolver) (limit : Nat) (allowUnsupported : Bool)
    (source : Source) (location : String) (compiled : Compiled)
    (h : (run resolve limit (start allowUnsupported source location)).finish.result =
      .ok compiled) : compiled.schema.WellFormed := by
  obtain ⟨ok, schema⟩ := finish_eq_ok h
  have read := asRead_run resolve limit allowUnsupported source location
  rw [schema]
  exact Generation.run_wellFormed read.pristine read.inRange read.rooted ok

/-- Two top-level elements of one type. -/
def sharedType : Source :=
  .bytes (["<x:schema xmlns:x='http://www.w3.org/2001/XMLSchema'>",
    "<x:element name='A' type='T'/>", "<x:element name='B' type='T'/>",
    "<x:complexType name='T'>", "<x:attribute name='a' type='x:int'/>", "</x:complexType>",
    "</x:schema>"].flatMap Text.Utf8.encodeText)

set_option maxRecDepth 100000 in
theorem sharedType_delivers : ∃ compiled,
    (run (Library.resolver []) 1 (start false sharedType "")).finish.result = .ok compiled :=
  exists_eq_ok_of_isOk (by decide +kernel)

theorem schema_wellFormed_sharedType : ∃ compiled,
    (run (Library.resolver []) 1 (start false sharedType "")).finish.result = .ok compiled ∧
      compiled.schema.WellFormed := by
  obtain ⟨compiled, delivers⟩ := sharedType_delivers
  exact ⟨compiled, delivers, schema_wellFormed _ _ _ _ _ compiled delivers⟩

end Compilation

end XsdRecords
