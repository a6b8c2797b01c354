import XsdRecords.Compilation
import XsdRecords.Proofs.Declaration.Builtins
import XsdRecords.Proofs.Generation.Naming
import XsdRecords.Proofs.Generation.Steps
import XsdRecords.Proofs.Session.Builtins

/-! # The built-in types are immutable

A session may read documents, move on to others and generate record schemas in any order and any
number of times: `Used`.  Whatever the documents are, every built-in type stays what it was at
first, and is still what its name stands for.

A generation names and copies complex types, and marks complex types and types with enumerators.  A
built-in type is neither, and has no fields to be sorted.  A copy has a made-up name. -/

namespace XsdRecords.Generation

open XsdRecords.Declaration (Declarations ElementId Symbol TypeId)

variable {g g' : Generation}

/-! ## Naming -/

theorem nameRoot_withBuiltins (builtins : g.declarations.WithBuiltins) (symbol : Symbol)
    (id : ElementId) : (g.nameRoot symbol id).declarations.WithBuiltins := by
  unfold nameRoot
  split
  · exact builtins
  · rename_i type _
    split
    · exact builtins
    · rename_i complex
      simp only [Bool.or_eq_true, Bool.not_eq_true', decide_eq_true_eq, not_or,
        Bool.not_eq_false] at complex
      split
      · exact ((builtins.cloneType type).modifyElement id _).modifyType
          (builtins.isOwn_cloneType type) _
      · exact builtins.modifyType (builtins.isOwn_of_isComplex complex.1) _

theorem nameRoots_withBuiltins (roots : List (Symbol × ElementId)) {g : Generation}
    (builtins : g.declarations.WithBuiltins) :
    (g.nameRoots roots).1.declarations.WithBuiltins := by
  induction roots generalizing g with
  | nil => exact builtins
  | cons root rest ih =>
    unfold nameRoots
    split
    · exact builtins
    · exact ih (nameRoot_withBuiltins builtins root.1 root.2)

/-! ## Emission -/

theorem Step.withBuiltins {start : Declarations} {reach : TypeId → Prop}
    (step : Step start reach g g') (builtins : g.declarations.WithBuiltins) :
    g'.declarations.WithBuiltins := by
  cases step with
  | journal | field | table | orphan => exact builtins
  | sort type => exact builtins.sortFields type
  | record reached fresh marks =>
    rw [marks.declarations]
    exact builtins.modifyType (builtins.isOwn_of_isComplex marks.complex) _
  | enumeration reached marks =>
    rw [marks.declarations]
    exact builtins.modifyType (builtins.isOwn_of_enumerators marks.enumerators) _

theorem Steps.withBuiltins {start : Declarations} {reach : TypeId → Prop}
    (steps : Steps start reach g g') (builtins : g.declarations.WithBuiltins) :
    g'.declarations.WithBuiltins := by
  induction steps with
  | refl => exact builtins
  | tail _ step ih => exact step.withBuiltins ih

/-! ## Runs -/

/-- A generation keeps the built-in types, whether it fails or not. -/
theorem run_withBuiltins (builtins : g.declarations.WithBuiltins) :
    g.run.declarations.WithBuiltins := by
  have named := nameRoots_withBuiltins g.declarations.roots.toSorted (g := { g with schema := {} })
    builtins
  unfold run
  rcases result : nameRoots { g with schema := {} } g.declarations.roots.toSorted with ⟨m, going⟩
  rw [result] at named
  dsimp only at named ⊢
  split
  · rw [← (noteTypes_keeps m).1] at named
    have allows : Allows m.noteTypes.declarations (fun _ => True) m.noteTypes :=
      ⟨fun _ _ _ => trivial, fun none => none⟩
    exact (foldl_emitRoot_steps _ allows fun _ _ _ _ _ => trivial).withBuiltins named
  · exact named

end XsdRecords.Generation

namespace XsdRecords

open XsdRecords.Markup (Scope Source StartTag)
open XsdRecords.Vocabulary (Builtin)

namespace Session

/-- A session at any tag of the documents that are read in it, or after any of the generations that
come before, between and after them. -/
inductive Used : Session → Prop
  | start (location : String) (allowUnsupported : Bool) :
      Used (Session.start location allowUnsupported)
  | advance {s s' : Session} (used : Used s) (next : s.advance? = some s') : Used s'
  | note {s : Session} (used : Used s) (e : Event) : Used (s.note e)
  | report {s : Session} (used : Used s) (p : Problem) : Used (s.report p)
  | beginDocument {s : Session} (used : Used s) : Used s.beginDocument
  | withScope {s : Session} (used : Used s) (scope : Scope) : Used (s.withScope scope)
  | moveTo {s : Session} (used : Used s) (position : Position) : Used { s with position }
  | readStart {s : Session} (used : Used s) (tag : StartTag) (position : Position) :
      Used (s.readStart tag position)
  | readStop {s : Session} (used : Used s) (position : Position) : Used (s.readStop position)
  | generate {s : Session} (used : Used s) : Used s.generate.1

theorem Used.kept : KeptByReading Used :=
  ⟨fun e used => used.note e, fun p used => used.report p, .beginDocument,
    fun _ _ used => used.withScope _, fun position used => used.moveTo position,
    fun tag position used => used.readStart tag position, fun position used => used.readStop position⟩

/-- A session is used by reading a document in it. -/
theorem Used.readDocument {s : Session} (used : Used s) (source : Source) :
    Used (s.readDocument source) :=
  kept.readDocument used source

theorem Used.shielded {s : Session} (used : Used s) : s.Shielded := by
  induction used with
  | start location allowUnsupported => exact shielded_start location allowUnsupported
  | advance used next ih =>
    obtain ⟨worklist, -, rfl⟩ := Option.map_eq_some_iff.1 next
    exact ⟨ih.builtins, ih.own⟩
  | note used e ih => exact ih.note e
  | report used p ih => exact ih.report p
  | beginDocument | withScope | moveTo => rename_i ih; exact ⟨ih.builtins, ih.own⟩
  | readStart used tag position ih => exact keptByActions_shielded.readStart ih tag position
  | readStop used position ih => exact keptByActions_shielded.readStop ih position
  | generate used ih => exact ⟨Generation.run_withBuiltins ih.builtins, ih.own⟩

/-- The forty-six built-in types stay as they were at first, all of each, and each is what is found
under its name, in every session that documents are read in and schemas are generated from. -/
theorem builtinTypes_immutable {s : Session} (used : s.Used) :
    Builtin.all.length = 46 ∧ ∀ n b, Builtin.all[n]? = some b →
      s.declarations.type ⟨n⟩ =
          { symbol := ⟨.xmlSchema, b.name⟩, builtin := some b, maxValue := b.maxValue } ∧
        s.declarations.typeTable.find? ⟨.xmlSchema, b.name⟩ = some ⟨n⟩ :=
  ⟨rfl, fun _ _ own => ⟨used.shielded.builtins.entry own, used.shielded.builtins.found own⟩⟩

/-- A document with the target namespace of the built-in types, which adds a type to them, uses
others and at last defines `string` again. -/
def amendedBuiltins : Source :=
  .bytes (["<x:schema xmlns:x='http://www.w3.org/2001/XMLSchema' ",
    "targetNamespace='http://www.w3.org/2001/XMLSchema'>",
    "<x:element name='E'>", "<x:complexType>", "<x:sequence>", "<x:element name='a' type='x:byte'/>",
    "</x:sequence>", "</x:complexType>", "</x:element>",
    "<x:simpleType name='kind'>", "<x:restriction base='x:string'>", "<x:enumeration value='a'/>",
    "</x:restriction>", "</x:simpleType>",
    "<x:simpleType name='string'>", "<x:restriction base='x:int'/>", "</x:simpleType>",
    "</x:schema>"].flatMap Text.Utf8.encodeText)

set_option maxRecDepth 100000 in
/-- After a generation and the document, and another generation, there is another type in the
namespace of the built-in ones, `string` could not be defined again, and it is what it was. -/
theorem builtinTypes_immutable_amended :
    let read := (start "" false).generate.1.readDocument amendedBuiltins
    let d := read.generate.1.declarations
    read.journal.diagnostic.message = "Duplicate definition of type, \"string\"." ∧
      d.typeTable.find? ⟨.xmlSchema, "kind"⟩ = some ⟨47⟩ ∧
      d.type ⟨39⟩ =
        { symbol := ⟨.xmlSchema, "string"⟩
          builtin := some (Builtin.text "string")
          maxValue := (Builtin.text "string").maxValue } ∧
      d.typeTable.find? ⟨.xmlSchema, "string"⟩ = some ⟨39⟩ :=
  ⟨by decide +kernel, by decide +kernel,
    (builtinTypes_immutable
      ((Used.start "" false).generate.readDocument amendedBuiltins).generate).2 39
      (Builtin.text "string") rfl⟩

end Session

end XsdRecords
