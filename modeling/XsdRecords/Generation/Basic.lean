import XsdRecords.Declaration.Printer
import XsdRecords.Diagnostic.Journal

/-! # The state of a generation

A generation turns declarations into a record schema.  It marks each type with the record or
enumeration that it became, so that none becomes two. -/

namespace XsdRecords

open XsdRecords.Declaration (Declarations ElementId TypeId TypeDef)
open XsdRecords.Layout (RecordSchema)

/-- The state of a generation. -/
structure Generation where
  declarations : Declarations
  schema : RecordSchema := {}
  journal : Journal := {}
  /-- The location that problems are reported for. -/
  source : String := ""

namespace Generation

def note (g : Generation) (e : Event) : Generation :=
  { g with journal := g.journal.note e }

/-- Reports a problem, which has no place in a document. -/
def report (g : Generation) (p : Problem) : Generation :=
  { g with journal := g.journal.report ⟨p, g.source, {}⟩ }

def modifyType (g : Generation) (id : TypeId) (f : TypeDef → TypeDef) : Generation :=
  { g with declarations := g.declarations.modifyType id f }

end Generation

/-- Checks the type and the occurrences of an element that is a field of a record, or the root. -/
def Declaration.Declarations.check (d : Declarations) (record name : String) (id : ElementId) :
    Except Problem Unit :=
  let element := d.element id
  if !element.isDefined then .error (.noTypeSpecified record name)
  else
    match d.elementType id with
    | none => .error (.noIndirectType record name)
    | some type =>
      match d.builtin type with
      | none => .error (.undefinedType (d.type type).symbol.localName record name)
      | some builtin =>
        if element.minOccurs < 0 then .error (.invalidMinOccurs record name)
        else if element.maxOccurs < element.minOccurs then .error (.maxBelowMin record name)
        else if 1 < element.maxOccurs && builtin.elemType.isArray then
          .error (.repeatedArray record name)
        else .ok ()

end XsdRecords
