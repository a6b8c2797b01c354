import XsdRecords.Layout.RecordSchema

/-! # Printing a record schema

Records come first, then enumerations, each with one line per field or enumerator between braces. -/

namespace XsdRecords.Layout

def RecordSchema.constraintLabel (s : RecordSchema) : Constraint → String
  | .record id => s.recordLabel id
  | .enumeration id => s.enumerationLabel id

def RecordSchema.renderField (s : RecordSchema) (field : Field) : String :=
  let id := (field.id.map fun id => s!" id={id}").getD ""
  let constraint := (field.constraint.map fun c => " -> " ++ s.constraintLabel c).getD ""
  let nullable := if field.nullable then " nullable" else ""
  let value := (field.defaultValue.map fun v => " default=" ++ v.render).getD ""
  let mode :=
    if field.formattingMode = .default then "" else " fmt=" ++ field.formattingMode.render
  "    " ++ field.elemType.name ++ " " ++ field.name.getD "(unnamed)" ++ id ++ constraint
    ++ nullable ++ value ++ mode ++ "\n"

/-- The lines of the record at a place. -/
def RecordSchema.renderRecord (s : RecordSchema) (index : Nat) (record : Record) : String :=
  record.kind.name ++ " RECORD " ++ s.recordLabel ⟨index⟩ ++ " \x7b\n"
    ++ String.join (record.fields.map s.renderField) ++ "\x7d\n"

/-- The lines of the enumeration at a place. -/
def RecordSchema.renderEnumeration (s : RecordSchema) (index : Nat) (e : Enumeration) : String :=
  "ENUMERATION " ++ s.enumerationLabel ⟨index⟩ ++ " \x7b\n"
    ++ String.join (e.enumerators.map fun x => "    " ++ x.name ++ s!" = {x.id}\n") ++ "\x7d\n"

def RecordSchema.render (s : RecordSchema) : String :=
  let records := s.records.toList.zipIdx.map fun (r, index) => s.renderRecord index r
  let enumerations := s.enumerations.toList.zipIdx.map fun (e, index) =>
    s.renderEnumeration index e
  String.join records ++ String.join enumerations

end XsdRecords.Layout
