import XsdRecords.Declaration.Declarations

/-! # Printing a declared type -/

namespace XsdRecords.Declaration.Declarations

def renderField (d : Declarations) (field : String × ElementId) : String :=
  let element := d.element field.2
  let type := match d.elementType field.2 with
    | some t => (d.type t).symbol.render
    | none => "(null)"
  let value := if element.defaultValue = "" then "" else ", Default = " ++ element.defaultValue
  "        Name = " ++ field.1 ++ s!", minOccurs = {element.minOccurs}"
    ++ s!", maxOccurs = {element.maxOccurs}, Type = " ++ type ++ value ++ "\n"

/-- The lines of a list between brackets, or none if it is empty. -/
def renderLines (title : String) (lines : List String) : String :=
  if lines.isEmpty then ""
  else "    " ++ title ++ " = [\n" ++ String.join lines ++ "    ]\n"

def renderType (d : Declarations) (id : TypeId) : String :=
  let t := d.type id
  let override := match t.overrideSymbol with
    | some symbol => "    Override     = " ++ symbol.render ++ "\n"
    | none => ""
  let xmlType := match d.builtin id with
    | some b => b.name
    | none => "(null)"
  "\x7b\n    Symbol       = " ++ t.symbol.render ++ "\n" ++ override
    ++ "    XML Type     = " ++ xmlType ++ "\n"
    ++ "    Element Type = " ++ (d.elemType id).name ++ "\n"
    ++ "    max value    = " ++ toString (d.maxValue id) ++ "\n"
    ++ renderLines "Fields" (t.fields.map d.renderField)
    ++ renderLines "Enumerations"
        (t.enumerators.map fun (value, number) => "        " ++ value ++ s!" = {number}\n")
    ++ "\x7d"

end XsdRecords.Declaration.Declarations
