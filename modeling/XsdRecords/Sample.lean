import XsdRecords.Compilation

/-! # Synthetic schemas

Schema documents of any wanted size: a single document of records and enumerations, or a chain of
documents that include each other. -/

namespace XsdRecords.Sample

def targetNamespace : String := "urn:bench"

def fieldTypes : List String :=
  ["xs:int", "xs:string", "xs:double", "xs:boolean", "xs:long", "xs:dateTime", "xs:decimal",
    "xs:base64Binary"]

/-- The type of the field of a number. -/
def fieldType (i : Nat) : String :=
  fieldTypes.getD (i % fieldTypes.length) ""

/-- Joins the texts of the numbers below `n`. -/
def repeated (n : Nat) (text : Nat → String) : String :=
  String.join ((List.range n).map text)

def document (body : String) : String :=
  s!"<xs:schema xmlns:xs=\"http://www.w3.org/2001/XMLSchema\" xmlns:t=\"{targetNamespace}\" "
    ++ s!"targetNamespace=\"{targetNamespace}\">\n" ++ body ++ "</xs:schema>\n"

def enumeration (name : String) (enumerators : Nat) : String :=
  s!"  <xs:simpleType name=\"{name}\"><xs:restriction base=\"xs:string\">\n"
    ++ repeated enumerators (fun i => s!"    <xs:enumeration value=\"{name}_V{i}\"/>\n")
    ++ "  </xs:restriction></xs:simpleType>\n"

/-- The fields of a record: scalars, an enumeration if there is one, and an array. -/
def fields (count : Nat) (enumeration : Option String) : String :=
  let scalar (i : Nat) : String :=
    s!"      <xs:element name=\"f{i}\" type=\"" ++ fieldType i ++ "\" minOccurs=\"0\"/>\n"
  let kind := match enumeration with
    | some name => s!"      <xs:element name=\"kind\" type=\"t:{name}\"/>\n"
    | none => ""
  "    <xs:sequence>\n" ++ repeated count scalar ++ kind
    ++ "      <xs:element name=\"items\" type=\"xs:int\" minOccurs=\"0\" maxOccurs=\"unbounded\"/>"
    ++ "\n    </xs:sequence>\n"

structure Shape where
  records : Nat
  fields : Nat
  enumerations : Nat
  enumerators : Nat

/-- One document; its records take the enumerations in turn. -/
def flat (shape : Shape) : String :=
  let enumerations := repeated shape.enumerations fun e =>
    enumeration s!"Enum{e}" shape.enumerators
  let record (r : Nat) : String :=
    let kind := if 0 < shape.enumerations then some s!"Enum{r % shape.enumerations}" else none
    s!"  <xs:element name=\"Record{r}\"><xs:complexType>\n" ++ fields shape.fields kind
      ++ "  </xs:complexType></xs:element>\n"
  document (enumerations ++ repeated shape.records record)

/-- The location of a part of a chain. -/
def partLocation (i : Nat) : String :=
  s!"part{i}.xsd"

def includePart (i : Nat) : String :=
  "  <xs:include schemaLocation=\"" ++ partLocation i ++ "\"/>\n"

/-- A part of a chain of `depth` parts: the next part is included and types are defined. -/
def part (depth typesPerPart fieldCount i : Nat) : String :=
  let next := if i + 1 < depth then includePart (i + 1) else ""
  let type (t : Nat) : String :=
    s!"  <xs:complexType name=\"Part{i}Type{t}\">\n" ++ fields fieldCount none
      ++ "  </xs:complexType>\n"
  document (next ++ repeated typesPerPart type)

/-- The first document of a chain, with an element for each type of each part. -/
def chainMain (depth typesPerPart : Nat) : String :=
  let first := if 0 < depth then includePart 0 else ""
  let element (i t : Nat) : String :=
    s!"  <xs:element name=\"Part{i}Element{t}\" type=\"t:Part{i}Type{t}\"/>\n"
  document (first ++ repeated depth fun i => repeated typesPerPart (element i))

def chainParts (depth typesPerPart fieldCount : Nat) : Library :=
  (List.range depth).map fun i =>
    (partLocation i, .ofText (part depth typesPerPart fieldCount i))

end XsdRecords.Sample
