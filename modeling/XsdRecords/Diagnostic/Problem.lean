import XsdRecords.Diagnostic.Severity
import XsdRecords.Layout.RecordSchema

/-! # Problems of a schema

Everything that can be wrong with the documents of a compile, how severe it is and how it is
worded. -/

namespace XsdRecords

/-- Something wrong with the documents of a compile. -/
inductive Problem where
  /-- A document is not readable as markup. -/
  | markup (message : String)
  | openFailed (location : String)
  | unresolvedSchema (location : String)
  | unknownNamespace (uri localName : String)
  | unknownTag (tag : String)
  | invalidRoot (tag : String)
  | invalidContent (tag parent expected : String)
  | unsupported (tag : String)
  | groupsUnsupported
  | badTargetNamespace (got expected location : String)
  | duplicateElement (name : String)
  | duplicateAttribute (name : String)
  | duplicateType (name : String)
  | topLevelElementRef
  | topLevelAttributeRef
  | noSuchElement (name : String)
  | noSuchAttribute (name : String)
  | noSuchType (name : String)
  | unsupportedBuiltin (name : String)
  | elementMissingName
  | attributeMissingName
  | defaultAndFixed
  | invalidUse
  | invalidNumber (attributeName value : String)
  | attributeNotSupported
  | enumerationOutsideType
  | topLevelTypeMissingName
  | namedLocalType
  | namedRecord
  | choiceAfterFields
  | recordContext (tag : String)
  | restrictionOutsideType
  | listOutsideType
  | missingBase
  | missingItemType
  | recursiveDerivation (name : String)
  | notUnderRoot (tag : String)
  | emptySchemaLocation
  | missingImportNamespace
  | importOwnNamespace
  | recursiveInclusion (location : String)
  | undefinedElement
  | noTypeSpecified (record element : String)
  | noIndirectType (record element : String)
  | undefinedType (typeName record element : String)
  | invalidMinOccurs (record element : String)
  | maxBelowMin (record element : String)
  | repeatedArray (record element : String)
  | noDefinition (name : String)
  | nameCollision (name : String)
  | noType (record field : String)
  | invalidDefault (value record field : String)
  | duplicateField (record field : String)
  | duplicateEnumerator (enumeration name : String)
  /-- The record schema refused a definition. -/
  | output (fault : Layout.SchemaFault)
  deriving DecidableEq, Repr

namespace Problem

def severity : Problem → Severity
  | markup _ => .fatal
  | duplicateEnumerator _ _ => .warning
  | _ => .error

/-- What the problems of a name that nothing declares have in common. -/
def noSuch (kind name : String) : String :=
  s!"No such {kind}: \"{name}\".  Missing or incorrect namespace prefix?"

def message : Problem → String
  | markup message => "Schema parser error: " ++ message
  | openFailed location => s!"Unable to open schema document '{location}' for parsing"
  | unresolvedSchema location =>
    s!"Unable to resolve external schema for the schemaLocation = {location}"
  | unknownNamespace uri localName => s!"Unknown schema element namespace: {uri}:{localName}"
  | unknownTag tag => s!"Unknown schema element tag: {tag}"
  | invalidRoot tag => s!"<{tag}> is not valid at the top level.  Expected <schema>."
  | invalidContent tag parent expected =>
    s!"<{tag}> is not valid within <{parent}>.  Expected {expected}."
  | unsupported tag => s!"Unsupported schema element: {tag}"
  | groupsUnsupported => "Groups are not yet supported"
  | badTargetNamespace got expected location =>
    s!"Bad target namespace: got '{got}', expected '{expected}' schemaLocation='{location}'"
  | duplicateElement name => s!"Duplicate definition of element, \"{name}\"."
  | duplicateAttribute name => s!"Duplicate definition of attribute, \"{name}\"."
  | duplicateType name => s!"Duplicate definition of type, \"{name}\"."
  | topLevelElementRef => "Top level elements may not have \"ref\" attributes"
  | topLevelAttributeRef => "Top level attributes may not have \"ref\" attributes"
  | noSuchElement name => noSuch "element" name
  | noSuchAttribute name => noSuch "attribute" name
  | noSuchType name => noSuch "type" name
  | unsupportedBuiltin name => s!"Unsupported built-in XML type: {name}"
  | elementMissingName => "Element is missing name"
  | attributeMissingName => "Attribute is missing a name"
  | defaultAndFixed =>
    "Mutually-exclusive attributes 'default' and 'fixed' are both specified"
  | invalidUse =>
    "'use' attribute must have value 'optional', 'prohibited', or 'required'."
  | invalidNumber attributeName value => s!"Invalid value '{value}' for attribute '{attributeName}'"
  | attributeNotSupported => "Attributes are supported only on <sequence> and <all> types."
  | enumerationOutsideType => "Attempted to add enumeration to a non-type"
  | topLevelTypeMissingName => "Top-level type is missing name."
  | namedLocalType => "Only top-level types may have names."
  | namedRecord => "<choice> or <sequence> can not have a name"
  | choiceAfterFields =>
    "Cannot define a <choice> with previously-defined elements or attributes."
  | recordContext tag => s!"<{tag}> is valid only in <complexType>, <sequence>, or <choice>."
  | restrictionOutsideType => "Attempted to restrict a non-type"
  | listOutsideType => "Attempted to define a list outside of a type"
  | missingBase => "No base type specified in extension/restriction"
  | missingItemType => "No itemType specified for list"
  | recursiveDerivation name => s!"Recursive extension or restriction of type \"{name}\"."
  | notUnderRoot tag => s!"Construct <{tag}> must be directly under the root"
  | emptySchemaLocation => "attribute 'schemaLocation' is empty"
  | missingImportNamespace => "attribute 'namespace' must be specified for <import>"
  | importOwnNamespace =>
    "attribute 'namespace' may not match outer schema's target namespace"
  | recursiveInclusion location => s!"Recursive inclusion of schema '{location}'"
  | undefinedElement => "Element definition has no type"
  | noTypeSpecified record element => s!"No type specified for element \"{record}.{element}\"."
  | noIndirectType record element =>
    s!"No type definition found for (indirect) element \"{record}.{element}\"."
  | undefinedType typeName record element =>
    s!"Undefined type \"{typeName}\" referenced from element \"{record}.{element}\"."
  | invalidMinOccurs record element =>
    s!"Invalid value of 'minOccurs' attribute for element \"{record}.{element}\"."
  | maxBelowMin record element =>
    "'maxOccurs' value must be greater or equal to 'minOccurs' value for element "
      ++ s!"\"{record}.{element}\"."
  | repeatedArray record element =>
    s!"'maxOccurs' is not supported for array types on element \"{record}.{element}\"."
  | noDefinition name => s!"No definition for type \"{name}\"."
  | nameCollision name =>
    s!"A type and a root element both have the name, \"{name},\" but element \"{name}\" "
      ++ s!"is not of type \"{name}.\""
  | noType record field => s!"{record}.{field} has no type."
  | invalidDefault value record field =>
    s!"Invalid default value {value} specified for {record}.{field}"
  | duplicateField record field => s!"{record}.{field} is defined twice."
  | duplicateEnumerator enumeration name =>
    s!"Duplicate enumerator \"{name}\" in enumeration \"{enumeration}\" ignored"
  | output fault => fault.message

end Problem

structure Report where
  problem : Problem
  source : String
  position : Position
  deriving DecidableEq, Repr

def Report.diagnostic (r : Report) : Diagnostic :=
  ⟨r.problem.severity, r.position, r.source, r.problem.message⟩

def Diagnostic.record (d : Diagnostic) (r : Report) : Diagnostic :=
  d.replace r.diagnostic

end XsdRecords
