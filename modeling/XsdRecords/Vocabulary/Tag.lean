import XsdRecords.Text.Utf8

/-! # The tags of XML Schema

Every tag has a name, an action for its start, an action for its end, and a content: the tags that
may stand inside it.  The table is sorted by name in byte order, and `Tag.ofName?` finds a name in
it by halving. -/

namespace XsdRecords.Vocabulary

inductive Tag where
  /-- What is outside all tags: the document itself, and an unknown tag in skipped content. -/
  | outside
  | all
  | annotationTag
  | any
  | anyAttribute
  | appinfo
  | attributeTag
  | attributeGroup
  | choice
  | complexContent
  | complexType
  | documentation
  | element
  | enumeration
  | extension
  | field
  | fractionDigits
  | group
  | importTag
  | includeTag
  | key
  | keyref
  | length
  | list
  | maxExclusive
  | maxInclusive
  | maxLength
  | minExclusive
  | minInclusive
  | minLength
  | notationTag
  | pattern
  | redefine
  | restriction
  | schema
  | selector
  | sequence
  | simpleContent
  | simpleType
  | totalDigits
  | union
  | unique
  | whiteSpace
  /-- A member of the content of a tag that may hold any tag. -/
  | wildcard
  deriving DecidableEq, Repr, Inhabited

/-- What happens at a start tag. -/
inductive StartAction where
  /-- The tag is reported and its content skipped. -/
  | reject
  /-- The tag has no meaning of its own, its content has. -/
  | passThrough
  /-- The tag and its content have no meaning. -/
  | skip
  | defineAttribute
  | defineRecord
  | defineType
  | defineElement
  | addEnumerator
  /-- The tag is a restriction where that is allowed, and rejected otherwise. -/
  | extendType
  | refuseGroup
  | importDocument
  | includeDocument
  | deriveList
  | restrictType
  | openSchema
  deriving DecidableEq, Repr

/-- Whether an action always reports a problem. -/
def StartAction.isRejected (allowUnsupported : Bool) : StartAction → Bool
  | .reject => true
  | .extendType => !allowUnsupported
  | _ => false

/-- What happens at an end tag. -/
inductive EndAction where
  | closeSchema
  | closeElement
  | closeAttribute
  | closeType
  | closeRecord
  | nothing
  deriving DecidableEq, Repr

/-- What the vocabulary says of a tag. -/
structure Entry where
  name : String
  start : StartAction
  stop : EndAction
  content : List Tag
  deriving DecidableEq, Repr

/-- The content of a tag that holds nothing but annotations. -/
def annotationOnly : List Tag := [.annotationTag]

/-- The groups of fields and the attributes that may stand in a complex type. -/
def fieldContent : List Tag :=
  [.annotationTag, .group, .all, .choice, .sequence, .attributeTag, .attributeGroup, .anyAttribute]

def identityContent : List Tag := [.annotationTag, .selector, .field]

/-- The content of a choice or a sequence. -/
def groupContent : List Tag := [.annotationTag, .element, .group, .choice, .sequence, .any]

/-- The content of a simple or complex content. -/
def derivationContent : List Tag := [.annotationTag, .restriction, .extension]

def facets : List Tag :=
  [.minExclusive, .minInclusive, .maxExclusive, .maxInclusive, .totalDigits, .fractionDigits,
    .length, .minLength, .maxLength, .enumeration, .whiteSpace, .pattern]

def outsideEntry : Entry := ⟨"", .reject, .nothing, [.schema]⟩

/-- The entries of the tags that have a name, sorted by it. -/
def namedEntries : List Entry :=
  [ ⟨"all", .passThrough, .nothing, [.annotationTag, .element]⟩,
    ⟨"annotation", .skip, .nothing, [.appinfo, .documentation]⟩,
    ⟨"any", .reject, .nothing, annotationOnly⟩,
    ⟨"anyAttribute", .reject, .nothing, annotationOnly⟩,
    ⟨"appinfo", .skip, .nothing, [.wildcard]⟩,
    ⟨"attribute", .defineAttribute, .closeAttribute, [.annotationTag, .simpleType]⟩,
    ⟨"attributeGroup", .skip, .nothing,
      [.annotationTag, .attributeTag, .attributeGroup, .anyAttribute]⟩,
    ⟨"choice", .defineRecord, .closeRecord, groupContent⟩,
    ⟨"complexContent", .passThrough, .nothing, derivationContent⟩,
    ⟨"complexType", .defineType, .closeType,
      [.simpleContent, .complexContent] ++ fieldContent⟩,
    ⟨"documentation", .skip, .nothing, [.wildcard]⟩,
    ⟨"element", .defineElement, .closeElement,
      [.annotationTag, .simpleType, .complexType, .unique, .key, .keyref]⟩,
    ⟨"enumeration", .addEnumerator, .nothing, annotationOnly⟩,
    ⟨"extension", .extendType, .nothing, fieldContent⟩,
    ⟨"field", .skip, .nothing, annotationOnly⟩,
    ⟨"fractionDigits", .skip, .nothing, annotationOnly⟩,
    ⟨"group", .refuseGroup, .nothing, [.annotationTag, .all, .choice, .sequence]⟩,
    ⟨"import", .importDocument, .nothing, annotationOnly⟩,
    ⟨"include", .includeDocument, .nothing, annotationOnly⟩,
    ⟨"key", .skip, .nothing, identityContent⟩,
    ⟨"keyref", .skip, .nothing, identityContent⟩,
    ⟨"length", .skip, .nothing, annotationOnly⟩,
    ⟨"list", .deriveList, .nothing, [.annotationTag, .simpleType]⟩,
    ⟨"maxExclusive", .skip, .nothing, annotationOnly⟩,
    ⟨"maxInclusive", .skip, .nothing, annotationOnly⟩,
    ⟨"maxLength", .skip, .nothing, annotationOnly⟩,
    ⟨"minExclusive", .skip, .nothing, annotationOnly⟩,
    ⟨"minInclusive", .skip, .nothing, annotationOnly⟩,
    ⟨"minLength", .skip, .nothing, annotationOnly⟩,
    ⟨"notation", .skip, .nothing, annotationOnly⟩,
    ⟨"pattern", .skip, .nothing, annotationOnly⟩,
    ⟨"redefine", .reject, .nothing,
      [.annotationTag, .simpleType, .complexType, .group, .attributeGroup]⟩,
    ⟨"restriction", .restrictType, .nothing, fieldContent ++ facets⟩,
    ⟨"schema", .openSchema, .closeSchema,
      [.includeTag, .importTag, .redefine, .annotationTag, .simpleType, .complexType, .group,
        .attributeGroup, .element, .attributeTag, .notationTag]⟩,
    ⟨"selector", .skip, .nothing, annotationOnly⟩,
    ⟨"sequence", .defineRecord, .closeRecord, groupContent⟩,
    ⟨"simpleContent", .passThrough, .nothing, derivationContent⟩,
    ⟨"simpleType", .defineType, .closeType,
      [.annotationTag, .restriction, .list, .union]⟩,
    ⟨"totalDigits", .skip, .nothing, annotationOnly⟩,
    ⟨"union", .reject, .nothing, [.annotationTag, .simpleType]⟩,
    ⟨"unique", .skip, .nothing, identityContent⟩,
    ⟨"whiteSpace", .skip, .nothing, annotationOnly⟩ ]

/-- All entries, each at the place that is the number of its tag. -/
def entries : List Entry := outsideEntry :: namedEntries

/-- The tags that have an entry, in the order of the entries. -/
def tags : List Tag :=
  [ .outside, .all, .annotationTag, .any, .anyAttribute, .appinfo, .attributeTag, .attributeGroup,
    .choice, .complexContent, .complexType, .documentation, .element, .enumeration, .extension,
    .field, .fractionDigits, .group, .importTag, .includeTag, .key, .keyref, .length, .list,
    .maxExclusive, .maxInclusive, .maxLength, .minExclusive, .minInclusive, .minLength,
    .notationTag, .pattern, .redefine, .restriction, .schema, .selector, .sequence,
    .simpleContent, .simpleType, .totalDigits, .union, .unique, .whiteSpace ]

namespace Tag

/-- The number of a tag: its place among the constructors. -/
def index (t : Tag) : Nat := t.ctorIdx

/-- The entry of a tag; the wildcard has that of no tag. -/
def entry (t : Tag) : Entry :=
  entries.getD t.index outsideEntry

def name (t : Tag) : String := t.entry.name

/-- The tags in the content of a tag, in the order of names. -/
def children (t : Tag) : List Tag :=
  (tags.drop 1).filter (t.entry.content.contains ·)

/-- Whether a tag may stand inside `parent`; no tag may stand anywhere. -/
def allows (parent t : Tag) : Bool :=
  t = .outside || parent.entry.content.contains t || parent.entry.content.contains .wildcard

end Tag

/-- The tag that an entry belongs to. -/
def Entry.tag (e : Entry) : Tag :=
  (tags.find? (·.entry = e)).getD .outside

/-- Whether one name comes before another in byte order. -/
def nameLess : List UInt8 → List UInt8 → Bool
  | [], [] => false
  | [], _ :: _ => true
  | _ :: _, [] => false
  | a :: as, b :: bs => if a = b then nameLess as bs else a < b

/-- The place of a name among entries sorted by name: the half that cannot hold it is dropped. -/
def searchSorted (name : List UInt8) (table : Array Entry) (low high : Nat) : Option Nat :=
  if low < high then
    let middle := (low + high) / 2
    match table[middle]? with
    | none => none
    | some entry =>
      let here := Text.Utf8.encodeText entry.name
      if nameLess here name then searchSorted name table (middle + 1) high
      else if nameLess name here then searchSorted name table low middle
      else some middle
  else none
  termination_by high - low

/-- The tag of a name.  The first entry, which has no name, is not searched: the tag of an entry that
is found stands one place later among the tags. -/
def Tag.ofName? (name : String) : Option Tag :=
  let table := namedEntries.toArray
  (searchSorted (Text.Utf8.encodeText name) table 0 table.size).bind fun place => tags[place + 1]?

/-! ## The check of the table

The table is checked when it is built: its names must rise in byte order, by a comparison of names of
its own, and the place of every tag in the list of tags must be its number. -/

/-- Whether one sequence of bytes comes before another that agrees with it up to place `i`: the first
place where they differ decides, and where there is none, the shorter one comes first. -/
def precedesFrom (a b : Array UInt8) (i : Nat) : Bool :=
  if here : i < a.size ∧ i < b.size then
    have := here.1
    have := here.2
    if a[i] ≠ b[i] then a[i] < b[i] else precedesFrom a b (i + 1)
  else a.size < b.size
  termination_by a.size - i

def precedes (a b : String) : Bool :=
  precedesFrom (Text.Utf8.encodeText a).toArray (Text.Utf8.encodeText b).toArray 0

/-- Whether every name from place `i` on comes after the one before it. -/
def risesFrom (table : Array Entry) (i : Nat) : Bool :=
  if here : i < table.size then
    if precedes table[i - 1].name table[i].name then risesFrom table (i + 1) else false
  else true
  termination_by table.size - i

/-- Whether every tag from place `i` on stands at the place of its number. -/
def placedFrom (tags : Array Tag) (i : Nat) : Bool :=
  if here : i < tags.size then
    if tags[i].index = i then placedFrom tags (i + 1) else false
  else true
  termination_by tags.size - i

theorem entries_rise : risesFrom entries.toArray 1 = true := by decide +kernel

theorem tags_placed : placedFrom tags.toArray 0 = true := by decide +kernel

/-! ## Expected tags -/

/-- Writes alternatives: none, one, two, or a list with commas. -/
def renderAlternatives : List String → String
  | [] => "NOTHING"
  | [only] => s!"<{only}>"
  | [first, second] => s!"<{first}> or <{second}>"
  | names =>
    let quoted := names.map fun name => s!"<{name}>"
    String.intercalate ", " quoted.dropLast ++ ", or " ++ quoted.getLastD ""

/-- The tags expected inside a tag, those that are always rejected left out. -/
def Tag.expected (parent : Tag) (allowUnsupported : Bool) : String :=
  let accepted := parent.children.filter fun t => !t.entry.start.isRejected allowUnsupported
  renderAlternatives (accepted.map Tag.name)

end XsdRecords.Vocabulary
