import XsdRecords.Session.Reading

/-! # The tags of a document as a forest

What a complex type holds is read off the tree of its tags: `Forest.entries` lists the fields that
the tags of a forest stand for, the groups that are fields of their own with what they hold.
`Entries.LaidOut` says that a session has these fields, and `visits` are the nodes of a document,
each with the state that it is read in. -/

namespace XsdRecords

open XsdRecords.Declaration (ElementId TypeId)
open XsdRecords.Markup (Lexed Lexeme Node Reader Source StartTag TagName)
open XsdRecords.Vocabulary (Tag)

namespace Markup.StartTag

/-- What kind of tag this is; unknown names are outside the vocabulary. -/
def kind (tag : StartTag) : Tag :=
  (Tag.ofName? tag.name.localName).getD .outside

/-- The name of the field that a tag declares: the local part of its reference, or its name. -/
def fieldName (tag : StartTag) : String :=
  match tag.plain? "ref" with
  | none | some "" => (tag.plain? "name").getD ""
  | some reference => (splitName reference).2

/-- The least number of occurrences, one unless the tag gives another. -/
def least (tag : StartTag) : Int :=
  match Session.minOccurs? tag with
  | .ok (some n) => n
  | _ => 1

/-- The largest number of occurrences, one unless the tag gives another. -/
def largest (tag : StartTag) : Int :=
  match Session.maxOccurs? tag with
  | .ok (some n) => n
  | _ => 1

end Markup.StartTag

namespace Session

/-! ## Forests -/

/-- Tags next to each other, each with the tags inside it, in the order of the document. -/
inductive Forest where
  | nil
  | cons (tag : StartTag) (content rest : Forest)

/-- What a forest looks like in a document: a tag ends with a tag of its own, unless it is empty. -/
def Forest.Spells : Forest → List Node → Prop
  | .nil, nodes => nodes = []
  | .cons tag content rest, nodes =>
    if tag.isEmpty then
      content = .nil ∧ ∃ after, nodes = .start tag :: after ∧ rest.Spells after
    else
      ∃ inside name after, nodes = .start tag :: (inside ++ .stop name :: after) ∧
        content.Spells inside ∧ rest.Spells after

theorem Forest.spells_nil : Forest.nil.Spells [] :=
  rfl

theorem Forest.spells_empty (tag : StartTag) {rest : Forest} {after : List Node}
    (isEmpty : tag.isEmpty = true) (spells : rest.Spells after) :
    (Forest.cons tag .nil rest).Spells (.start tag :: after) := by
  rw [Forest.Spells, if_pos isEmpty]
  exact ⟨rfl, after, rfl, spells⟩

theorem Forest.spells_tag (tag : StartTag) {content rest : Forest} {inside after : List Node}
    (name : TagName) (nonEmpty : tag.isEmpty = false) (spells : content.Spells inside)
    (spellsRest : rest.Spells after) :
    (Forest.cons tag content rest).Spells (.start tag :: (inside ++ .stop name :: after)) := by
  rw [Forest.Spells, nonEmpty]
  exact ⟨inside, name, after, rfl, spells, spellsRest⟩

/-- The open tags after a node, the innermost first. -/
def stepTags (opened : List StartTag) : Node → List StartTag
  | .start tag => if tag.isEmpty then opened else tag :: opened
  | .stop _ => opened.tail

/-- The tags that some nodes leave open, the innermost first. -/
def openTags (nodes : List Node) : List StartTag :=
  nodes.foldl stepTags []

/-! ## Fields that tags stand for -/

/-- Fields in order. -/
inductive Entries where
  | nil
  | field (isAttribute : Bool) (name : String) (rest : Entries)
  /-- A field without a tag of its own that holds the fields of a group. -/
  | group (isChoice : Bool) (inner rest : Entries)
  deriving DecidableEq, Repr

namespace Entries

/-- Fields before others. -/
def append : Entries → Entries → Entries
  | .nil, later => later
  | .field isAttribute name rest, later => .field isAttribute name (rest.append later)
  | .group isChoice inner rest, later => .group isChoice inner (rest.append later)

instance : Append Entries := ⟨append⟩

@[simp] theorem nil_append (later : Entries) : nil ++ later = later := rfl

@[simp] theorem field_append (isAttribute : Bool) (name : String) (rest later : Entries) :
    field isAttribute name rest ++ later = field isAttribute name (rest ++ later) := rfl

@[simp] theorem group_append (isChoice : Bool) (inner rest later : Entries) :
    group isChoice inner rest ++ later = group isChoice inner (rest ++ later) := rfl

@[simp] theorem append_nil (entries : Entries) : entries ++ nil = entries := by
  induction entries with
  | nil => rfl
  | field isAttribute name rest ih => rw [field_append, ih]
  | group isChoice inner rest _ ih => rw [group_append, ih]

end Entries

/-- Whether a sequence or choice is a field of its own: it stands in another, or it is the outermost
one and may be repeated, or be absent where no element encloses it. -/
def isWrapped (parent : Tag) (isEnclosed : Bool) (tag : StartTag) : Bool :=
  parent = .choice || parent = .sequence ||
    (parent = .complexType && (1 < tag.largest || (tag.least < 1 && !isEnclosed)))

/-- Whether a tag makes up the name of the type that it opens. -/
def makesUpName (parent : Tag) (isEnclosed : Bool) (tag : StartTag) (kind : Tag) : Bool :=
  match kind with
  | .complexType | .simpleType => isEnclosed
  | .choice | .sequence => isWrapped parent isEnclosed tag
  | _ => false

namespace Forest

/-- The fields that the tags inside `parent` stand for. -/
def entries (parent : Tag) (isEnclosed : Bool) : Forest → Entries
  | .nil => .nil
  | .cons tag content rest =>
    let own : Entries :=
      match tag.kind with
      | .attributeTag => .field true tag.fieldName .nil
      | .element => .field false tag.fieldName .nil
      | .all | .simpleContent | .complexContent | .restriction | .extension =>
        content.entries tag.kind isEnclosed
      | .choice | .sequence =>
        let inner := content.entries tag.kind isEnclosed
        if isWrapped parent isEnclosed tag then .group (tag.kind = .choice) inner .nil else inner
      | _ => .nil
    own ++ rest.entries parent isEnclosed

end Forest

/-! ## Fields that a session has -/

/-- An element that has a type or a reference and is open no more. -/
def HasClosedElement (s : Session) (id : ElementId) : Prop :=
  (s.declarations.element id).isDefined = true ∧ id ∉ s.elementStack

/-- A type that is defined and open no more. -/
def HasClosedType (s : Session) (id : TypeId) : Prop :=
  (s.declarations.type id).isDefined = true ∧ id ∉ s.typeStack

/-- The fields of a type are these entries, no more and no less, and each group has a type with
exactly the fields of the group. -/
def Entries.LaidOut (s : Session) : Entries → List (String × ElementId) → Prop
  | .nil, fields => fields = []
  | .field isAttribute name rest, fields =>
    ∃ id later, fields = (name, id) :: later ∧ s.HasClosedElement id ∧
      (s.declarations.element id).isUntagged = false ∧
      (s.declarations.element id).isAttribute = isAttribute ∧ rest.LaidOut s later
  | .group isChoice inner rest, fields =>
    ∃ id type later, fields = (untaggedName, id) :: later ∧ s.HasClosedElement id ∧
      (s.declarations.element id).isUntagged = true ∧
      (s.declarations.element id).directType = some type ∧ s.HasClosedType type ∧
      (s.declarations.type type).symbol.namespaceId = .anonymous ∧
      (s.declarations.type type).isChoice = isChoice ∧
      inner.LaidOut s (s.declarations.type type).fields ∧ rest.LaidOut s later

/-! ## The nodes of a document -/

/-- A node of a document, the state that it is read in, and its place. -/
structure Visit where
  session : Session
  node : Node
  position : Position

/-- The state after a node. -/
def Visit.after (v : Visit) : Session :=
  v.session.readNode v.node v.position

/-- The nodes that some lexemes deliver, up to the end of the document or the first failure. -/
def visitsOf (s : Session) (r : Reader) : List Lexeme → List Visit
  | [] => []
  | lexeme :: rest =>
    if s.hasFailed then []
    else
      let (r, scope, result) := r.deliver s.scope lexeme
      let s := s.withScope scope
      match result with
      | .ok (some node) =>
        let visit : Visit := ⟨s, node, r.position⟩
        visit :: visitsOf visit.after r rest
      | _ => []

/-- The nodes of the current document. -/
def visits (s : Session) (source : Source) : List Visit :=
  match source with
  | .failing _ => []
  | .bytes content =>
    visitsOf s.beginDocument (Reader.ofDocument content) (Lexed.ofDocument content).lexemes

end Session

end XsdRecords
