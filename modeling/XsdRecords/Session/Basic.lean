import XsdRecords.Declaration.Declarations
import XsdRecords.Diagnostic.Journal
import XsdRecords.Markup.Reader
import XsdRecords.Vocabulary.Tag

/-! # The state of a compile

A session holds what the documents read so far declare, the documents still to be read, the
elements, types and tags that are open, and the journal.  A step of reading is an `Action`: what it
did before a problem stays done. -/

namespace XsdRecords

open XsdRecords.Declaration (Declarations ElementId TypeId Element TypeDef Symbol)
open XsdRecords.Markup (Scope)
open XsdRecords.Vocabulary (Tag)

/-- The state of a compile. -/
structure Session where
  /-- Whether extensions, and attributes on choices and simple contents, are accepted. -/
  allowUnsupported : Bool
  registry : Registry := default
  declarations : Declarations := Declarations.initial
  worklist : Worklist
  /-- The open elements and attributes, the innermost first. -/
  elementStack : List ElementId := []
  /-- The open types, the innermost first. -/
  typeStack : List TypeId := []
  /-- The open tags, the innermost first. -/
  tagStack : List Tag := []
  /-- The number of open tags from the outermost one skipped. -/
  skipDepth : Nat := 0
  /-- The attributes of the top-level schema tag. -/
  attributes : List (String × String) := []
  journal : Journal := {}
  /-- The place of the tag being read. -/
  position : Position := {}

namespace Session

/-- The state before the document at a location is read. -/
def start (location : String) (allowUnsupported : Bool) : Session :=
  { allowUnsupported, worklist := .ofTop (.topLevel location) }

def note (s : Session) (e : Event) : Session :=
  { s with journal := s.journal.note e }

/-- Reports a problem at the place of the tag being read. -/
def report (s : Session) (p : Problem) : Session :=
  { s with journal := s.journal.report ⟨p, s.worklist.currentEntry.location, s.position⟩ }

def hasFailed (s : Session) : Bool :=
  s.journal.hasFailed

@[simp] theorem hasFailed_note (s : Session) (e : Event) : (s.note e).hasFailed = s.hasFailed :=
  rfl

@[simp] theorem declarations_report (s : Session) (p : Problem) :
    (s.report p).declarations = s.declarations := rfl

def target (s : Session) : NamespaceId :=
  s.worklist.currentEntry.target

/-- The URI of the target namespace of the top-level document. -/
def targetUri (s : Session) : String :=
  s.registry.uri s.worklist.top.target

/-- The prefixes in scope in the current document and the namespaces known. -/
def scope (s : Session) : Scope :=
  ⟨s.worklist.currentEntry.bindings, s.registry⟩

/-- Changes the prefixes in scope and the namespaces known. -/
def withScope (s : Session) (scope : Scope) : Session :=
  { s with
    worklist := s.worklist.modifyCurrent fun e => { e with bindings := scope.bindings }
    registry := scope.registry }

/-- The symbol that a qualified name stands for in the current document; empty text is no name. -/
def symbol? (s : Session) (text : Option String) : Option Symbol :=
  match text with
  | none => none
  | some "" => none
  | some text =>
    let (label, localName) := Markup.splitName text
    some ⟨s.worklist.currentEntry.bindings.resolve (label.getD ""), localName⟩

/-- Moves to the next document, if there is one. -/
def advance? (s : Session) : Option Session :=
  s.worklist.advance?.map fun worklist => { s with worklist }

/-- The attributes of the top-level schema tag in the order of their names. -/
def sortedAttributes (s : Session) : List (String × String) :=
  s.attributes.mergeSort fun a b => a.1 ≤ b.1

/-- Sets an attribute of the top-level schema tag. -/
def setAttribute (s : Session) (name value : String) : Session :=
  { s with attributes := (name, value) :: s.attributes.filter (·.1 ≠ name) }

end Session

/-- A step of reading that may end with a problem; what it did before stays done. -/
abbrev Action := ExceptT Problem (StateM Session)

namespace Action

def note (e : Event) : Action Unit :=
  modify (·.note e)

def declarations : Action Declarations :=
  return (← get).declarations

def setDeclarations (d : Declarations) : Action Unit :=
  modify fun s => { s with declarations := d }

def modifyElement (id : ElementId) (f : Element → Element) : Action Unit :=
  modify fun s => { s with declarations := s.declarations.modifyElement id f }

def modifyType (id : TypeId) (f : TypeDef → TypeDef) : Action Unit :=
  modify fun s => { s with declarations := s.declarations.modifyType id f }

/-- Changes the declarations and answers what the change answers. -/
def declare {α : Type} (change : Declarations → Declarations × α) : Action α := do
  let (d, a) := change (← declarations)
  setDeclarations d
  return a

def pushElement (id : ElementId) : Action Unit :=
  modify fun s => { s with elementStack := id :: s.elementStack }

def pushType (id : TypeId) : Action Unit :=
  modify fun s => { s with typeStack := id :: s.typeStack }

/-- Skips the content of the tag being read. -/
def skipContent : Action Unit :=
  modify fun s => { s with skipDepth := s.skipDepth + 1 }

/-- The type of a symbol.  A name in the target namespace may be used before it is defined. -/
def findType (symbol : Symbol) : Action TypeId := do
  let (id, isNew) ← declare (·.findOrAddType symbol)
  if isNew && symbol.namespaceId ≠ (← get).target && symbol.namespaceId ≠ .anonymous then
    throw (.noSuchType symbol.localName)
  if let some builtin := ((← declarations).type id).builtin then
    if builtin.elemType = .void then throw (.unsupportedBuiltin builtin.name)
  return id

end Action

end XsdRecords
