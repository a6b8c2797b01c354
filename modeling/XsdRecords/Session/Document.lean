import XsdRecords.Session.Basic

/-! # Schema, include and import tags -/

namespace XsdRecords.Session

open XsdRecords.Markup (StartTag)
open XsdRecords.Vocabulary (Tag)

/-- Keeps the attributes of the top-level schema tag and the target namespace it declares. -/
def keepTopLevel (s : Session) (tag : StartTag) (declared : NamespaceId) : Session :=
  let s := tag.attributes.foldl (fun s a => s.setAttribute a.qualifiedName a.value) s
  if declared = .none then s
  else
    { s with
      worklist := s.worklist.modifyCurrent fun e => (e.setTarget? declared).getD e }

def startSchema (tag : StartTag) : Action Unit := do
  let uri := (tag.plain? "targetNamespace").getD ""
  let s ← get
  let (registry, declared) := s.registry.register uri
  set { s with registry }
  let entry := s.worklist.currentEntry
  Action.note (.schemaOpened entry.location uri)
  if entry.kind = .topLevel then modify (keepTopLevel · tag declared)
  else if !entry.accepts declared then
    throw (.badTargetNamespace uri (registry.uri entry.target) entry.location)

/-- Include and import tags stand directly under the schema. -/
def ensureUnderSchema (kind : Tag) : Action Unit := do
  let s ← get
  if !(s.typeStack.isEmpty && s.elementStack.isEmpty) then throw (.notUnderRoot kind.name)

/-- Names a document with a target namespace, which is read later if it is new. -/
def nameDocument (kind : DocumentKind) (location uri : String) : Action Unit := do
  let s ← get
  let (entry, registry) :=
    DocumentEntry.nested kind s.worklist.current location uri s.registry
  set { s with registry }
  match s.worklist.classify entry.location entry.target with
  | .new =>
    Action.note (.queuedDocument location (registry.uri entry.target) kind)
    modify fun s => { s with worklist := s.worklist.push entry }
  | .diamond => Action.note (.knownDocument location)
  | .recursive => throw (.recursiveInclusion location)

/-- The start of an include: the document shares the target namespace. -/
def startInclude (tag : StartTag) : Action Unit := do
  ensureUnderSchema .includeTag
  let location := (tag.plain? "schemaLocation").getD ""
  if location = "" then throw .emptySchemaLocation
  let s ← get
  nameDocument .included location (s.registry.uri s.target)

/-- The start of an import: the document has another target namespace.  An import that gives no
location needs no document. -/
def startImport (tag : StartTag) : Action Unit := do
  ensureUnderSchema .importTag
  let s ← get
  let location := (tag.plain? "schemaLocation").getD ""
  let uri := (tag.plain? "namespace").getD ""
  if uri = "" then throw .missingImportNamespace
  if uri = s.registry.uri s.target then throw .importOwnNamespace
  if location = "" then Action.note (.importWithoutLocation uri)
  else nameDocument .imported location uri

end XsdRecords.Session
