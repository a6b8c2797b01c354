import XsdRecords.Session.Document
import XsdRecords.Session.Element
import XsdRecords.Session.Type

/-! # Reading a document

Each tag is checked against the vocabulary and then acted upon.  Reading ends with the document or
with the first failure. -/

namespace XsdRecords.Session

open XsdRecords.Markup (Lexed Lexeme Node Reader ReaderFault Source StartTag)
open XsdRecords.Vocabulary (Tag)

/-- Runs an action and reports its problem. -/
def perform (s : Session) (action : Action Unit) : Session :=
  match (ExceptT.run action).run s with
  | (.ok _, s) => s
  | (.error problem, s) => s.report problem

/-- Rejects a tag, whose content is skipped. -/
def reject (kind : Tag) : Action Unit := do
  Action.skipContent
  throw (.unsupported kind.name)

def startAction (kind : Tag) (tag : StartTag) : Action Unit :=
  match kind.entry.start with
  | .reject => reject kind
  | .passThrough => Action.note (.passedThrough kind.name)
  | .skip => do
    Action.note (.skipping kind.name)
    Action.skipContent
  | .defineAttribute => startElement tag true
  | .defineElement => startElement tag false
  | .defineRecord => startGroup tag kind
  | .defineType => startType tag kind
  | .addEnumerator => startEnumerator tag
  | .extendType => do
    if (← get).allowUnsupported then startDerivation tag false else reject kind
  | .refuseGroup => do
    Action.skipContent
    throw .groupsUnsupported
  | .importDocument => startImport tag
  | .includeDocument => startInclude tag
  | .deriveList => startDerivation tag true
  | .restrictType => startDerivation tag false
  | .openSchema => startSchema tag

def endAction (kind : Tag) : Action Unit :=
  match kind.entry.stop with
  | .closeElement | .closeAttribute => endElement
  | .closeType => endType
  | .closeRecord => endGroup
  | .closeSchema | .nothing => return

def parentTag (s : Session) : Tag :=
  s.tagStack.headD .outside

/-- What is wrong with a tag where it stands, if something is.  In skipped content any tag will do
that its parent allows. -/
def findTag (s : Session) (tag : StartTag) : Except Problem Tag :=
  let name := tag.name.localName
  if s.skipDepth = 0 && tag.name.namespaceId ≠ .xmlSchema then
    .error (.unknownNamespace tag.name.namespaceUri name)
  else
    match Tag.ofName? name with
    | none => if 0 < s.skipDepth then .ok .outside else .error (.unknownTag name)
    | some kind => .ok kind

/-- Checks a tag against the content of its parent. -/
def checkContent (s : Session) (name : String) (kind : Tag) : Except Problem Unit :=
  if (parentTag s).allows kind then .ok ()
  else if s.tagStack.isEmpty then .error (.invalidRoot name)
  else
    .error (.invalidContent name (parentTag s).name
      ((parentTag s).expected s.allowUnsupported))

def noteAttributes (s : Session) (kind : Tag) (tag : StartTag) : Session :=
  tag.attributes.foldl
    (fun s a => s.note (.attributeSeen kind.name a.qualifiedName a.value)) s

def readStart (s : Session) (tag : StartTag) (position : Position) : Session :=
  let s := { s with position }
  match findTag s tag with
  | .error problem => s.report problem
  | .ok kind =>
    match checkContent s tag.name.localName kind with
    | .error problem => s.report problem
    | .ok _ =>
      let s := { s with tagStack := kind :: s.tagStack }
      if 0 < s.skipDepth then { s with skipDepth := s.skipDepth + 1 }
      else (noteAttributes s kind tag).perform (startAction kind tag)

def readStop (s : Session) (position : Position) : Session :=
  let s := { s with position }
  match s.tagStack with
  | [] => s
  | kind :: _ =>
    let s :=
      if 0 < s.skipDepth then { s with skipDepth := s.skipDepth - 1 }
      else s.perform (endAction kind)
    { s with tagStack := s.tagStack.tail }

/-- Reads a node.  An empty tag ends at once, unless reading has failed. -/
def readNode (s : Session) (node : Node) (position : Position) : Session :=
  match node with
  | .stop _ => readStop s position
  | .start tag =>
    let s := readStart s tag position
    if tag.isEmpty && !s.hasFailed then readStop s position else s

/-- Reads lexemes up to the end of the document or the first failure. -/
def readLexemes (s : Session) (r : Reader) : List Lexeme → Session
  | [] => s
  | lexeme :: rest =>
    if s.hasFailed then s
    else
      let (r, scope, result) := r.deliver s.scope lexeme
      let s := s.withScope scope
      match result with
      | .error fault => { s with position := r.position }.report (.markup fault.message)
      | .ok none => s
      | .ok (some node) => readLexemes (readNode s node r.position) r rest

def beginDocument (s : Session) : Session :=
  { s.note (.readingDocument s.worklist.currentEntry.location) with
    tagStack := []
    skipDepth := 0
    position := {} }

def readDocument (s : Session) (source : Source) : Session :=
  let location := s.worklist.currentEntry.location
  let s := s.beginDocument
  match source with
  | .failing reason =>
    (s.note (.unreadableDocument location (ReaderFault.io reason).message)).report
      (.openFailed location)
  | .bytes content =>
    readLexemes s (Reader.ofDocument content) (Lexed.ofDocument content).lexemes

end XsdRecords.Session
