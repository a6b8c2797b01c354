import XsdRecords.Markup.Attribute
import XsdRecords.Markup.Cursor
import XsdRecords.Markup.Lexer
import XsdRecords.Namespace.Bindings

/-! # Reading tags with their namespaces

The reader delivers the tags of a document one after another.  A start tag binds the prefixes that
it declares before any of its names is resolved; the bindings of an element are dropped by the
reading that follows its end. -/

namespace XsdRecords.Markup

/-- What a document is read from: its bytes, or a stream that fails. -/
inductive Source where
  | bytes (content : List UInt8)
  | failing (reason : String)
  deriving DecidableEq, Repr

def Source.ofText (text : String) : Source :=
  .bytes (Text.Utf8.encodeText text)

def Source.size : Source → Nat
  | .bytes content => content.length
  | .failing _ => 0

/-- An attribute of a start tag.  One without a prefix is in no namespace. -/
structure Attribute where
  qualifiedName : String
  localName : String
  namespaceId : NamespaceId
  value : String
  deriving DecidableEq, Repr

structure TagName where
  localName : String
  namespaceId : NamespaceId
  namespaceUri : String
  deriving DecidableEq, Repr

/-- A start tag, or an empty tag, which ends at once. -/
structure StartTag where
  name : TagName
  attributes : List Attribute
  isEmpty : Bool
  deriving DecidableEq, Repr

/-- The attribute of a local name in a namespace. -/
def StartTag.attribute? (t : StartTag) (localName : String) (id : NamespaceId) :
    Option Attribute :=
  t.attributes.find? fun a => a.localName = localName && a.namespaceId = id

/-- The value of an attribute that is in no namespace. -/
def StartTag.plain? (t : StartTag) (localName : String) : Option String :=
  (t.attribute? localName .none).map (·.value)

/-- The value of an annotation attribute. -/
def StartTag.annotated? (t : StartTag) (localName : String) : Option String :=
  (t.attribute? localName .annotations).map (·.value)

inductive Node where
  | start (tag : StartTag)
  | stop (name : TagName)
  deriving DecidableEq, Repr

/-- The prefix, if there is one, and the local part of a qualified name. -/
def splitName (name : String) : Option String × String :=
  match Text.cutAt? ':' name.toList with
  | some (label, localName) => (some (String.ofList label), String.ofList localName)
  | none => (none, name)

/-- The prefixes in scope and the namespaces known. -/
structure Scope where
  bindings : Bindings := {}
  registry : Registry := default
  deriving Inhabited

namespace Scope

/-- The prefix that an attribute declares. -/
def declared? (key : String) : Option String :=
  if key = "xmlns" then some ""
  else (Text.dropStart? "xmlns:".toList key.toList).map String.ofList

/-- Binds the prefix that an attribute declares, if it declares one. -/
def declare (s : Scope) (key value : String) : Scope :=
  match declared? key with
  | none => s
  | some label =>
    let (bindings, registry, _) := s.bindings.bindUri s.registry label value
    ⟨bindings, registry⟩

/-- Resolves the name of a tag; a name without a prefix is in the default namespace. -/
def tagName (s : Scope) (name : String) : TagName :=
  let (label, localName) := splitName name
  let id := s.bindings.resolve (label.getD "")
  ⟨localName, id, s.registry.uri id⟩

def resolveAttribute (s : Scope) (key value : String) : Attribute :=
  let (label, localName) := splitName key
  let id : NamespaceId :=
    if key = "xmlns" then .xmlns
    else match label with
      | some label => s.bindings.resolve label
      | none => .none
  ⟨key, localName, id, value⟩

/-- Reads the text of a start tag.  The prefixes declared before a fault stay bound. -/
def readStart (s : Scope) (text : List UInt8) (isEmpty : Bool) :
    Scope × Except ReaderFault StartTag :=
  let (pairs, fault) := readAttributes text
  let s := pairs.foldl (fun s (key, value) => s.declare key value) s
  match fault with
  | some fault => (s, .error fault)
  | none =>
    match Text.Utf8.decodeText (Markup.tagName text) with
    | .error fault => (s, .error (.utf8 fault))
    | .ok name =>
      let attributes := pairs.map fun (key, value) => s.resolveAttribute key value
      (s, .ok ⟨s.tagName name, attributes, isEmpty⟩)

end Scope

/-- A reader in a document: its place, for each open element the number of bindings outside it, and
the number of bindings that are to stay at the next reading. -/
structure Reader where
  cursor : Cursor := {}
  marks : List Nat := []
  pending : Option Nat := none
  deriving Inhabited

namespace Reader

/-- A reader at the start of a document. -/
def ofDocument (document : List UInt8) : Reader :=
  { cursor := Cursor.start document }

/-- Drops the bindings of an element that has ended. -/
def settle (r : Reader) (s : Scope) : Reader × Scope :=
  match r.pending with
  | none => (r, s)
  | some size => ({ r with pending := none }, { s with bindings := s.bindings.truncate size })

/-- Reads a lexeme: a node, the end of the document, or a fault. -/
def deliver (r : Reader) (s : Scope) (lexeme : Lexeme) :
    Reader × Scope × Except ReaderFault (Option Node) :=
  let (r, s) := r.settle s
  let r := { r with cursor := r.cursor.moveTo lexeme.offset }
  match lexeme.token with
  | .finish => (r, s, .ok none)
  | .fault fault => (r, s, .error fault)
  | .start text isEmpty =>
    let mark := s.bindings.size
    let (s, result) := s.readStart text isEmpty
    match result with
    | .error fault => (r, s, .error fault)
    | .ok tag =>
      let r :=
        if isEmpty then { r with pending := some mark }
        else { r with marks := mark :: r.marks }
      (r, s, .ok (some (.start tag)))
  | .stop name =>
    match Text.Utf8.decodeText name with
    | .error fault => (r, s, .error (.utf8 fault))
    | .ok name =>
      ({ r with pending := r.marks.head?, marks := r.marks.tail }, s,
        .ok (some (.stop (s.tagName name))))

/-- The line and column of what was read last. -/
def position (r : Reader) : Position :=
  r.cursor.position

end Reader

/-! ## A reader that documents are opened in -/

/-- The document open in a session: a reader, the lexemes to come and the offset past them. -/
structure OpenDocument where
  reader : Reader
  lexemes : List Lexeme
  stop : Nat

/-- A sequence of readings, with at most one document open at a time. -/
structure ReaderSession where
  location : String := ""
  document : Option OpenDocument := none
  node : Option Node := none

namespace ReaderSession

/-- Opens a document; if that fails nothing changes. -/
def openDocument (rs : ReaderSession) (source : Source) (location : String) :
    Except ReaderFault ReaderSession :=
  match source with
  | .failing reason => .error (.io reason)
  | .bytes content =>
    let lexed := Lexed.ofDocument content
    .ok { rs with
      location
      document := some ⟨Reader.ofDocument content, lexed.lexemes, lexed.stop⟩
      node := none }

def close (rs : ReaderSession) : ReaderSession :=
  { rs with document := none, node := none }

def advance (rs : ReaderSession) (s : Scope) :
    ReaderSession × Scope × Except ReaderFault (Option Node) :=
  match rs.document with
  | none => ({ rs with node := none }, s, .error .notOpen)
  | some d =>
    let (lexeme, rest) : Lexeme × List Lexeme := match d.lexemes with
      | [] => (⟨d.stop, .finish⟩, [])
      | lexeme :: rest => (lexeme, rest)
    let (reader, s, result) := d.reader.deliver s lexeme
    let node := match result with
      | .ok node => node
      | .error _ => none
    ({ rs with document := some { d with reader, lexemes := rest }, node }, s, result)

/-- The line and column of what was read last. -/
def position (rs : ReaderSession) : Position :=
  match rs.document with
  | none => ⟨1, 1⟩
  | some d => d.reader.position

/-- The attribute of the current start tag of a local name in a namespace. -/
def attribute? (rs : ReaderSession) (localName : String) (id : NamespaceId) : Option Attribute :=
  match rs.node with
  | some (.start tag) => tag.attribute? localName id
  | _ => none

end ReaderSession

end XsdRecords.Markup
