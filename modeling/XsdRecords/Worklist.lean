import XsdRecords.Namespace.Bindings

/-! # The documents of a compile

The documents that a compile reads, in the order in which they are first named.  Each remembers
which document named it; the chain of these tells a document that includes itself from one that is
merely named twice. -/

namespace XsdRecords

/-- How a document comes into a compile. -/
inductive DocumentKind where
  | topLevel
  /-- It shares the target namespace of the document that names it. -/
  | included
  /-- It has the target namespace that is named with it. -/
  | imported
  deriving DecidableEq, Repr, Inhabited

/-- A document of a compile and the prefixes in scope while it is read. -/
structure DocumentEntry where
  kind : DocumentKind
  parent : Option Nat
  location : String
  target : NamespaceId
  bindings : Bindings
  deriving DecidableEq, Repr, Inhabited

namespace DocumentEntry

def topLevel (location : String) : DocumentEntry :=
  ⟨.topLevel, none, location, .none, Bindings.bind {} "" .none⟩

/-- A document named by the document at `parent`; the namespace of its URI is its target and its
default namespace. -/
def nested (kind : DocumentKind) (parent : Nat) (location uri : String) (r : Registry) :
    DocumentEntry × Registry :=
  let (bindings, r, target) := Bindings.bindUri {} r "" uri
  (⟨kind, some parent, location, target, bindings⟩, r)

/-- Sets the target namespace, unless there is another one. -/
def setTarget? (e : DocumentEntry) (id : NamespaceId) : Option DocumentEntry :=
  if e.target ≠ .none && e.target ≠ id then none else some { e with target := id }

/-- Whether a document may declare a target namespace.  An included document may also declare
none. -/
def accepts (e : DocumentEntry) (declared : NamespaceId) : Bool :=
  match e.kind with
  | .topLevel => true
  | .included => declared = .none || declared = e.target
  | .imported => declared = e.target

end DocumentEntry

/-- Whether a document that is named is new. -/
inductive Inclusion where
  | new
  /-- It was named before, but not on the way to the current document. -/
  | diamond
  /-- It is the current document or on the way to it. -/
  | recursive
  deriving DecidableEq, Repr

/-- The documents of a compile and the place of the current one. -/
structure Worklist where
  documents : Array DocumentEntry
  current : Nat := 0
  deriving DecidableEq, Repr, Inhabited

namespace Worklist

/-- The worklist of a compile that starts with a document. -/
def ofTop (top : DocumentEntry) : Worklist :=
  { documents := #[top] }

def entry (w : Worklist) (index : Nat) : DocumentEntry :=
  w.documents.getD index (.topLevel "")

def currentEntry (w : Worklist) : DocumentEntry :=
  w.entry w.current

def top (w : Worklist) : DocumentEntry :=
  w.entry 0

def modifyCurrent (w : Worklist) (f : DocumentEntry → DocumentEntry) : Worklist :=
  { w with documents := w.documents.modify w.current f }

@[simp] theorem current_modifyCurrent (w : Worklist) (f : DocumentEntry → DocumentEntry) :
    (w.modifyCurrent f).current = w.current := rfl

@[simp] theorem size_modifyCurrent (w : Worklist) (f : DocumentEntry → DocumentEntry) :
    (w.modifyCurrent f).documents.size = w.documents.size :=
  Array.size_modify

theorem currentEntry_modifyCurrent {w : Worklist} (h : w.current < w.documents.size)
    (f : DocumentEntry → DocumentEntry) :
    (w.modifyCurrent f).currentEntry = f w.currentEntry := by
  simp [currentEntry, entry, modifyCurrent, Array.getD_eq_getD_getElem?, Array.getElem_modify, h]

/-- Moves to the next document, if there is one. -/
def advance? (w : Worklist) : Option Worklist :=
  if w.current + 1 < w.documents.size then some { w with current := w.current + 1 } else none

/-- The places from a document back along the documents that named them, at most `limit`. -/
def ancestors (w : Worklist) : Nat → Nat → List Nat
  | 0, _ => []
  | limit + 1, index =>
    index :: match (w.entry index).parent with
      | some parent => ancestors w limit parent
      | none => []

/-- The place of the document of a location and a target namespace. -/
def find? (w : Worklist) (location : String) (target : NamespaceId) : Option Nat :=
  w.documents.findIdx? fun e => e.location = location && e.target = target

/-- Whether a document named by the current one is new. -/
def classify (w : Worklist) (location : String) (target : NamespaceId) : Inclusion :=
  match w.find? location target with
  | none => .new
  | some found =>
    if (w.ancestors w.documents.size w.current).contains found then .recursive else .diamond

theorem classify_eq_new_iff {w : Worklist} {location : String} {target : NamespaceId} :
    w.classify location target = .new ↔ w.find? location target = none := by
  unfold classify
  split
  · simp [*]
  · split <;> simp [*]

def push (w : Worklist) (e : DocumentEntry) : Worklist :=
  { w with documents := w.documents.push e }

end Worklist

end XsdRecords
