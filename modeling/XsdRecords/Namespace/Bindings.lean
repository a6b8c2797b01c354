import XsdRecords.Namespace.Registry

/-! # Namespace prefixes in scope

The bindings of a document from the innermost outwards.  A prefix means its innermost binding; the
prefixes `xml` and `xmlns` are bound from the start. -/

namespace XsdRecords

/-- The bindings in scope, the innermost first. -/
structure Bindings where
  entries : List (String × NamespaceId) := []
  deriving DecidableEq, Repr, Inhabited

namespace Bindings

/-- Binds a prefix to a namespace; the empty prefix stands for the default namespace. -/
def bind (b : Bindings) (label : String) (id : NamespaceId) : Bindings :=
  ⟨(label, id) :: b.entries⟩

/-- Binds a prefix to the namespace of a URI, which is registered. -/
def bindUri (b : Bindings) (r : Registry) (label uri : String) :
    Bindings × Registry × NamespaceId :=
  let (r, id) := r.register uri
  (b.bind label id, r, id)

/-- The namespace that a prefix stands for. -/
def resolve (b : Bindings) (label : String) : NamespaceId :=
  match b.entries.lookup label with
  | some id => id
  | none =>
    if label = "xml" then .xml else if label = "xmlns" then .xmlns else .none

@[simp] theorem resolve_bind_self (b : Bindings) (label : String) (id : NamespaceId) :
    (b.bind label id).resolve label = id := by
  simp [bind, resolve]

/-- The URI of the namespace that a prefix stands for, unless it stands for none. -/
def uri? (b : Bindings) (r : Registry) (label : String) : Option String :=
  let id := b.resolve label
  if id = .none then none else some (r.uri id)

def size (b : Bindings) : Nat :=
  b.entries.length

/-- Drops the innermost bindings until at most `size` are left. -/
def truncate (b : Bindings) (size : Nat) : Bindings :=
  ⟨b.entries.drop (b.entries.length - size)⟩

@[simp] theorem size_bind (b : Bindings) (label : String) (id : NamespaceId) :
    (b.bind label id).size = b.size + 1 := rfl

@[simp] theorem truncate_size (b : Bindings) : b.truncate b.size = b := by
  simp [truncate, size]

/-- Dropping the bindings made since brings back what was. -/
theorem truncate_append (inner outer : List (String × NamespaceId)) :
    truncate ⟨inner ++ outer⟩ outer.length = ⟨outer⟩ := by
  simp [truncate]

end Bindings

end XsdRecords
