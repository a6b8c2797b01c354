import XsdRecords.Namespace.Registry

/-! # Symbols and tables of symbols

A symbol is a local name in a namespace.  Symbols are ordered by the number of the namespace and
then by the local name, character by character. -/

namespace XsdRecords.Declaration

/-- A local name in a namespace. -/
structure Symbol where
  namespaceId : NamespaceId
  localName : String
  deriving DecidableEq, Repr

namespace Symbol

/-- Whether one symbol comes no later than another. -/
def le (a b : Symbol) : Bool :=
  a.namespaceId.value < b.namespaceId.value
    || (a.namespaceId = b.namespaceId && a.localName ≤ b.localName)

def render (s : Symbol) : String :=
  s.namespaceId.render ++ ":" ++ s.localName

end Symbol

/-- What symbols stand for; a later entry comes first and hides an earlier one of its symbol. -/
structure SymbolTable (α : Type) where
  entries : List (Symbol × α) := []
  deriving Repr

namespace SymbolTable

variable {α : Type}

def find? (t : SymbolTable α) (s : Symbol) : Option α :=
  t.entries.lookup s

def insert (t : SymbolTable α) (s : Symbol) (a : α) : SymbolTable α :=
  ⟨(s, a) :: t.entries⟩

theorem find?_insert (t : SymbolTable α) (s other : Symbol) (a : α) :
    (t.insert s a).find? other = if other = s then some a else t.find? other := by
  by_cases h : other = s
  · simp [find?, insert, h]
  · simp [find?, insert, List.lookup_cons, beq_false_of_ne h, h]

/-- Puts an entry in its place in a list sorted from the last symbol to the first, where it replaces
one of the same symbol. -/
def place (s : Symbol) (a : α) : List (Symbol × α) → List (Symbol × α)
  | [] => [(s, a)]
  | (other, b) :: rest =>
    if s = other then (s, a) :: rest
    else if other.le s then (s, a) :: (other, b) :: rest
    else (other, b) :: place s a rest

/-- The entries in the order of their symbols, without those that are hidden. -/
def toSorted (t : SymbolTable α) : List (Symbol × α) :=
  (t.entries.foldr (fun (s, a) sorted => place s a sorted) []).reverse

end SymbolTable

end XsdRecords.Declaration
