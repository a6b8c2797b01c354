import Std.Data.TreeMap

/-! # Namespaces and their identifiers

A registry gives every namespace URI that a compile meets a small number.  A handful of namespaces
have numbers of their own; all others are numbered in the order in which they are first met.  The
empty URI is no namespace. -/

namespace XsdRecords

open Std (TreeMap)

structure NamespaceId where
  value : Int
  deriving DecidableEq, Repr

namespace NamespaceId

/-- The first of the numbers that are fixed. -/
def firstFixed : Int := 0x40000

def none : NamespaceId := ⟨-1⟩
/-- The namespace of namespace declarations. -/
def xmlns : NamespaceId := ⟨firstFixed⟩
/-- The namespace of the prefix `xml`. -/
def xml : NamespaceId := ⟨firstFixed + 1⟩
/-- The namespace of XML Schema. -/
def xmlSchema : NamespaceId := ⟨firstFixed + 2⟩
/-- The namespace of XML Schema instances. -/
def xmlSchemaInstance : NamespaceId := ⟨firstFixed + 3⟩
/-- The namespace of the annotation attributes `id` and `preserveEnumOrder`. -/
def annotations : NamespaceId := ⟨firstFixed + 4⟩
/-- The namespace of names that a compile makes up. -/
def anonymous : NamespaceId := ⟨firstFixed - 1000⟩

instance : Inhabited NamespaceId := ⟨none⟩

/-- The number that the namespace met after `count` others gets, in thirty-two bits. -/
def ofCount (count : Nat) : NamespaceId :=
  ⟨Int.bmod count 0x100000000⟩

def render (id : NamespaceId) : String :=
  toString id.value

end NamespaceId

def xmlSchemaUri : String := "http://www.w3.org/2001/XMLSchema"

/-- The URI of the annotation attributes. -/
def annotationUri : String := "http://bloomberg.com/schemas/bdem"

def fixedNamespaces : List (NamespaceId × String) :=
  [(.xmlns, "http://www.w3.org/2000/xmlns/"), (.xml, "http://www.w3.org/XML/1998/namespace"),
    (.xmlSchema, xmlSchemaUri),
    (.xmlSchemaInstance, "http://www.w3.org/2001/XMLSchema-instance"),
    (.annotations, annotationUri)]

/-- The URIs met so far that have no fixed number, in the order in which they were met, and the place
of each of them. -/
structure Registry where
  uris : Array String := #[]
  places : TreeMap String Nat := {}
  getElem?_places (uri : String) (place : Nat) :
    places[uri]? = some place ↔ uris[place]? = some uri := by simp

namespace Registry

instance : Inhabited Registry := ⟨{}⟩

/-- The number of a URI, if it has one. -/
def id? (r : Registry) (uri : String) : Option NamespaceId :=
  if uri = "" then some .none
  else
    match fixedNamespaces.find? (fun (_, known) => known = uri) with
    | some (id, _) => some id
    | none => r.places[uri]?.map .ofCount

@[simp] theorem id?_empty (r : Registry) : r.id? "" = some .none := rfl

theorem places_eq_none_of_id? {r : Registry} {uri : String} (h : r.id? uri = none) :
    r.places[uri]? = none := by
  unfold id? at h
  split at h
  · cases h
  · split at h
    · cases h
    · exact Option.map_eq_none_iff.1 h

/-- Adds a URI that has no place yet. -/
def push : (r : Registry) → (uri : String) → r.places[uri]? = none → Registry
  | ⟨uris, places, getElem?_places⟩, uri, isNew =>
    let count := uris.size
    { uris := uris.push uri
      places := places.insert uri count
      getElem?_places := by
        intro other place
        have absent : uris[place]? ≠ some uri := fun found => by
          simpa [isNew] using (getElem?_places uri place).2 found
        by_cases same : uri = other
        · subst same
          by_cases last : place = uris.size
          · simp [count, last]
          · simp [count, Array.getElem?_push, last, absent, Ne.symm last]
        · by_cases last : place = uris.size
          · have unplaced : places[other]? ≠ some uris.size := by simp [getElem?_places]
            simp [count, TreeMap.getElem?_insert, same, last, unplaced]
          · simp [count, TreeMap.getElem?_insert, Array.getElem?_push, same, last,
              getElem?_places] }

@[simp] theorem uris_push (r : Registry) (uri : String) (isNew : r.places[uri]? = none) :
    (r.push uri isNew).uris = r.uris.push uri := rfl

/-- The number of a URI, which gets the next one if it has none. -/
def register (r : Registry) (uri : String) : Registry × NamespaceId :=
  match h : r.id? uri with
  | some id => (r, id)
  | none =>
    let id : NamespaceId := .ofCount r.uris.size
    (r.push uri (places_eq_none_of_id? h), id)

theorem register_of_id? {r : Registry} {uri : String} {id : NamespaceId}
    (h : r.id? uri = some id) :
    r.register uri = (r, id) := by
  unfold register
  split <;> simp_all

theorem register_of_new {r : Registry} {uri : String} (h : r.id? uri = none) :
    r.register uri = (r.push uri (places_eq_none_of_id? h), .ofCount r.uris.size) := by
  unfold register
  split <;> simp_all

/-- The URI of a number; the empty text if no URI has it. -/
def uri (r : Registry) (id : NamespaceId) : String :=
  match fixedNamespaces.find? (fun (known, _) => known = id) with
  | some (_, uri) => uri
  | none => if id.value < 0 then "" else r.uris.getD id.value.toNat ""

@[simp] theorem uri_none (r : Registry) : r.uri .none = "" := rfl

/-- How many URIs were met that have no fixed number. -/
def size (r : Registry) : Nat :=
  r.uris.size

end Registry

end XsdRecords
