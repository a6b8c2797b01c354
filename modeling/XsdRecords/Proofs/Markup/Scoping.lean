import XsdRecords.Markup.Reader
import XsdRecords.Proofs.Markup.Nesting
import XsdRecords.Proofs.Namespace.Registry

/-! # Which declaration a name refers to

Reading a tag registers the namespaces that it declares.  The declarations of the tags around a name
give it its meaning: `meaning` is the namespace of the innermost declaration of a prefix, and
`Covers` says that bindings stand for the declarations of some tags, on top of others.  A prefix
keeps its meaning while further namespaces are registered. -/

/-! ## What a reader registers -/

namespace XsdRecords.Markup

theorem Scope.grows_declare (s : Scope) (key value : String) :
    s.registry.Grows (s.declare key value).registry := by
  unfold Scope.declare
  split
  · exact .refl
  · exact Registry.grows_register _ _

theorem Scope.grows_readStart (s : Scope) (text : List UInt8) (isEmpty : Bool) :
    s.registry.Grows (s.readStart text isEmpty).1.registry := by
  have declared (pairs : List (String × String)) (s : Scope) :
      s.registry.Grows (pairs.foldl (fun s pair => s.declare pair.1 pair.2) s).registry := by
    induction pairs generalizing s with
    | nil => exact .refl
    | cons pair rest ih => exact (s.grows_declare pair.1 pair.2).trans (ih _)
  unfold Scope.readStart
  dsimp only
  split
  · exact declared _ s
  · split
    · exact declared _ s
    · exact declared _ s

theorem Reader.registry_settle (r : Reader) (s : Scope) :
    (r.settle s).2.registry = s.registry := by
  unfold Reader.settle
  split <;> rfl

theorem Reader.grows_deliver (r : Reader) (s : Scope) (lexeme : Lexeme) :
    s.registry.Grows (r.deliver s lexeme).2.1.registry := by
  have settled := r.registry_settle s
  unfold Reader.deliver
  dsimp only
  rw [← settled]
  split
  · exact .refl
  · exact .refl
  · rename_i text isEmpty _
    have grows := (r.settle s).2.grows_readStart text isEmpty
    split <;> exact grows
  · split <;> exact .refl

end XsdRecords.Markup

namespace XsdRecords

/-! ## Declarations and their numbers -/

namespace Registry

variable {r r' : Registry} {declared : List (String × String)}

/-- The number of a URI; no namespace if it has none. -/
def number (r : Registry) (uri : String) : NamespaceId :=
  (r.id? uri).getD .none

/-- The bindings that declarations of prefixes make. -/
def bind (r : Registry) (declared : List (String × String)) : List (String × NamespaceId) :=
  declared.map fun d => (d.1, r.number d.2)

/-- All URIs that are declared have numbers. -/
def Lists (r : Registry) (declared : List (String × String)) : Prop :=
  ∀ d ∈ declared, ∃ id, r.id? d.2 = some id

theorem Grows.lists (grows : r.Grows r') (lists : r.Lists declared) : r'.Lists declared := by
  intro d member
  obtain ⟨id, known⟩ := lists d member
  exact ⟨id, grows.id? known⟩

theorem Grows.number (grows : r.Grows r') {uri : String} {id : NamespaceId}
    (known : r.id? uri = some id) : r'.number uri = r.number uri := by
  rw [Registry.number, Registry.number, known, grows.id? known]

/-- Bindings stay what they are. -/
theorem Grows.bind (grows : r.Grows r') (lists : r.Lists declared) :
    r'.bind declared = r.bind declared := by
  apply List.map_congr_left
  intro d member
  obtain ⟨id, known⟩ := lists d member
  rw [grows.number known]

theorem lookup_bind (r : Registry) (declared : List (String × String)) (label : String) :
    (r.bind declared).lookup label = (declared.lookup label).map r.number := by
  induction declared with
  | nil => rfl
  | cons d rest ih =>
    show List.lookup label ((d.1, r.number d.2) :: r.bind rest) = _
    rw [List.lookup_cons, List.lookup_cons]
    cases label == d.1 with
    | true => rfl
    | false => exact ih

end Registry

namespace Markup

/-- The prefixes that attributes declare, with their URIs. -/
def declarations (attributes : List (String × String)) : List (String × String) :=
  attributes.filterMap fun a => (Scope.declared? a.1).map fun label => (label, a.2)

/-- The prefixes that a tag declares, with their URIs, in the order of its attributes. -/
def StartTag.declared (tag : StartTag) : List (String × String) :=
  declarations (tag.attributes.map fun a => (a.qualifiedName, a.value))

/-- What tags declare, the innermost first. -/
def declaredBy (tags : List StartTag) : List (String × String) :=
  tags.flatMap fun tag => tag.declared.reverse

theorem declaredBy_cons (tag : StartTag) (tags : List StartTag) :
    declaredBy (tag :: tags) = tag.declared.reverse ++ declaredBy tags :=
  List.flatMap_cons

/-- The URI that the innermost tag that declares a prefix declares for it. -/
def innermost? (tags : List StartTag) (label : String) : Option String :=
  tags.findSome? fun tag => tag.declared.reverse.lookup label

theorem lookup_declaredBy (tags : List StartTag) (label : String) :
    (declaredBy tags).lookup label = innermost? tags label := by
  induction tags with
  | nil => rfl
  | cons tag outer ih =>
    rw [declaredBy_cons, List.lookup_append, ih]
    unfold innermost?
    rw [List.findSome?_cons]
    cases tag.declared.reverse.lookup label <;> rfl

/-- What a prefix means inside tags: the namespace of the innermost declaration, or without one what
it means outside them all. -/
def meaning (r : Registry) (outer : Bindings) (tags : List StartTag) (label : String) :
    NamespaceId :=
  match innermost? tags label with
  | some uri => r.number uri
  | none => outer.resolve label

/-- Bindings that stand for the declarations of tags, on top of others. -/
def Covers (outer : Bindings) (tags : List StartTag) (s : Scope) : Prop :=
  s.bindings.entries = s.registry.bind (declaredBy tags) ++ outer.entries

variable {outer : Bindings} {tags : List StartTag} {s s' : Scope}

theorem Covers.resolve (covers : Covers outer tags s) (label : String) :
    s.bindings.resolve label = meaning s.registry outer tags label := by
  unfold Bindings.resolve meaning
  rw [covers, List.lookup_append, Registry.lookup_bind, lookup_declaredBy]
  cases innermost? tags label <;> rfl

theorem Covers.size (covers : Covers outer tags s) :
    s.bindings.size = (declaredBy tags).length + outer.size := by
  rw [Bindings.size, covers, List.length_append, Registry.bind, List.length_map, Bindings.size]

/-- Dropping what was bound since brings back what the outer tags declare. -/
theorem Covers.truncate {inner : List StartTag} (covers : Covers outer (inner ++ tags) s) :
    Covers outer tags
      { s with bindings := s.bindings.truncate ((declaredBy tags).length + outer.size) } := by
  have both : declaredBy (inner ++ tags) = declaredBy inner ++ declaredBy tags :=
    List.flatMap_append
  have split : s.bindings =
      ⟨s.registry.bind (declaredBy inner) ++ (s.registry.bind (declaredBy tags) ++ outer.entries)⟩ := by
    rw [Covers, both, Registry.bind, List.map_append, List.append_assoc] at covers
    exact congrArg Bindings.mk covers
  have length : (s.registry.bind (declaredBy tags) ++ outer.entries).length =
      (declaredBy tags).length + outer.size := by
    rw [List.length_append, Registry.bind, List.length_map, Bindings.size]
  unfold Covers
  dsimp only
  rw [split, ← length, Bindings.truncate_append]

theorem Covers.grows (covers : Covers outer tags s) (lists : s.registry.Lists (declaredBy tags))
    {registry : Registry} (grows : s.registry.Grows registry) :
    Covers outer tags ⟨s.bindings, registry⟩ := by
  unfold Covers
  dsimp only
  rw [grows.bind lists]
  exact covers

/-! ## Reading a start tag -/

/-- Declaring prefixes one after another binds them, the last innermost. -/
theorem declare_foldl (pairs : List (String × String)) (s : Scope) :
    let s' := pairs.foldl (fun s pair => s.declare pair.1 pair.2) s
    s.registry.Grows s'.registry ∧ s'.registry.Lists (declarations pairs) ∧
      s'.bindings.entries = s'.registry.bind (declarations pairs).reverse ++ s.bindings.entries := by
  induction pairs generalizing s with
  | nil => exact ⟨.refl, fun d member => (by cases member), rfl⟩
  | cons pair rest ih =>
    obtain ⟨grows, lists, entries⟩ := ih (s.declare pair.1 pair.2)
    rw [List.foldl_cons]
    cases label : Scope.declared? pair.1 with
    | none =>
      have same : s.declare pair.1 pair.2 = s := by
        unfold Scope.declare
        rw [label]
      have none : declarations (pair :: rest) = declarations rest := by
        simp [declarations, label]
      rw [same] at grows lists entries ⊢
      rw [none]
      exact ⟨grows, lists, entries⟩
    | some label' =>
      have bound : s.declare pair.1 pair.2 =
          ⟨s.bindings.bind label' (s.registry.register pair.2).2,
            (s.registry.register pair.2).1⟩ := by
        unfold Scope.declare
        rw [label]
        rfl
      have first : declarations (pair :: rest) = (label', pair.2) :: declarations rest := by
        simp [declarations, label]
      have known := Registry.id?_register s.registry pair.2
      rw [bound] at grows lists entries ⊢
      generalize rest.foldl _ _ = s' at grows lists entries ⊢
      have later := grows.id? known
      refine ⟨(Registry.grows_register _ _).trans grows, ?_, ?_⟩
      · rw [first]
        intro d member
        cases member with
        | head => exact ⟨_, later⟩
        | tail _ member => exact lists d member
      · have number : s'.registry.number pair.2 = (s.registry.register pair.2).2 := by
          rw [Registry.number, later]
          rfl
        rw [entries, first, List.reverse_cons, Registry.bind, Registry.bind, List.map_append,
          List.append_assoc, List.map_singleton, number]
        rfl

/-- What reading a start tag does: its declarations are bound, and its names are resolved after
them. -/
structure StartsIn (s : Scope) (text : List UInt8) (s' : Scope) (tag : StartTag) : Prop where
  grows : s.registry.Grows s'.registry
  lists : s'.registry.Lists tag.declared
  entries : s'.bindings.entries = s'.registry.bind tag.declared.reverse ++ s.bindings.entries
  name : ∃ written, Text.Utf8.decodeText (Markup.tagName text) = .ok written ∧
    tag.name = s'.tagName written
  resolved {a : Attribute} : a ∈ tag.attributes →
    a = s'.resolveAttribute a.qualifiedName a.value

theorem Scope.starts {text : List UInt8} {isEmpty : Bool} {tag : StartTag}
    (read : s.readStart text isEmpty = (s', .ok tag)) :
    StartsIn s text s' tag ∧ tag.isEmpty = isEmpty := by
  unfold Scope.readStart at read
  dsimp only at read
  split at read
  · simp at read
  · split at read
    · simp at read
    · rename_i written decoded
      simp only [Prod.mk.injEq, Except.ok.injEq] at read
      obtain ⟨rfl, rfl⟩ := read
      obtain ⟨grows, lists, entries⟩ := declare_foldl (readAttributes text).1 s
      have kept (name : TagName) (after : Scope) :
          StartTag.declared ⟨name, (readAttributes text).1.map fun pair =>
            after.resolveAttribute pair.1 pair.2, isEmpty⟩ = declarations (readAttributes text).1 := by
        rw [StartTag.declared, List.map_map]
        exact congrArg declarations (List.map_id _)
      refine ⟨⟨grows, ?_, ?_, ⟨written, decoded, rfl⟩, ?_⟩, rfl⟩
      · rw [kept]
        exact lists
      · rw [kept]
        exact entries
      · intro a member
        obtain ⟨pair, -, rfl⟩ := List.mem_map.1 member
        rfl

theorem StartsIn.covers {text : List UInt8} {tag : StartTag} (starts : StartsIn s text s' tag)
    (covers : Covers outer tags s) (lists : s.registry.Lists (declaredBy tags)) :
    Covers outer (tag :: tags) s' ∧ s'.registry.Lists (declaredBy (tag :: tags)) := by
  constructor
  · unfold Covers
    rw [starts.entries, covers, declaredBy_cons, ← starts.grows.bind lists, Registry.bind,
      Registry.bind, Registry.bind, List.map_append, List.append_assoc]
  · rw [declaredBy_cons]
    intro d member
    obtain own | old := List.mem_append.1 member
    · exact starts.lists d (List.mem_reverse.1 own)
    · exact starts.grows.lists lists d old

/-! ## Names -/

/-- What the name of a tag stands for inside tags, itself included. -/
def nameIn (r : Registry) (outer : Bindings) (tags : List StartTag) (written : String) : TagName :=
  let id := meaning r outer tags ((splitName written).1.getD "")
  ⟨(splitName written).2, id, r.uri id⟩

/-- What an attribute stands for inside tags; one without a prefix is in no namespace. -/
def attributeIn (r : Registry) (outer : Bindings) (tags : List StartTag) (key value : String) :
    Attribute :=
  let id : NamespaceId :=
    if key = "xmlns" then .xmlns
    else match (splitName key).1 with
      | some label => meaning r outer tags label
      | none => .none
  ⟨key, (splitName key).2, id, value⟩

theorem Covers.tagName (covers : Covers outer tags s) (written : String) :
    s.tagName written = nameIn s.registry outer tags written := by
  simp only [Scope.tagName, nameIn, covers.resolve]

theorem Covers.resolveAttribute (covers : Covers outer tags s) (key value : String) :
    s.resolveAttribute key value = attributeIn s.registry outer tags key value := by
  unfold Scope.resolveAttribute attributeIn
  dsimp only
  cases (splitName key).1 with
  | none => rfl
  | some label => simp only [covers.resolve]

theorem innermost?_mem {label uri : String} (found : innermost? tags label = some uri) :
    (label, uri) ∈ declaredBy tags := by
  rw [← lookup_declaredBy, List.lookup_eq_some_iff] at found
  obtain ⟨before, after, split, -⟩ := found
  rw [split]
  exact List.mem_append_right _ List.mem_cons_self

/-- A prefix keeps its meaning while namespaces are registered. -/
theorem meaning_grows {r r' : Registry} (grows : r.Grows r') (lists : r.Lists (declaredBy tags))
    (label : String) : meaning r' outer tags label = meaning r outer tags label := by
  unfold meaning
  cases found : innermost? tags label with
  | none => rfl
  | some uri =>
    obtain ⟨id, known⟩ := lists _ (innermost?_mem found)
    exact grows.number known

/-- As long as numbers are small, a prefix means the URI that is declared for it. -/
theorem uri_meaning {r : Registry} (small : r.IsSmall) (lists : r.Lists (declaredBy tags))
    {label uri : String} (found : innermost? tags label = some uri) :
    r.uri (meaning r outer tags label) = uri := by
  obtain ⟨id, known⟩ := lists _ (innermost?_mem found)
  unfold meaning Registry.number
  rw [found]
  dsimp only
  rw [known]
  exact Registry.uri_of_id? small known

end Markup

/-- Whether all bindings are to numbers that namespaces have. -/
def Bindings.Known (b : Bindings) (r : Registry) : Prop :=
  ∀ entry ∈ b.entries, ∃ uri, r.id? uri = some entry.2

namespace Markup

variable {outer : Bindings} {tags : List StartTag}

theorem known_resolve {r : Registry} (known : outer.Known r) (label : String) :
    ∃ uri, r.id? uri = some (outer.resolve label) := by
  unfold Bindings.resolve
  cases found : outer.entries.lookup label with
  | some id =>
    obtain ⟨before, after, split, -⟩ := List.lookup_eq_some_iff.1 found
    apply known (label, id)
    rw [split]
    exact List.mem_append_right _ List.mem_cons_self
  | none =>
    have xml : (NamespaceId.xml, "http://www.w3.org/XML/1998/namespace") ∈ fixedNamespaces := by
      decide
    have xmlns : (NamespaceId.xmlns, "http://www.w3.org/2000/xmlns/") ∈ fixedNamespaces := by
      decide
    dsimp only
    split
    · exact ⟨_, Registry.id?_of_mem_fixedNamespaces xml r⟩
    · split
      · exact ⟨_, Registry.id?_of_mem_fixedNamespaces xmlns r⟩
      · exact ⟨"", r.id?_empty⟩

theorem known_meaning {r : Registry} (known : outer.Known r) (lists : r.Lists (declaredBy tags))
    (label : String) : ∃ uri, r.id? uri = some (meaning r outer tags label) := by
  unfold meaning
  cases found : innermost? tags label with
  | none => exact known_resolve known label
  | some uri =>
    obtain ⟨id, registered⟩ := lists _ (innermost?_mem found)
    refine ⟨uri, ?_⟩
    dsimp only
    rw [Registry.number, registered]
    rfl

end Markup

/-! ## What is read keeps the prefixes bound to namespaces -/

namespace Bindings

variable {b : Bindings} {r r' : Registry}

theorem known_empty : Bindings.Known {} r :=
  fun _ member => by cases member

theorem Known.grows (known : b.Known r) (grows : r.Grows r') : b.Known r' := fun entry member =>
  let ⟨uri, registered⟩ := known entry member
  ⟨uri, grows.id? registered⟩

theorem Known.bind (known : b.Known r) (label : String) {id : NamespaceId}
    (registered : ∃ uri, r.id? uri = some id) : (b.bind label id).Known r :=
  List.forall_mem_cons.2 ⟨registered, known⟩

theorem Known.bindUri (known : b.Known r) (label uri : String) :
    (b.bindUri r label uri).1.Known (r.register uri).1 :=
  (known.grows (r.grows_register uri)).bind label ⟨uri, r.id?_register uri⟩

theorem Known.truncate (known : b.Known r) (size : Nat) : (b.truncate size).Known r :=
  fun entry member => known entry (List.mem_of_mem_drop member)

end Bindings

namespace Markup

theorem Scope.known_declare {s : Scope} (known : s.bindings.Known s.registry) (key value : String) :
    (s.declare key value).bindings.Known (s.declare key value).registry := by
  unfold Scope.declare
  split
  · exact known
  · exact known.bindUri _ value

theorem Scope.known_readStart {s : Scope} (known : s.bindings.Known s.registry) (text : List UInt8)
    (isEmpty : Bool) :
    (s.readStart text isEmpty).1.bindings.Known (s.readStart text isEmpty).1.registry := by
  have declared (pairs : List (String × String)) {s : Scope} (known : s.bindings.Known s.registry) :
      let declared := pairs.foldl (fun s pair => s.declare pair.1 pair.2) s
      declared.bindings.Known declared.registry := by
    induction pairs generalizing s with
    | nil => exact known
    | cons pair rest ih => exact ih (Scope.known_declare known pair.1 pair.2)
  unfold Scope.readStart
  dsimp only
  split
  · exact declared _ known
  · split <;> exact declared _ known

theorem Reader.known_settle (r : Reader) {s : Scope} (known : s.bindings.Known s.registry) :
    (r.settle s).2.bindings.Known (r.settle s).2.registry := by
  unfold Reader.settle
  split
  · exact known
  · exact known.truncate _

theorem Reader.known_deliver (r : Reader) {s : Scope} (known : s.bindings.Known s.registry)
    (lexeme : Lexeme) :
    (r.deliver s lexeme).2.1.bindings.Known (r.deliver s lexeme).2.1.registry := by
  have settled := r.known_settle known
  unfold Reader.deliver
  dsimp only
  split
  · exact settled
  · exact settled
  · rename_i text isEmpty _
    have read := Scope.known_readStart settled text isEmpty
    split <;> exact read
  · split <;> exact settled

end Markup

end XsdRecords
