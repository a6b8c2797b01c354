import XsdRecords.Proofs.Compilation.Visited
import XsdRecords.Proofs.Session.Redefinition

/-! # Names that a compile lets be defined twice

A compile that has read all its documents may have met two tags that define one name, in the same
document or in two of them.  The second is refused if the first has defined what the name stands
for, and only then. -/

namespace XsdRecords.Compilation

open XsdRecords.Declaration
open XsdRecords.Markup (Source StartTag)
open XsdRecords.Session (Traced Visit defines? findTag parentTag readStart visits)

/-- No node has failed that was read on the way to a session. -/
theorem carried_read : Session.Carried fun _ visits => ∀ v ∈ visits, v.after.hasFailed = false where
  untouched read _ := read
  after read _ ok := by
    simpa [or_imp, forall_and] using ⟨read, ok⟩

/-- Of the documents of a compile, wherever they come from, two tags define one name only if no node
before the second has defined what the name stands for.  The first tag of a type is then one of a
simple type, neither derived from another nor completed since; and for elements and attributes some
document before has left something open.

At a type tag that stands where no element is open this is all that matters of earlier tags: it is
read if it is known, allowed where it stands and named, and if no node before has completed or
derived the type of its name. -/
theorem names_redefined (resolve : Resolver) (limit : Nat) (allowUnsupported : Bool)
    (source : Source) (location : String) :
    let first := start allowUnsupported source location
    ((run resolve limit first).session.hasFailed = false →
      ∀ (before after : List Visit) (v w : Visit) (r : Reference),
      (Session.start location allowUnsupported).visits source ++ visited resolve limit first =
        before ++ w :: after →
      v ∈ before → defines? v.session v.node = some r → defines? w.session w.node = some r →
      (∃ place, v.after.declarations.place? r = some place ∧
        (∀ u ∈ before, u.settles r.referent place = false) ∧
        (r.referent = .type → ∃ tag, v.node = .start tag ∧ tag.kind = .simpleType)) ∧
      (r.referent ≠ .type → ∃ k < limit, let left := (run resolve k first).session
        left.elementStack ≠ [] ∨ left.typeStack ≠ [])) ∧
    ∀ (s : Session) (given : List Visit) (tag : StartTag) (position : Position), Traced s given →
      s.skipDepth = 0 → s.elementStack = [] →
      (tag.kind = .complexType ∨ tag.kind = .simpleType) →
      ((readStart s tag position).hasFailed = false ↔
        findTag s tag = .ok tag.kind ∧ (parentTag s).allows tag.kind = true ∧
          s.hasFailed = false ∧ (tag.plain? "name").getD "" ≠ "" ∧
          ∀ place,
            s.declarations.place? ⟨.type, s.target, (tag.plain? "name").getD ""⟩ = some place →
            Declarations.initial.isDefinedAt .type place = false ∧
              ∀ u ∈ given, u.settles .type place = false) := by
  intro first
  constructor
  · intro ok before after v w r split earlier defining defining'
    have read : w.after.hasFailed = false :=
      carried_read.compile (fun _ member => by cases member) resolve limit source ok w
        (split ▸ List.mem_append_right _ List.mem_cons_self)
    have fresh := Traced.start location allowUnsupported
    obtain ⟨rest, own⟩ | ⟨others, rfl, later⟩ := exists_split_of_append split
    · have unique := fresh.redefinition own read earlier defining defining'
      exact ⟨unique.1, fun isRoot => absurd (unique.2 isRoot) (by simp [Session.start])⟩
    · obtain ⟨k, less, s, _, _, within, rest, rfl, traced, own, elements, types⟩ :=
        exists_document_of_visited resolve limit (c := first)
          (fun going => fresh.readDocument going) later
      rw [← List.append_assoc] at earlier
      obtain ⟨settles, opened⟩ := traced.redefinition own read earlier defining defining'
      rw [← List.append_assoc]
      refine ⟨settles, fun isRoot => ⟨k, less, ?_⟩⟩
      dsimp only
      rw [← elements, ← types]
      exact opened isRoot
  · intro s given tag position traced reading closed isType
    have unsettled (place : Nat) :
        (given.any (·.settles .type place) ||
            Declarations.initial.isDefinedAt .type place) = false ↔
          Declarations.initial.isDefinedAt .type place = false ∧
            ∀ u ∈ given, u.settles .type place = false := by
      simp [and_comm]
    rw [Session.hasFailed_readStart_type_iff reading closed isType, traced.defines_iff]
    simp only [not_exists, not_and, Bool.not_eq_true, unsettled]

/-- A document that defines a type twice, the first time by an empty tag. -/
def typeTwice : Source :=
  .bytes (["<x:schema xmlns:x='http://www.w3.org/2001/XMLSchema'>",
    "<x:include schemaLocation='b'/>", "<x:include schemaLocation='c'/>",
    "<x:simpleType name='A'/>", "<x:simpleType name='A'>", "<x:restriction base='x:int'/>",
    "</x:simpleType>", "</x:schema>"].flatMap Text.Utf8.encodeText)

/-- Two documents that define an element, of which the first breaks off. -/
def elementTwice : Library :=
  [("b", .bytes (["<x:schema xmlns:x='http://www.w3.org/2001/XMLSchema'>",
      "<x:element name='E'>"].flatMap Text.Utf8.encodeText)),
    ("c", .bytes (["<x:schema xmlns:x='http://www.w3.org/2001/XMLSchema'>",
      "<x:element name='E' type='x:int'/>", "</x:schema>"].flatMap Text.Utf8.encodeText))]

/-- Whether a node of a list defines a name that one before it defines. -/
def redefines (nodes : List Visit) (n : Nat) (r : Reference) : Bool :=
  (nodes.drop n).head?.any (fun w => defines? w.session w.node = some r) &&
    (nodes.take n).any fun v => defines? v.session v.node = some r

theorem exists_of_redefines {nodes : List Visit} {n : Nat} {r : Reference}
    (twice : redefines nodes n r = true) : ∃ v w after, nodes = nodes.take n ++ w :: after ∧
      v ∈ nodes.take n ∧ defines? v.session v.node = some r ∧
      defines? w.session w.node = some r := by
  simp only [redefines, Bool.and_eq_true] at twice
  obtain ⟨w, head, second⟩ := (Option.any_eq_true _ _).1 twice.1
  obtain ⟨v, member, first⟩ := List.any_eq_true.1 twice.2
  obtain ⟨after, tail⟩ := List.head?_eq_some_iff.1 head
  exact ⟨v, w, after, by rw [← tail, List.take_append_drop], member, of_decide_eq_true first,
    of_decide_eq_true second⟩

/-- What is to be seen of the second tag of the type. -/
def isUndefinedType (before : List Visit) (w : Visit) : Bool :=
  match w.node with
  | .start tag =>
    tag.kind = .simpleType && w.session.skipDepth = 0 && w.session.elementStack.isEmpty &&
      decide (findTag w.session tag = .ok tag.kind) && (parentTag w.session).allows tag.kind &&
      !w.session.hasFailed && (tag.plain? "name").getD "" ≠ "" &&
      w.session.declarations.place?
        ⟨.type, w.session.target, (tag.plain? "name").getD ""⟩ = some 46 &&
      before.all fun u => !u.settles .type 46
  | .stop _ => false

set_option maxRecDepth 100000 in
/-- The compile ends with a result.  The empty tag has left the type undefined, so that the second
is read, and the document that breaks off has left the element open. -/
theorem names_redefined_twice :
    let first := start false typeTwice ""
    let nodes := (Session.start "" false).visits typeTwice ++ visited elementTwice.resolver 2 first
    (run elementTwice.resolver 2 first).finish.result.isOk = true ∧
      (∃ v ∈ nodes.take 4, defines? v.session v.node = some ⟨.type, .none, "A"⟩ ∧
        ∃ place, v.after.declarations.place? ⟨.type, .none, "A"⟩ = some place ∧
          ∀ u ∈ nodes.take 4, u.settles .type place = false) ∧
      (∃ w tag rest, (Session.start "" false).visits typeTwice =
          ((Session.start "" false).visits typeTwice).take 4 ++ w :: rest ∧
        w.node = .start tag ∧ (readStart w.session tag w.position).hasFailed = false) ∧
      ∃ k < 2, let left := (run elementTwice.resolver k first).session
        left.elementStack ≠ [] ∨ left.typeStack ≠ [] := by
  intro first nodes
  let own := (Session.start "" false).visits typeTwice
  have shape : (run elementTwice.resolver 2 first).finish.result.isOk = true ∧
      (run elementTwice.resolver 2 first).session.hasFailed = false ∧
      redefines nodes 4 ⟨.type, .none, "A"⟩ = true ∧
      (own.drop 4).head?.any (isUndefinedType (own.take 4)) = true ∧
      redefines nodes 11 ⟨.root false, .none, "E"⟩ = true := by decide +kernel
  obtain ⟨isOk, ok, types, undefined, elements⟩ := shape
  refine ⟨isOk, ?_, ?_, ?_⟩
  · obtain ⟨v, w, after, split, earlier, defining, again⟩ := exists_of_redefines types
    obtain ⟨⟨place, found, settled, -⟩, -⟩ :=
      (names_redefined _ _ _ _ _).1 ok _ after v w _ split earlier defining again
    exact ⟨v, earlier, defining, place, found, settled⟩
  · obtain ⟨⟨s, node, position⟩, head, seen⟩ := (Option.any_eq_true _ _).1 undefined
    obtain ⟨rest, tail⟩ := List.head?_eq_some_iff.1 head
    have split : own = own.take 4 ++ ⟨s, node, position⟩ :: rest := by
      rw [← tail, List.take_append_drop]
    cases node with
    | stop name => cases seen
    | start tag =>
      simp only [isUndefinedType, Bool.and_eq_true, decide_eq_true_eq, Bool.not_eq_true',
        List.isEmpty_iff, List.all_eq_true] at seen
      obtain ⟨⟨⟨⟨⟨⟨⟨⟨kind, reading⟩, closed⟩, known⟩, allowed⟩, going⟩, named⟩, found⟩, settled⟩ :=
        seen
      have traced := (Traced.start "" false).visited split
      have iff := (names_redefined elementTwice.resolver 2 false typeTwice "").2 s _ tag position
        traced reading closed (.inr kind)
      refine ⟨_, tag, rest, split, rfl, iff.2 ⟨known, allowed, going, named, fun place found' => ?_⟩⟩
      obtain rfl := Option.some.inj (found.symm.trans found')
      exact ⟨by decide, settled⟩
  · obtain ⟨v, w, after, split, earlier, defining, again⟩ := exists_of_redefines elements
    exact ((names_redefined _ _ _ _ _).1 ok _ after v w _ split earlier defining again).2
      (by decide)

end XsdRecords.Compilation
