import XsdRecords.Proofs.Session.Traced
import XsdRecords.Proofs.Session.Typings

/-! # Tags that stand in the schema

An element or attribute tag counts as top-level if no type is open, and a type tag if no element is.
For elements and attributes that says that their parent is the schema.  For types it says so of all
parents but one: a list may hold a simple type, which is then at the top level, or given to an
element, as the type that the list is in. -/

namespace XsdRecords.Vocabulary

/-- Tags that are a type or stand in one. -/
def contentTags : List Tag :=
  [.complexType, .simpleType, .all, .choice, .sequence, .simpleContent, .complexContent,
    .restriction, .extension, .list, .enumeration]

namespace Tag

/-- A tag that stands in a type has its parent in the same type. -/
theorem of_allows_content {parent kind : Tag} (framed : parent ∈ .outside :: framedTags)
    (content : kind ∈ contentTags) (noType : kind ≠ .complexType ∧ kind ≠ .simpleType)
    (allowed : parent.allows kind = true) : parent ∈ contentTags := by
  have all : ∀ kind ∈ contentTags, kind ≠ .complexType ∧ kind ≠ .simpleType →
      ∀ parent ∈ .outside :: framedTags, parent.allows kind = true → parent ∈ contentTags := by
    decide
  exact all kind content noType parent framed allowed

/-- An element or attribute stands in the schema or in a type. -/
theorem of_allows_field {parent kind : Tag} (framed : parent ∈ .outside :: framedTags)
    (isElement : kind = .element ∨ kind = .attributeTag) (allowed : parent.allows kind = true) :
    parent = .schema ∨ parent ∈ contentTags := by
  revert parent
  obtain rfl | rfl := isElement <;> decide

/-- Where a type may stand: in an element, an attribute, the schema or a list. -/
def typeParents : List Tag := [.element, .attributeTag, .schema, .list]

theorem of_allows_type {parent kind : Tag} (framed : parent ∈ .outside :: framedTags)
    (isType : kind = .complexType ∨ kind = .simpleType) (allowed : parent.allows kind = true) :
    parent ∈ typeParents := by
  revert parent
  obtain rfl | rfl := isType <;> decide

theorem of_allows_list {parent : Tag} (framed : parent ∈ .outside :: framedTags)
    (allowed : parent.allows .list = true) : parent = .simpleType := by
  revert parent
  decide

end Tag

end XsdRecords.Vocabulary

namespace XsdRecords.Session

open XsdRecords.Declaration (Declarations ElementId)
open XsdRecords.Markup (Source StartTag)
open XsdRecords.Vocabulary (Tag contentTags)

variable {d : Declarations} {opened : List Opening}

/-! ## Types that are open -/

/-- In a type, a type is open. -/
theorem Holds.exists_type (holds : Holds d opened)
    (reads : skippedTags (opened.map Opening.tag) = [])
    (inside : innermost (opened.map Opening.tag) ∈ contentTags) :
    opened.flatMap Opening.types ≠ [] := by
  induction opened with
  | nil => exact absurd inside (by decide)
  | cons o outer ih =>
    obtain ⟨rest, before, allowed, frame⟩ := holds.cases_reading reads
    rw [List.flatMap_cons]
    by_cases isType : o.tag.kind = .complexType ∨ o.tag.kind = .simpleType
    · exact List.append_ne_nil_of_left_ne_nil (frame.types_ne_nil isType) _
    · exact List.append_ne_nil_of_right_ne_nil _ (ih rest before
        (Tag.of_allows_content (rest.framed before) inside (not_or.1 isType) allowed))

/-! ## Elements that are open -/

/-- Whether an open tag is a list or a simple type, in which another simple type may stand. -/
def Opening.nestsTypes (o : Opening) : Bool :=
  o.tag.kind = .list || o.tag.kind = .simpleType

/-- The element of the innermost open tag that is neither a list nor a simple type. -/
def owner? (opened : List Opening) : Option ElementId :=
  (opened.dropWhile Opening.nestsTypes).head?.bind (·.elements.head?)

/-- Where a type may stand, the innermost open element is that of the tag around all lists and simple
types, which is the schema if there is none. -/
theorem Holds.owner (holds : Holds d opened) (reads : skippedTags (opened.map Opening.tag) = [])
    (parent : innermost (opened.map Opening.tag) ∈ .simpleType :: Tag.typeParents) :
    (opened.flatMap Opening.elements).head? = owner? opened ∧
      (opened.flatMap Opening.elements = [] ↔
        innermost ((opened.dropWhile Opening.nestsTypes).map Opening.tag) = .schema) := by
  induction opened with
  | nil => exact absurd parent (by decide)
  | cons o outer ih =>
    obtain ⟨rest, before, allowed, frame⟩ := holds.cases_reading reads
    have kinds : (o.tag.kind = .list ∨ o.tag.kind = .simpleType) ∨
        (o.tag.kind = .element ∨ o.tag.kind = .attributeTag) ∨ o.tag.kind = .schema := by
      replace parent : o.tag.kind ∈ .simpleType :: Tag.typeParents := parent
      simp only [Tag.typeParents, List.mem_cons, List.not_mem_nil, or_false] at parent
      grind
    obtain nests | isElement | isSchema := kinds
    · have none : o.elements = [] :=
        frame.elements_eq_nil (by obtain h | h := nests <;> rw [h] <;> decide)
      have further : innermost (outer.map Opening.tag) ∈ .simpleType :: Tag.typeParents := by
        obtain h | h := nests <;> rw [h] at allowed
        · rw [Tag.of_allows_list (rest.framed before) allowed]
          exact List.mem_cons_self
        · exact List.mem_cons_of_mem _
            (Tag.of_allows_type (rest.framed before) (.inr rfl) allowed)
      rw [List.flatMap_cons, none, List.nil_append, owner?,
        List.dropWhile_cons_of_pos (by simpa [Opening.nestsTypes] using nests)]
      exact ih rest before further
    · obtain ⟨id, own, -⟩ := frame.element_eq isElement
      have other : o.tag.kind ≠ .schema := by
        obtain h | h := isElement <;> rw [h] <;> decide
      have stops : ¬o.nestsTypes = true := by
        obtain h | h := isElement <;> simp [Opening.nestsTypes, h]
      rw [owner?, List.dropWhile_cons_of_neg stops]
      simp [own, other, innermost]
    · obtain ⟨own, whole, -, none, -⟩ := holds.schema reads isSchema
      obtain ⟨rfl, rfl⟩ := List.cons.inj whole
      rw [owner?, List.dropWhile_cons_of_neg (by simp [Opening.nestsTypes, isSchema])]
      simp [none, isSchema, innermost]

/-- Only a list nests types among the tags that a type may stand in, so that outside of lists the
innermost tag is the one that counts. -/
theorem dropWhile_nestsTypes
    (parent : innermost (opened.map Opening.tag) ∈ Tag.typeParents)
    (noList : innermost (opened.map Opening.tag) ≠ .list) :
    opened.dropWhile Opening.nestsTypes = opened := by
  cases opened with
  | nil => rfl
  | cons o outer =>
    have kind : o.tag.kind ∈ Tag.typeParents := parent
    have other : o.tag.kind ≠ .list := noList
    refine List.dropWhile_cons_of_neg fun nests => ?_
    simp only [Opening.nestsTypes, Bool.or_eq_true, decide_eq_true_eq] at nests
    rw [nests.resolve_left other] at kind
    exact absurd kind (by decide)

/-! ## Documents -/

variable {s m : Session} {source : Source} {before rest : List Visit} {tag : StartTag}
  {position : Position}

/-- Whenever a node of a document is read, from empty stacks at its start, the stacks are those of the
open tags. -/
theorem Lawful.held_visited (lawful : Lawful s) (elements : s.elementStack = [])
    (types : s.typeStack = []) {v : Visit} (split : s.visits source = before ++ v :: rest) :
    Held v.session (openings before) := by
  have start : Held s.beginDocument [] :=
    ⟨lawful.untouched rfl rfl rfl, elements, types, rfl, rfl, .nil⟩
  obtain ⟨last, run, between⟩ := run_before split
  exact (run.held start).untouched between

/-- What a type tag does for its owner: it opens a type, which becomes the type of the owner and of no
other element. -/
theorem Held.gives_owner (held : Held m opened) (reading : m.skipDepth = 0)
    (isType : tag.kind = .complexType ∨ tag.kind = .simpleType)
    (owner : m.elementStack.head? = owner? opened)
    (ok : (Session.readStart m tag position).hasFailed = false) :
    ∃ type, (Session.readStart m tag position).typeStack = type :: m.typeStack ∧
      ∀ id, ((Session.readStart m tag position).declarations.element id).directType =
        if owner? opened = some id then some type
        else (m.declarations.element id).directType := by
  cases held.lawful.typed_readStart reading ok with
  | type _ own typeStack typing =>
    refine ⟨own, typeStack, fun id => ?_⟩
    have given := congrArg Declaration.Typing.directType (typing id)
    rw [← owner]
    split at given <;> rename_i h
    · rw [if_pos h]
      exact given
    · rw [if_neg h]
      exact given
  | element isElement => obtain h | h := isType <;> simp [h] at isElement
  | group isGroup => obtain h | h := isType <;> simp [h] at isGroup
  | nothing other => exact absurd (by obtain h | h := isType <;> rw [h] <;> decide) other

/-- At an element or attribute tag outside skipped content no type is open exactly if it stands in the
schema.  At a type tag no element is open exactly if the tag around all lists that it is nested in
is the schema; otherwise the type is given to the element of that tag and to no other. -/
theorem readDocument_topLevel (reached : Reached s) (elements : s.elementStack = [])
    (types : s.typeStack = [])
    (split : s.visits source = before ++ ⟨m, .start tag, position⟩ :: rest)
    (reading : m.skipDepth = 0) (allowed : (parentTag m).allows tag.kind = true) :
    let opened := openings before
    let parent := innermost (openTags (before.map Visit.node))
    let started := readStart m tag position
    (tag.kind = .element ∨ tag.kind = .attributeTag →
      (m.typeStack = [] ↔ parent = .schema)) ∧
    (tag.kind = .complexType ∨ tag.kind = .simpleType →
      m.elementStack.head? = owner? opened ∧
      (m.elementStack = [] ↔
        innermost ((opened.dropWhile Opening.nestsTypes).map Opening.tag) = .schema) ∧
      (parent ≠ .list → opened.dropWhile Opening.nestsTypes = opened ∧
        (m.elementStack = [] ↔ parent = .schema)) ∧
      (started.hasFailed = false → ∃ type, started.typeStack = type :: m.typeStack ∧
        ∀ id, (started.declarations.element id).directType =
          if owner? opened = some id then some type
          else (m.declarations.element id).directType)) := by
  intro opened parent started
  have held : Held m opened := (reached.lawful elements types).held_visited elements types split
  have reads : skippedTags (opened.map Opening.tag) = [] :=
    List.length_eq_zero_iff.1 (held.skipDepth.symm.trans reading)
  rw [held.parentTag_eq] at allowed
  have framed := held.holds.framed reads
  have same : innermost (opened.map Opening.tag) = parent :=
    congrArg innermost (tag_openings before)
  rw [same] at allowed framed
  refine ⟨fun isElement => ?_, fun isType => ?_⟩
  · rw [held.typeStack]
    refine ⟨fun none => ?_, fun isSchema => ?_⟩
    · refine (Tag.of_allows_field framed isElement allowed).resolve_right fun inside => ?_
      exact held.holds.exists_type reads (same.symm ▸ inside) none
    · obtain ⟨own, whole, -, -, none⟩ := held.holds.schema reads (same.trans isSchema)
      rw [whole, List.flatMap_singleton, none]
  · have parents := Tag.of_allows_type framed isType allowed
    obtain ⟨owner, topLevel⟩ := held.holds.owner reads (same.symm ▸ List.mem_cons_of_mem _ parents)
    rw [← held.elementStack] at owner topLevel
    refine ⟨owner, topLevel, fun noList => ?_, held.gives_owner reading isType owner⟩
    have stays : opened.dropWhile Opening.nestsTypes = opened := by
      rw [← same] at parents noList
      exact dropWhile_nestsTypes parents noList
    rw [stays, same] at topLevel
    exact ⟨stays, topLevel⟩

/-- An element of a list, in which another simple type stands. -/
def listOfType : Source :=
  .bytes (["<x:schema xmlns:x='http://www.w3.org/2001/XMLSchema'>", "<x:element name='E'>",
    "<x:simpleType>", "<x:list itemType='x:int'>", "<x:simpleType>",
    "<x:restriction base='x:string'/>", "</x:simpleType>", "</x:list>", "</x:simpleType>",
    "</x:element>", "</x:schema>"].flatMap Text.Utf8.encodeText)

/-- What is to be seen of the fifth tag of the document. -/
def isNestedType (before : List Visit) (v : Visit) : Bool :=
  match v.node with
  | .start tag =>
    tag.kind = .simpleType && v.session.skipDepth = 0 && (parentTag v.session).allows tag.kind &&
      innermost (openTags (before.map Visit.node)) = .list &&
      owner? (openings before) = some ⟨0⟩ &&
      !(readStart v.session tag v.position).hasFailed
  | .stop _ => false

set_option maxRecDepth 100000 in
/-- The type in the list becomes the type of the element, in place of the list. -/
theorem readDocument_topLevel_listOfType : ∃ before m tag position rest type,
    (start "" false).visits listOfType = before ++ ⟨m, .start tag, position⟩ :: rest ∧
      innermost (openTags (before.map Visit.node)) = .list ∧
      (readStart m tag position).typeStack = type :: m.typeStack ∧
      ((readStart m tag position).declarations.element ⟨0⟩).directType = some type := by
  have shape : (((start "" false).visits listOfType).drop 4).head?.any
      (isNestedType (((start "" false).visits listOfType).take 4)) = true := by decide +kernel
  obtain ⟨⟨m, node, position⟩, head, nested⟩ := (Option.any_eq_true _ _).1 shape
  obtain ⟨rest, tail⟩ := List.head?_eq_some_iff.1 head
  cases node with
  | stop name => cases nested
  | start tag =>
    simp only [isNestedType, Bool.and_eq_true, decide_eq_true_eq, Bool.not_eq_true'] at nested
    obtain ⟨⟨⟨⟨⟨kind, reading⟩, allowed⟩, parent⟩, owner⟩, ok⟩ := nested
    have split : (start "" false).visits listOfType =
        ((start "" false).visits listOfType).take 4 ++ ⟨m, .start tag, position⟩ :: rest := by
      rw [← tail, List.take_append_drop]
    obtain ⟨-, -, -, gives⟩ := (readDocument_topLevel (.start "" false) rfl rfl split reading
      allowed).2 (.inr kind)
    obtain ⟨type, opens, directType⟩ := gives ok
    exact ⟨_, m, tag, position, rest, type, split, parent, opens,
      (directType ⟨0⟩).trans (if_pos owner)⟩

end XsdRecords.Session
