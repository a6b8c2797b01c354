import XsdRecords.Proofs.Session.DefaultValues
import XsdRecords.Proofs.Session.Traced
import XsdRecords.Proofs.Session.Typings

/-! # Where elements have their types from

An element tag gives its element a type or another element to refer to, and never both: beside a
reference the type that it names counts for nothing.  A type tag gives its type to the innermost open
element, whether this refers to another or not.  So an element may have a type of its own and refer to
another all the same; its type is then that of the other. -/

namespace XsdRecords.Session

open XsdRecords.Declaration
open XsdRecords.Markup (Source StartTag)

variable {s s' : Session}

/-! ## Nodes -/

/-- What a node gives an element. -/
def Visit.gives (v : Visit) (id : ElementId) : Typing :=
  match v.node with
  | .stop _ => {}
  | .start tag =>
    let started := readStart v.session tag v.position
    if v.session.skipDepth ≠ 0 then {}
    else
      match tag.kind with
      | .element | .attributeTag =>
        if started.elementStack.head? = some id then
          started.declarations.named
            (elementReference? v.session tag (tag.kind = .attributeTag))
        else {}
      | .complexType | .simpleType =>
        if v.session.elementStack.head? = some id then ⟨started.typeStack.head?, none⟩ else {}
      | .choice | .sequence =>
        if Session.isWrapped (parentTag v.session) (!v.session.elementStack.isEmpty) tag ∧
            started.elementStack.head? = some id then ⟨started.typeStack.head?, none⟩
        else {}
      | _ => {}

/-- Whether a node is a type tag. -/
def Visit.isType (v : Visit) : Bool :=
  match v.node with
  | .start tag => tag.kind = .complexType || tag.kind = .simpleType
  | .stop _ => false

/-- How a node gives something to an element. -/
inductive Visit.GivesTo (v : Visit) (id : ElementId) (t : Typing) : Prop
  | nothing (gives : v.gives id = {})
  /-- What nothing has defined yet gets a type, or something to refer to. -/
  | blank (before : t = {}) (one : (v.gives id).directType = none ∨ (v.gives id).reference = none)
  | type (isType : v.isType = true) (unchanged : (v.gives id).reference = none)

section Node

variable {tag : StartTag} {position : Position}

theorem gives_of_silent (silent : tag.kind ∉ typingTags) (s : Session) (position : Position)
    (id : ElementId) :
    (Visit.mk s (.start tag) position).gives id = {} := by
  unfold Visit.gives
  dsimp only
  split
  · rfl
  · split <;> rename_i kind <;> first | rfl | exact absurd (by rw [kind]; decide) silent

/-- A start tag outside skipped content gives elements what it says. -/
theorem Lawful.typing_readStart (lawful : Lawful s) (reading : s.skipDepth = 0)
    (ok : (readStart s tag position).hasFailed = false) (id : ElementId) :
    ((readStart s tag position).declarations.element id).typing =
        (s.declarations.element id).typing.override
          ((Visit.mk s (.start tag) position).gives id) ∧
      (Visit.mk s (.start tag) position).GivesTo id (s.declarations.element id).typing := by
  cases lawful.typed_readStart reading ok with
  | element isElement own head blank typing known =>
    have gives : (Visit.mk s (.start tag) position).gives id =
        if own = id then (readStart s tag position).declarations.named
          (elementReference? s tag (tag.kind = .attributeTag)) else {} := by
      obtain kind | kind := isElement <;> simp [Visit.gives, reading, kind, head]
    rw [typing]
    split at gives
    · rename_i same
      subst same
      rw [if_pos rfl, blank, gives, Typing.blank_override]
      exact ⟨rfl, .blank rfl (gives ▸ Declarations.named_one _ _)⟩
    · rename_i apart
      rw [if_neg apart, gives]
      exact ⟨rfl, .nothing gives⟩
  | type isType own typeStack typing =>
    have gives : (Visit.mk s (.start tag) position).gives id =
        if s.elementStack.head? = some id then ⟨some own, none⟩ else {} := by
      obtain kind | kind := isType <;> simp [Visit.gives, reading, kind, typeStack]
    rw [typing]
    split at gives
    · rename_i owner
      have isType : (Visit.mk s (.start tag) position).isType = true := by
        obtain kind | kind := isType <;> simp [Visit.isType, kind]
      rw [if_pos owner, gives]
      exact ⟨rfl, .type isType (gives ▸ rfl)⟩
    · rename_i other
      rw [if_neg other, gives]
      exact ⟨rfl, .nothing gives⟩
  | group isGroup typed =>
    cases typed with
    | layout unwrapped isOuter type before head typing =>
      have gives : (Visit.mk s (.start tag) position).gives id = {} := by
        obtain kind | kind := isGroup <;> simp [Visit.gives, reading, kind, unwrapped]
      rw [typing, gives]
      exact ⟨rfl, .nothing gives⟩
    | field wrapped parent type element before head elements blank typing =>
      have gives : (Visit.mk s (.start tag) position).gives id =
          if element = id then ⟨some type, none⟩ else {} := by
        obtain kind | kind := isGroup <;>
          simp [Visit.gives, reading, kind, wrapped, elements, head]
      rw [typing]
      split at gives
      · rename_i same
        subst same
        rw [if_pos rfl, blank, gives, Typing.blank_override]
        exact ⟨rfl, .blank rfl (gives ▸ .inr rfl)⟩
      · rename_i apart
        rw [if_neg apart, gives]
        exact ⟨rfl, .nothing gives⟩
  | nothing other kept =>
    have gives := gives_of_silent other s position id
    rw [kept.typing, gives]
    exact ⟨rfl, .nothing gives⟩

end Node

/-- A node gives an element what it says. -/
theorem Visit.typing_after {v : Visit} (lawful : Lawful v.session) (ok : v.after.hasFailed = false)
    (id : ElementId) :
    (v.after.declarations.element id).typing =
        (v.session.declarations.element id).typing.override (v.gives id) ∧
      v.GivesTo id (v.session.declarations.element id).typing := by
  have makes := v.makes ok
  generalize v.after.declarations = d at makes ⊢
  cases makes with
  | stop s name position => exact ⟨rfl, .nothing rfl⟩
  | skipped s tag position skipping =>
    have gives : (Visit.mk s (.start tag) position).gives id = {} := by
      simp [Visit.gives, skipping]
    rw [gives]
    exact ⟨rfl, .nothing gives⟩
  | start s tag position reading started => exact lawful.typing_readStart reading started id

/-- An element or attribute tag gives its element what its `ref` names, or else what its `type`
names. -/
theorem Visit.isSome_gives {v : Visit} (lawful : Lawful v.session) (ok : v.after.hasFailed = false)
    {tag : StartTag} (node : v.node = .start tag) {id : ElementId} (declares : v.declares id = true) :
    (v.gives id).reference.isSome = (v.session.symbol? (tag.plain? "ref")).isSome ∧
      (v.gives id).directType.isSome = ((v.session.symbol? (tag.plain? "ref")).isNone &&
        (v.session.symbol? (tag.plain? "type")).isSome) := by
  obtain ⟨s, _, position⟩ := v
  obtain rfl : _ = Markup.Node.start tag := node
  have started : (readStart s tag position).hasFailed = false := (readNode_start ok).1
  simp only [Visit.declares, Bool.and_eq_true, Bool.or_eq_true, decide_eq_true_eq] at declares
  obtain ⟨⟨isElement, reading⟩, head⟩ := declares
  have gives : (Visit.mk s (.start tag) position).gives id =
      (readStart s tag position).declarations.named
        (elementReference? s tag (tag.kind = .attributeTag)) := by
    obtain kind | kind := isElement <;> simp [Visit.gives, reading, kind, head]
  have known : ∀ r, elementReference? s tag (tag.kind = .attributeTag) = some r →
      ((readStart s tag position).declarations.place? r).isSome = true := by
    cases lawful.typed_readStart reading started with
    | element _ own _ blank typing known => exact known
    | type isType => obtain h | h := isElement <;> simp [h] at isType
    | group isGroup => obtain h | h := isElement <;> simp [h] at isGroup
    | nothing other => exact absurd (by obtain h | h := isElement <;> rw [h] <;> decide) other
  obtain ⟨types, refers⟩ := Declarations.isSome_named known
  rw [gives, types, refers, elementReference?]
  dsimp only
  cases s.symbol? (tag.plain? "ref") with
  | some symbol => exact ⟨rfl, rfl⟩
  | none => cases s.symbol? (tag.plain? "type") <;> exact ⟨rfl, rfl⟩

/-! ## Runs -/

/-- The typing of an element by what some nodes give it: what was last given. -/
def typingOf (visits : List Visit) (id : ElementId) : Typing where
  directType := (visits.filterMap fun v => (v.gives id).directType).getLast?
  reference := (visits.filterMap fun v => (v.gives id).reference).getLast?

theorem typingOf_append (visits : List Visit) (v : Visit) (id : ElementId) :
    typingOf (visits ++ [v]) id = (typingOf visits id).override (v.gives id) := by
  have last {α : Type} (visits : List Visit) (get : Visit → Option α) :
      ((visits ++ [v]).filterMap get).getLast? =
        (get v <|> (visits.filterMap get).getLast?) := by
    rw [List.filterMap_append]
    cases given : get v <;> simp [given]
  simp only [typingOf, last, Typing.override]

/-- A session in which every element has the typing that some nodes gave it.  What makes an element
refer to another gives it no type, nor does any tag but that of a type. -/
structure Sourced (s : Session) (visits : List Visit) : Prop where
  typing (id : ElementId) : (s.declarations.element id).typing = typingOf visits id
  inline {id : ElementId} {v w : Visit} (refers : v ∈ visits)
    (isReference : (v.gives id).reference.isSome = true) (types : w ∈ visits)
    (hasType : (w.gives id).directType.isSome = true) : w.isType = true

/-- Nodes that left an element without a typing gave it nothing. -/
theorem gives_of_typingOf {visits : List Visit} {id : ElementId} (none : typingOf visits id = {})
    {v : Visit} (member : v ∈ visits) : v.gives id = {} := by
  obtain ⟨types, refers⟩ := Typing.mk.inj none
  rw [List.getLast?_eq_none_iff, List.filterMap_eq_nil_iff] at types refers
  have whole : v.gives id = ⟨(v.gives id).directType, (v.gives id).reference⟩ := rfl
  rw [whole, types v member, refers v member]

namespace Sourced

variable {visits : List Visit}

theorem start (location : String) (allowUnsupported : Bool) :
    Sourced (Session.start location allowUnsupported) [] where
  typing id := congrArg Element.typing (Declarations.element_initial id)
  inline refers := by cases refers

theorem untouched (sourced : Sourced s visits) (same : s'.declarations = s.declarations) :
    Sourced s' visits where
  typing id := by
    rw [same]
    exact sourced.typing id
  inline := sourced.inline

theorem after {v : Visit} (sourced : Sourced v.session visits) (lawful : Lawful v.session)
    (ok : v.after.hasFailed = false) : Sourced v.after (visits ++ [v]) where
  typing id := by
    rw [(v.typing_after lawful ok id).1, sourced.typing, typingOf_append]
  inline {id first second} refers isReference types hasType := by
    have gives := (v.typing_after lawful ok id).2
    rw [sourced.typing] at gives
    rw [List.mem_append, List.mem_singleton] at refers types
    cases gives with
    | nothing nothing =>
      have earlier {w : Visit} (given : w.gives id ≠ {}) (member : w ∈ visits ∨ w = v) :
          w ∈ visits := member.resolve_right fun own => given (own ▸ nothing)
      refine sourced.inline (earlier (fun none => ?_) refers) isReference
        (earlier (fun none => ?_) types) hasType
      · rw [none] at isReference
        cases isReference
      · rw [none] at hasType
        cases hasType
    | blank before one =>
      have last {w : Visit} (given : w.gives id ≠ {}) (member : w ∈ visits ∨ w = v) : w = v :=
        member.resolve_left fun earlier => given (gives_of_typingOf before earlier)
      obtain rfl := last (fun none => by rw [none] at isReference; cases isReference) refers
      obtain rfl := last (fun none => by rw [none] at hasType; cases hasType) types
      obtain none | none := one
      · rw [none] at hasType
        cases hasType
      · rw [none] at isReference
        cases isReference
    | type isType unchanged =>
      obtain earlier | rfl := types
      · refine sourced.inline (refers.resolve_right ?_) isReference earlier hasType
        rintro rfl
        rw [unchanged] at isReference
        cases isReference
      · exact isType

end Sourced

theorem carried_sourced : Carried Sourced :=
  ⟨.untouched, .after⟩

/-- Every node that was read on the way to a session was read in a lawful one, without a failure. -/
theorem Traced.of_mem {visits : List Visit} (traced : Traced s visits) {v : Visit}
    (member : v ∈ visits) : Lawful v.session ∧ v.after.hasFailed = false := by
  induction traced with
  | start => cases member
  | untouched _ _ ih => exact ih member
  | beginDocument _ ih => exact ih member
  | node traced ok ih =>
    obtain earlier | rfl := List.mem_append.1 member |>.imp id List.mem_singleton.1
    · exact ih earlier
    · exact ⟨traced.grounded.lawful, ok⟩

/-- Whenever nothing has failed, an element has the type that it was given last, and refers to what it
was last made to refer to.  Its own tag gives it one of them: beside a `ref`, the `type` of the tag
counts for nothing.  It has both exactly if a tag made it refer to another and a type tag gave it a
type all the same; this type then makes no difference to the type of any element. -/
theorem typing_given {visits : List Visit} (traced : Traced s visits) (id : ElementId) :
    let e := s.declarations.element id
    e.typing = typingOf visits id ∧
      (∀ v ∈ visits, ∀ tag, v.node = .start tag → v.declares id = true →
        (v.gives id).reference.isSome = (v.session.symbol? (tag.plain? "ref")).isSome ∧
          (v.gives id).directType.isSome = ((v.session.symbol? (tag.plain? "ref")).isNone &&
            (v.session.symbol? (tag.plain? "type")).isSome)) ∧
      (e.directType.isSome = true ∧ e.reference.isSome = true ↔
        (∃ v ∈ visits, (v.gives id).reference.isSome = true) ∧
          ∃ w ∈ visits, w.isType = true ∧ (w.gives id).directType.isSome = true) ∧
      (e.reference.isSome = true → ∀ type, (s.declarations.modifyElement id fun e =>
        { e with directType := type }).elementType = s.declarations.elementType) := by
  intro e
  have sourced := carried_sourced.traced Sourced.start traced
  have typing : e.typing = typingOf visits id := sourced.typing id
  have given {α : Type} (get : Visit → Option α) :
      ((visits.filterMap get).getLast?).isSome = true ↔ ∃ v ∈ visits, (get v).isSome = true := by
    simp [Option.isSome_iff_ne_none]
  have types : e.directType = (typingOf visits id).directType := congrArg Typing.directType typing
  have refers : e.reference = (typingOf visits id).reference := congrArg Typing.reference typing
  refine ⟨typing, fun v member tag node declares => ?_, ?_,
    Declarations.elementType_retyped⟩
  · obtain ⟨lawful, ok⟩ := traced.of_mem member
    exact v.isSome_gives lawful ok node declares
  · rw [types, refers, typingOf, given, given]
    constructor
    · rintro ⟨⟨w, types, hasType⟩, v, refers, isReference⟩
      exact ⟨⟨v, refers, isReference⟩, w, types,
        sourced.inline refers isReference types hasType, hasType⟩
    · rintro ⟨reference, w, types, -, hasType⟩
      exact ⟨⟨w, types, hasType⟩, reference⟩

/-- A field that refers to an element, and has a type of its own. -/
def typedReference : Source :=
  .bytes (["<x:schema xmlns:x='http://www.w3.org/2001/XMLSchema'>",
    "<x:element name='A' type='x:string'/>", "<x:element name='R'>", "<x:complexType>",
    "<x:sequence>", "<x:element ref='A'>", "<x:simpleType>", "<x:restriction base='x:int'/>",
    "</x:simpleType>", "</x:element>", "</x:sequence>", "</x:complexType>", "</x:element>",
    "</x:schema>"].flatMap Text.Utf8.encodeText)

set_option maxRecDepth 100000 in
/-- The field has both, and its type is that of the element that it refers to. -/
theorem typing_given_typedReference :
    let s := (start "" false).readDocument typedReference
    s.hasFailed = false ∧
      (∃ w ∈ (start "" false).visits typedReference, w.isType = true ∧
        (w.gives ⟨2⟩).directType.isSome = true) ∧
      ∀ type, (s.declarations.modifyElement ⟨2⟩ fun e =>
        { e with directType := type }).elementType ⟨2⟩ = s.declarations.elementType ⟨0⟩ := by
  intro s
  have shape : s.hasFailed = false ∧ (s.declarations.element ⟨2⟩).directType.isSome = true ∧
      (s.declarations.element ⟨2⟩).reference.isSome = true ∧
      s.declarations.elementType ⟨2⟩ = s.declarations.elementType ⟨0⟩ := by decide +kernel
  obtain ⟨ok, types, refers, same⟩ := shape
  obtain ⟨-, -, both, unused⟩ := typing_given ((Traced.start "" false).readDocument ok) ⟨2⟩
  exact ⟨ok, (both.1 ⟨types, refers⟩).2, fun type => (congrFun (unused refers type) ⟨2⟩).trans same⟩

end XsdRecords.Session
