import XsdRecords.Proofs.Session.Bases
import XsdRecords.Proofs.Session.Resolution
import XsdRecords.Proofs.Session.Support
import XsdRecords.Proofs.Session.TopLevel

/-! # Names that are defined more than once

A tag that defines a name is read only if nothing of that name is defined by then. -/

namespace XsdRecords

open XsdRecords.Declaration
open XsdRecords.Markup (Source StartTag)
open XsdRecords.Vocabulary (Tag)

namespace Declaration.Declarations

/-- What a name stands for is defined. -/
def Defines (d : Declarations) (r : Reference) : Prop :=
  ∃ place, d.place? r = some place ∧ d.isDefinedAt r.referent place = true

/-- What is known of an element or attribute is that it is defined. -/
theorem Knows.defines {d : Declarations} {r : Reference} (known : d.Knows r)
    (isRoot : r.referent ≠ .type) : d.Defines r := by
  obtain ⟨place, found, isDefined⟩ := known
  refine ⟨place, found, ?_⟩
  unfold isDefinedAt
  split
  · contradiction
  · exact isDefined isRoot

/-- What is found under a name, or is added under it, is defined if the name is. -/
theorem Adds.isDefinedAt_iff {d d' : Declarations} {r : Reference} {place : Nat}
    (adds : Adds d d' r place)
    (kept : d.place? r ≠ none → d'.isDefinedAt r.referent place = d.isDefinedAt r.referent place)
    (new : d.place? r = none → d'.isDefinedAt r.referent place = false) :
    d'.isDefinedAt r.referent place = true ↔ d.Defines r := by
  cases found : d.place? r with
  | none =>
    rw [new found]
    refine ⟨fun h => absurd h Bool.false_ne_true, ?_⟩
    rintro ⟨_, found', -⟩
    rw [found] at found'
    cases found'
  | some old =>
    obtain rfl := adds.old found
    rw [kept (by simp [found])]
    refine ⟨fun isDefined => ⟨place, found, isDefined⟩, ?_⟩
    rintro ⟨_, found', isDefined⟩
    obtain rfl := Option.some.inj (found.symm.trans found')
    exact isDefined

theorem isDefined_findOrAddType (d : Declarations) (symbol : Symbol) :
    ((d.findOrAddType symbol).1.type (d.findOrAddType symbol).2.1).isDefined = true ↔
      d.Defines ⟨.type, symbol⟩ := by
  have adds := adds_findOrAddType d symbol
  refine adds.isDefinedAt_iff (fun old => ?_) fun new => ?_
  · obtain ⟨id, found⟩ : ∃ id, d.typeTable.find? symbol = some id := by
      simpa [place?, Option.ne_none_iff_exists'] using old
    rw [findOrAddType, found]
  · have none : d.typeTable.find? symbol = none := by simpa [place?] using new
    rw [findOrAddType, none]
    exact congrArg TypeDef.isDefined ((type_addType d _ _).trans (if_pos rfl))

end Declaration.Declarations

/-- What is known of every end of an action. -/
theorem Action.Ends.of_forall {α : Type} {action : Action α} {s : Session}
    {done : α → Session → Prop} (holds : ∀ answer s', done answer s') :
    action.Ends s done (fun _ _ => True) := by
  unfold Action.Ends
  split
  · exact holds _ _
  · trivial

namespace Session

open XsdRecords.Action

variable {s s' m : Session} {r : Reference} {tag : StartTag} {kind : Tag} {position : Position}

/-! ## Start tags -/

theorem openElement_finds (s : Session) (isTopLevel isAttribute : Bool) (name : String) :
    (openElement isTopLevel isAttribute name).Ends s
      (fun _ _ => isTopLevel = true →
        ¬s.declarations.Defines ⟨.root isAttribute, s.target, name⟩)
      (fun _ _ => True) := by
  cases isTopLevel with
  | false => exact .of_forall fun _ _ top => by cases top
  | true =>
    simp only [openElement, if_true, ends_bind, ends_get]
    refine (findRoot_adds s ⟨s.target, name⟩ isAttribute).imp ?_ fun _ _ h => h.elim
    rintro id m ⟨d, rfl, adds, same, fresh⟩
    have defined := adds.isDefinedAt_iff (fun _ => same id) fun new => (same id).trans (fresh new)
    simp only [ends_declarations, ends_ite, ends_bind, ends_throw, ends_pushElement, ends_pure]
    split
    · trivial
    · rename_i undefined
      exact fun _ => mt defined.2 undefined

/-- An element or attribute tag that defines a name finds nothing defined under it. -/
theorem startElement_finds (s : Session) (tag : StartTag) (isAttribute : Bool) :
    (startElement tag isAttribute).Ends s
      (fun _ _ => ∀ r, elementDefinition? s tag isAttribute = some r → ¬s.declarations.Defines r)
      (fun _ _ => True) := by
  unfold startElement
  refine ends_bind.2 (ends_get.2 (ends_bind.2 ?_))
  refine (openElement_finds s s.typeStack.isEmpty isAttribute _).imp_done fun id m undefined => ?_
  refine .of_forall fun _ _ r own => ?_
  unfold elementDefinition? at own
  split at own
  · rename_i top
    exact Option.some.inj own ▸ undefined top
  · cases own

theorem findType_finds (s : Session) (name : String) :
    (findType ⟨s.target, name⟩).Ends s
      (fun id s' => s'.declarations.place? ⟨.type, s.target, name⟩ = some id.index ∧
        ((s'.declarations.type id).isDefined = true ↔
          s.declarations.Defines ⟨.type, s.target, name⟩))
      (fun _ _ => s.declarations.Defines ⟨.type, s.target, name⟩) := by
  have defined := Declarations.isDefined_findOrAddType s.declarations ⟨s.target, name⟩
  have adds := Declarations.adds_findOrAddType s.declarations ⟨s.target, name⟩
  simp only [findType, ends_bind, ends_declare, ends_get, ends_ite, ends_throw, ends_declarations]
  split
  · rename_i foreign
    simp only [Bool.and_eq_true, decide_eq_true_eq] at foreign
    exact absurd rfl foreign.1.2
  · split
    · rename_i builtin own
      simp only [ends_ite, ends_bind, ends_throw, ends_pure]
      split
      · refine defined.1 ?_
        rw [TypeDef.isDefined, own]
        rfl
      · exact ⟨adds.own, defined⟩
    · exact ⟨adds.own, defined⟩

/-- A type tag at the top opens the type of its name, if it has one and nothing is defined under
it. -/
theorem startType_finds (closed : s.elementStack = []) (tag : StartTag) (kind : Tag) :
    let name := (tag.plain? "name").getD ""
    (startType tag kind).Ends s
      (fun _ s' => (name ≠ "" ∧ ¬s.declarations.Defines ⟨.type, s.target, name⟩) ∧
        ∃ type, s'.typeStack.head? = some type ∧
          s'.declarations.place? ⟨.type, s.target, name⟩ = some type.index)
      (fun _ _ => ¬(name ≠ "" ∧ ¬s.declarations.Defines ⟨.type, s.target, name⟩)) := by
  intro name
  have opened : (openType name).Ends s
      (fun id s' => (name ≠ "" ∧ ¬s.declarations.Defines ⟨.type, s.target, name⟩) ∧
        s'.declarations.place? ⟨.type, s.target, name⟩ = some id.index)
      (fun _ _ => ¬(name ≠ "" ∧ ¬s.declarations.Defines ⟨.type, s.target, name⟩)) := by
    simp only [openType, closed, ends_bind, ends_get, ends_ite, ends_throw]
    split
    · rename_i nameless
      exact fun h => h.1 nameless
    · rename_i named
      refine (findType_finds s name).imp ?_ fun _ _ defined h => h.2 defined
      rintro id m ⟨place, defined⟩
      simp only [ends_declarations, ends_pure]
      split
      · rename_i isDefined
        exact fun h => h.2 (defined.1 isDefined)
      · rename_i undefined
        exact ⟨⟨named, mt defined.2 undefined⟩, place⟩
  unfold startType
  refine ends_bind.2 (ends_get.2 (ends_bind.2 (opened.imp_done ?_)))
  rintro id m ⟨finds, place⟩
  simp only [ends_note, ends_ite, ends_bind, ends_modifyType, ends_pushType]
  split
  · exact ⟨finds, id, rfl, place⟩
  · split
    · exact ⟨finds, id, rfl, place⟩
    · exact ⟨finds, id, rfl, place⟩

/-- What a tag does that defines a name: it finds nothing defined under it, and a type tag opens its
type. -/
structure Introduces (s : Session) (r : Reference) (s' : Session) : Prop where
  undefined : ¬s.declarations.Defines r
  opens : r.referent = .type → ∃ type, s'.typeStack.head? = some type ∧
    s'.declarations.place? r = some type.index

theorem startAction_finds (s : Session) (tag : StartTag) (kind : Tag) :
    (startAction kind tag).Ends s
      (fun _ s' => ∀ r, definition? s tag kind = some r → Introduces s r s') (fun _ _ => True) := by
  have element (isAttribute : Bool) {s' : Session}
      (undefined : ∀ r, elementDefinition? s tag isAttribute = some r → ¬s.declarations.Defines r)
      (r : Reference) (own : elementDefinition? s tag isAttribute = some r) :
      Introduces s r s' := by
    refine ⟨undefined r own, fun isType => ?_⟩
    unfold elementDefinition? at own
    split at own
    · cases own
      cases isType
    · cases own
  unfold startAction definition?
  cases action : kind.entry.start with
  | defineAttribute =>
    exact (startElement_finds s tag true).imp_done fun _ _ undefined => element true undefined
  | defineElement =>
    exact (startElement_finds s tag false).imp_done fun _ _ undefined => element false undefined
  | defineType =>
    simp only [typeDefinition?]
    cases closed : s.elementStack with
    | nil =>
      refine (startType_finds closed tag kind).imp ?_ fun _ _ _ => trivial
      rintro - m ⟨⟨-, undefined⟩, opens⟩ r own
      cases own
      exact ⟨undefined, fun _ => opens⟩
    | cons => exact .of_forall fun _ _ r own => by cases own
  | _ => exact .of_forall fun _ _ r own => by cases own

/-- An action without a problem exactly if something holds. -/
theorem succeeds_iff {α : Type} {action : Action α} {P : Prop}
    (ends : action.Ends s (fun _ _ => P) (fun _ _ => ¬P)) : action.Succeeds s ↔ P := by
  unfold Succeeds
  unfold Ends at ends ⊢
  split at ends
  · exact iff_of_true trivial ends
  · exact iff_of_false id ends

theorem introduces_of_definition? (reading : s.skipDepth = 0)
    (ok : (readStart s tag position).hasFailed = false)
    (own : definition? s tag tag.kind = some r) :
    Introduces s r (readStart s tag position) := by
  have alike := alike_noteAttributes s position tag.kind tag
  have whole := readStart_eq_perform reading ok
  rw [whole] at ok ⊢
  have finds := done_of_perform (P := fun s' => ∀ r, definition? _ tag tag.kind = some r →
    Introduces _ r s') (((startAction_finds _ tag tag.kind).and
      (steady_startAction tag.kind tag _)).imp (fun _ _ h => h.1) fun _ _ h => h.2.1) ok r
        (alike.definition?.trans own)
  exact ⟨alike.declarations ▸ finds.undefined, finds.opens⟩

/-- A type tag at the top is read without a failure exactly if it is known, may stand where it does,
has a name, and finds nothing defined under it. -/
theorem hasFailed_readStart_type_iff (reading : s.skipDepth = 0) (closed : s.elementStack = [])
    (isType : tag.kind = .complexType ∨ tag.kind = .simpleType) (position : Position) :
    (readStart s tag position).hasFailed = false ↔
      findTag s tag = .ok tag.kind ∧ (parentTag s).allows tag.kind = true ∧ s.hasFailed = false ∧
        (tag.plain? "name").getD "" ≠ "" ∧
        ¬s.declarations.Defines ⟨.type, s.target, (tag.plain? "name").getD ""⟩ := by
  have alike := alike_noteAttributes s position tag.kind tag
  have action : startAction tag.kind tag = startType tag tag.kind := by
    obtain kind | kind := isType <;> rw [kind] <;> rfl
  have finds := startType_finds (alike.elementStack.trans closed) tag tag.kind
  rw [hasFailed_readStart_iff reading, action,
    succeeds_iff (finds.imp_done fun _ _ h => h.1), alike.declarations,
    target_of_setting alike.setting]

/-! ## Nodes -/

/-- A node that defines a name is a start tag that finds nothing defined under it. -/
theorem Visit.introduces {v : Visit} (ok : v.after.hasFailed = false)
    (own : defines? v.session v.node = some r) :
    ∃ tag, v.node = .start tag ∧ v.session.skipDepth = 0 ∧
      definition? v.session tag tag.kind = some r ∧
      v.after.declarations = (readStart v.session tag v.position).declarations ∧
      Introduces v.session r (readStart v.session tag v.position) := by
  obtain ⟨s, node, position⟩ := v
  obtain ⟨tag, starts, own⟩ := Option.bind_eq_some_iff.1 own
  obtain ⟨rfl, reading⟩ := eq_start_of_tag? starts
  exact ⟨tag, rfl, reading, own, declarations_readNode_start ok,
    introduces_of_definition? reading (readNode_start ok).1 own⟩

/-- What defines a type by a tag of a complex type has completed the type. -/
theorem Visit.settles_of_complexType {v : Visit} (ok : v.after.hasFailed = false)
    (own : defines? v.session v.node = some r) (isType : r.referent = .type) {tag : StartTag}
    (node : v.node = .start tag) (kind : tag.kind = .complexType) {place : Nat}
    (found : v.after.declarations.place? r = some place) : v.settles r.referent place = true := by
  obtain ⟨_, node', reading, -, same, introduces⟩ := v.introduces ok own
  cases node.symm.trans node'
  obtain ⟨type, head, opened⟩ := introduces.opens isType
  rw [same, opened] at found
  obtain rfl := Option.some.inj found
  simp [isType, settles, completes, node, reading, completed, kind, head]

/-- A tag that defines a name is one of a type where no element is open, or one of an element or
attribute where no type is. -/
theorem definition?_eq_some (own : definition? s tag kind = some r) :
    ((kind = .complexType ∨ kind = .simpleType) ∧ s.elementStack = [] ∧
        r = ⟨.type, s.target, (tag.plain? "name").getD ""⟩) ∨
      ((kind = .element ∨ kind = .attributeTag) ∧ s.typeStack = [] ∧ r.referent ≠ .type) := by
  have element {isAttribute : Bool} (isElement : kind = .element ∨ kind = .attributeTag)
      (own : elementDefinition? s tag isAttribute = some r) :
      (kind = .element ∨ kind = .attributeTag) ∧ s.typeStack = [] ∧ r.referent ≠ .type := by
    unfold elementDefinition? at own
    split at own
    · rename_i top
      cases own
      exact ⟨isElement, List.isEmpty_iff.1 top, by simp⟩
    · cases own
  unfold definition? at own
  split at own
  · rename_i action
    exact .inr (element (.inr (List.mem_singleton.1 (mem_tags_of_start action (by decide)))) own)
  · rename_i action
    exact .inr (element (.inl (List.mem_singleton.1 (mem_tags_of_start action (by decide)))) own)
  · rename_i action
    have isType : kind = .complexType ∨ kind = .simpleType := by
      simpa [Vocabulary.StartAction.tags] using mem_tags_of_start action (by decide)
    unfold typeDefinition? at own
    split at own
    · rename_i top
      cases own
      exact .inl ⟨isType, List.isEmpty_iff.1 top, rfl⟩
    · cases own
  · cases own

/-! ## Runs -/

namespace Traced

variable {visits : List Visit} (traced : Traced s visits)

include traced

/-- What nodes have declared is declared in the end. -/
theorem edits_of_mem {v : Visit} (member : v ∈ visits) : Edited v.after s := by
  induction traced with
  | start => cases member
  | @untouched s s' visits _ same ih =>
    rw [Edited, same.declarations]
    exact ih member
  | beginDocument _ ih => exact ih member
  | @node w visits traced ok ih =>
    obtain earlier | last := List.mem_append.1 member
    · exact (ih earlier).trans (readNode_edits traced.grounded.lawful.inRange w.node w.position)
    · obtain rfl := List.mem_singleton.1 last
      exact .refl

/-- What nodes have defined is declared in the end, and an element defined or still open. -/
theorem hasDeclared {v : Visit} (member : v ∈ visits)
    (own : defines? v.session v.node = some r) : s.HasDeclared r := by
  induction traced with
  | start => cases member
  | untouched _ same ih => exact (ih member).untouched same
  | beginDocument _ ih => exact ih member
  | @node w visits traced ok ih =>
    have lawful := traced.grounded.lawful
    refine hasDeclared_after lawful.inRange lawful.listed ok ?_
    obtain earlier | last := List.mem_append.1 member
    · exact .inl (ih earlier)
    · exact .inr (List.mem_singleton.1 last ▸ own)

/-- A name is defined exactly if one of the nodes before has defined what it stands for, or if it is
built in. -/
theorem defines_iff : s.declarations.Defines r ↔ ∃ place,
    s.declarations.place? r = some place ∧ (visits.any (·.settles r.referent place) ||
      Declarations.initial.isDefinedAt r.referent place) = true := by
  simp only [Declarations.Defines, traced.hasSettled r.referent]

end Traced

/-! ## Documents -/

/-- Where an element or attribute stands in the schema, no element is open. -/
theorem Held.elementStack_of_root {opened : List Opening} (held : Held s opened)
    (reading : s.skipDepth = 0) (allowed : (parentTag s).allows kind = true)
    (isElement : kind = .element ∨ kind = .attributeTag) (top : s.typeStack = []) :
    s.elementStack = [] := by
  have reads : skippedTags (opened.map Opening.tag) = [] :=
    List.length_eq_zero_iff.1 (held.skipDepth.symm.trans reading)
  rw [held.parentTag_eq] at allowed
  obtain isSchema | inside := Tag.of_allows_field (held.holds.framed reads) isElement allowed
  · obtain ⟨own, whole, -, none, -⟩ := held.holds.schema reads isSchema
    rw [held.elementStack, whole, List.flatMap_singleton, none]
  · exact absurd (held.typeStack.symm.trans top) (held.holds.exists_type reads inside)

/-- Where two tags define one name, neither the first nor any other node before the second has
defined what the name stands for.  Of types, the first tag is then one of a simple type; of elements
and attributes, the documents before have left something open. -/
theorem Traced.redefinition {given : List Visit} (traced : Traced s given) {source : Source}
    {within rest : List Visit} {v w : Visit} (split : s.visits source = within ++ w :: rest)
    (ok : w.after.hasFailed = false) (earlier : v ∈ given ++ within)
    (first : defines? v.session v.node = some r) (second : defines? w.session w.node = some r) :
    (∃ place, v.after.declarations.place? r = some place ∧
      (∀ u ∈ given ++ within, u.settles r.referent place = false) ∧
      (r.referent = .type → ∃ tag, v.node = .start tag ∧ tag.kind = .simpleType)) ∧
    (r.referent ≠ .type → s.elementStack ≠ [] ∨ s.typeStack ≠ []) := by
  have here := traced.visited split
  obtain ⟨tag, node, reading, own, -, introduces⟩ := w.introduces ok second
  obtain ⟨lawful, read⟩ := here.of_mem earlier
  constructor
  · obtain ⟨place, found, -⟩ := hasDeclared_after lawful.inRange lawful.listed read (.inr first)
    have found' := Declarations.Edits.place? (here.edits_of_mem earlier) found
    have settled : ∀ u ∈ given ++ within, u.settles r.referent place = false := by
      intro u member
      refine Bool.eq_false_iff.2 fun settles => introduces.undefined (here.defines_iff.2 ?_)
      exact ⟨place, found', Bool.or_eq_true_iff.2 (.inl (List.any_eq_true.2 ⟨u, member, settles⟩))⟩
    refine ⟨place, found, settled, fun isType => ?_⟩
    obtain ⟨tag, starts, -, own, -⟩ := v.introduces read first
    obtain ⟨complex | simple, -⟩ | ⟨-, -, isRoot⟩ := definition?_eq_some own
    · have settles := v.settles_of_complexType read first isType starts complex found
      rw [settled v earlier] at settles
      cases settles
    · exact ⟨tag, starts, simple⟩
    · exact absurd isType isRoot
  · intro isRoot
    by_contra nothing
    rw [not_or, Classical.not_not, Classical.not_not] at nothing
    have held := traced.grounded.lawful.held_visited nothing.1 nothing.2 split
    -- The second tag stands in the schema, where every element is closed again and defined.
    obtain ⟨-, -, rfl⟩ | ⟨isElement, top, -⟩ := definition?_eq_some own
    · exact isRoot rfl
    · have started : (readStart w.session tag w.position).hasFailed = false := by
        unfold Visit.after at ok
        rw [node] at ok
        exact (readNode_start ok).1
      have closed := held.elementStack_of_root reading (readStart_eq_of_ok started).1 isElement top
      exact introduces.undefined (((here.hasDeclared earlier first).knows closed).defines isRoot)

end Session

end XsdRecords
