import XsdRecords.Proofs.Session.ComplexType
import XsdRecords.Proofs.Session.Pushes

/-! # The stacks are those of the open tags

Between any two nodes of a document that is read from empty stacks, the stacks hold what the start
tags of the open tags have put there, in the order in which the tags stand in each other: an entry for
each element, attribute and type tag, and one on both stacks for each group that is a field of its
own.  Nothing comes from skipped content, whose depth is that of the open tags from the outermost
one skipped. -/

namespace XsdRecords.Session

open XsdRecords.Declaration (Declarations ElementId TypeId)
open XsdRecords.Declaration.Declarations (Edits)
open XsdRecords.Markup (Lexeme Node Reader Source StartTag)
open XsdRecords.Vocabulary (Tag framedTags)

/-! ## What open tags hold -/

/-- An open tag, with the elements and types that its start has put on the stacks. -/
structure Opening where
  tag : StartTag
  elements : List ElementId
  types : List TypeId

/-- The opening of a start tag: what is on the stacks after it and was not before. -/
def opening (s : Session) (tag : StartTag) (position : Position) : Opening :=
  let s' := s.readStart tag position
  { tag
    elements := s'.elementStack.take (s'.elementStack.length - s.elementStack.length)
    types := s'.typeStack.take (s'.typeStack.length - s.typeStack.length) }

/-- The openings after a node, the innermost first. -/
def stepOpenings (opened : List Opening) (v : Visit) : List Opening :=
  match v.node with
  | .start tag => if tag.isEmpty then opened else v.session.opening tag v.position :: opened
  | .stop _ => opened.tail

/-- The openings that some nodes leave open, the innermost first. -/
def openings (visits : List Visit) : List Opening :=
  visits.foldl stepOpenings []

/-- The innermost of some open tags. -/
def innermost (outer : List StartTag) : Tag :=
  (outer.map StartTag.kind).headD .outside

/-- Of the open tags those from the outermost one skipped, the outermost first. -/
def skippedTags (opened : List StartTag) : List StartTag :=
  opened.reverse.dropWhile fun tag => tag.kind.entry.start ≠ .skip

/-- An open tag holds as many elements and types as it is to open where it stands, and none in
skipped content. -/
def Opening.Fits (outer : List StartTag) (o : Opening) : Prop :=
  if skippedTags (o.tag :: outer) = [] then
    let isEnclosed := outer.any (·.kind = .element)
    o.elements.length = elementCount (innermost outer) isEnclosed o.tag ∧
      o.types.length = typeCount (innermost outer) isEnclosed o.tag
  else o.elements = [] ∧ o.types = []

/-- The stacks of a session are those of some open tags. -/
structure Stacked (s : Session) (opened : List Opening) : Prop where
  elementStack : s.elementStack = opened.flatMap Opening.elements
  typeStack : s.typeStack = opened.flatMap Opening.types
  tagStack : s.tagStack = opened.map (·.tag.kind)
  skipDepth : s.skipDepth = (skippedTags (opened.map Opening.tag)).length
  fits {inner outer : List Opening} {o : Opening} : opened = inner ++ o :: outer →
    o.Fits (outer.map Opening.tag)

/-- The openings are those of the open tags. -/
theorem tag_openings (visits : List Visit) :
    (openings visits).map Opening.tag = openTags (visits.map Visit.node) := by
  have step (opened : List Opening) (v : Visit) :
      (stepOpenings opened v).map Opening.tag = stepTags (opened.map Opening.tag) v.node := by
    unfold stepOpenings stepTags
    cases v.node with
    | start tag =>
      dsimp only
      split <;> rfl
    | stop name => exact List.map_tail
  have fold (opened : List Opening) : (visits.foldl stepOpenings opened).map Opening.tag =
      (visits.map Visit.node).foldl stepTags (opened.map Opening.tag) := by
    induction visits generalizing opened with
    | nil => rfl
    | cons v rest ih => rw [List.foldl_cons, ih, step, List.map_cons, List.foldl_cons]
  exact fold []

theorem skippedTags_cons (tag : StartTag) (outer : List StartTag) :
    skippedTags (tag :: outer) = if skippedTags outer = [] then
      if tag.kind.entry.start = .skip then [tag] else []
    else skippedTags outer ++ [tag] := by
  unfold skippedTags
  rw [List.reverse_cons, List.dropWhile_append]
  simp only [List.isEmpty_iff]
  split
  · rw [List.dropWhile_cons]
    by_cases skips : tag.kind.entry.start = .skip <;> simp [skips]
  · rfl

/-! ## The invariant -/

/-- Open tags hold what they are to hold, and a frame outside skipped content. -/
inductive Holds (d : Declarations) : List Opening → Prop
  | nil : Holds d []
  | skipped {o : Opening} {outer : List Opening} (rest : Holds d outer)
      (skips : skippedTags (o.tag :: outer.map Opening.tag) ≠ []) (elements : o.elements = [])
      (types : o.types = []) : Holds d (o :: outer)
  | reading {o : Opening} {outer : List Opening} (rest : Holds d outer)
      (reads : skippedTags (o.tag :: outer.map Opening.tag) = [])
      (allowed : (innermost (outer.map Opening.tag)).allows o.tag.kind = true)
      (frame : Frame d o.tag.kind o.elements o.types (outer.flatMap Opening.elements))
      (fits : o.Fits (outer.map Opening.tag)) : Holds d (o :: outer)

section Holds

variable {d d' : Declarations} {o : Opening} {outer opened : List Opening}

theorem Holds.mono (holds : Holds d opened) (edits : Edits d d')
    (tagged : ∀ id ∈ opened.flatMap Opening.elements,
      (d'.element id).isUntagged = (d.element id).isUntagged) : Holds d' opened := by
  induction holds with
  | nil => exact .nil
  | @skipped o outer rest skips elements types ih =>
    refine .skipped (ih fun id member => tagged id ?_) skips elements types
    exact List.mem_append_right _ member
  | @reading o outer rest reads allowed frame fits ih =>
    refine .reading (ih fun id member => tagged id ?_) reads allowed ?_ fits
    · exact List.mem_append_right _ member
    · exact frame.mono (fun _ _ isDefined => edits.isDefined_type isDefined)
        fun id member => ⟨fun isDefined => edits.isDefined_element isDefined, tagged id member⟩

theorem Holds.fits (holds : Holds d opened) {inner : List Opening}
    (split : opened = inner ++ o :: outer) : o.Fits (outer.map Opening.tag) := by
  induction holds generalizing inner with
  | nil => simp at split
  | skipped rest skips elements types ih =>
    cases inner with
    | nil =>
      obtain ⟨rfl, rfl⟩ := List.cons.inj split
      rw [Opening.Fits, if_neg skips]
      exact ⟨elements, types⟩
    | cons _ inner => exact ih (List.cons.inj split).2
  | reading rest reads allowed frame fits ih =>
    cases inner with
    | nil =>
      obtain ⟨rfl, rfl⟩ := List.cons.inj split
      exact fits
    | cons _ inner => exact ih (List.cons.inj split).2

/-- Outside skipped content the innermost tag has a frame. -/
theorem Holds.cases_reading (holds : Holds d (o :: outer))
    (reads : skippedTags ((o :: outer).map Opening.tag) = []) :
    Holds d outer ∧ skippedTags (outer.map Opening.tag) = [] ∧
      (innermost (outer.map Opening.tag)).allows o.tag.kind = true ∧
      Frame d o.tag.kind o.elements o.types (outer.flatMap Opening.elements) := by
  have before : skippedTags (outer.map Opening.tag) = [] := by
    rw [List.map_cons, skippedTags_cons] at reads
    split at reads
    · assumption
    · exact absurd reads (List.append_ne_nil_of_right_ne_nil _ (List.cons_ne_nil _ _))
  cases holds with
  | skipped _ skips => exact absurd reads skips
  | reading rest _ allowed frame => exact ⟨rest, before, allowed, frame⟩

theorem Holds.framed (holds : Holds d opened) (reads : skippedTags (opened.map Opening.tag) = []) :
    innermost (opened.map Opening.tag) ∈ .outside :: framedTags := by
  cases opened with
  | nil => exact List.mem_cons_self
  | cons o outer => exact List.mem_cons_of_mem _ (holds.cases_reading reads).2.2.2.framed

/-- The schema stands in no other tag, and nothing is open directly in it. -/
theorem Holds.schema (holds : Holds d opened) (reads : skippedTags (opened.map Opening.tag) = [])
    (isSchema : innermost (opened.map Opening.tag) = .schema) :
    ∃ own, opened = [own] ∧ own.tag.kind = .schema ∧ own.elements = [] ∧ own.types = [] := by
  cases opened with
  | nil => cases isSchema
  | cons own outer =>
    replace isSchema : own.tag.kind = .schema := isSchema
    obtain ⟨rest, before, allowed, frame⟩ := holds.cases_reading reads
    rw [isSchema] at allowed frame
    have outside := Tag.of_allows_schema (rest.framed before) allowed
    cases outer with
    | nil =>
      obtain ⟨elements, types⟩ := frame.eq_nil (by decide)
      exact ⟨own, rfl, isSchema, elements, types⟩
    | cons q outer =>
      have framed := (rest.cases_reading before).2.2.2.framed
      rw [show q.tag.kind = .outside from outside] at framed
      exact absurd framed (by decide)

/-- A complex type stands in the schema, where nothing is open, or in an element that has a tag. -/
theorem Holds.complexType (holds : Holds d opened)
    (reads : skippedTags (opened.map Opening.tag) = [])
    (isComplexType : innermost (opened.map Opening.tag) = .complexType) :
    (opened.flatMap Opening.elements = [] ∧
        (opened.map Opening.tag).any (·.kind = .element) = false) ∨
      ∃ id rest, opened.flatMap Opening.elements = id :: rest ∧
        (d.element id).isUntagged = false ∧
        (opened.map Opening.tag).any (·.kind = .element) = true := by
  cases opened with
  | nil => cases isComplexType
  | cons o outer =>
    replace isComplexType : o.tag.kind = .complexType := isComplexType
    obtain ⟨rest, before, allowed, frame⟩ := holds.cases_reading reads
    rw [isComplexType] at allowed frame
    have none := frame.elements_eq_nil (by decide)
    have own : (o :: outer).flatMap Opening.elements = outer.flatMap Opening.elements := by
      rw [List.flatMap_cons, none, List.nil_append]
    have any : ((o :: outer).map Opening.tag).any (·.kind = .element) =
        (outer.map Opening.tag).any (·.kind = .element) := by
      rw [List.map_cons, List.any_cons, isComplexType]
      rfl
    rw [own, any]
    obtain schema | element := Tag.of_allows_complexType (rest.framed before) allowed
    · obtain ⟨own, rfl, kind, elements, -⟩ := rest.schema before schema
      refine .inl ⟨by rw [List.flatMap_cons, elements]; rfl, ?_⟩
      rw [List.map_cons, List.any_cons, kind]
      rfl
    · cases outer with
      | nil => cases element
      | cons p outer =>
        replace element : p.tag.kind = .element := element
        obtain ⟨-, -, -, frame⟩ := rest.cases_reading before
        rw [element] at frame
        obtain ⟨id, own, tagged⟩ := frame.element_eq (.inl rfl)
        refine .inr ⟨id, outer.flatMap Opening.elements, ?_, tagged, ?_⟩
        · rw [List.flatMap_cons, own]
          rfl
        · rw [List.map_cons, List.any_cons, element]
          rfl

/-- Whether an element encloses a group is read off the open tags. -/
theorem Holds.isWrapped (holds : Holds d opened)
    (reads : skippedTags (opened.map Opening.tag) = []) (tag : StartTag) :
    isWrapped (innermost (opened.map Opening.tag))
        (!(opened.flatMap Opening.elements).isEmpty) tag =
      Session.isWrapped (innermost (opened.map Opening.tag))
        ((opened.map Opening.tag).any (·.kind = .element)) tag := by
  by_cases isComplexType : innermost (opened.map Opening.tag) = .complexType
  · obtain ⟨none, outside⟩ | ⟨id, rest, some, -, inside⟩ := holds.complexType reads isComplexType
    · rw [none, outside]
      rfl
    · rw [some, inside]
      rfl
  · simp only [Session.isWrapped, isComplexType, decide_false, Bool.false_and, Bool.or_false]

end Holds

/-- What holds of a session between two nodes, the openings being those of the open tags. -/
structure Held (s : Session) (opened : List Opening) : Prop where
  lawful : Lawful s
  elementStack : s.elementStack = opened.flatMap Opening.elements
  typeStack : s.typeStack = opened.flatMap Opening.types
  tagStack : s.tagStack = opened.map (·.tag.kind)
  skipDepth : s.skipDepth = (skippedTags (opened.map Opening.tag)).length
  holds : Holds s.declarations opened

namespace Held

variable {s s' : Session} {opened : List Opening} (held : Held s opened)

include held

theorem stacked : Stacked s opened :=
  ⟨held.elementStack, held.typeStack, held.tagStack, held.skipDepth, held.holds.fits⟩

theorem untouched (untouched : Untouched s s') : Held s' opened := by
  obtain ⟨⟨elements, types, tags, depth⟩, declarations⟩ := untouched
  refine ⟨held.lawful.untouched declarations elements types, elements.trans held.elementStack,
    types.trans held.typeStack, tags.trans held.tagStack, depth.trans held.skipDepth, ?_⟩
  rw [declarations]
  exact held.holds

theorem parentTag_eq : parentTag s = innermost (opened.map Opening.tag) := by
  rw [parentTag, held.tagStack, innermost, List.map_map]
  rfl

end Held

/-! ## Nodes -/

theorem opening_eq {s : Session} {tag : StartTag} {position : Position} (own : List ElementId)
    (ownTypes : List TypeId)
    (elements : (readStart s tag position).elementStack = own ++ s.elementStack)
    (types : (readStart s tag position).typeStack = ownTypes ++ s.typeStack) :
    s.opening tag position = ⟨tag, own, ownTypes⟩ := by
  simp [opening, elements, types]

section Node

variable {s : Session} {opened : List Opening} {position : Position}

/-- A session after a start tag: the opening of the tag is on top of what was open. -/
structure OpensTop (s s' : Session) (o : Opening) (opened : List Opening) : Prop where
  held : Held s' (o :: opened)
  elementStack : s'.elementStack = o.elements ++ s.elementStack
  typeStack : s'.typeStack = o.types ++ s.typeStack

/-- A tag whose content is skipped, or that stands in skipped content, opens nothing. -/
theorem Held.skips (held : Held s opened) {s' : Session} {tag : StartTag}
    (untouched : s'.declarations = s.declarations) (elements : s'.elementStack = s.elementStack)
    (types : s'.typeStack = s.typeStack) (tagStack : s'.tagStack = tag.kind :: s.tagStack)
    (skipDepth : s'.skipDepth = s.skipDepth + 1)
    (skipped : s.skipDepth = 0 → tag.kind.entry.start = .skip) :
    OpensTop s s' ⟨tag, [], []⟩ opened := by
  have deeper : (skippedTags (tag :: opened.map Opening.tag)).length = s.skipDepth + 1 := by
    have depth := held.skipDepth
    rw [skippedTags_cons]
    split
    · rename_i none
      rw [none] at depth
      rw [if_pos (skipped depth), depth]
      rfl
    · rw [List.length_append, ← depth]
      rfl
  refine ⟨⟨held.lawful.untouched untouched elements types, elements.trans held.elementStack,
    types.trans held.typeStack, ?_, skipDepth.trans deeper.symm, ?_⟩, elements, types⟩
  · rw [tagStack, held.tagStack]
    rfl
  · rw [untouched]
    refine .skipped held.holds (fun none => ?_) rfl rfl
    rw [none] at deeper
    cases deeper

/-- Outside skipped content a tag that is not skipped opens what it pushes. -/
theorem Held.pushes (held : Held s opened) (reading : s.skipDepth = 0) {m s' : Session}
    {tag : StartTag} {own : List ElementId} {ownTypes : List TypeId} (marks : Marks tag.kind s m)
    (pushed : PushesFrame tag own ownTypes m s')
    (allowed : (parentTag s).allows tag.kind = true)
    (edits : Edits s.declarations s'.declarations) :
    OpensTop s s' ⟨tag, own, ownTypes⟩ opened := by
  have reads : skippedTags (opened.map Opening.tag) = [] :=
    List.length_eq_zero_iff.1 (held.skipDepth.symm.trans reading)
  have still : skippedTags (tag :: opened.map Opening.tag) = [] := by
    rw [skippedTags_cons, if_pos reads, if_neg pushed.start_ne_skip]
  have pushes := pushed.pushes
  have elements := pushes.elementStack
  have types := pushes.typeStack
  rw [marks.elementStack] at elements
  rw [marks.typeStack] at types
  have lawful : Lawful s' := by
    rw [← marks.declarations] at edits
    exact pushes.lawful edits (marks.lawful held.lawful)
  -- The frame and the counts are told of the marked session, which has the stacks of `s`.
  have frame := pushed.frame
  have counts := pushed.elements
  have typeCounts := pushed.types
  rw [marks.elementStack, held.elementStack] at frame
  rw [marks.outerTag, marks.elementStack, held.parentTag_eq, held.elementStack] at counts typeCounts
  rw [held.parentTag_eq] at allowed
  refine ⟨⟨lawful, ?_, ?_, ?_, ?_, ?_⟩, elements, types⟩
  · rw [elements, held.elementStack]
    rfl
  · rw [types, held.typeStack]
    rfl
  · rw [pushes.tagStack, marks.tagStack, held.tagStack]
    rfl
  · rw [pushes.skipDepth, marks.skipDepth, reading, List.map_cons, still]
    rfl
  · have kept := held.holds.mono edits fun id member => by
      rw [← held.elementStack, ← marks.elementStack] at member
      rw [← marks.declarations]
      exact pushes.isUntagged member
    refine .reading kept still allowed frame ?_
    rw [Opening.Fits, if_pos still]
    refine ⟨counts.trans ?_, typeCounts.trans ?_⟩
    · simp only [elementCount, held.holds.isWrapped reads]
    · simp only [typeCount, held.holds.isWrapped reads]

/-- A start tag opens what it puts on the stacks. -/
theorem Held.readStart (held : Held s opened) {tag : StartTag}
    (ok : (readStart s tag position).hasFailed = false) :
    OpensTop s (readStart s tag position) (s.opening tag position) opened := by
  obtain ⟨allowed, whole⟩ := readStart_eq_of_ok ok
  have edits := readStart_edits held.lawful.inRange tag position
  by_cases reading : s.skipDepth = 0
  · have tagged (isComplexType : parentTag s = .complexType) (id : ElementId)
        (head : s.elementStack.head? = some id) :
        (s.declarations.element id).isUntagged = false := by
      have reads : skippedTags (opened.map Opening.tag) = [] :=
        List.length_eq_zero_iff.1 (held.skipDepth.symm.trans reading)
      rw [held.parentTag_eq] at isComplexType
      rw [held.elementStack] at head
      obtain ⟨none, -⟩ | ⟨first, rest, some, tagged, -⟩ :=
        held.holds.complexType reads isComplexType
      · rw [none] at head
        cases head
      · rw [some] at head
        exact Option.some.inj head ▸ tagged
    obtain ⟨m, marks, ⟨skips, left⟩ | ⟨own, ownTypes, pushed⟩⟩ :=
      readStart_pushes held.lawful reading tagged ok
    · have top := held.skips (left.declarations.trans marks.declarations)
        (left.elementStack.trans marks.elementStack) (left.typeStack.trans marks.typeStack)
        (left.tagStack.trans marks.tagStack) (by rw [left.skipDepth, marks.skipDepth])
        fun _ => skips
      rw [opening_eq [] [] top.elementStack top.typeStack]
      exact top
    · have top := held.pushes reading marks pushed allowed edits
      rw [opening_eq own ownTypes top.elementStack top.typeStack]
      exact top
  · rw [if_pos (Nat.pos_of_ne_zero reading)] at whole
    have top : OpensTop s (Session.readStart s tag position) ⟨tag, [], []⟩ opened := by
      rw [whole]
      exact held.skips rfl rfl rfl rfl rfl fun none => absurd none reading
    rw [opening_eq [] [] top.elementStack top.typeStack]
    exact top

/-- An end tag takes away what the start of its tag has put on the stacks, and nothing else. -/
theorem Held.readStop (held : Held s opened) (ok : (readStop s position).hasFailed = false) :
    Held (readStop s position) opened.tail := by
  cases opened with
  | nil =>
    have whole : Session.readStop s position = { s with position } := by
      simp [Session.readStop, held.tagStack]
    rw [whole]
    exact held.untouched ⟨⟨rfl, rfl, rfl, rfl⟩, rfl⟩
  | cons o outer =>
    have tagStack : s.tagStack = o.tag.kind :: outer.map (·.tag.kind) := held.tagStack
    have depth := held.skipDepth
    rw [List.map_cons, skippedTags_cons] at depth
    cases skipDepth : s.skipDepth with
    | zero =>
      -- The frame of the tag, not its kind alone, says what its end takes from the stacks.
      have reads : skippedTags ((o :: outer).map Opening.tag) = [] :=
        List.length_eq_zero_iff.1 (held.skipDepth.symm.trans skipDepth)
      obtain ⟨rest, before, -, frame⟩ := held.holds.cases_reading reads
      obtain ⟨declarations, elements, types, tags, depth', -⟩ :=
        readStop_of_reading tagStack skipDepth frame held.elementStack held.typeStack ok
      refine ⟨held.lawful.closing declarations ?_ ?_, elements, types, tags, ?_, ?_⟩
      · rw [elements, held.elementStack]
        exact List.subset_append_right _ _
      · rw [types, held.typeStack]
        exact List.subset_append_right _ _
      · rw [depth', List.tail_cons, before]
        rfl
      · rw [declarations]
        exact rest
    | succ n =>
      rw [readStop_of_skipping tagStack skipDepth]
      rw [skipDepth] at depth
      have skips : skippedTags (o.tag :: outer.map Opening.tag) ≠ [] := fun none => by
        rw [← skippedTags_cons, none] at depth
        cases depth
      cases held.holds with
      | reading _ reads => exact absurd reads skips
      | skipped rest _ elements types =>
        refine ⟨held.lawful.untouched rfl rfl rfl, ?_, ?_, rfl, ?_, rest⟩
        · exact held.elementStack.trans (by rw [List.flatMap_cons, elements]; rfl)
        · exact held.typeStack.trans (by rw [List.flatMap_cons, types]; rfl)
        · rw [List.tail_cons]
          split at depth
          · rename_i none
            rw [none]
            split at depth
            · exact Nat.succ.inj depth
            · cases depth
          · rw [List.length_append] at depth
            exact Nat.succ.inj depth

/-- A node keeps the invariant. -/
theorem Held.after {v : Visit} (held : Held v.session opened) (ok : v.after.hasFailed = false) :
    Held v.after (stepOpenings opened v) := by
  unfold Visit.after at ok ⊢
  unfold stepOpenings
  cases node : v.node with
  | stop name =>
    rw [node] at ok
    exact held.readStop ok
  | start tag =>
    rw [node] at ok
    obtain ⟨started, whole⟩ := readNode_start ok
    have inside := (held.readStart started).held
    rw [whole] at ok ⊢
    dsimp only
    split
    · rename_i isEmpty
      rw [if_pos isEmpty] at ok
      exact inside.readStop ok
    · exact inside

end Node

/-! ## Documents -/

theorem Run.held {s s' : Session} {visits : List Visit} (run : Run s visits s')
    {opened : List Opening} (held : Held s opened) :
    Held s' (visits.foldl stepOpenings opened) := by
  induction run generalizing opened with
  | nil untouched => exact held.untouched untouched
  | cons untouched ok later ih => exact ih ((held.untouched untouched).after ok)

/-- The nodes of a document up to one that is read without a failure are a run. -/
theorem run_visitsOf (lexemes : List Lexeme) {s : Session} {r : Reader} {before rest : List Visit}
    {v : Visit} (split : visitsOf s r lexemes = before ++ v :: rest)
    (ok : v.after.hasFailed = false) : Run s (before ++ [v]) v.after :=
  let ⟨_, run, between⟩ := run_visitsOf_before split
  run.snoc between ok

/-- What a node does to the stacks: a start tag puts its opening on top, and its own end tag, which
an empty tag has with it, takes no more and no less away. -/
def Visit.Moves (v : Visit) (opened : List Opening) : Prop :=
  match v.node with
  | .start tag =>
    let own := v.session.opening tag v.position
    let started := v.session.readStart tag v.position
    Stacked started (own :: opened) ∧
      started.elementStack = own.elements ++ v.session.elementStack ∧
      started.typeStack = own.types ++ v.session.typeStack ∧
      (tag.isEmpty = true → v.after.elementStack = v.session.elementStack ∧
        v.after.typeStack = v.session.typeStack)
  | .stop _ => ∀ own outer, opened = own :: outer →
    v.session.elementStack = own.elements ++ v.after.elementStack ∧
      v.session.typeStack = own.types ++ v.after.typeStack

theorem Held.moves {v : Visit} {opened : List Opening} (held : Held v.session opened)
    (ok : v.after.hasFailed = false) : v.Moves opened := by
  have after := held.after ok
  unfold stepOpenings at after
  unfold Visit.Moves
  cases node : v.node with
  | stop name =>
    rw [node] at after
    rintro own outer rfl
    rw [held.elementStack, held.typeStack, after.elementStack, after.typeStack]
    exact ⟨rfl, rfl⟩
  | start tag =>
    rw [node] at after
    have read : v.after = v.session.readNode (.start tag) v.position := by
      rw [Visit.after, node]
    rw [read] at ok
    obtain ⟨inside, elements, types⟩ := held.readStart (readNode_start ok).1
    refine ⟨inside.stacked, elements, types, fun isEmpty => ?_⟩
    simp only [isEmpty, if_true] at after
    rw [after.elementStack, after.typeStack, held.elementStack, held.typeStack]
    exact ⟨rfl, rfl⟩

/-- Whenever a node of a document is read without a failure, from empty stacks at its start, the
stacks are those of the open tags before the node and after it, and the node moves no more than what
belongs to its tag. -/
theorem readDocument_stacked {s : Session} (reached : Reached s) (elements : s.elementStack = [])
    (types : s.typeStack = []) {source : Source} {before rest : List Visit} {v : Visit}
    (split : s.visits source = before ++ v :: rest) (ok : v.after.hasFailed = false) :
    Stacked v.session (openings before) ∧ Stacked v.after (openings (before ++ [v])) ∧
      v.Moves (openings before) ∧
      (openings (before ++ [v])).map Opening.tag = openTags ((before ++ [v]).map Visit.node) := by
  have start : Held s.beginDocument [] :=
    ⟨(reached.lawful elements types).untouched rfl rfl rfl, elements, types, rfl, rfl, .nil⟩
  have run : Run s.beginDocument (before ++ [v]) v.after := by
    cases source with
    | failing reason => simp [visits] at split
    | bytes content => exact run_visitsOf _ split ok
  obtain ⟨m, earlier, own⟩ := run.split
  have held : Held v.session (openings before) := by
    cases own with
    | cons untouched => exact (earlier.held start).untouched untouched
  exact ⟨held.stacked, (run.held start).stacked, held.moves ok, tag_openings _⟩

set_option maxRecDepth 100000 in
/-- The choice opens an element and a type on top of the type that the sequence lays out. -/
theorem readDocument_stacked_choiceInSequence : ∃ before v rest,
    (start "" false).visits choiceInSequence = before ++ v :: rest ∧
      v.after.elementStack.length = 1 ∧ v.after.typeStack.length = 2 ∧
      Stacked v.session (openings before) ∧ Stacked v.after (openings (before ++ [v])) ∧
      v.Moves (openings before) ∧
      (openings (before ++ [v])).map Opening.tag = openTags ((before ++ [v]).map Visit.node) := by
  have shape : (((start "" false).visits choiceInSequence).drop 4).head?.map (fun v =>
      (v.after.hasFailed, v.after.elementStack.length, v.after.typeStack.length)) =
        some (false, 1, 2) := by decide +kernel
  obtain ⟨v, head, same⟩ := Option.map_eq_some_iff.1 shape
  obtain ⟨rest, tail⟩ := List.head?_eq_some_iff.1 head
  obtain ⟨ok, elements, types⟩ := Prod.mk.inj same |>.imp id Prod.mk.inj
  have split : (start "" false).visits choiceInSequence =
      ((start "" false).visits choiceInSequence).take 4 ++ v :: rest := by
    rw [← tail, List.take_append_drop]
  exact ⟨_, v, rest, split, elements, types,
    readDocument_stacked (.start "" false) rfl rfl split ok⟩

end XsdRecords.Session
