import XsdRecords.Proofs.Session.Scoping
import XsdRecords.Proofs.Session.Stacks

/-! # Whether a document is complete

A document may end while tags are open, and it may have any number of roots, none included: the lexer
compares end tags with start tags, and nobody looks at what is left at the end.  What a document that is
read without a failure spells is therefore a forest of schemas that lacks the end tags of its open
tags.  What is left open stays on the stacks of the session. -/

namespace XsdRecords.Session

open XsdRecords.Markup (Node Source StartTag TagName)
open XsdRecords.Vocabulary (Tag framedTags)

/-! ## Sequences of nodes -/

/-- Nodes whose end tags all have open tags to end, where some tags are open before them. -/
inductive Matched : List StartTag → List Node → Prop
  | nil (opened : List StartTag) : Matched opened []
  | start {tag : StartTag} {opened : List StartTag} {rest : List Node}
      (later : Matched (stepTags opened (.start tag)) rest) : Matched opened (.start tag :: rest)
  | stop {tag : StartTag} {name : TagName} {opened : List StartTag} {rest : List Node}
      (later : Matched opened rest) : Matched (tag :: opened) (.stop name :: rest)

/-- Nodes that end open tags one after another, with whole tags between. -/
inductive Closing : List StartTag → List Node → Prop
  | nil : Closing [] []
  | cons {tag : StartTag} {opened : List StartTag} {name : TagName} {forest : Forest}
      {between rest : List Node} (spells : forest.Spells between) (others : Closing opened rest) :
      Closing (tag :: opened) (.stop name :: (between ++ rest))

/-- The end tags of open tags. -/
def closers (opened : List StartTag) : List Node :=
  opened.map fun tag => .stop tag.name

theorem closing_closers (opened : List StartTag) : Closing opened (closers opened) := by
  induction opened with
  | nil => exact .nil
  | cons tag outer ih => exact .cons Forest.spells_nil ih

/-- What matched nodes and the missing end tags spell: whole tags, and the ends of the tags that were
open before. -/
theorem Matched.spells {opened : List StartTag} {nodes : List Node} (matched : Matched opened nodes) :
    ∃ (forest : Forest) (inside rest : List Node),
      nodes ++ closers (nodes.foldl stepTags opened) = inside ++ rest ∧ forest.Spells inside ∧
        Closing opened rest := by
  induction matched with
  | nil opened => exact ⟨.nil, [], closers opened, rfl, Forest.spells_nil, closing_closers opened⟩
  | @start tag opened later _ ih =>
    obtain ⟨forest, inside, rest, split, spells, closing⟩ := ih
    rw [List.foldl_cons, List.cons_append, split]
    unfold stepTags at closing
    dsimp only at closing
    split at closing
    · rename_i isEmpty
      exact ⟨.cons tag .nil forest, .start tag :: inside, rest, rfl,
        Forest.spells_empty tag isEmpty spells, closing⟩
    · rename_i nonEmpty
      cases closing with
      | @cons _ _ name after between rest spells' others =>
        refine ⟨.cons tag forest after, .start tag :: (inside ++ .stop name :: between), rest, ?_,
          Forest.spells_tag tag name (Bool.eq_false_iff.2 nonEmpty) spells spells', others⟩
        simp only [List.cons_append, List.append_assoc]
  | @stop tag name opened later _ ih =>
    obtain ⟨forest, inside, rest, split, spells, closing⟩ := ih
    refine ⟨.nil, [], .stop name :: (inside ++ rest), ?_, Forest.spells_nil, .cons spells closing⟩
    exact congrArg (Node.stop name :: ·) split

/-! ## Roots -/

/-- The tags of a forest that stand in no other. -/
def Forest.roots : Forest → List StartTag
  | .nil => []
  | .cons tag _ rest => tag :: rest.roots

/-- The tags that nodes start while none is open, where some are open before them. -/
def rootsFrom : List StartTag → List Node → List StartTag
  | _, [] => []
  | [], .start tag :: rest => tag :: rootsFrom (stepTags [] (.start tag)) rest
  | opened, node :: rest => rootsFrom (stepTags opened node) rest

/-- The tags of a document that stand in no other. -/
def rootTags (nodes : List Node) : List StartTag :=
  rootsFrom [] nodes

theorem rootsFrom_cons_cons (tag : StartTag) (opened : List StartTag) (node : Node)
    (rest : List Node) :
    rootsFrom (tag :: opened) (node :: rest) = rootsFrom (stepTags (tag :: opened) node) rest := by
  cases node <;> rfl

/-- A root starts where no tag is open. -/
theorem split_of_mem_rootsFrom {tag : StartTag} {opened : List StartTag} {nodes : List Node}
    (member : tag ∈ rootsFrom opened nodes) :
    ∃ before rest, nodes = before ++ .start tag :: rest ∧ before.foldl stepTags opened = [] := by
  induction nodes generalizing opened with
  | nil => cases opened <;> cases member
  | cons node rest ih =>
    have further (member : tag ∈ rootsFrom (stepTags opened node) rest) : ∃ before rest',
        node :: rest = before ++ .start tag :: rest' ∧ before.foldl stepTags opened = [] := by
      obtain ⟨before, after, split, none⟩ := ih member
      exact ⟨node :: before, after, by rw [split]; rfl, none⟩
    cases opened with
    | nil =>
      cases node with
      | start first =>
        cases member with
        | head => exact ⟨[], rest, rfl, rfl⟩
        | tail _ member => exact further member
      | stop name => exact further member
    | cons first outer =>
      rw [rootsFrom_cons_cons] at member
      exact further member

/-- What a forest spells leaves open what was open. -/
theorem Forest.Spells.foldl {forest : Forest} {nodes : List Node} (spells : forest.Spells nodes)
    (opened : List StartTag) : nodes.foldl stepTags opened = opened := by
  induction forest generalizing nodes opened with
  | nil =>
    obtain rfl : nodes = [] := spells
    rfl
  | cons tag content others ihContent ihOthers =>
    unfold Forest.Spells at spells
    split at spells
    · rename_i isEmpty
      obtain ⟨-, after, rfl, spellsOthers⟩ := spells
      rw [List.foldl_cons, stepTags, if_pos isEmpty]
      exact ihOthers spellsOthers opened
    · rename_i nonEmpty
      obtain ⟨inside, name, after, rfl, spellsContent, spellsOthers⟩ := spells
      rw [List.foldl_cons, stepTags, if_neg nonEmpty, List.foldl_append, ihContent spellsContent,
        List.foldl_cons]
      exact ihOthers spellsOthers opened

/-- What stands in a tag is no root. -/
theorem Forest.Spells.rootsFrom_inside {forest : Forest} {nodes : List Node}
    (spells : forest.Spells nodes) (outer : StartTag) (opened : List StartTag) (rest : List Node) :
    rootsFrom (outer :: opened) (nodes ++ rest) = rootsFrom (outer :: opened) rest := by
  induction forest generalizing nodes outer opened rest with
  | nil =>
    obtain rfl : nodes = [] := spells
    rfl
  | cons tag content others ihContent ihOthers =>
    unfold Forest.Spells at spells
    split at spells
    · rename_i isEmpty
      obtain ⟨-, after, rfl, spellsOthers⟩ := spells
      rw [List.cons_append, rootsFrom_cons_cons, stepTags, if_pos isEmpty]
      exact ihOthers spellsOthers outer opened rest
    · rename_i nonEmpty
      obtain ⟨inside, name, after, rfl, spellsContent, spellsOthers⟩ := spells
      rw [List.cons_append, rootsFrom_cons_cons, stepTags, if_neg nonEmpty, List.append_assoc,
        ihContent spellsContent, List.cons_append, rootsFrom_cons_cons]
      exact ihOthers spellsOthers outer opened rest

theorem Forest.Spells.rootTags {forest : Forest} {nodes : List Node}
    (spells : forest.Spells nodes) : Session.rootTags nodes = forest.roots := by
  induction forest generalizing nodes with
  | nil =>
    obtain rfl : nodes = [] := spells
    rfl
  | cons tag content others _ ihOthers =>
    unfold Forest.Spells at spells
    split at spells
    · rename_i isEmpty
      obtain ⟨-, after, rfl, spellsOthers⟩ := spells
      show tag :: rootsFrom (stepTags [] (.start tag)) after = tag :: others.roots
      rw [stepTags, if_pos isEmpty]
      exact congrArg (tag :: ·) (ihOthers spellsOthers)
    · rename_i nonEmpty
      obtain ⟨inside, name, after, rfl, spellsContent, spellsOthers⟩ := spells
      show tag :: rootsFrom (stepTags [] (.start tag)) _ = tag :: others.roots
      rw [stepTags, if_neg nonEmpty, spellsContent.rootsFrom_inside, rootsFrom_cons_cons]
      exact congrArg (tag :: ·) (ihOthers spellsOthers)

/-- Matched nodes spell a forest with the end tags that are missing. -/
theorem Matched.exists_forest {nodes : List Node} (matched : Matched [] nodes) :
    ∃ forest : Forest, forest.Spells (nodes ++ closers (openTags nodes)) := by
  obtain ⟨forest, inside, rest, split, spells, closing⟩ := matched.spells
  cases closing
  rw [List.append_nil] at split
  refine ⟨forest, ?_⟩
  rw [← split] at spells
  exact spells

/-- Nodes that lack end tags only spell one tree exactly if they lack none and have one root. -/
theorem exists_tree_iff {nodes : List Node}
    (spelled : ∃ forest : Forest, forest.Spells (nodes ++ closers (openTags nodes))) :
    (∃ root content, (Forest.cons root content .nil).Spells nodes) ↔
      openTags nodes = [] ∧ (rootTags nodes).length = 1 := by
  constructor
  · rintro ⟨root, content, spells⟩
    refine ⟨spells.foldl [], ?_⟩
    rw [spells.rootTags]
    rfl
  · rintro ⟨none, single⟩
    obtain ⟨forest, spells⟩ := spelled
    rw [none] at spells
    replace spells : forest.Spells nodes := by simpa [closers] using spells
    rw [spells.rootTags] at single
    cases forest with
    | nil => cases single
    | cons root content others =>
      cases others with
      | nil => exact ⟨root, content, spells⟩
      | cons => cases single

/-! ## The nodes of a document -/

/-- Nodes are matched if no end tag stands where nothing is open. -/
theorem matched_of_stops {opened : List StartTag} {nodes : List Node} (stops : ∀ before name rest,
    nodes = before ++ .stop name :: rest → before.foldl stepTags opened ≠ []) :
    Matched opened nodes := by
  induction nodes generalizing opened with
  | nil => exact .nil opened
  | cons node rest ih =>
    have later : Matched (stepTags opened node) rest := by
      apply ih
      intro before name after split
      exact stops (node :: before) name after (congrArg (node :: ·) split)
    cases node with
    | start tag => exact .start later
    | stop name =>
      cases opened with
      | nil => exact absurd rfl (stops [] name rest rfl)
      | cons tag outer => exact .stop later

/-- Every end tag that the reader delivers has an open tag to end. -/
theorem matched_visits {s : Session} (current : s.IsInDocument) (source : Source) :
    Matched [] ((s.visits source).map Visit.node) := by
  apply matched_of_stops
  intro before name rest split none
  obtain ⟨first, second, whole, rfl, others⟩ := List.map_eq_append_iff.1 split
  obtain ⟨v, later, rfl, stop, rfl⟩ := List.map_eq_cons_iff.1 others
  obtain ⟨p, token, opened, answers⟩ := answers_visits current whole
  rw [stop] at answers
  cases answers with
  | stop _ _ some =>
    rw [opened] at some
    exact absurd (some.symm.trans none) (List.cons_ne_nil _ _)

/-- Outside all tags only a schema is read without a failure. -/
theorem Held.isSchema {s : Session} (held : Held s []) {tag : StartTag} {position : Position}
    (ok : (Session.readStart s tag position).hasFailed = false) :
    tag.kind = .schema ∧ tag.name.namespaceId = .xmlSchema := by
  have reading : s.skipDepth = 0 := held.skipDepth
  constructor
  · have allowed := (readStart_eq_of_ok ok).1
    rw [held.parentTag_eq] at allowed
    have content : Tag.outside.entry.content = [.schema] := by decide
    have either : tag.kind = .outside ∨ tag.kind = .schema := by
      simpa [innermost, Tag.allows, content] using allowed
    refine either.resolve_left fun unknown => ?_
    cases (held.readStart ok).held.holds with
    | skipped _ skips =>
      apply skips
      show skippedTags [tag] = []
      have none : skippedTags [] = [] := rfl
      rw [skippedTags_cons, if_pos none, if_neg (by rw [unknown]; decide)]
    | reading _ _ _ frame =>
      have framed : tag.kind ∈ framedTags := frame.framed
      rw [unknown] at framed
      exact absurd framed (by decide)
  · refine Decidable.by_contra fun foreign => ?_
    have refused : findTag { s with position } tag =
        .error (.unknownNamespace tag.name.namespaceUri tag.name.localName) := by
      unfold findTag
      rw [if_pos (by simp [reading, foreign])]
    have failed : (Session.readStart s tag position).hasFailed = true := by
      unfold Session.readStart
      dsimp only
      rw [refused]
      exact hasFailed_report_of_fails _ rfl
    rw [failed] at ok
    cases ok

/-- Where a root is read, nothing is open, so that it is a schema. -/
theorem Run.isSchema_of_mem_rootTags {s s' : Session} {visits : List Visit} (run : Run s visits s')
    (start : Held s []) {tag : StartTag} (member : tag ∈ rootTags (visits.map Visit.node)) :
    tag.kind = .schema ∧ tag.name.namespaceId = .xmlSchema := by
  obtain ⟨before, after, nodes, none⟩ := split_of_mem_rootsFrom member
  obtain ⟨first, second, rfl, rfl, others⟩ := List.map_eq_append_iff.1 nodes
  obtain ⟨v, later, rfl, node, rfl⟩ := List.map_eq_cons_iff.1 others
  obtain ⟨m, earlier, own⟩ := run.split
  cases own with
  | cons untouched ok =>
    have opened : first.foldl stepOpenings [] = [] := by
      rw [← List.map_eq_nil_iff]
      exact (tag_openings first).trans none
    have held := (earlier.held start).untouched untouched
    rw [opened] at held
    unfold Visit.after at ok
    rw [node] at ok
    exact held.isSchema (readNode_start ok).1

/-- A document that is read without a failure, from empty stacks, consists of schemas, and lacks no more
than the end tags of the tags that it leaves open.  It is complete exactly if no tag is open at its end
and it has one root.  The stacks are left to the next document as the open tags have them: empty, if no
tag is open. -/
theorem readDocument_complete_iff {s : Session} (reached : Reached s)
    (elements : s.elementStack = []) (types : s.typeStack = []) {source : Source}
    (ok : (s.readDocument source).hasFailed = false) :
    let nodes := (s.visits source).map Visit.node
    let after := s.readDocument source
    (∃ forest : Forest, forest.Spells (nodes ++ closers (openTags nodes))) ∧
      (∀ tag ∈ rootTags nodes, tag.kind = .schema ∧ tag.name.namespaceId = .xmlSchema) ∧
      ((∃ root content, (Forest.cons root content .nil).Spells nodes) ↔
        after.tagStack = [] ∧ (rootTags nodes).length = 1) ∧
      Stacked after (openings (s.visits source)) ∧
      (openings (s.visits source)).map Opening.tag = openTags nodes ∧
      (after.tagStack = [] →
        after.elementStack = [] ∧ after.typeStack = [] ∧ after.skipDepth = 0) := by
  have start : Held s.beginDocument [] :=
    ⟨(reached.lawful elements types).untouched rfl rfl rfl, elements, types, rfl, rfl, .nil⟩
  have run := run_readDocument ok
  have stacked : Stacked (s.readDocument source) (openings (s.visits source)) :=
    (run.held start).stacked
  have tags := tag_openings (s.visits source)
  have spelled := (matched_visits reached.isInDocument source).exists_forest
  have closed : (s.readDocument source).tagStack = [] ↔ openings (s.visits source) = [] := by
    rw [stacked.tagStack, List.map_eq_nil_iff]
  refine ⟨spelled, fun tag member => run.isSchema_of_mem_rootTags start member, ?_, stacked, tags, ?_⟩
  · rw [exists_tree_iff spelled, ← tags, List.map_eq_nil_iff, closed]
  · intro none
    rw [closed.1 none] at stacked
    exact ⟨stacked.elementStack, stacked.typeStack, stacked.skipDepth⟩

/-- A document that ends in the middle of a complex type. -/
def truncatedDocument : Source :=
  .bytes (["<x:schema xmlns:x='http://www.w3.org/2001/XMLSchema'>", "<x:complexType name='T'>",
    "<x:sequence>"].flatMap Text.Utf8.encodeText)

set_option maxRecDepth 100000 in
/-- A document that ends too early is accepted, and leaves the type open. -/
theorem readDocument_complete_iff_truncated :
    let nodes := ((start "" false).visits truncatedDocument).map Visit.node
    let after := (start "" false).readDocument truncatedDocument
    after.hasFailed = false ∧ after.tagStack = [.sequence, .complexType, .schema] ∧
      after.typeStack.length = 1 ∧ (∃ forest : Forest,
        forest.Spells (nodes ++ closers (openTags nodes))) ∧
      ¬∃ root content, (Forest.cons root content .nil).Spells nodes := by
  have read : ((start "" false).readDocument truncatedDocument).hasFailed = false ∧
      ((start "" false).readDocument truncatedDocument).tagStack =
        [.sequence, .complexType, .schema] ∧
      ((start "" false).readDocument truncatedDocument).typeStack.length = 1 := by decide +kernel
  obtain ⟨ok, tags, types⟩ := read
  obtain ⟨spells, -, complete, -⟩ := readDocument_complete_iff (.start "" false) rfl rfl ok
  refine ⟨ok, tags, types, spells, fun whole => ?_⟩
  have none := (complete.1 whole).1
  rw [tags] at none
  cases none

end XsdRecords.Session
