import XsdRecords.Proofs.Session.Frames

/-! # Nodes keep the invariants

`Standing` is what holds between the nodes of a document that is read from empty stacks: the session
is lawful, and what is open is what the open tags outside skipped content have opened. -/

namespace XsdRecords.Session

open XsdRecords.Declaration (ElementId TypeId)
open XsdRecords.Markup (StartTag)
open XsdRecords.Vocabulary (Tag)
open XsdRecords.Action

/-! ## The invariant -/

/-- What holds of a session between two nodes. -/
structure Standing (s : Session) : Prop where
  lawful : Lawful s
  frames : Frames s.declarations (s.tagStack.drop s.skipDepth) s.elementStack s.typeStack
  /-- Skipped content starts with a tag whose content is skipped. -/
  skipped {depth : Nat} : s.skipDepth = depth + 1 →
    ∃ kind, s.tagStack[depth]? = some kind ∧ kind.entry.start = .skip

theorem Standing.untouched {s s' : Session} (standing : Standing s)
    (untouched : Untouched s s') : Standing s' := by
  obtain ⟨⟨elements, types, tags, depth⟩, declarations⟩ := untouched
  refine ⟨standing.lawful.untouched declarations elements types, ?_, fun {n} h => ?_⟩
  · rw [declarations, tags, depth, elements, types]
    exact standing.frames
  · rw [tags]
    exact standing.skipped (depth ▸ h)

/-- If a start tag is to make up a name, outside skipped content, this name is free. -/
def TagFree (s : Session) (tag : StartTag) : Prop :=
  s.skipDepth = 0 →
    makesUpName (parentTag s) (!s.elementStack.isEmpty) tag tag.kind = true → s.declarations.Free

/-! ## Start tags -/

/-- A start tag that is read outside skipped content. -/
theorem Standing.started {s : Session} (standing : Standing s) {tag : StartTag}
    {position : Position} (reading : s.skipDepth = 0) (free : TagFree s tag)
    (ok : (readStart s tag position).hasFailed = false) :
    ∃ m, Marks tag.kind s m ∧ Started m (readStart s tag position) tag tag.kind := by
  have allowed := (readStart_eq_of_ok ok).1
  have frames := standing.frames
  rw [reading, List.drop_zero] at frames
  refine started_of_ok standing.lawful reading (free reading) (fun isGroup type head => ?_) ok
  -- A group is never read in an undefined type: only a simple type may be undefined, and that allows
  -- no group.
  refine frames.types_defined.2 (fun simple => ?_) type (List.mem_of_mem_head? head)
  have framed : tag.kind ∈ Vocabulary.framedTags := by
    obtain h | h := isGroup <;> rw [h] <;> decide
  have inSimple : Tag.simpleType.allows tag.kind = true := by
    rw [← simple]
    exact allowed
  have other := Tag.of_allows_simpleType framed inSimple
  obtain h | h := isGroup <;> rw [h] at other <;> revert other <;> decide

/-- The frames of a session in which a tag was marked are those from before. -/
theorem Marks.frames {s m : Session} {kind : Tag} {tags : List Tag} (marks : Marks kind s m)
    (frames : Frames s.declarations tags s.elementStack s.typeStack) :
    Frames m.declarations tags m.elementStack m.typeStack := by
  rw [marks.declarations, marks.elementStack, marks.typeStack]
  exact frames

theorem Started.lawful {s s' : Session} {tag : StartTag} {kind : Tag}
    (started : Started s s' tag kind) (lawful : Lawful s) : Lawful s' := by
  cases started with
  | skip action declarations elementStack typeStack =>
    exact lawful.untouched declarations elementStack typeStack
  | plain isPlain opens => exact lawful.opens opens
  | element isElement id opens => exact lawful.opens opens
  | type isType type opens => exact lawful.opens opens
  | layout isGroup unwrapped outer opens => exact lawful.opens opens
  | group isGroup wrapped parent type element head opens => exact lawful.opens opens.opens

/-- A start tag that does not skip its content leaves the open tags alone. -/
theorem Started.reads {s s' : Session} {tag : StartTag} {kind : Tag}
    (started : Started s s' tag kind) (reading : kind.entry.start ≠ .skip) :
    s'.tagStack = s.tagStack ∧ s'.skipDepth = s.skipDepth := by
  cases started with
  | skip action => exact absurd action reading
  | plain isPlain opens => exact ⟨opens.tagStack, opens.skipDepth⟩
  | element isElement id opens => exact ⟨opens.tagStack, opens.skipDepth⟩
  | type isType type opens => exact ⟨opens.tagStack, opens.skipDepth⟩
  | layout isGroup unwrapped outer opens => exact ⟨opens.tagStack, opens.skipDepth⟩
  | group isGroup wrapped parent type element head opens =>
    exact ⟨opens.opens.tagStack, opens.opens.skipDepth⟩

/-- A start tag that skips its content does nothing else. -/
theorem Started.skips {s s' : Session} {tag : StartTag} {kind : Tag}
    (started : Started s s' tag kind) (skipping : kind.entry.start = .skip) : Skips s s' := by
  cases started with
  | skip action declarations elementStack typeStack tagStack skipDepth =>
    exact ⟨declarations, elementStack, typeStack, tagStack, skipDepth⟩
  | plain isPlain => exact absurd skipping (Tag.start_ne_skip (List.mem_append_left _ isPlain))
  | element isElement => exact absurd skipping (by obtain rfl | rfl := isElement <;> decide)
  | type isType => exact absurd skipping (by obtain rfl | rfl := isType <;> decide)
  | layout isGroup => exact absurd skipping (by obtain rfl | rfl := isGroup <;> decide)
  | group isGroup => exact absurd skipping (by obtain rfl | rfl := isGroup <;> decide)

/-- A start tag becomes the innermost open tag. -/
theorem Standing.tagStack_readStart {s : Session} (standing : Standing s) {tag : StartTag}
    {position : Position} (free : TagFree s tag)
    (ok : (readStart s tag position).hasFailed = false) :
    (Session.readStart s tag position).tagStack = tag.kind :: s.tagStack := by
  by_cases reading : s.skipDepth = 0
  · obtain ⟨m, marks, started⟩ := standing.started reading free ok
    rw [← marks.tagStack]
    by_cases skipping : tag.kind.entry.start = .skip
    · exact (started.skips skipping).tagStack
    · exact (started.reads skipping).1
  · rw [(readStart_eq_of_ok ok).2, if_pos (Nat.pos_of_ne_zero reading)]

/-- What stands in a tag that is not skipped is read with that tag as its parent. -/
theorem Standing.opens_readStart {s : Session} (standing : Standing s) (reading : s.skipDepth = 0)
    {tag : StartTag} {position : Position} (free : TagFree s tag)
    (acts : tag.kind.entry.start ≠ .skip) (ok : (readStart s tag position).hasFailed = false) :
    parentTag (Session.readStart s tag position) = tag.kind ∧
      (Session.readStart s tag position).skipDepth = 0 := by
  obtain ⟨m, marks, started⟩ := standing.started reading free ok
  refine ⟨?_, (started.reads acts).2.trans (marks.skipDepth.trans reading)⟩
  rw [parentTag, standing.tagStack_readStart free ok]
  rfl

/-- A start tag keeps the invariant. -/
theorem Standing.readStart {s : Session} (standing : Standing s) {tag : StartTag}
    {position : Position} (free : TagFree s tag)
    (ok : (readStart s tag position).hasFailed = false) :
    Standing (readStart s tag position) := by
  obtain ⟨allowed, whole⟩ := readStart_eq_of_ok ok
  have frames := standing.frames
  by_cases reading : s.skipDepth = 0
  · rw [reading, List.drop_zero] at frames
    obtain ⟨m, marks, started⟩ := standing.started reading free ok
    have lawful := started.lawful (marks.lawful standing.lawful)
    by_cases skipping : tag.kind.entry.start = .skip
    · obtain ⟨declarations, elements, types, tags, depth⟩ := started.skips skipping
      rw [marks.skipDepth, reading] at depth
      rw [marks.tagStack] at tags
      refine ⟨lawful, ?_, fun {n} h => ⟨tag.kind, ?_, skipping⟩⟩
      · rw [declarations, elements, types, tags, depth]
        exact marks.frames frames
      · obtain rfl : 0 = n := Nat.succ.inj (depth.symm.trans h)
        rw [tags]
        rfl
    · obtain ⟨tags, depth⟩ := started.reads skipping
      rw [marks.skipDepth, reading] at depth
      rw [marks.tagStack] at tags
      refine ⟨lawful, ?_, fun {n} h => ?_⟩
      · rw [tags, depth]
        obtain ⟨own, ownTypes, opened⟩ :=
          started.opensFrame marks.outerTag skipping (marks.frames frames) allowed
        exact opened.frames (marks.frames frames) allowed
      · rw [depth] at h
        cases h
  · -- The tags below the depth are the same ones as before, so are the frames and the outermost
    -- tag skipped.
    rw [if_pos (Nat.pos_of_ne_zero reading)] at whole
    rw [whole]
    refine ⟨standing.lawful.untouched rfl rfl rfl, frames, fun {n} h => ?_⟩
    obtain ⟨depth, nonzero⟩ := Nat.exists_eq_succ_of_ne_zero reading
    obtain rfl : s.skipDepth = n := Nat.succ.inj h
    rw [nonzero]
    exact standing.skipped nonzero

/-! ## End tags -/

/-- An end tag in skipped content. -/
theorem readStop_of_skipping {s : Session} {kind : Tag} {tags : List Tag} {depth : Nat}
    (tagStack : s.tagStack = kind :: tags) (skipping : s.skipDepth = depth + 1)
    (position : Position) :
    readStop s position = { s with position, tagStack := tags, skipDepth := depth } := by
  simp [Session.readStop, tagStack, skipping]

/-- The end of a tag outside skipped content takes its frame away. -/
theorem readStop_of_reading {s : Session} {kind : Tag} {tags : List Tag}
    (tagStack : s.tagStack = kind :: tags) (reading : s.skipDepth = 0)
    {own below : List ElementId} {ownTypes belowTypes : List TypeId}
    (frame : Frame s.declarations kind own ownTypes below)
    (elements : s.elementStack = own ++ below) (types : s.typeStack = ownTypes ++ belowTypes)
    {position : Position} (ok : (readStop s position).hasFailed = false) :
    (readStop s position).declarations = s.declarations ∧
      (readStop s position).elementStack = below ∧ (readStop s position).typeStack = belowTypes ∧
      (readStop s position).tagStack = tags ∧ (readStop s position).skipDepth = 0 ∧
      ∀ id ∈ own, (s.declarations.element id).isDefined = true := by
  have whole : readStop s position =
      { (({ s with position } : Session).perform (endAction kind)) with
        tagStack := (({ s with position } : Session).perform (endAction kind)).tagStack.tail } := by
    simp [Session.readStop, tagStack, reading]
  rw [whole] at ok ⊢
  obtain ⟨leaves, defined⟩ := done_of_perform
    (endAction_ends (s := { s with position }) frame elements types) ok
  refine ⟨leaves.declarations, leaves.elementStack, leaves.typeStack, ?_, ?_, defined⟩
  · exact (congrArg List.tail leaves.tagStack).trans (congrArg List.tail tagStack)
  · exact leaves.skipDepth.trans reading

/-- A session after an end tag, which opens and declares nothing. -/
structure Closes (s s' : Session) : Prop where
  declarations : s'.declarations = s.declarations
  elementStack : s'.elementStack ⊆ s.elementStack
  typeStack : s'.typeStack ⊆ s.typeStack
  tagStack : s'.tagStack = s.tagStack.tail

/-- An end tag keeps the invariant. -/
theorem Standing.readStop {s : Session} (standing : Standing s) {position : Position}
    (ok : (readStop s position).hasFailed = false) :
    Standing (readStop s position) ∧ Closes s (readStop s position) := by
  have frames := standing.frames
  cases tagStack : s.tagStack with
  | nil =>
    have whole : Session.readStop s position = { s with position } := by
      simp [Session.readStop, tagStack]
    rw [whole]
    exact ⟨standing.untouched ⟨⟨rfl, rfl, rfl, rfl⟩, rfl⟩, rfl, List.Subset.refl _,
      List.Subset.refl _, by simp [tagStack]⟩
  | cons kind tags =>
    cases depth : s.skipDepth with
    | zero =>
      rw [depth, tagStack] at frames
      obtain ⟨-, own, ownTypes, below, belowTypes, elements, types, frame, -, -, outer⟩ := frames
      obtain ⟨declarations, elements', types', tags', depth', -⟩ :=
        readStop_of_reading tagStack depth frame elements types ok
      have closes : Closes s (Session.readStop s position) := by
        refine ⟨declarations, ?_, ?_, by rw [tags', tagStack, List.tail_cons]⟩
        · rw [elements', elements]
          exact List.subset_append_right _ _
        · rw [types', types]
          exact List.subset_append_right _ _
      refine ⟨⟨standing.lawful.closing declarations closes.elementStack closes.typeStack, ?_,
        fun {n} h => ?_⟩, closes⟩
      · rw [declarations, elements', types', tags', depth']
        exact outer
      · rw [depth'] at h
        cases h
    | succ n =>
      rw [readStop_of_skipping tagStack depth]
      rw [depth, tagStack] at frames
      refine ⟨⟨standing.lawful.untouched rfl rfl rfl, frames, fun {m} h => ?_⟩, rfl,
        List.Subset.refl _, List.Subset.refl _, by rw [tagStack, List.tail_cons]⟩
      obtain rfl : n = m + 1 := h
      obtain ⟨skipper, here, action⟩ := standing.skipped depth
      rw [tagStack] at here
      exact ⟨skipper, here, action⟩

end XsdRecords.Session
