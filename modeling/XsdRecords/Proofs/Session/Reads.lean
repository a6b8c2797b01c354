import XsdRecords.Proofs.Session.Brackets

/-! # Tags lay out their fields

Reading the tags of a forest appends to the innermost open type the fields that the tags stand for.
The proof is an induction on the forest; each tag is a bracket around its content. -/

namespace XsdRecords.Vocabulary

/-- Tags that no attribute, element, sequence or choice may stand in, and that no type tag is. -/
def fieldlessTags : List Tag :=
  [.element, .attributeTag, .list, .enumeration, .includeTag, .importTag]

namespace Tag

theorem of_allows_fieldless {parent kind : Tag} (fieldless : parent ∈ fieldlessTags)
    (framed : kind ∈ framedTags) (allowed : parent.allows kind = true) :
    kind = .complexType ∨ kind = .simpleType := by
  have all : ∀ parent ∈ fieldlessTags, ∀ kind ∈ framedTags, parent.allows kind = true →
      kind = .complexType ∨ kind = .simpleType := by decide
  exact all parent fieldless kind framed allowed

end Tag

end XsdRecords.Vocabulary

namespace XsdRecords.Session

open XsdRecords.Declaration (Declarations ElementId TypeId TypeDef)
open XsdRecords.Markup (StartTag)
open XsdRecords.Vocabulary (Tag plainTags framedTags fieldlessTags)

/-! ## The fields that a tag stands for -/

namespace Forest

theorem entries_cons (tag : StartTag) (content rest : Forest) (parent : Tag) (isEnclosed : Bool) :
    (cons tag content rest).entries parent isEnclosed =
      (cons tag content nil).entries parent isEnclosed ++ rest.entries parent isEnclosed := by
  simp only [entries, Entries.append_nil]

/-- Where nothing but a complex type decides on it, it does not matter whether an element encloses
the tags. -/
theorem entries_of_ne_complexType (forest : Forest) {parent : Tag} (other : parent ≠ .complexType)
    (isEnclosed isEnclosed' : Bool) :
    forest.entries parent isEnclosed = forest.entries parent isEnclosed' := by
  induction forest generalizing parent with
  | nil => rfl
  | cons tag content rest ihContent ihRest =>
    have wrapped : isWrapped parent isEnclosed tag = isWrapped parent isEnclosed' tag := by
      simp [isWrapped, other]
    simp only [entries]
    rw [ihRest other, wrapped]
    cases kind : tag.kind with
    | all | simpleContent | complexContent | restriction | extension | choice | sequence =>
      rw [ihContent (by decide)]
    | _ => rfl

/-- A skipped tag stands for nothing. -/
theorem entries_of_skip {tag : StartTag} (skipping : tag.kind.entry.start = .skip)
    (content : Forest) (parent : Tag) (isEnclosed : Bool) :
    (cons tag content nil).entries parent isEnclosed = .nil := by
  simp only [entries]
  revert skipping
  cases tag.kind with
  | _ => first | exact fun _ => rfl | exact fun skipping => absurd skipping (by decide)

/-- A type tag stands for nothing in the type around it. -/
theorem entries_of_type {tag : StartTag} (isType : tag.kind = .complexType ∨ tag.kind = .simpleType)
    (content : Forest) (parent : Tag) (isEnclosed : Bool) :
    (cons tag content nil).entries parent isEnclosed = .nil := by
  obtain kind | kind := isType <;> simp only [entries, kind] <;> rfl

/-- A tag that opens nothing stands for what its content stands for. -/
theorem entries_of_plain {tag : StartTag} (isPlain : tag.kind ∈ plainTags)
    (inner : tag.kind ≠ .schema) {content : Forest} {isEnclosed : Bool}
    (none : tag.kind ∈ fieldlessTags → content.entries tag.kind isEnclosed = .nil) (parent : Tag) :
    (cons tag content nil).entries parent isEnclosed = content.entries tag.kind isEnclosed := by
  simp only [plainTags, List.mem_cons, List.not_mem_nil, or_false] at isPlain
  simp only [entries, Entries.append_nil]
  obtain kind | kind | kind | kind | kind | kind | kind | kind | kind | kind := isPlain <;>
    rw [kind] at none inner ⊢
  · exact (none (by decide)).symm
  · exact (none (by decide)).symm
  · exact (none (by decide)).symm
  · exact (none (by decide)).symm
  · exact absurd rfl inner

end Forest

/-- Fields laid out one after the other. -/
theorem Entries.LaidOut.append {s : Session} {first second : Entries}
    {fields later : List (String × ElementId)} (head : first.LaidOut s fields)
    (tail : second.LaidOut s later) : (first ++ second).LaidOut s (fields ++ later) := by
  induction first generalizing fields with
  | nil =>
    obtain rfl : fields = [] := head
    exact tail
  | field isAttribute name rest ih =>
    obtain ⟨id, others, rfl, closed, tagged, marked, laidOut⟩ := head
    exact ⟨id, others ++ later, rfl, closed, tagged, marked, ih laidOut⟩
  | group isChoice inner rest _ ih =>
    obtain ⟨id, type, others, rfl, closed, untagged, typed, closedType, symbol, choice, own,
      laidOut⟩ := head
    exact ⟨id, type, others ++ later, rfl, closed, untagged, typed, closedType, symbol, choice, own,
      ih laidOut⟩

/-! ## What reading the tags of a forest does -/

/-- A session after the tags of a forest that stand in a tag of kind `parent`. -/
structure Reads (forest : Forest) (parent : Tag) (s s' : Session) : Prop where
  keeps : Keeps s s'
  /-- The innermost open type has got the fields that the tags stand for. -/
  fields {type : TypeId} : s.typeStack.head? = some type →
    ∃ new, (s'.declarations.type type).fields = (s.declarations.type type).fields ++ new ∧
      (forest.entries parent (!s.elementStack.isEmpty)).LaidOut s' new
  /-- There are none in tags that no field may stand in. -/
  none : parent ∈ fieldlessTags → ∀ isEnclosed, forest.entries parent isEnclosed = .nil
  /-- A type is no choice by what is inside its groups and elements. -/
  isChoice {type : TypeId} :
    parent = .choice ∨ parent = .sequence ∨ parent = .element ∨ parent = .attributeTag →
    s.typeStack.head? = some type →
    (s'.declarations.type type).isChoice = (s.declarations.type type).isChoice
  /-- The element of a group is not changed by what is inside the group. -/
  element {id : ElementId} : parent = .choice ∨ parent = .sequence →
    s.elementStack.head? = some id → s'.declarations.element id = s.declarations.element id

theorem Reads.nil {s s' : Session} (untouched : Untouched s s') (parent : Tag) :
    Reads .nil parent s s' where
  keeps := untouched.keeps
  fields {type} _ := ⟨[], by rw [untouched.declarations, List.append_nil], rfl⟩
  none _ _ := rfl
  isChoice _ _ := by rw [untouched.declarations]
  element _ _ := by rw [untouched.declarations]

/-- A tag and then the tags next to it. -/
theorem Reads.cons {tag : StartTag} {content rest : Forest} {parent : Tag} {s m s' : Session}
    (first : Reads (.cons tag content .nil) parent s m) (second : Reads rest parent m s')
    (preserves : Preserves m s') : Reads (.cons tag content rest) parent s s' where
  keeps := first.keeps.trans second.keeps
  fields {type} head := by
    have sameStacks := first.keeps.sameStacks
    obtain ⟨new, fields, laidOut⟩ := first.fields head
    obtain ⟨later, fields', laidOut'⟩ := second.fields (by rw [sameStacks.typeStack]; exact head)
    rw [sameStacks.elementStack] at laidOut'
    refine ⟨new ++ later, by rw [fields', fields, List.append_assoc], ?_⟩
    rw [Forest.entries_cons]
    exact (laidOut.preserved preserves).append laidOut'
  none fieldless isEnclosed := by
    rw [Forest.entries_cons, first.none fieldless, second.none fieldless]
    rfl
  isChoice inGroup head := by
    have still := second.isChoice inGroup (by rw [first.keeps.sameStacks.typeStack]; exact head)
    exact still.trans (first.isChoice inGroup head)
  element inGroup head := by
    have still := second.element inGroup (by rw [first.keeps.sameStacks.elementStack]; exact head)
    exact still.trans (first.element inGroup head)

/-- A tag whose content is skipped. -/
theorem Reads.skipped {tag : StartTag} {s s' : Session} (untouched : Untouched s s')
    (skipping : tag.kind.entry.start = .skip) (content : Forest) (parent : Tag) :
    Reads (.cons tag content .nil) parent s s' where
  keeps := untouched.keeps
  fields {type} _ :=
    ⟨[], by rw [untouched.declarations, List.append_nil], by rw [Forest.entries_of_skip skipping]; rfl⟩
  none _ _ := Forest.entries_of_skip skipping content parent _
  isChoice _ _ := by rw [untouched.declarations]
  element _ _ := by rw [untouched.declarations]

/-! ## One tag -/

section Bracket

variable {tag : StartTag} {content : Forest} {own : List ElementId} {ownTypes : List TypeId}
  {before marked started filled after : Session}

/-- A tag that opens nothing, whose content lays out the innermost open type. -/
theorem Reads.through
    (bracket : Bracket tag.kind own ownTypes before marked started filled after)
    (opens : Opens [] [] marked started) (inner : Reads content tag.kind started filled)
    (preserves : Preserves filled after) {type : TypeId}
    (head : before.typeStack.head? = some type)
    (same : (started.declarations.type type).fields = (marked.declarations.type type).fields) :
    ∃ new, (after.declarations.type type).fields = (before.declarations.type type).fields ++ new ∧
      (content.entries tag.kind (!before.elementStack.isEmpty)).LaidOut after new := by
  obtain ⟨new, fields, laidOut⟩ :=
    inner.fields (by rw [opens.typeStack, bracket.marks.typeStack]; exact head)
  rw [opens.elementStack, bracket.marks.elementStack] at laidOut
  refine ⟨new, ?_, laidOut.preserved preserves⟩
  rw [bracket.declarations, fields, same, bracket.marks.declarations]

/-- An element or attribute is a field of the innermost open type; what is inside it is not. -/
theorem Reads.ofElement
    (bracket : Bracket tag.kind own ownTypes before marked started filled after)
    (inner : Reads content tag.kind started filled)
    (isElement : tag.kind = .element ∨ tag.kind = .attributeTag) {id : ElementId}
    (opens : Opens [] [id] marked started)
    (tagged : (started.declarations.element id).isUntagged = false) {type : TypeId}
    (head : before.typeStack.head? = some type)
    (gains : Declarations.Gains type (tag.fieldName, id) marked.declarations started.declarations)
    (marksAttribute : (started.declarations.element id).isAttribute =
      decide (tag.kind = .attributeTag)) (parent : Tag) (isEnclosed : Bool) :
    ∃ new, (after.declarations.type type).fields = (before.declarations.type type).fields ++ new ∧
      ((Forest.cons tag content .nil).entries parent isEnclosed).LaidOut after new := by
  obtain ⟨rfl, rfl⟩ := bracket.opens_eq opens
  have fieldless : tag.kind ∈ fieldlessTags := by
    obtain kind | kind := isElement <;> rw [kind] <;> decide
  obtain ⟨none, fields, laidOut⟩ :=
    inner.fields (by rw [opens.typeStack, bracket.marks.typeStack]; exact head)
  rw [inner.none fieldless] at laidOut
  obtain rfl : none = [] := laidOut
  have member : id ∈ started.elementStack := by
    rw [opens.elementStack]
    exact List.mem_cons_self
  have isField : (Forest.cons tag content .nil).entries parent isEnclosed =
      .field (decide (tag.kind = .attributeTag)) tag.fieldName .nil := by
    obtain kind | kind := isElement <;> simp only [Forest.entries, kind] <;> rfl
  refine ⟨[(tag.fieldName, id)], ?_, ?_⟩
  · rw [bracket.declarations, fields, gains.fields, bracket.marks.declarations, List.append_nil]
  · rw [isField]
    refine ⟨id, [], rfl, bracket.closedElement (List.mem_singleton.2 rfl), ?_, ?_, rfl⟩
    · rw [bracket.declarations, inner.keeps.isUntagged member, tagged]
    · rw [bracket.declarations, inner.keeps.isAttribute member, marksAttribute]

/-- A group that is a field of its own has a type with the fields of the group. -/
theorem Reads.ofGroup
    (bracket : Bracket tag.kind own ownTypes before marked started filled after)
    (inner : Reads content tag.kind started filled) (preserves : Preserves filled after)
    (isGroup : tag.kind = .choice ∨ tag.kind = .sequence) {parent : Tag}
    (wrapped : isWrapped parent (!before.elementStack.isEmpty) tag = true)
    {outer type : TypeId} {element : ElementId} (head : before.typeStack.head? = some outer)
    (opened : OpensUntagged outer type element marked started)
    (isChoice : (started.declarations.type type).isChoice = decide (tag.kind = .choice)) :
    ∃ new, (after.declarations.type outer).fields =
        (before.declarations.type outer).fields ++ new ∧
      ((Forest.cons tag content .nil).entries parent (!before.elementStack.isEmpty)).LaidOut
        after new := by
  obtain ⟨rfl, rfl⟩ := bracket.opens_eq opened.opens
  have opens := opened.opens
  have headType : started.typeStack.head? = some type := by rw [opens.typeStack]; rfl
  have headElement : started.elementStack.head? = some element := by rw [opens.elementStack]; rfl
  obtain ⟨new, fields, laidOut⟩ := inner.fields headType
  rw [opened.fields, List.nil_append] at fields
  have other : tag.kind ≠ .complexType := by
    obtain kind | kind := isGroup <;> rw [kind] <;> decide
  rw [Forest.entries_of_ne_complexType content other _ (!before.elementStack.isEmpty)] at laidOut
  have isField : (Forest.cons tag content .nil).entries parent (!before.elementStack.isEmpty) =
      .group (decide (tag.kind = .choice))
        (content.entries tag.kind (!before.elementStack.isEmpty)) .nil := by
    obtain kind | kind := isGroup <;>
      simp only [Forest.entries, kind, wrapped, if_true, Entries.append_nil]
  have kept := inner.element isGroup headElement
  have symbol : (filled.declarations.type type).symbol = (started.declarations.type type).symbol :=
    (inner.keeps.edits.symbol (Declarations.lt_size_of_isDefined opened.isDefined)).1
  have outside := bracket.type (List.mem_of_mem_head? head)
  refine ⟨[(untaggedName, element)], ?_, ?_⟩
  · rw [← bracket.marks.declarations, ← opened.gains.fields]
    exact TypeDef.get_of_body TypeDef.fields (fun _ => rfl) outside
  · rw [isField]
    refine ⟨element, type, [], rfl, bracket.closedElement (List.mem_singleton.2 rfl), ?_, ?_,
      bracket.closedType (List.mem_singleton.2 rfl) opened.isDefined, ?_, ?_, ?_, rfl⟩
    · rw [bracket.declarations, kept, opened.isUntagged]
    · rw [bracket.declarations, kept, opened.directType]
    · rw [bracket.declarations, symbol, opened.symbol]
    · rw [bracket.declarations, inner.isChoice (isGroup.elim .inl fun h => .inr (.inl h)) headType,
        isChoice]
    · rw [bracket.declarations, fields]
      exact laidOut.preserved preserves

/-- What the innermost open type gets from a tag. -/
theorem Started.fields (started' : Started marked started tag tag.kind)
    (bracket : Bracket tag.kind own ownTypes before marked started filled after)
    (reading : tag.kind.entry.start ≠ .skip)
    (inner : Reads content tag.kind started filled) (preserves : Preserves filled after)
    (inType : tag.kind = .schema → before.typeStack = [])
    {type : TypeId} (head : before.typeStack.head? = some type) :
    ∃ new, (after.declarations.type type).fields = (before.declarations.type type).fields ++ new ∧
      ((Forest.cons tag content .nil).entries (parentTag before)
        (!before.elementStack.isEmpty)).LaidOut after new := by
  have headMarked : marked.typeStack.head? = some type := by
    rw [bracket.marks.typeStack]
    exact head
  cases started' with
  | skip action => exact absurd action reading
  | plain isPlain opens same =>
    have notSchema : tag.kind ≠ .schema := fun schema => by
      rw [inType schema] at head
      cases head
    rw [Forest.entries_of_plain isPlain notSchema fun fieldless => inner.none fieldless _]
    exact Reads.through bracket opens inner preserves head (same type)
  | element isElement id opens same tagged gains =>
    obtain ⟨gained, marksAttribute⟩ := gains type headMarked
    exact Reads.ofElement bracket inner isElement opens tagged head gained marksAttribute _ _
  | type isType own' opens same =>
    obtain ⟨rfl, rfl⟩ := bracket.opens_eq opens
    have member : type ∈ before.typeStack := List.mem_of_mem_head? head
    have apart : type ∉ [own'] :=
      bracket.opened.apartTypes type (by rw [bracket.marks.typeStack]; exact member)
    refine ⟨[], ?_, by rw [Forest.entries_of_type isType]; rfl⟩
    rw [List.append_nil, ← bracket.marks.declarations, ← same.fields apart]
    exact TypeDef.get_of_body TypeDef.fields (fun _ => rfl) (bracket.type member)
  | layout isGroup unwrapped outer opens same =>
    rw [bracket.marks.outerTag, bracket.marks.elementStack] at unwrapped
    have inside : (Forest.cons tag content .nil).entries (parentTag before)
        (!before.elementStack.isEmpty) =
          content.entries tag.kind (!before.elementStack.isEmpty) := by
      obtain kind | kind := isGroup <;>
        simp only [Forest.entries, kind, unwrapped, Entries.append_nil] <;> rfl
    rw [inside]
    exact Reads.through bracket opens inner preserves head (same type)
  | group isGroup wrapped outer type' element headOuter opened isChoice =>
    rw [bracket.marks.outerTag, bracket.marks.elementStack] at wrapped
    obtain rfl : outer = type := Option.some.inj (headOuter.symm.trans headMarked)
    exact Reads.ofGroup bracket inner preserves isGroup wrapped head opened isChoice

/-- A type around a tag is the same choice as before, unless the tag lays it out. -/
theorem Started.isChoice (started' : Started marked started tag tag.kind)
    (bracket : Bracket tag.kind own ownTypes before marked started filled after)
    (reading : tag.kind.entry.start ≠ .skip)
    (inner : Reads content tag.kind started filled)
    (allowed : (parentTag before).allows tag.kind = true)
    (parent : parentTag before = .choice ∨ parentTag before = .sequence ∨
      parentTag before = .element ∨ parentTag before = .attributeTag)
    {type : TypeId} (head : before.typeStack.head? = some type) :
    (after.declarations.type type).isChoice = (before.declarations.type type).isChoice := by
  have framed := bracket.opened.frame.framed
  have member : type ∈ before.typeStack := List.mem_of_mem_head? head
  have headMarked : marked.typeStack.head? = some type := by
    rw [bracket.marks.typeStack]
    exact head
  have kinds : tag.kind ∉ plainTags := by
    obtain group | group | other := parent
    · obtain h | h | h := Tag.of_allows_group (.inl group) framed allowed <;> rw [h] <;> decide
    · obtain h | h | h := Tag.of_allows_group (.inr group) framed allowed <;> rw [h] <;> decide
    · obtain h | h := Tag.of_allows_element other framed allowed <;> rw [h] <;> decide
  rw [← bracket.marks.declarations]
  cases started' with
  | skip action => exact absurd action reading
  | plain isPlain => exact absurd isPlain kinds
  | element isElement id opens same tagged gains =>
    have inElement := inner.isChoice (.inr (.inr isElement))
      (by rw [opens.typeStack, bracket.marks.typeStack]; exact head)
    rw [bracket.declarations, inElement, (gains type headMarked).1.isChoice]
  | type isType own' opens same =>
    obtain ⟨rfl, rfl⟩ := bracket.opens_eq opens
    rw [← same.isChoice (bracket.opened.apartTypes type
      (by rw [bracket.marks.typeStack]; exact member))]
    exact TypeDef.get_of_body TypeDef.isChoice (fun _ => rfl) (bracket.type member)
  | layout isGroup unwrapped outer =>
    rw [bracket.marks.outerTag] at outer
    rw [outer] at parent
    exact absurd parent (by decide)
  | group isGroup wrapped outer type' element headOuter opened =>
    obtain ⟨rfl, rfl⟩ := bracket.opens_eq opened.opens
    obtain rfl : outer = type := Option.some.inj (headOuter.symm.trans headMarked)
    rw [← opened.gains.isChoice]
    exact TypeDef.get_of_body TypeDef.isChoice (fun _ => rfl) (bracket.type member)

/-- The element of a group is the same after a tag inside the group. -/
theorem Started.element_eq (started' : Started marked started tag tag.kind)
    (bracket : Bracket tag.kind own ownTypes before marked started filled after)
    (reading : tag.kind.entry.start ≠ .skip)
    (allowed : (parentTag before).allows tag.kind = true)
    (parent : parentTag before = .choice ∨ parentTag before = .sequence)
    {id : ElementId} (head : before.elementStack.head? = some id) :
    after.declarations.element id = before.declarations.element id := by
  have kinds := Tag.of_allows_group parent bracket.opened.frame.framed allowed
  have member : id ∈ before.elementStack := List.mem_of_mem_head? head
  have apart := bracket.opened.apart id (by rw [bracket.marks.elementStack]; exact member)
  rw [← bracket.marks.declarations]
  cases started' with
  | skip action => exact absurd action reading
  | plain isPlain =>
    obtain h | h | h := kinds <;> rw [h] at isPlain <;> exact absurd isPlain (by decide)
  | element isElement own' opens same =>
    obtain ⟨rfl, rfl⟩ := bracket.opens_eq opens
    exact (bracket.element member).trans (same.element apart)
  | type isType =>
    obtain h | h | h := kinds <;> rw [h] at isType <;> exact absurd isType (by decide)
  | layout isGroup unwrapped outer =>
    rw [bracket.marks.outerTag] at outer
    rw [outer] at parent
    exact absurd parent (by decide)
  | group isGroup wrapped outer type element headOuter opened =>
    obtain ⟨rfl, rfl⟩ := bracket.opens_eq opened.opens
    exact (bracket.element member).trans (opened.same.element apart)

end Bracket

/-! ## Forests -/

theorem Run.between {s m m' : Session} {visits : List Visit} (run : Run s visits m)
    (untouched : Untouched m m') : Run s visits m' := by
  induction run with
  | nil here => exact .nil (here.trans untouched)
  | cons here ok later ih => exact .cons here ok (ih untouched)

/-- A run over a tag and those next to it. -/
structure TagRun (tag : StartTag) (content rest : Forest) (s s' : Session) (first : Visit)
    (inside after : List Visit) (filled : Session) (position : Position) : Prop where
  node : first.node = .start tag
  untouched : Untouched s first.session
  started : (readStart first.session tag first.position).hasFailed = false
  spells : content.Spells (inside.map Visit.node)
  run : Run (readStart first.session tag first.position) inside filled
  ended : (readStop filled position).hasFailed = false
  spellsRest : rest.Spells (after.map Visit.node)
  runRest : Run (readStop filled position) after s'

/-- Every tag has a start, a content and an end, if only its own. -/
theorem Run.tag {tag : StartTag} {content rest : Forest} {visits : List Visit} {s s' : Session}
    (spells : (Forest.cons tag content rest).Spells (visits.map Visit.node))
    (run : Run s visits s') :
    ∃ first inside after filled position, visits.head? = some first ∧ inside ⊆ visits ∧
      after ⊆ visits ∧ TagRun tag content rest s s' first inside after filled position := by
  unfold Forest.Spells at spells
  split at spells
  · rename_i isEmpty
    obtain ⟨rfl, nodes, shape, spellsRest⟩ := spells
    obtain ⟨first, after, rfl, node, rfl⟩ := List.map_eq_cons_iff.1 shape
    cases run with
    | cons untouched ok later =>
      rw [Visit.after, node] at ok later
      obtain ⟨started, whole⟩ := readNode_start ok
      rw [if_pos isEmpty] at whole
      rw [whole] at ok later
      exact ⟨first, [], after, _, first.position, rfl, List.nil_subset _,
        List.subset_cons_self _ _, node, untouched, started, rfl, .nil (.refl _), ok, spellsRest,
        later⟩
  · rename_i nonEmpty
    obtain ⟨insideNodes, name, nodes, shape, spellsInside, spellsRest⟩ := spells
    obtain ⟨first, others, rfl, node, others_eq⟩ := List.map_eq_cons_iff.1 shape
    obtain ⟨inside, ending, rfl, rfl, ending_eq⟩ := List.map_eq_append_iff.1 others_eq
    obtain ⟨stop, after, rfl, stopNode, rfl⟩ := List.map_eq_cons_iff.1 ending_eq
    cases run with
    | cons untouched ok later =>
      rw [Visit.after, node] at ok later
      obtain ⟨started, whole⟩ := readNode_start ok
      rw [if_neg nonEmpty] at whole
      rw [whole] at later
      obtain ⟨m, runInside, ending⟩ := later.split
      cases ending with
      | cons between ended later =>
        rw [Visit.after, stopNode] at ended later
        exact ⟨first, inside, after, stop.session, stop.position, rfl,
          fun _ member => List.mem_cons_of_mem _ (List.mem_append_left _ member),
          fun _ member => List.mem_cons_of_mem _ (List.mem_append_right _
            (List.mem_cons_of_mem _ member)),
          node, untouched, started, spellsInside, runInside.between between, ended, spellsRest,
          later⟩

/-- A tag inside skipped content. -/
theorem untouched_of_skipping {s filled : Session} {tag : StartTag} {position position' : Position}
    {depth : Nat} (skipping : s.skipDepth = depth + 1)
    (started : (readStart s tag position).hasFailed = false)
    (inside : Untouched (readStart s tag position) filled) :
    Untouched s (readStop filled position') := by
  obtain ⟨⟨elements, types, tags, depth'⟩, declarations⟩ := inside
  have positive : 0 < s.skipDepth := skipping ▸ Nat.succ_pos depth
  rw [(readStart_eq_of_ok started).2, if_pos positive] at elements types tags depth' declarations
  rw [readStop_of_skipping tags depth']
  exact ⟨⟨elements, types, rfl, rfl⟩, declarations⟩

/-- Skipped content changes nothing. -/
theorem Forest.skipped (forest : Forest) {visits : List Visit}
    (spells : forest.Spells (visits.map Visit.node)) {s s' : Session} (run : Run s visits s')
    {depth : Nat} (skipping : s.skipDepth = depth + 1) : Untouched s s' := by
  induction forest generalizing visits s s' depth with
  | nil =>
    obtain rfl : visits = [] := List.map_eq_nil_iff.1 spells
    cases run with
    | nil untouched => exact untouched
  | cons tag content rest ihContent ihRest =>
    obtain ⟨first, inside, after, filled, position, -, -, -, tagRun⟩ := run.tag spells
    have here : first.session.skipDepth = depth + 1 :=
      tagRun.untouched.sameStacks.skipDepth.trans skipping
    have deeper : (readStart first.session tag first.position).skipDepth = depth + 1 + 1 := by
      rw [(readStart_eq_of_ok tagRun.started).2, if_pos (here ▸ Nat.succ_pos depth), ← here]
    have whole : Untouched s (readStop filled position) :=
      tagRun.untouched.trans (untouched_of_skipping here tagRun.started
        (ihContent tagRun.spells tagRun.run deeper))
    exact whole.trans (ihRest tagRun.spellsRest tagRun.runRest
      (whole.sameStacks.skipDepth.trans skipping))

/-- Nothing is open outside the schema. -/
theorem Frames.outside {d : Declarations} {tags : List Tag} {elements : List ElementId}
    {types : List TypeId} (frames : Frames d tags elements types)
    (outside : tags.headD .outside = .outside) : types = [] := by
  cases tags with
  | nil => exact frames.2
  | cons kind tags =>
    obtain rfl : kind = .outside := outside
    obtain ⟨-, _, _, _, _, -, -, frame, -⟩ := frames
    exact absurd frame.framed (by decide)

/-- A tag is read from its start to its end. -/
theorem Reads.tag {s filled : Session} (standing : Standing s) (reading : s.skipDepth = 0)
    {tag : StartTag} {content : Forest} {position position' : Position} (free : TagFree s tag)
    (ok : (readStart s tag position).hasFailed = false)
    (skipped : tag.kind.entry.start = .skip → Untouched (readStart s tag position) filled)
    (inner : tag.kind.entry.start ≠ .skip →
      Reads content tag.kind (readStart s tag position) filled)
    (standing' : Standing filled) (ended : (readStop filled position').hasFailed = false) :
    Reads (.cons tag content .nil) (parentTag s) s (readStop filled position') := by
  obtain ⟨m, marks, started⟩ := standing.started reading free ok
  have allowed := (readStart_eq_of_ok ok).1
  have frames := standing.frames
  rw [reading, List.drop_zero] at frames
  by_cases skipping : tag.kind.entry.start = .skip
  · refine .skipped ?_ skipping content _
    obtain ⟨declarations, elements, types, tags, depth⟩ := started.skips skipping
    obtain ⟨⟨elements', types', tags', depth'⟩, declarations'⟩ := skipped skipping
    rw [tags, marks.tagStack] at tags'
    rw [depth, marks.skipDepth, reading] at depth'
    rw [readStop_of_skipping tags' depth']
    refine ⟨⟨?_, ?_, rfl, reading.symm⟩, ?_⟩
    · exact elements'.trans (elements.trans marks.elementStack)
    · exact types'.trans (types.trans marks.typeStack)
    · exact declarations'.trans (declarations.trans marks.declarations)
  · obtain ⟨own, ownTypes, opened⟩ :=
      started.opensFrame marks.outerTag skipping (marks.frames frames) allowed
    have inside := inner skipping
    have bracket := bracket_of_readStop marks opened reading inside.keeps ended
    have closes := (standing'.readStop ended).2.preserves
    have framed := opened.frame.framed
    have notInSchema (schema : tag.kind = .schema) : s.typeStack = [] :=
      frames.outside (Tag.of_allows_schema frames.framed (schema ▸ allowed))
    refine ⟨bracket.keeps, fun head => ?_, fun fieldless isEnclosed => ?_, fun inGroup head => ?_,
      fun inGroup head => ?_⟩
    · exact started.fields bracket skipping inside closes notInSchema head
    · exact Forest.entries_of_type (Tag.of_allows_fieldless fieldless framed allowed) content _ _
    · exact started.isChoice bracket skipping inside allowed inGroup head
    · exact started.element_eq bracket skipping allowed inGroup head

/-- What is between nodes makes no difference to what they do. -/
theorem Reads.after {forest : Forest} {parent : Tag} {s m s' : Session} (untouched : Untouched s m)
    (reads : Reads forest parent m s') : Reads forest parent s s' where
  keeps := untouched.keeps.trans reads.keeps
  fields head := by
    have fields := reads.fields (by rw [untouched.sameStacks.typeStack]; exact head)
    rw [untouched.declarations, untouched.sameStacks.elementStack] at fields
    exact fields
  none := reads.none
  isChoice inGroup head := by
    rw [reads.isChoice inGroup (by rw [untouched.sameStacks.typeStack]; exact head),
      untouched.declarations]
  element inGroup head := by
    rw [reads.element inGroup (by rw [untouched.sameStacks.elementStack]; exact head),
      untouched.declarations]

/-- The tags of a forest lay out the fields that they stand for. -/
theorem Forest.reads (forest : Forest) {visits : List Visit}
    (spells : forest.Spells (visits.map Visit.node)) (free : ∀ v ∈ visits, v.IsFree)
    {s s' : Session} (run : Run s visits s') (standing : Standing s) (reading : s.skipDepth = 0) :
    Reads forest (parentTag s) s s' := by
  -- Each tag is read from a session of its own, with the fields so far: the induction hypothesis for
  -- the content holds of the session in the tag, that for the rest of the session after it.
  induction forest generalizing visits s s' with
  | nil =>
    obtain rfl : visits = [] := List.map_eq_nil_iff.1 spells
    cases run with
    | nil untouched => exact .nil untouched _
  | cons tag content rest ihContent ihRest =>
    obtain ⟨first, inside, after, filled, position, head, insideVisits, afterVisits, tagRun⟩ :=
      run.tag spells
    have here := standing.untouched tagRun.untouched
    have hereReading := tagRun.untouched.sameStacks.skipDepth.trans reading
    have parent : parentTag first.session = parentTag s := by
      rw [parentTag, tagRun.untouched.sameStacks.tagStack]
      rfl
    have isFree : TagFree first.session tag :=
      free first (List.mem_of_mem_head? head) tag tagRun.node
    have insideFree (v : Visit) (member : v ∈ inside) := free v (insideVisits member)
    have afterFree (v : Visit) (member : v ∈ after) := free v (afterVisits member)
    have opened := here.readStart isFree tagRun.started
    have filledStanding := tagRun.run.standing insideFree opened
    have own : Reads (.cons tag content .nil) (parentTag first.session) first.session
        (readStop filled position) := by
      refine .tag here hereReading isFree tagRun.started (fun skipping => ?_) (fun skipping => ?_)
        filledStanding tagRun.ended
      · obtain ⟨m, marks, started⟩ := here.started hereReading isFree tagRun.started
        have deeper : (readStart first.session tag first.position).skipDepth = 0 + 1 := by
          rw [(started.skips skipping).skipDepth, marks.skipDepth, hereReading]
        exact content.skipped tagRun.spells tagRun.run deeper
      · obtain ⟨parentKind, still⟩ :=
          here.opens_readStart hereReading isFree skipping tagRun.started
        rw [← parentKind]
        exact ihContent tagRun.spells insideFree tagRun.run opened still
    have closed := filledStanding.readStop tagRun.ended
    rw [parent] at own
    have whole := Reads.after tagRun.untouched own
    have parent' : parentTag (readStop filled position) = parentTag s := by
      rw [parentTag, whole.keeps.sameStacks.tagStack]
      rfl
    have others := ihRest tagRun.spellsRest afterFree tagRun.runRest closed.1
      (whole.keeps.sameStacks.skipDepth.trans reading)
    rw [parent'] at others
    exact whole.cons others (tagRun.runRest.preserves afterFree closed.1)

end XsdRecords.Session
