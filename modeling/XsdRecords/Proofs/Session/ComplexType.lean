import XsdRecords.Proofs.Session.Visits
import XsdRecords.Proofs.Session.Reads

/-! # What a complex type tag declares

From the start of a complex type tag to its end a document lays out the fields of one type, and what
is read afterwards leaves them alone. -/

namespace XsdRecords.Session

open XsdRecords.Declaration (Declarations TypeDef)
open XsdRecords.Markup (Node Source StartTag)

/-- A complex type tag opens a type without fields. -/
theorem Started.complexType {m s' : Session} {tag : StartTag}
    (started : Started m s' tag .complexType) :
    ∃ type, Opens [type] [] m s' ∧ (s'.declarations.type type).fields = [] ∧
      (s'.declarations.type type).isDefined = true := by
  cases started with
  | skip action => exact absurd action (by decide)
  | plain isPlain => exact absurd isPlain (by decide)
  | element isElement => exact absurd isElement (by decide)
  | type isType type opens same fields isDefined => exact ⟨type, opens, fields, isDefined rfl⟩
  | layout isGroup => exact absurd isGroup (by decide)
  | group isGroup => exact absurd isGroup (by decide)

/-- After a complex type tag its type is closed and has the fields that the tags in it stand for. -/
theorem Run.complexType {s s' : Session} {visits : List Visit} {tag : StartTag} {content : Forest}
    (spells : (Forest.cons tag content .nil).Spells (visits.map Visit.node))
    (run : Run s visits s') (free : ∀ v ∈ visits, v.IsFree) (standing : Standing s)
    (isComplexType : tag.kind = .complexType) (reading : s.skipDepth = 0) {first : Visit}
    (head : visits.head? = some first) :
    ∃ type, (readStart first.session tag first.position).typeStack =
        type :: first.session.typeStack ∧ s'.HasClosedType type ∧
      (content.entries .complexType (!first.session.elementStack.isEmpty)).LaidOut s'
        (s'.declarations.type type).fields := by
  obtain ⟨first', inside, after, filled, position, head', insideVisits, -, tagRun⟩ := run.tag spells
  obtain rfl : first = first' := Option.some.inj (head.symm.trans head')
  have here := standing.untouched tagRun.untouched
  have hereReading := tagRun.untouched.sameStacks.skipDepth.trans reading
  have isFree : TagFree first.session tag :=
    free first (List.mem_of_mem_head? head) tag tagRun.node
  have insideFree (v : Visit) (member : v ∈ inside) := free v (insideVisits member)
  obtain ⟨m, marks, started⟩ := here.started hereReading isFree tagRun.started
  have opened := here.readStart isFree tagRun.started
  have allowed := (readStart_eq_of_ok tagRun.started).1
  have filledStanding := tagRun.run.standing insideFree opened
  have skipNone : tag.kind.entry.start ≠ .skip := by
    rw [isComplexType]
    decide
  obtain ⟨parentKind, still⟩ := here.opens_readStart hereReading isFree skipNone tagRun.started
  have frames := here.frames
  rw [hereReading, List.drop_zero] at frames
  obtain ⟨own, ownTypes, opensFrame⟩ :=
    started.opensFrame marks.outerTag skipNone (marks.frames frames) allowed
  have inner : Reads content tag.kind (readStart first.session tag first.position) filled := by
    rw [← parentKind]
    exact content.reads tagRun.spells insideFree tagRun.run opened still
  have bracket := bracket_of_readStop marks opensFrame hereReading inner.keeps tagRun.ended
  rw [isComplexType] at started inner
  obtain ⟨type, opens, none, isDefined⟩ := started.complexType
  obtain ⟨rfl, rfl⟩ := bracket.opens_eq opens
  have typeStack : (readStart first.session tag first.position).typeStack =
      type :: first.session.typeStack := by
    rw [opens.typeStack, marks.typeStack]
    rfl
  obtain ⟨new, fields, laidOut⟩ := inner.fields (by rw [typeStack]; rfl)
  have closes := (filledStanding.readStop tagRun.ended).2
  have ended : Untouched (readStop filled position) s' := by
    have last := tagRun.runRest
    have none : after = [] := List.map_eq_nil_iff.1 tagRun.spellsRest
    subst none
    cases last with
    | nil untouched => exact untouched
  refine ⟨type, typeStack, ?_, ?_⟩
  · exact (ended.preserves.type (bracket.closedType (List.mem_singleton.2 rfl) isDefined)).1
  · rw [opens.elementStack, marks.elementStack, List.nil_append] at laidOut
    rw [ended.declarations, closes.declarations, fields, none, List.nil_append]
    exact laidOut.preserved (closes.preserves.trans ended.preserves)

/-- In a document that is read without a failure, and in which every made-up name is free, each
complex type tag outside skipped content gives one type exactly the fields that the tags in it stand
for, in the order of the document.  They are still those of the type when the document ends. -/
theorem complexType_laidOut {s : Session} (reached : Reached s) (elements : s.elementStack = [])
    (types : s.typeStack = []) {source : Source}
    (ok : (s.readDocument source).hasFailed = false) (free : ∀ v ∈ s.visits source, v.IsFree)
    {before inside after : List Visit} {first : Visit}
    (split : s.visits source = before ++ (first :: inside) ++ after) {tag : StartTag}
    {content : Forest}
    (spells : (Forest.cons tag content .nil).Spells ((first :: inside).map Visit.node))
    (isComplexType : tag.kind = .complexType) (reading : first.session.skipDepth = 0) :
    ∃ type, (readStart first.session tag first.position).typeStack =
        type :: first.session.typeStack ∧ (s.readDocument source).HasClosedType type ∧
      (content.entries .complexType (!first.session.elementStack.isEmpty)).LaidOut
        (s.readDocument source) ((s.readDocument source).declarations.type type).fields := by
  have run := run_readDocument ok
  have start := standing_beginDocument (reached.lawful elements types) elements types
  rw [split] at run free
  obtain ⟨closed, whole, rest⟩ := run.split
  obtain ⟨opened, earlier, own⟩ := whole.split
  have earlierFree (v : Visit) (member : v ∈ before) :=
    free v (List.mem_append_left _ (List.mem_append_left _ member))
  have ownFree (v : Visit) (member : v ∈ first :: inside) :=
    free v (List.mem_append_left _ (List.mem_append_right _ member))
  have laterFree (v : Visit) (member : v ∈ after) := free v (List.mem_append_right _ member)
  have standing := earlier.standing earlierFree start
  have reading' : opened.skipDepth = 0 := by
    cases own with
    | cons untouched => exact untouched.sameStacks.skipDepth.symm.trans reading
  obtain ⟨type, typeStack, isClosed, laidOut⟩ :=
    own.complexType spells ownFree standing isComplexType reading' rfl
  have preserves := rest.preserves laterFree (own.standing ownFree standing)
  -- The type is closed when its tag ends, and what is closed stays so to the end of the document.
  obtain ⟨still, body, -⟩ := preserves.type isClosed
  refine ⟨type, typeStack, still, ?_⟩
  rw [TypeDef.get_of_body TypeDef.fields (fun _ => rfl) body]
  exact laidOut.preserved preserves

/-! ## A choice in a sequence -/

instance (s : Session) (tag : StartTag) : Decidable (TagFree s tag) := by
  unfold TagFree Declarations.Free
  infer_instance

instance : (v : Visit) → Decidable v.IsFree
  | ⟨s, .start tag, position⟩ =>
    decidable_of_iff (TagFree s tag)
      ⟨fun free _ same => Node.start.inj same ▸ free, fun free => free tag rfl⟩
  | ⟨s, .stop name, position⟩ => Decidable.isTrue fun _ same => by cases same

/-- A complex type whose sequence holds an element and a choice. -/
def choiceInSequence : Source :=
  .bytes (["<x:schema xmlns:x='http://www.w3.org/2001/XMLSchema'>", "<x:complexType name='T'>",
    "<x:sequence>", "<x:element name='a' type='x:int'/>", "<x:choice>",
    "<x:element name='b' type='x:int'/>", "</x:choice>", "</x:sequence>",
    "<x:attribute name='c' type='x:int'/>", "</x:complexType>",
    "</x:schema>"].flatMap Text.Utf8.encodeText)

/-- A tag of XML Schema. -/
def schemaTag (name : String) (attributes : List (String × String)) (isEmpty : Bool) : StartTag :=
  ⟨⟨name, .xmlSchema, xmlSchemaUri⟩,
    attributes.map fun (key, value) => ⟨key, key, .none, value⟩, isEmpty⟩

/-- A field of integers. -/
def intField (kind name : String) : StartTag :=
  schemaTag kind [("name", name), ("type", "x:int")] true

/-- The tags in the complex type. -/
def choiceInSequenceTags : Forest :=
  .cons (schemaTag "sequence" [] false)
    (.cons (intField "element" "a") .nil
      (.cons (schemaTag "choice" [] false) (.cons (intField "element" "b") .nil .nil) .nil))
    (.cons (intField "attribute" "c") .nil .nil)

set_option maxRecDepth 100000 in
theorem entries_choiceInSequence : choiceInSequenceTags.entries .complexType false =
    .field false "a" (.group true (.field false "b" .nil) (.field true "c" .nil)) := by
  decide +kernel

/-- The nodes of the complex type. -/
def choiceInSequenceNodes : List Node :=
  [.start (schemaTag "complexType" [("name", "T")] false), .start (schemaTag "sequence" [] false),
    .start (intField "element" "a"), .start (schemaTag "choice" [] false),
    .start (intField "element" "b"), .stop (schemaTag "choice" [] false).name,
    .stop (schemaTag "sequence" [] false).name, .start (intField "attribute" "c"),
    .stop (schemaTag "complexType" [] false).name]

theorem spells_choiceInSequence :
    (Forest.cons (schemaTag "complexType" [("name", "T")] false) choiceInSequenceTags .nil).Spells
      choiceInSequenceNodes := by
  have choice := Forest.spells_tag (schemaTag "choice" [] false) (schemaTag "choice" [] false).name
    rfl (Forest.spells_empty (intField "element" "b") rfl Forest.spells_nil) Forest.spells_nil
  have sequence := Forest.spells_tag (schemaTag "sequence" [] false)
    (schemaTag "sequence" [] false).name rfl
    (Forest.spells_empty (intField "element" "a") rfl choice)
    (Forest.spells_empty (intField "attribute" "c") rfl Forest.spells_nil)
  exact Forest.spells_tag (schemaTag "complexType" [("name", "T")] false)
    (schemaTag "complexType" [] false).name rfl sequence Forest.spells_nil

set_option maxRecDepth 100000 in
theorem complexType_laidOut_choiceInSequence :
    ∃ type, ((start "" false).readDocument choiceInSequence).HasClosedType type ∧
      (Entries.field false "a" (.group true (.field false "b" .nil) (.field true "c" .nil))).LaidOut
        ((start "" false).readDocument choiceInSequence)
        (((start "" false).readDocument choiceInSequence).declarations.type type).fields := by
  have shape : (∀ v ∈ (start "" false).visits choiceInSequence, v.IsFree) ∧
      ((((start "" false).visits choiceInSequence).drop 1).take 9).map Visit.node =
        choiceInSequenceNodes ∧
      ((((start "" false).visits choiceInSequence).drop 1).take 9).head?.map (fun v =>
        (v.session.skipDepth, v.session.elementStack)) = some (0, []) := by decide +kernel
  have ok : ((start "" false).readDocument choiceInSequence).hasFailed = false := by decide +kernel
  obtain ⟨free, nodes, head⟩ := shape
  obtain ⟨first, inside, own, -⟩ := List.map_eq_cons_iff.1 nodes
  have split : (start "" false).visits choiceInSequence =
      ((start "" false).visits choiceInSequence).take 1 ++ (first :: inside) ++
        (((start "" false).visits choiceInSequence).drop 1).drop 9 := by
    rw [← own, List.append_assoc, List.take_append_drop, List.take_append_drop]
  rw [own] at nodes head
  have outside := Prod.mk.inj (Option.some.inj head)
  have spells := spells_choiceInSequence
  rw [← nodes] at spells
  obtain ⟨type, -, closed, fields⟩ := complexType_laidOut (.start "" false) rfl rfl ok free split
    spells (by decide +kernel) outside.1
  rw [outside.2] at fields
  rw [← entries_choiceInSequence]
  exact ⟨type, closed, fields⟩

end XsdRecords.Session
