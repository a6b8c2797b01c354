import XsdRecords.Proofs.Compilation.Tolerance
import XsdRecords.Proofs.Session.Choices
import XsdRecords.Proofs.Session.Completions
import XsdRecords.Proofs.Session.Support

/-! # Which types may have attributes

An attribute is refused where the type is a choice, or has single values: where the nearest built-in
type along its bases has, and none of them is a list.  The tag of a complex type makes its type one of
records before its content is read.  A simple content is therefore never refused, and what is derived
from a simple type becomes a record of the attributes. -/

namespace XsdRecords

namespace Layout.ElemType

/-- Single values become arrays, and records remain records. -/
theorem isScalar_widenToArray (t : ElemType) : t.widenToArray.isScalar = false := by
  cases t <;> rfl

end Layout.ElemType

namespace Declaration.Declarations

/-- A type has single values if the nearest built-in type has, and the type is no list. -/
theorem isScalar_elemType_iff {d : Declarations} {type : TypeId} :
    (d.elemType type).isScalar = true ↔ ∃ builtin, d.builtin type = some builtin ∧
      builtin.elemType.isScalar = true ∧ d.isList type = false := by
  unfold elemType
  split
  · rename_i none
    simp [none, Layout.ElemType.isScalar]
  · rename_i builtin built
    rw [built]
    cases list : d.isList type <;> simp [Layout.ElemType.isScalar_widenToArray]

end Declaration.Declarations

namespace Session

open XsdRecords.Declaration
open XsdRecords.Markup (Node Source StartTag)
open XsdRecords.Vocabulary (Builtin)

variable {s : Session}

/-! ## What attributes depend on -/

/-- By what some nodes say, a type has single values: the nearest built-in type along its bases has,
and none of them is a list. -/
def IsSimpleBy (visits : List Visit) (d : Declarations) (type : TypeId) : Prop :=
  ∃ builtin, (d.baseChain type).findSome? (builtinBy visits) = some builtin ∧
    builtin.elemType.isScalar = true ∧ d.isList type = false

/-- A type that a node has completed has records for values, whatever its bases are. -/
theorem not_isSimpleBy_of_completes {visits : List Visit} {d : Declarations} {type : TypeId}
    (bound : type.index < d.types.size) {v : Visit} (member : v ∈ visits)
    (completes : v.completes type = true) : ¬IsSimpleBy visits d type := by
  rintro ⟨builtin, nearest, isScalar, -⟩
  obtain ⟨limit, size⟩ := Nat.exists_eq_succ_of_ne_zero (Nat.ne_zero_of_lt bound)
  have own : builtinBy visits type = some Builtin.complexType :=
    if_pos (List.any_eq_true.2 ⟨v, member, completes⟩)
  rw [Declarations.baseChain, size, Declarations.baseChainWithin, List.findSome?_cons, own] at nearest
  obtain rfl := Option.some.inj nearest
  cases isScalar

/-- The nodes before tell which types may not have attributes. -/
theorem Traced.refusesAttributes_iff {visits : List Visit} (traced : Traced s visits)
    (type : TypeId) :
    refusesAttributes s.declarations type = false ↔
      (∀ base ∈ s.declarations.baseChain type, isChoiceBy visits base = false) ∧
        ¬IsSimpleBy visits s.declarations type := by
  have isChoice : s.declarations.isChoice type =
      (s.declarations.baseChain type).any (isChoiceBy visits) :=
    congrArg _ (funext (carried_hasChoices.traced hasChoices_start traced).isChoice)
  have builtin : s.declarations.builtin type =
      (s.declarations.baseChain type).findSome? (builtinBy visits) :=
    congrArg (List.findSome? · _) (funext traced.hasBuiltins)
  rw [refusesAttributes, Bool.or_eq_false_iff, isChoice, List.any_eq_false, ← Bool.not_eq_true,
    Declarations.isScalar_elemType_iff, builtin, IsSimpleBy]
  simp only [Bool.not_eq_true]

/-! ## Documents -/

theorem allowUnsupported_readNode (s : Session) (node : Node) (position : Position) :
    (readNode s node position).allowUnsupported = s.allowUnsupported := by
  rw [readNode_eq]
  obtain ⟨quiet, -⟩ | breaks := responds_nodeHere node (s.variant s.allowUnsupported position)
  · exact quiet.allowUnsupported
  · obtain ⟨problem, m, -, quiet, fails⟩ := breaks.report
    rw [fails]
    exact quiet.allowUnsupported

/-- The option is the same for all nodes of a document. -/
theorem allowUnsupported_of_mem_visits {source : Source} {v : Visit} (member : v ∈ s.visits source) :
    v.session.allowUnsupported = s.allowUnsupported := by
  cases source with
  | failing reason => cases member
  | bytes content =>
    exact (forall_mem_visitsOf (s := s.beginDocument)
      (P := fun m => m.allowUnsupported = s.allowUnsupported) (fun _ _ same => same)
      (fun _ same => (allowUnsupported_readNode _ _ _).trans same) _ rfl v member).2

/-- A document that is read without a failure is one of which every start tag is. -/
theorem started_of_readDocument {source : Source} {before rest : List Visit} {m : Session}
    {tag : StartTag} {position : Position} (ok : (s.readDocument source).hasFailed = false)
    (split : s.visits source = before ++ ⟨m, .start tag, position⟩ :: rest) :
    (readStart m tag position).hasFailed = false := by
  have run := run_readDocument ok
  rw [split] at run
  obtain ⟨_, -, here⟩ := run.split
  cases here with
  | cons _ started _ => exact (readNode_start started).1

/-- Where unsupported constructs are not allowed, an attribute tag outside skipped content that stands
in a type is read if it would be where they are, and if by the nodes before no type along the bases of
the type is a choice, and the type has no single values.  If a node before has completed the type, as
the tag of a complex type does, it has none, even if the type is derived from a simple type.  The
attribute then makes it a type of records. -/
theorem readDocument_attribute {given : List Visit} (traced : Traced s given)
    (strict : s.allowUnsupported = false) {source : Source} {before rest : List Visit}
    {m : Session} {tag : StartTag} {position : Position}
    (split : s.visits source = before ++ ⟨m, .start tag, position⟩ :: rest)
    (isAttribute : tag.kind = .attributeTag) (reading : m.skipDepth = 0) {type : TypeId}
    (inner : m.typeStack.head? = some type) :
    let earlier := given ++ before
    let started := readStart m tag position
    ((s.readDocument source).hasFailed = false → started.hasFailed = false) ∧
      (started.hasFailed = false ↔ (readStart m.tolerant tag position).hasFailed = false ∧
        (∀ base ∈ m.declarations.baseChain type, isChoiceBy earlier base = false) ∧
        ¬IsSimpleBy earlier m.declarations type) ∧
      ((∃ v ∈ earlier, v.completes type = true) → ¬IsSimpleBy earlier m.declarations type) ∧
      (started.hasFailed = false →
        (started.declarations.type type).builtin = some Builtin.complexType) := by
  intro earlier started
  have here : Traced m earlier := traced.visited split
  have lawful := here.grounded.lawful
  have member : (⟨m, .start tag, position⟩ : Visit) ∈ s.visits source := by
    rw [split]
    exact List.mem_append_right _ List.mem_cons_self
  have option : m.allowUnsupported = false :=
    (allowUnsupported_of_mem_visits member).trans strict
  refine ⟨fun ok => started_of_readDocument ok split, ?_, ?_, fun ok => ?_⟩
  · rw [← here.refusesAttributes_iff]
    exact readStart_attribute_iff lawful reading option inner isAttribute position
  · rintro ⟨v, member, completes⟩
    exact not_isSimpleBy_of_completes (lawful.openType (List.mem_of_mem_head? inner)) member completes
  · rw [lawful.builtin_readStart reading ok, if_pos]
    simpa [completed, isAttribute] using inner

/-- An element of texts, with an attribute. -/
def attributedText : Source :=
  .bytes (["<x:schema xmlns:x='http://www.w3.org/2001/XMLSchema'>", "<x:element name='R'>",
    "<x:complexType>", "<x:simpleContent>", "<x:restriction base='x:string'>",
    "<x:attribute name='a' type='x:int'/>", "</x:restriction>", "</x:simpleContent>",
    "</x:complexType>", "</x:element>", "</x:schema>"].flatMap Text.Utf8.encodeText)

/-- What is to be seen of the sixth tag of the document. -/
def isAttributeOfText (before : List Visit) (v : Visit) : Bool :=
  let chain := v.session.declarations.baseChain ⟨46⟩
  match v.node with
  | .start tag =>
    tag.kind = .attributeTag && v.session.skipDepth = 0 &&
      v.session.typeStack.head? = some ⟨46⟩ && before.any (·.completes ⟨46⟩) &&
      chain.any (fun base => (v.session.declarations.type base).builtin =
        some (Builtin.text "string")) &&
      chain.all (fun base => !isChoiceBy before base) &&
      !(readStart v.session.tolerant tag v.position).hasFailed
  | .stop _ => false

set_option maxRecDepth 100000 in
/-- The attribute is read, and the texts are gone. -/
theorem readDocument_attribute_attributedText : ∃ before m tag position rest type,
    (start "" false).visits attributedText = before ++ ⟨m, .start tag, position⟩ :: rest ∧
      tag.kind = .attributeTag ∧ m.typeStack.head? = some type ∧
      (∃ base ∈ m.declarations.baseChain type,
        (m.declarations.type base).builtin = some (Builtin.text "string")) ∧
      (readStart m tag position).hasFailed = false ∧
      ((readStart m tag position).declarations.type type).builtin = some Builtin.complexType := by
  have shape : (((start "" false).visits attributedText).drop 5).head?.any
      (isAttributeOfText (((start "" false).visits attributedText).take 5)) = true := by
    decide +kernel
  obtain ⟨⟨m, node, position⟩, head, seen⟩ := (Option.any_eq_true _ _).1 shape
  obtain ⟨rest, tail⟩ := List.head?_eq_some_iff.1 head
  cases node with
  | stop name => cases seen
  | start tag =>
    simp only [isAttributeOfText, Bool.and_eq_true, decide_eq_true_eq, Bool.not_eq_true',
      List.all_eq_true, List.any_eq_true] at seen
    obtain ⟨⟨⟨⟨⟨⟨isAttribute, reading⟩, inner⟩, complete⟩, ofText⟩, noChoice⟩, allowed⟩ := seen
    have split : (start "" false).visits attributedText =
        ((start "" false).visits attributedText).take 5 ++ ⟨m, .start tag, position⟩ :: rest := by
      rw [← tail, List.take_append_drop]
    obtain ⟨-, read, records, becomes⟩ :=
      readDocument_attribute (.start "" false) rfl split isAttribute reading inner
    have ok := read.2 ⟨allowed, noChoice, records complete⟩
    exact ⟨_, m, tag, position, rest, ⟨46⟩, split, isAttribute, inner, ofText, ok, becomes ok⟩

end Session

end XsdRecords
