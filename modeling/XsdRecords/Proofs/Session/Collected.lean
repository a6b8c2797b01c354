import XsdRecords.Proofs.Declaration.Enumerators
import XsdRecords.Proofs.Session.Given
import XsdRecords.Proofs.Session.Traced

/-! # The enumerators that a type collects

An enumeration tag adds its enumerator to the innermost open type if the bases that are known by then
lead to `string`, and is passed over otherwise.  No other tag changes the enumerators of any type.  So
the enumerators of a type depend on the order of definitions: a type whose base is defined after it
loses those that were read before.

The nodes that have been read tell all that is known of the enumerators of a type: which literals
they are, in which order, which of them have ids of their own, and whether the order is to be
kept. -/

namespace XsdRecords.Session

open XsdRecords.Declaration (Declarations TypeDef TypeId numbered)
open XsdRecords.Markup (Node Source StartTag)
open XsdRecords.Action

/-! ## Nodes -/

/-- Whether a node is an enumeration tag outside skipped content that stands in a type. -/
def Visit.enumerates (v : Visit) (type : TypeId) : Bool :=
  match v.node with
  | .start tag => tag.kind = .enumeration && v.session.skipDepth = 0 &&
      v.session.typeStack.head? = some type
  | .stop _ => false

/-- A type with the enumerator of an enumeration tag. -/
def enumerate (t : TypeDef) (v : Visit) : TypeDef :=
  match v.node with
  | .start tag => t.addEnumerator (literal tag) (enumeratorId tag)
  | .stop _ => t

theorem enumerators_enumerate_congr {t t' : TypeDef} (same : t'.enumerators = t.enumerators)
    (v : Visit) : (enumerate t' v).enumerators = (enumerate t v).enumerators := by
  unfold enumerate
  cases v.node with
  | start tag => simp only [TypeDef.addEnumerator, TypeDef.nextId, same]
  | stop name => exact same

theorem enumerators_foldl_congr (tags : List Visit) {t t' : TypeDef}
    (same : t'.enumerators = t.enumerators) :
    (tags.foldl enumerate t').enumerators = (tags.foldl enumerate t).enumerators := by
  induction tags generalizing t t' with
  | nil => exact same
  | cons v rest ih => exact ih (enumerators_enumerate_congr same v)

theorem length_foldl_enumerate {type : TypeId} (tags : List Visit)
    (enumerates : ∀ v ∈ tags, v.enumerates type = true) (t : TypeDef) :
    (tags.foldl enumerate t).enumerators.length = t.enumerators.length + tags.length := by
  induction tags generalizing t with
  | nil => rfl
  | cons v rest ih =>
    have one : (enumerate t v).enumerators.length = t.enumerators.length + 1 := by
      have first := enumerates v List.mem_cons_self
      unfold Visit.enumerates at first
      unfold enumerate
      cases node : v.node with
      | start tag => exact List.length_append
      | stop name =>
        rw [node] at first
        cases first
    rw [List.foldl_cons, ih (fun v member => enumerates v (List.mem_cons_of_mem _ member)), one,
      List.length_cons, Nat.add_assoc, Nat.add_comm 1]

section Node

variable {s : Session} {position : Position} {tag : StartTag}

/-- A start tag outside skipped content. -/
theorem Lawful.enumerators_readStart (lawful : Lawful s) (reading : s.skipDepth = 0)
    (ok : (readStart s tag position).hasFailed = false) (type : TypeId) :
    ((readStart s tag position).declarations.type type).enumerators =
      if (tag.kind = .enumeration ∧ s.typeStack.head? = some type) ∧ isString s type = true then
        ((s.declarations.type type).addEnumerator (literal tag) (enumeratorId tag)).enumerators
      else (s.declarations.type type).enumerators := by
  have gives := lawful.gives_readStart reading ok
  have passed (other : tag.kind ≠ .enumeration)
      (same : ((readStart s tag position).declarations.type type).enumerators =
        (s.declarations.type type).enumerators) :
      ((readStart s tag position).declarations.type type).enumerators =
        if (tag.kind = .enumeration ∧ s.typeStack.head? = some type) ∧ isString s type = true then
          ((s.declarations.type type).addEnumerator (literal tag) (enumeratorId tag)).enumerators
        else (s.declarations.type type).enumerators := by
    rw [if_neg fun h => other h.1.1, same]
  cases gives with
  | element isElement id d form head before bound reads after =>
    refine passed (by obtain h | h := isElement <;> simp [h]) ?_
    exact (after.enumerators type).trans (before.enumerators type)
  | type isType id d head before bound after =>
    refine passed (by obtain h | h := isType <;> simp [h]) ?_
    rw [after.enumerators, ← before.enumerators]
    exact Declarations.get_type_modifyType TypeDef.enumerators d id type fun _ => rfl
  | group isGroup d before widens =>
    refine passed (by obtain h | h := isGroup <;> simp [h]) ?_
    rw [← before.enumerators]
    split at widens
    · rw [widens.2]
      rfl
    · rw [widens]
  | enumerator isEnumeration elements types =>
    simp only [types, isEnumeration, true_and]
    split <;> rfl
  | nothing other kept => exact passed (fun h => other (h ▸ by decide)) (kept.enumerators type)

end Node

/-- A node adds its enumerator to a type that is a string, and changes no other enumerators. -/
theorem enumerators_after {v : Visit} (lawful : Lawful v.session) (ok : v.after.hasFailed = false)
    (type : TypeId) :
    (v.after.declarations.type type).enumerators =
      if v.enumerates type = true ∧ isString v.session type = true then
        (enumerate (v.session.declarations.type type) v).enumerators
      else (v.session.declarations.type type).enumerators := by
  have makes := v.makes ok
  unfold Visit.enumerates enumerate
  generalize v.after.declarations = d at makes ⊢
  cases makes with
  | stop s name position => simp only [Bool.false_eq_true, false_and, if_false]
  | skipped s tag position skipping => simp [skipping]
  | start s tag position reading started =>
    rw [lawful.enumerators_readStart reading started]
    simp only [reading, decide_true, Bool.and_true, Bool.and_eq_true, decide_eq_true_eq]

/-! ## Documents -/

theorem Run.enumerators {s s' : Session} {visits : List Visit} (run : Run s visits s')
    {opened : List Opening} (held : Held s opened) (type : TypeId) :
    (s'.declarations.type type).enumerators =
      (((visits.filter (·.enumerates type)).filter (isString ·.session type)).foldl enumerate
        (s.declarations.type type)).enumerators := by
  induction run generalizing opened with
  | nil untouched =>
    exact congrArg (fun d => (Declarations.type d type).enumerators) untouched.declarations
  | @cons s s' v rest untouched ok later ih =>
    have here := held.untouched untouched
    have step := enumerators_after here.lawful ok type
    rw [ih (here.after ok), List.filter_filter, List.filter_filter, List.filter_cons]
    rw [untouched.declarations] at step
    split
    · rename_i counts
      rw [Bool.and_eq_true] at counts
      rw [if_pos ⟨counts.2, counts.1⟩] at step
      exact enumerators_foldl_congr _ step
    · rename_i passed
      rw [Bool.and_eq_true] at passed
      rw [if_neg fun h => passed ⟨h.2, h.1⟩] at step
      exact enumerators_foldl_congr _ step

/-- The enumerators that a document adds to a type are those of its enumeration tags in the type that
were read when the type was known to be a string; none is lost exactly if it was known at each. -/
theorem readDocument_enumerators {s : Session} (reached : Reached s) (elements : s.elementStack = [])
    (types : s.typeStack = []) {source : Source}
    (ok : (s.readDocument source).hasFailed = false) (type : TypeId) :
    let tags := (s.visits source).filter (·.enumerates type)
    let read := s.readDocument source
    (read.declarations.type type).enumerators =
        ((tags.filter (isString ·.session type)).foldl enumerate
          (s.declarations.type type)).enumerators ∧
      ((read.declarations.type type).enumerators.length =
          (s.declarations.type type).enumerators.length + tags.length ↔
        ∀ v ∈ tags, isString v.session type = true) := by
  intro tags read
  have start : Held s.beginDocument [] :=
    ⟨(reached.lawful elements types).untouched rfl rfl rfl, elements, types, rfl, rfl, .nil⟩
  have all : (read.declarations.type type).enumerators =
      ((tags.filter (isString ·.session type)).foldl enumerate
        (s.declarations.type type)).enumerators := (run_readDocument ok).enumerators start type
  refine ⟨all, ?_⟩
  have enumerates (v : Visit) (member : v ∈ tags.filter (isString ·.session type)) :
      v.enumerates type = true := (List.mem_filter.1 (List.mem_filter.1 member).1).2
  rw [all, length_foldl_enumerate _ enumerates, Nat.add_left_cancel_iff,
    List.length_filter_eq_length_iff]

/-- A type with an enumerator, whose base is defined after it. -/
def laterBase : Source :=
  .bytes (["<x:schema xmlns:x='http://www.w3.org/2001/XMLSchema'>", "<x:simpleType name='B'>",
    "<x:restriction base='A'>", "<x:enumeration value='v'/>", "</x:restriction>",
    "</x:simpleType>", "<x:simpleType name='A'>", "<x:restriction base='x:string'/>",
    "</x:simpleType>", "</x:schema>"].flatMap Text.Utf8.encodeText)

set_option maxRecDepth 100000 in
/-- The type is a string in the end, and has lost its enumerator. -/
example : isString ((start "" false).readDocument laterBase) ⟨46⟩ = true ∧
    ((start "" false).visits laterBase).countP (·.enumerates ⟨46⟩) = 1 ∧
      (((start "" false).readDocument laterBase).declarations.type ⟨46⟩).enumerators = [] := by
  decide +kernel

/-! ## What is known of them -/

/-- Whether a node adds an enumerator to a type. -/
def Visit.counts (v : Visit) (type : TypeId) : Bool :=
  v.enumerates type && isString v.session type

/-- The literal of a node, with its id if it gives one. -/
def Visit.entry (v : Visit) : String × Option Int :=
  match v.node with
  | .start tag => (literal tag, enumeratorId tag)
  | .stop _ => ("", none)

/-- Whether a node is a tag that opens a type and asks for the order of its enumerators. -/
def Visit.orders (v : Visit) (type : TypeId) : Bool :=
  match v.node with
  | .start tag =>
    tag.kind = .simpleType && v.session.skipDepth = 0 &&
      (readStart v.session tag v.position).typeStack.head? = some type && keepsOrder tag .simpleType
  | .stop _ => false

variable {s s' : Session}

theorem orders_eq_false {tag : StartTag} {position : Position} (other : tag.kind ≠ .simpleType)
    (type : TypeId) : (Visit.mk s (.start tag) position).orders type = false := by
  simp [Visit.orders, other]

theorem counts_eq_false {tag : StartTag} {position : Position} (other : tag.kind ≠ .enumeration)
    (type : TypeId) : (Visit.mk s (.start tag) position).counts type = false := by
  simp [Visit.counts, Visit.enumerates, other]

theorem counts_eq {tag : StartTag} {position : Position} (isEnumeration : tag.kind = .enumeration)
    (reading : s.skipDepth = 0) (type : TypeId) :
    (Visit.mk s (.start tag) position).counts type =
      decide (s.typeStack.head? = some type ∧ isString s type = true) := by
  simp [Visit.counts, Visit.enumerates, isEnumeration, reading]

theorem orders_eq {tag : StartTag} {position : Position}
    (isType : tag.kind = .complexType ∨ tag.kind = .simpleType) (reading : s.skipDepth = 0)
    {id : TypeId} (head : (readStart s tag position).typeStack.head? = some id) (type : TypeId) :
    (Visit.mk s (.start tag) position).orders type =
      (decide (id = type) && keepsOrder tag tag.kind) := by
  obtain isComplex | isSimple := isType
  · rw [orders_eq_false (by simp [isComplex]), isComplex]
    simp [keepsOrder]
  · simp [Visit.orders, isSimple, reading, head]

/-- A start tag outside skipped content keeps the order of enumerators if it asks for it, or if it
gives one an id of its own. -/
theorem Lawful.preserveEnumIds_readStart (lawful : Lawful s) {tag : StartTag} {position : Position}
    (reading : s.skipDepth = 0) (ok : (readStart s tag position).hasFailed = false)
    (type : TypeId) :
    let v : Visit := ⟨s, .start tag, position⟩
    ((readStart s tag position).declarations.type type).preserveEnumIds =
      ((s.declarations.type type).preserveEnumIds || v.orders type ||
        (v.counts type && v.entry.2.isSome)) := by
  intro v
  have gives := lawful.gives_readStart reading ok
  have silent (noType : tag.kind ≠ .simpleType) (noEnumeration : tag.kind ≠ .enumeration)
      (same : ((readStart s tag position).declarations.type type).preserveEnumIds =
        (s.declarations.type type).preserveEnumIds) :
      ((readStart s tag position).declarations.type type).preserveEnumIds =
        ((s.declarations.type type).preserveEnumIds || v.orders type ||
          (v.counts type && v.entry.2.isSome)) := by
    rw [orders_eq_false noType, counts_eq_false noEnumeration, same, Bool.or_false,
      Bool.false_and, Bool.or_false]
  cases gives with
  | element isElement id d form head before bound reads after =>
    exact silent (by obtain h | h := isElement <;> simp [h])
      (by obtain h | h := isElement <;> simp [h])
      ((after.preserveEnumIds type).trans (before.preserveEnumIds type))
  | type isType id d head before bound after =>
    rw [after.preserveEnumIds, counts_eq_false (by obtain h | h := isType <;> simp [h]),
      Bool.false_and, Bool.or_false, orders_eq isType reading head, ← before.preserveEnumIds]
    by_cases same : id = type
    · subst same
      rw [Declarations.type_modifyType bound]
      simp [keepOrder]
    · rw [Declarations.type_modifyType_of_ne same]
      simp [same]
  | group isGroup d before widens =>
    refine silent (by obtain h | h := isGroup <;> simp [h])
      (by obtain h | h := isGroup <;> simp [h]) ?_
    rw [← before.preserveEnumIds]
    split at widens
    · rw [widens.2]
      rfl
    · rw [widens]
  | enumerator isEnumeration elements types =>
    rw [types, orders_eq_false (by simp [isEnumeration]), Bool.or_false,
      counts_eq isEnumeration reading]
    split
    · rename_i adds
      rw [decide_eq_true adds]
      rfl
    · rename_i passed
      rw [decide_eq_false passed, Bool.false_and, Bool.or_false]
  | nothing other kept =>
    exact silent (fun h => other (h ▸ by decide)) (fun h => other (h ▸ by decide))
      (kept.preserveEnumIds type)

theorem preserveEnumIds_after {v : Visit} (lawful : Lawful v.session)
    (ok : v.after.hasFailed = false) (type : TypeId) :
    (v.after.declarations.type type).preserveEnumIds =
      ((v.session.declarations.type type).preserveEnumIds || v.orders type ||
        (v.counts type && v.entry.2.isSome)) := by
  have makes := v.makes ok
  generalize v.after.declarations = d at makes ⊢
  cases makes with
  | stop s name position => simp [Visit.orders, Visit.counts, Visit.enumerates]
  | skipped s tag position skipping =>
    simp [Visit.orders, Visit.counts, Visit.enumerates, skipping]
  | start s tag position reading started =>
    exact lawful.preserveEnumIds_readStart reading started type

/-! ## Runs -/

/-- The literals that some nodes add to a type, each with its id if it has one. -/
def entriesOf (visits : List Visit) (type : TypeId) : List (String × Option Int) :=
  (visits.filter (·.counts type)).map (·.entry)

/-- Whether some nodes ask for the order of the enumerators of a type, or give one an id. -/
def ordered (visits : List Visit) (type : TypeId) : Bool :=
  visits.any (·.orders type) || (entriesOf visits type).any (·.2.isSome)

/-- A session in which every type has the enumerators that the nodes give. -/
structure HasEnumerators (s : Session) (visits : List Visit) : Prop where
  enumerators (type : TypeId) :
    (s.declarations.type type).enumerators = numbered (entriesOf visits type)
  preserveEnumIds (type : TypeId) :
    (s.declarations.type type).preserveEnumIds = ordered visits type

theorem HasEnumerators.untouched {visits : List Visit} (has : HasEnumerators s visits)
    (same : s'.declarations = s.declarations) : HasEnumerators s' visits := by
  refine ⟨fun type => ?_, fun type => ?_⟩
  · rw [same]
    exact has.enumerators type
  · rw [same]
    exact has.preserveEnumIds type

theorem entriesOf_append_singleton (visits : List Visit) (v : Visit) (type : TypeId) :
    entriesOf (visits ++ [v]) type =
      entriesOf visits type ++ if v.counts type = true then [v.entry] else [] := by
  rw [entriesOf, List.filter_append, List.map_append, List.filter_singleton]
  cases v.counts type <;> rfl

theorem HasEnumerators.after {visits : List Visit} {v : Visit}
    (has : HasEnumerators v.session visits) (lawful : Lawful v.session)
    (ok : v.after.hasFailed = false) : HasEnumerators v.after (visits ++ [v]) := by
  refine ⟨fun type => ?_, fun type => ?_⟩
  · have counts_iff : (v.enumerates type = true ∧ isString v.session type = true) ↔
        v.counts type = true := by rw [Visit.counts, Bool.and_eq_true]
    rw [enumerators_after lawful ok, if_congr counts_iff rfl rfl, entriesOf_append_singleton]
    split
    · rename_i counts
      have enumerates := (counts_iff.2 counts).1
      rw [Declaration.numbered_append_singleton, ← has.enumerators]
      unfold Visit.enumerates at enumerates
      unfold enumerate Visit.entry
      cases node : v.node with
      | start tag => exact TypeDef.enumerators_addEnumerator _ _ _
      | stop name =>
        rw [node] at enumerates
        cases enumerates
    · rw [List.append_nil]
      exact has.enumerators type
  · rw [preserveEnumIds_after lawful ok, has.preserveEnumIds, ordered, ordered, List.any_append,
      entriesOf_append_singleton, List.any_append]
    cases v.counts type <;> simp [Bool.or_assoc, Bool.or_comm, Bool.or_left_comm]

theorem carried_hasEnumerators : Carried HasEnumerators :=
  ⟨.untouched, .after⟩

end XsdRecords.Session
