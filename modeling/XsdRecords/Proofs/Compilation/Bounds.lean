import XsdRecords.Proofs.Compilation.Visited
import XsdRecords.Proofs.Generation.Occurrences
import XsdRecords.Proofs.Generation.DeclaredFields
import XsdRecords.Proofs.Session.Bounds

/-! # Occurrences in the records that a compile delivers

Top-level elements and fields are delivered only if their occurrences are in order, but for the
fields of a record that hold the same records: nothing checks these.  The occurrences are not those
that the tag of an element gives; they are what this tag and the groups in it have widened them
to. -/

namespace XsdRecords.Compilation

open XsdRecords.Declaration (ElementId TypeId)
open XsdRecords.Layout (Field RecordId)
open XsdRecords.Markup (Source)
open XsdRecords.Session (HasOccurs Visit occursOf)

/-! ## Fields that hold the records that they are in -/

/-- What is known of the occurrences of a field of a type with a record: they are in order, unless
the field has this type and holds its records. -/
structure Occurring (g : Generation) (owner : TypeId) (record : RecordId)
    (entry : String × ElementId) (field : Field) : Prop where
  inOrder : g.declarations.elementType entry.2 ≠ some owner →
    (g.declarations.element entry.2).occurs.InOrder
  recursive : g.declarations.elementType entry.2 = some owner →
    field.constraint = some (.record record)

/-- Every field of every record occurs in order, but for those that hold the records that they are
in. -/
theorem inOrder_delivered (resolve : Resolver) (limit : Nat) (allowUnsupported : Bool)
    (source : Source) (location : String) (compiled : Compiled)
    (h : (run resolve limit (start allowUnsupported source location)).finish.result =
      .ok compiled) :
    let generated := Generation.run
      (run resolve limit (start allowUnsupported source location)).session.generation
    ∀ type record, (generated.declarations.type type).record = some record →
      List.Forall₂ (Occurring generated type record)
        (generated.declarations.attributesFirst (generated.declarations.type type).fields)
        (compiled.schema.record record).fields := by
  intro generated type record marked
  obtain ⟨ok, schema⟩ := finish_eq_ok h
  have read := asRead_run resolve limit allowUnsupported source location
  obtain ⟨-, fields⟩ :=
    Generation.run_vettedFields read.pristine read.inRange read.rooted ok marked
  rw [schema]
  refine fields.imp ?_
  rintro entry field ⟨vetted, own⟩
  refine ⟨fun other => (vetted.checked.resolve_left other).inOrder, fun itself => ?_⟩
  obtain ⟨type', renders⟩ := own.renders
  obtain rfl := Option.some.inj (itself.symm.trans renders.typed)
  rw [renders.unwrapped fun wraps => ?_, marked]
  · rfl
  · rw [marked] at wraps
    cases wraps.1

/-- A type with a field of the type itself, whose occurrences are not in order. -/
def recursiveField : Source :=
  .bytes (["<x:schema xmlns:x='http://www.w3.org/2001/XMLSchema'>",
    "<x:complexType name='Node'>", "<x:sequence>",
    "<x:element name='next' type='Node' minOccurs='5' maxOccurs='2'/>",
    "</x:sequence>", "</x:complexType>",
    "<x:element name='Root' type='Node'/>",
    "</x:schema>"].flatMap Text.Utf8.encodeText)

set_option maxRecDepth 100000 in
/-- The field is delivered, and holds the records that it is in. -/
theorem inOrder_delivered_recursiveField : ∃ compiled,
    (run (Library.resolver []) 1 (start false recursiveField "")).finish.result = .ok compiled ∧
      let generated := Generation.run
        (run (Library.resolver []) 1 (start false recursiveField "")).session.generation
      ∃ type entry field, (generated.declarations.type type).record = some ⟨0⟩ ∧
        generated.declarations.attributesFirst (generated.declarations.type type).fields = [entry] ∧
        (compiled.schema.record ⟨0⟩).fields = [field] ∧
        (generated.declarations.element entry.2).occurs = ⟨5, 2⟩ ∧
        field.constraint = some (.record ⟨0⟩) ∧ Occurring generated type ⟨0⟩ entry field := by
  obtain ⟨compiled, delivers⟩ := exists_eq_ok_of_isOk
    (c := run (Library.resolver []) 1 (start false recursiveField "")) (by decide +kernel)
  refine ⟨compiled, delivers, ?_⟩
  intro generated
  obtain ⟨marked, entries, itself, occurs⟩ :
      (generated.declarations.type ⟨46⟩).record = some ⟨0⟩ ∧
        generated.declarations.attributesFirst (generated.declarations.type ⟨46⟩).fields =
          [("next", ⟨0⟩)] ∧
        generated.declarations.elementType ⟨0⟩ = some ⟨46⟩ ∧
        (generated.declarations.element ⟨0⟩).occurs = ⟨5, 2⟩ := by
    decide +kernel
  have fields := inOrder_delivered _ _ _ _ _ compiled delivers ⟨46⟩ ⟨0⟩ marked
  change List.Forall₂ _ (generated.declarations.attributesFirst
    (generated.declarations.type ⟨46⟩).fields) _ at fields
  rw [entries] at fields
  cases given : (compiled.schema.record ⟨0⟩).fields with
  | nil =>
    rw [given] at fields
    cases fields
  | cons field rest =>
    rw [given] at fields
    obtain ⟨occurring, none⟩ := List.forall₂_cons.1 fields
    obtain rfl := List.forall₂_nil_left_iff.1 none
    exact ⟨⟨46⟩, ("next", ⟨0⟩), field, marked, entries, rfl, occurs, occurring.recursive itself,
      occurring⟩

/-! ## What tags make of occurrences -/

/-- Every element may occur once before anything is read. -/
theorem hasOccurs_start (location : String) (allowUnsupported : Bool) :
    HasOccurs (Session.start location allowUnsupported) [] := fun id => by
  change (Declaration.Declarations.initial.element id).occurs = ⟨1, 1⟩
  rw [Declaration.Declarations.element_initial]
  rfl

/-- An element that is checked: what its tags make of its occurrences is in order.  If one tag
declares it, without a value, the least number that this tag and the groups give which lay it out is
at most the largest, or one. -/
structure Bounded (visits : List Visit) (id : ElementId) : Prop where
  inOrder : (occursOf visits id).InOrder
  declared (v : Visit) (groups : List Visit) : visits.filter (·.bears id) = v :: groups →
    v.declares id = true → v.isElement = true → v.value? = none →
    (∀ g ∈ groups, g.declares id = false) →
      (groups.map Visit.least).foldl min v.least ≤
        (groups.map Visit.largest).foldl max (max 1 v.largest)

theorem bounded_of_inOrder {visits : List Visit} {id : ElementId}
    (inOrder : (occursOf visits id).InOrder) : Bounded visits id := by
  refine ⟨inOrder, fun v groups bearing declares isElement noValue once => ?_⟩
  rw [Session.occursOf_of_declared bearing declares isElement noValue once] at inOrder
  exact inOrder.2

/-- Every top-level element, and every element that is a field of a record but does not hold the
same records, occurs in order by what its tag and the groups in it make of its occurrences. -/
theorem widened_delivered (resolve : Resolver) (limit : Nat) (allowUnsupported : Bool)
    (source : Source) (location : String) (compiled : Compiled)
    (h : (run resolve limit (start allowUnsupported source location)).finish.result =
      .ok compiled) :
    let read := (run resolve limit (start allowUnsupported source location)).session
    let generated := Generation.run read.generation
    let visits := (Session.start location allowUnsupported).visits source ++
      visited resolve limit (start allowUnsupported source location)
    (∀ symbol id, read.declarations.roots.find? symbol = some id → Bounded visits id) ∧
      ∀ type record, (generated.declarations.type type).record = some record →
        ∀ entry ∈ (generated.declarations.type type).fields,
          generated.declarations.elementType entry.2 ≠ some type → Bounded visits entry.2 := by
  intro read generated visits
  obtain ⟨ok, -⟩ := finish_eq_ok h
  have asRead := asRead_run resolve limit allowUnsupported source location
  have occurs : HasOccurs read visits :=
    Session.carried_hasOccurs.compile (hasOccurs_start location allowUnsupported) resolve limit
      source (hasFailed_of_finish_eq_ok h)
  refine ⟨fun symbol id found => bounded_of_inOrder ?_,
    fun type record marked entry member other => bounded_of_inOrder ?_⟩
  · rw [← occurs id]
    exact Generation.inOrder_root ok found
  · rw [← occurs entry.2]
    exact Generation.inOrder_field asRead.pristine asRead.inRange asRead.rooted ok marked member
      other

/-- A top-level element that may not occur, and a field that is to occur at least thrice and at most
twice, by the tags that declare them. -/
def contradicted : Source :=
  .bytes (["<x:schema xmlns:x='http://www.w3.org/2001/XMLSchema'>",
    "<x:element name='R' maxOccurs='0'>", "<x:complexType>", "<x:sequence>",
    "<x:element name='f' minOccurs='3' maxOccurs='2'>", "<x:complexType>",
    "<x:sequence minOccurs='0'>", "<x:element name='g' type='x:int'/>", "</x:sequence>",
    "</x:complexType>", "</x:element>",
    "</x:sequence>", "</x:complexType>", "</x:element>",
    "</x:schema>"].flatMap Text.Utf8.encodeText)

/-- Whether an element is declared by a tag without a value that gives a largest number of
occurrences below the least. -/
def Contradicts (visits : List Visit) (id : ElementId) : Prop :=
  ∃ v ∈ visits, v.declares id = true ∧ v.isElement = true ∧ v.value? = none ∧ v.largest < v.least

theorem contradicts_of_any {visits : List Visit} {id : ElementId}
    (h : (visits.any fun v => v.declares id && v.isElement && v.value?.isNone &&
      decide (v.largest < v.least)) = true) : Contradicts visits id := by
  obtain ⟨v, member, found⟩ := List.any_eq_true.1 h
  simp only [Bool.and_eq_true, Option.isNone_iff_eq_none, decide_eq_true_eq] at found
  exact ⟨v, member, found.1.1.1, found.1.1.2, found.1.2, found.2⟩

set_option maxRecDepth 100000 in
theorem contradicted_read :
    (run (Library.resolver []) 1 (start false contradicted "")).finish.result.isOk = true ∧
      let read := (run (Library.resolver []) 1 (start false contradicted "")).session
      let generated := Generation.run read.generation
      let visits := (Session.start "" false).visits contradicted ++
        visited (Library.resolver []) 1 (start false contradicted "")
      read.declarations.roots.find? ⟨.none, "R"⟩ = some ⟨0⟩ ∧
        generated.declarations.elementType ⟨0⟩ = some ⟨46⟩ ∧
        (generated.declarations.type ⟨46⟩).record = some ⟨0⟩ ∧
        (generated.declarations.type ⟨46⟩).fields = [("f", ⟨1⟩)] ∧
        generated.declarations.elementType ⟨1⟩ ≠ some ⟨46⟩ ∧
        occursOf visits ⟨0⟩ = ⟨1, 1⟩ ∧ occursOf visits ⟨1⟩ = ⟨0, 2⟩ ∧
        [ElementId.mk 0, ⟨1⟩].all (fun id => visits.any fun v => v.declares id && v.isElement &&
          v.value?.isNone && decide (v.largest < v.least)) = true := by
  decide +kernel

/-- Both are delivered: no tag lowers the largest number of occurrences, and a group widens both. -/
theorem contradicted_delivered : ∃ compiled,
    (run (Library.resolver []) 1 (start false contradicted "")).finish.result = .ok compiled ∧
      let read := (run (Library.resolver []) 1 (start false contradicted "")).session
      let generated := Generation.run read.generation
      let visits := (Session.start "" false).visits contradicted ++
        visited (Library.resolver []) 1 (start false contradicted "")
      ∃ symbol root type field, read.declarations.roots.find? symbol = some root ∧
        Contradicts visits root ∧
        (generated.declarations.type type).record = some ⟨0⟩ ∧
        (generated.declarations.type type).fields = [("f", field)] ∧ Contradicts visits field := by
  obtain ⟨isOk, found, -, marked, entries, -, -, -, tags⟩ := contradicted_read
  obtain ⟨compiled, delivers⟩ := exists_eq_ok_of_isOk isOk
  have contradicts (id : ElementId) (member : id ∈ [ElementId.mk 0, ⟨1⟩]) :=
    contradicts_of_any (List.all_eq_true.1 tags id member)
  exact ⟨compiled, delivers, _, ⟨0⟩, ⟨46⟩, ⟨1⟩, found, contradicts ⟨0⟩ (by simp), marked, entries,
    contradicts ⟨1⟩ (by simp)⟩

/-- What their tags make of the occurrences is in order. -/
theorem widened_delivered_contradicted : ∃ compiled,
    (run (Library.resolver []) 1 (start false contradicted "")).finish.result = .ok compiled ∧
      let visits := (Session.start "" false).visits contradicted ++
        visited (Library.resolver []) 1 (start false contradicted "")
      ∃ root field, occursOf visits root = ⟨1, 1⟩ ∧ Bounded visits root ∧
        occursOf visits field = ⟨0, 2⟩ ∧ Bounded visits field := by
  obtain ⟨isOk, found, -, marked, entries, other, once, twice, -⟩ := contradicted_read
  obtain ⟨compiled, delivers⟩ := exists_eq_ok_of_isOk isOk
  obtain ⟨roots, fields⟩ := widened_delivered _ _ _ _ _ compiled delivers
  exact ⟨compiled, delivers, ⟨0⟩, ⟨1⟩, once, roots _ _ found, twice,
    fields _ _ marked _ (entries ▸ List.mem_singleton.2 rfl) other⟩

end XsdRecords.Compilation
