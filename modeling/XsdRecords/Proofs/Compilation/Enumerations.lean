import XsdRecords.Proofs.Compilation.Visited
import XsdRecords.Proofs.Generation.Enumerations
import XsdRecords.Proofs.Session.Collected

/-! # The enumerations that a compile delivers

The enumerators of a type are those of its tags that were read when the type was known to be a
string.  An enumeration takes them one after another and leaves out each whose literal or id is
taken, so that an id that comes of itself may cost a literal.  Without ids and without an order to
be kept, the literals alone decide, as long as there are ids for them. -/

namespace XsdRecords.Compilation

open XsdRecords.Declaration (LeftOut TypeId nextNumber numbered)
open XsdRecords.Layout (Enumeration EnumerationId Enumerator enrolled alphabetical counted)
open XsdRecords.Markup (Source)
open XsdRecords.Number (IntegerRange)
open XsdRecords.Session (HasEnumerators Visit entriesOf ordered)

/-! ## The enumerators that a compile has read -/

/-- No type has an enumerator before anything is read. -/
theorem hasEnumerators_start (location : String) (allowUnsupported : Bool) :
    HasEnumerators (Session.start location allowUnsupported) [] where
  enumerators := Declaration.Declarations.forall_type_initial
    (P := fun t => t.enumerators = []) rfl fun _ _ => rfl
  preserveEnumIds := Declaration.Declarations.forall_type_initial
    (P := fun t => t.preserveEnumIds = false) rfl fun _ _ => rfl

/-- What an enumeration holds, by the tags of its type. -/
def enumeratorsOf (visits : List Visit) (type : TypeId) : List Enumerator :=
  let taken := enrolled (numbered (entriesOf visits type))
  if ordered visits type then taken else counted (alphabetical (taken.map (·.name)))

/-- Every enumeration holds what is taken of the enumerators that the tags of its type give. -/
theorem enumerators_eq {resolve : Resolver} {limit : Nat} {allowUnsupported : Bool}
    {source : Source} {location : String} {compiled : Compiled}
    (h : (run resolve limit (start allowUnsupported source location)).finish.result = .ok compiled)
    {type : TypeId} {id : EnumerationId}
    (marked : ((Generation.run (run resolve limit
      (start allowUnsupported source location)).session.generation).declarations.type
        type).enumeration = some id) :
    (compiled.schema.enumeration id).enumerators =
      enumeratorsOf ((Session.start location allowUnsupported).visits source ++
        visited resolve limit (start allowUnsupported source location)) type := by
  obtain ⟨ok, schema⟩ := finish_eq_ok h
  have read := asRead_run resolve limit allowUnsupported source location
  have has := Session.carried_hasEnumerators.compile
    (hasEnumerators_start location allowUnsupported) resolve limit source
    (hasFailed_of_finish_eq_ok h)
  rw [schema, Generation.run_enumerators read.pristine read.inRange read.rooted ok marked]
  change (if (Declaration.Declarations.type _ type).preserveEnumIds then
    enrolled (Declaration.Declarations.type _ type).enumerators else _) = _
  unfold enumeratorsOf
  rw [← has.enumerators, ← has.preserveEnumIds]
  rfl

/-! ## Enumerations in alphabetical order -/

/-- The enumeration of a set of names: in the order of their bytes, numbered from zero. -/
structure Alphabetized (names : List String) (e : Enumeration) : Prop where
  sorted : (e.enumerators.map (·.name)).Pairwise fun a b =>
    Text.Utf8.encodeText a < Text.Utf8.encodeText b
  mem_iff (name : String) : name ∈ e.enumerators.map (·.name) ↔ name ∈ names
  ids : e.enumerators.map (·.id) = (List.range e.enumerators.length).map Int.ofNat
  idOf?_iff (name : String) (id : Int) : e.idOf? name = some id ↔ ⟨name, id⟩ ∈ e.enumerators
  nameOf?_iff (name : String) (id : Int) : e.nameOf? id = some name ↔ ⟨name, id⟩ ∈ e.enumerators

theorem alphabetized_of_eq {names : List String} {e : Enumeration}
    (enumerators : e.enumerators = counted (alphabetical names)) : Alphabetized names e := by
  have own : e.enumerators.map (·.name) = alphabetical names := by
    rw [enumerators, Layout.names_counted]
  have distinct : (e.enumerators.map (·.name)).Nodup :=
    own ▸ (Layout.pairwise_alphabetical names).imp ne_of_lt
  have ids : (e.enumerators.map (·.id)).Nodup := enumerators ▸ Layout.nodup_ids_counted _
  have length : e.enumerators.length = (alphabetical names).length := by
    rw [← own, List.length_map]
  exact
    { sorted := own ▸ Layout.pairwise_encodeText_alphabetical names
      mem_iff := fun name => own ▸ Layout.mem_alphabetical
      ids := by rw [length, ← Layout.ids_counted, enumerators]
      idOf?_iff := fun _ _ => Enumeration.idOf?_eq_some_iff distinct
      nameOf?_iff := fun _ _ => Enumeration.nameOf?_eq_some_iff ids }

/-- Neither the order nor the repetition of names matters. -/
theorem Alphabetized.unique {names names' : List String} {e e' : Enumeration}
    (own : Alphabetized names e) (other : Alphabetized names' e')
    (same : ∀ name, name ∈ names' ↔ name ∈ names) : e'.enumerators = e.enumerators := by
  have sorted {names : List String} {e : Enumeration} (h : Alphabetized names e) :
      (e.enumerators.map (·.name)).Pairwise (· < ·) :=
    h.sorted.imp Text.Utf8.encodeText_lt_iff.1
  have sameNames : e'.enumerators.map (·.name) = e.enumerators.map (·.name) :=
    (sorted other).eq_of_mem_iff (sorted own) fun name => by
      rw [other.mem_iff, own.mem_iff, same]
  have length : e'.enumerators.length = e.enumerators.length := by
    simpa using congrArg List.length sameNames
  have sameIds : e'.enumerators.map (·.id) = e.enumerators.map (·.id) := by
    rw [other.ids, own.ids, length]
  rw [← Layout.zipWith_mk_map e'.enumerators, sameNames, sameIds, Layout.zipWith_mk_map]

theorem enumerators_eq_counted {resolve : Resolver} {limit : Nat} {allowUnsupported : Bool}
    {source : Source} {location : String} {compiled : Compiled}
    (h : (run resolve limit (start allowUnsupported source location)).finish.result = .ok compiled)
    {type : TypeId} {id : EnumerationId}
    (marked : ((Generation.run (run resolve limit
      (start allowUnsupported source location)).session.generation).declarations.type
        type).enumeration = some id)
    {visits : List Visit} (all : visits = (Session.start location allowUnsupported).visits source ++
      visited resolve limit (start allowUnsupported source location))
    (silent : ∀ entry ∈ entriesOf visits type, entry.2 = none)
    (unordered : visits.any (·.orders type) = false)
    (few : ((entriesOf visits type).length : Int) ≤ IntegerRange.int32.high + 1) :
    (compiled.schema.enumeration id).enumerators =
      counted (alphabetical ((entriesOf visits type).map (·.1))) := by
  have unkept : ordered visits type ≠ true := by
    rw [ordered, unordered, Bool.false_or]
    intro kept
    obtain ⟨entry, member, given⟩ := List.any_eq_true.1 kept
    rw [silent entry member] at given
    cases given
  rw [enumerators_eq h marked, ← all, enumeratorsOf, if_neg unkept]
  exact congrArg counted (Layout.alphabetical_congr fun name =>
    Declaration.mem_names_enrolled_numbered silent few)

/-- An enumeration without ids and without an order to be kept is that of the set of its literals,
if there are no more of them than there are ids. -/
theorem alphabetized_delivered (resolve : Resolver) (limit : Nat) (allowUnsupported : Bool)
    (source : Source) (location : String) (compiled : Compiled)
    (h : (run resolve limit (start allowUnsupported source location)).finish.result =
      .ok compiled) :
    let generated := Generation.run
      (run resolve limit (start allowUnsupported source location)).session.generation
    let visits := (Session.start location allowUnsupported).visits source ++
      visited resolve limit (start allowUnsupported source location)
    ∀ type id, (generated.declarations.type type).enumeration = some id →
      let entries := entriesOf visits type
      (∀ entry ∈ entries, entry.2 = none) → visits.any (·.orders type) = false →
      (entries.length : Int) ≤ IntegerRange.int32.high + 1 →
        Alphabetized (entries.map (·.1)) (compiled.schema.enumeration id) ∧
          ∀ names e, (∀ name, name ∈ names ↔ name ∈ entries.map (·.1)) → Alphabetized names e →
            e.enumerators = (compiled.schema.enumeration id).enumerators := by
  intro generated visits type id marked entries silent unordered few
  have alphabetized : Alphabetized (entries.map (·.1)) (compiled.schema.enumeration id) :=
    alphabetized_of_eq (enumerators_eq_counted h marked rfl silent unordered few)
  exact ⟨alphabetized, fun names e same other => alphabetized.unique other same⟩

/-- The compile of a document that asks for no other. -/
abbrev runAlone (source : Source) : Compilation :=
  run (Library.resolver []) 1 (start false source "")

/-- The nodes of a document that asks for no other. -/
abbrev visitsAlone (source : Source) : List Visit :=
  (Session.start "" false).visits source ++ visited (Library.resolver []) 1 (start false source "")

/-- A type with two restrictions, of which the first is no string. -/
def restrictions (first second third : String) : Source :=
  .bytes (["<x:schema xmlns:x='http://www.w3.org/2001/XMLSchema'>", "<x:simpleType name='S'>",
    "<x:restriction base='x:int'>", "<x:enumeration value='", first, "'/>", "</x:restriction>",
    "<x:restriction base='x:string'>", "<x:enumeration value='", second, "'/>",
    "<x:enumeration value='", third, "'/>", "</x:restriction>", "</x:simpleType>",
    "<x:element name='R'>", "<x:complexType>", "<x:attribute name='f' type='S'/>",
    "</x:complexType>", "</x:element>", "</x:schema>"].flatMap Text.Utf8.encodeText)

/-- The type has three enumeration tags without ids, asks for no order, and gets the enumerators of
the last two. -/
def Restricted (first second third : String) : Prop :=
  let c := runAlone (restrictions first second third)
  let visits := visitsAlone (restrictions first second third)
  c.finish.result.isOk = true ∧
    ((Generation.run c.session.generation).declarations.type ⟨46⟩).enumeration = some ⟨0⟩ ∧
    (visits.filter (·.enumerates ⟨46⟩)).map (·.entry) =
      [(first, none), (second, none), (third, none)] ∧
    entriesOf visits ⟨46⟩ = [(second, none), (third, none)] ∧
    visits.any (·.orders ⟨46⟩) = false

set_option maxRecDepth 100000 in
theorem restricted_integer_first : Restricted "1" "b" "a" := by
  unfold Restricted
  decide +kernel

set_option maxRecDepth 100000 in
theorem restricted_integer_second : Restricted "b" "a" "1" := by
  unfold Restricted
  decide +kernel

/-- What such a document delivers, if it is in alphabetical order already. -/
theorem Restricted.enumerators {first second third : String}
    (restricted : Restricted first second third) (less : third < second) {compiled : Compiled}
    (delivers : (runAlone (restrictions first second third)).finish.result = .ok compiled) :
    (compiled.schema.enumeration ⟨0⟩).enumerators = [⟨third, 0⟩, ⟨second, 1⟩] := by
  obtain ⟨-, marked, -, entries, unordered⟩ := restricted
  have names : alphabetical [second, third] = [third, second] :=
    Layout.alphabetical_eq (by simpa using less) (by simp [or_comm])
  rw [enumerators_eq_counted delivers marked rfl ?_ unordered ?_, entries]
  · exact congrArg counted names
  · rw [entries]
    simp
  · rw [entries]
    exact (by decide : ((2 : Nat) : Int) ≤ IntegerRange.int32.high + 1)

/-- Of three tags without ids the literal of the first is not delivered, whichever that is; and with
more literals than ids one is lost, too. -/
theorem restricted_delivered :
    (Restricted "1" "b" "a" ∧ ∃ compiled,
      (runAlone (restrictions "1" "b" "a")).finish.result = .ok compiled ∧
        (compiled.schema.enumeration ⟨0⟩).enumerators = [⟨"a", 0⟩, ⟨"b", 1⟩]) ∧
    (Restricted "b" "a" "1" ∧ ∃ compiled,
      (runAlone (restrictions "b" "a" "1")).finish.result = .ok compiled ∧
        (compiled.schema.enumeration ⟨0⟩).enumerators = [⟨"1", 0⟩, ⟨"a", 1⟩]) ∧
    ∃ entries : List (String × Option Int), (∀ entry ∈ entries, entry.2 = none) ∧
      ∃ name ∈ entries.map (·.1),
        name ∉ (counted
          (alphabetical ((enrolled (numbered entries)).map (·.name)))).map (·.name) := by
  refine ⟨⟨restricted_integer_first, ?_⟩, ⟨restricted_integer_second, ?_⟩, ?_⟩
  · obtain ⟨compiled, delivers⟩ := exists_eq_ok_of_isOk restricted_integer_first.1
    exact ⟨compiled, delivers, restricted_integer_first.enumerators (by decide) delivers⟩
  · obtain ⟨compiled, delivers⟩ := exists_eq_ok_of_isOk restricted_integer_second.1
    exact ⟨compiled, delivers, restricted_integer_second.enumerators (by decide) delivers⟩
  · obtain ⟨entries, silent, name, given, lost⟩ := Declaration.exists_lost
    refine ⟨entries, silent, name, given, ?_⟩
    rw [Layout.names_counted, Layout.mem_alphabetical]
    exact lost

/-- The last two literals alone make the enumeration. -/
theorem alphabetized_delivered_restricted : ∃ compiled,
    (runAlone (restrictions "1" "b" "a")).finish.result = .ok compiled ∧
      Alphabetized ["b", "a"] (compiled.schema.enumeration ⟨0⟩) ∧
      (compiled.schema.enumeration ⟨0⟩).enumerators = [⟨"a", 0⟩, ⟨"b", 1⟩] := by
  obtain ⟨isOk, marked, -, entries, unordered⟩ := restricted_integer_first
  obtain ⟨compiled, delivers⟩ := exists_eq_ok_of_isOk isOk
  have delivered := alphabetized_delivered _ _ _ _ _ compiled delivers ⟨46⟩ ⟨0⟩ marked
  change (∀ entry ∈ entriesOf (visitsAlone (restrictions "1" "b" "a")) ⟨46⟩, _) → _ → _ → _
    at delivered
  rw [entries] at delivered
  refine ⟨compiled, delivers, (delivered (by simp) unordered (by decide)).1,
    restricted_integer_first.enumerators (by decide) delivers⟩

/-! ## Ids that come of themselves -/

/-- What becomes of a literal that comes after others and gets the id after the last one. -/
structure Automatic (before : List (String × Option Int)) (literal : String)
    (delivered : List Enumerator) : Prop where
  leftOut_iff : LeftOut before (literal, none) ↔ ∃ x ∈ enrolled (numbered before),
    x.name = literal ∨ x.id = nextNumber (numbered before)
  delivered : ¬LeftOut before (literal, none) → literal ∈ delivered.map (·.name)
  /-- If the id is none of those before, nothing but the literal matters. -/
  repeated : nextNumber (numbered before) ∉ (numbered before).map (·.2) →
    LeftOut before (literal, none) → literal ∈ before.map (·.1)

theorem mem_names_enumeratorsOf {visits : List Visit} {type : TypeId} {name : String} :
    name ∈ (enumeratorsOf visits type).map (·.name) ↔
      name ∈ (enrolled (numbered (entriesOf visits type))).map (·.name) := by
  unfold enumeratorsOf
  dsimp only
  split
  · rfl
  · rw [Layout.names_counted, Layout.mem_alphabetical]

/-- An enumerator without an id of its own is left out if its literal is taken before it, or the id
after the last one. -/
theorem automatic_delivered (resolve : Resolver) (limit : Nat) (allowUnsupported : Bool)
    (source : Source) (location : String) (compiled : Compiled)
    (h : (run resolve limit (start allowUnsupported source location)).finish.result =
      .ok compiled) :
    let generated := Generation.run
      (run resolve limit (start allowUnsupported source location)).session.generation
    let visits := (Session.start location allowUnsupported).visits source ++
      visited resolve limit (start allowUnsupported source location)
    ∀ type id, (generated.declarations.type type).enumeration = some id →
      let delivered := (compiled.schema.enumeration id).enumerators
      delivered = enumeratorsOf visits type ∧
        ∀ before literal after, entriesOf visits type = before ++ (literal, none) :: after →
          Automatic before literal delivered := by
  intro generated visits type id marked delivered
  have holds : delivered = enumeratorsOf visits type := enumerators_eq h marked
  refine ⟨holds, fun before literal after entries =>
    ⟨Declaration.leftOut_iff, fun takes => ?_, Declaration.mem_names_of_leftOut⟩⟩
  rw [holds, mem_names_enumeratorsOf, entries]
  exact Declaration.mem_names_of_not_leftOut takes after

/-- A type with an enumerator that gets the id of the first. -/
def collidingId : Source :=
  .bytes (["<x:schema xmlns:x='http://www.w3.org/2001/XMLSchema'",
    " xmlns:b='http://bloomberg.com/schemas/bdem'>", "<x:simpleType name='S'>",
    "<x:restriction base='x:string'>", "<x:enumeration value='a' b:id='5'/>",
    "<x:enumeration value='b' b:id='4'/>", "<x:enumeration value='c'/>", "</x:restriction>",
    "</x:simpleType>", "<x:element name='R'>", "<x:complexType>",
    "<x:attribute name='f' type='S'/>", "</x:complexType>", "</x:element>",
    "</x:schema>"].flatMap Text.Utf8.encodeText)

set_option maxRecDepth 100000 in
/-- The literal is left out, though none before it is the same. -/
theorem automatic_delivered_collidingId : ∃ compiled,
    (runAlone collidingId).finish.result = .ok compiled ∧
      (compiled.schema.enumeration ⟨0⟩).enumerators = [⟨"a", 5⟩, ⟨"b", 4⟩] ∧
      ∃ before literal, entriesOf (visitsAlone collidingId) ⟨46⟩ = before ++ [(literal, none)] ∧
        literal ∉ before.map (·.1) ∧ LeftOut before (literal, none) ∧
        Automatic before literal (compiled.schema.enumeration ⟨0⟩).enumerators := by
  obtain ⟨isOk, marked, entries, ordered⟩ :
      (runAlone collidingId).finish.result.isOk = true ∧
        ((Generation.run (runAlone collidingId).session.generation).declarations.type
          ⟨46⟩).enumeration = some ⟨0⟩ ∧
        entriesOf (visitsAlone collidingId) ⟨46⟩ = [("a", some 5), ("b", some 4), ("c", none)] ∧
        ordered (visitsAlone collidingId) ⟨46⟩ = true := by
    decide +kernel
  obtain ⟨compiled, delivers⟩ := exists_eq_ok_of_isOk isOk
  obtain ⟨holds, automatic⟩ := automatic_delivered _ _ _ _ _ compiled delivers ⟨46⟩ ⟨0⟩ marked
  have own := automatic [("a", some 5), ("b", some 4)] "c" [] entries
  refine ⟨compiled, delivers, ?_, _, _, entries, by decide, own.leftOut_iff.2 (by decide), own⟩
  rw [holds, enumeratorsOf, if_pos ordered, entries]
  decide

end XsdRecords.Compilation
