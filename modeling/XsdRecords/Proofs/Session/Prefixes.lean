import XsdRecords.Proofs.Session.Resolution
import XsdRecords.Proofs.Session.Scoping

/-! # Prefixes that nothing binds

A prefix without a binding stands for no namespace, like a name without a prefix.  Such a prefix is
not refused: an attribute that has it is taken for one without a prefix, and a reference that has it for
one to a name without a namespace, which must be known unless the document itself has no target
namespace.  `prefixes_bound_or_none` says that nothing else becomes of it. -/

namespace XsdRecords

namespace Markup

variable {outer : Bindings} {tags : List StartTag} {label : String}

/-- Whether a prefix is bound inside tags, or outside them all. -/
def IsBound (outer : Bindings) (tags : List StartTag) (label : String) : Prop :=
  innermost? tags label ≠ none ∨ outer.entries.lookup label ≠ none ∨ label = "xml" ∨
    label = "xmlns"

/-- What nothing binds stands for no namespace. -/
theorem meaning_of_unbound (r : Registry) (unbound : ¬IsBound outer tags label) :
    meaning r outer tags label = .none := by
  unfold IsBound at unbound
  simp only [not_or, ne_eq, Decidable.not_not] at unbound
  obtain ⟨undeclared, unknown, xml, xmlns⟩ := unbound
  unfold meaning Bindings.resolve
  rw [undeclared, unknown]
  dsimp only
  rw [if_neg xml, if_neg xmlns]

/-- An attribute is in no namespace if it has no prefix, or one that stands for none; the declaration of
the default namespace has a namespace of its own. -/
theorem Scope.namespaceId_resolveAttribute_eq_none_iff (s : Scope) (key value : String) :
    (s.resolveAttribute key value).namespaceId = .none ↔
      key ≠ "xmlns" ∧ ∀ label, (splitName key).1 = some label → s.bindings.resolve label = .none := by
  unfold Scope.resolveAttribute
  dsimp only
  split
  · rename_i isDefault
    exact ⟨fun none => (by cases none), fun plain => absurd isDefault plain.1⟩
  · rename_i other
    cases (splitName key).1 with
    | none => exact ⟨fun _ => ⟨other, fun _ some => (by cases some)⟩, fun _ => rfl⟩
    | some label =>
      refine ⟨fun none => ⟨other, fun label' same => ?_⟩, fun plain => plain.2 label rfl⟩
      exact Option.some.inj same ▸ none

end Markup

namespace Session

open XsdRecords.Declaration (Reference Symbol)
open XsdRecords.Markup (Attribute IsBound Source StartTag innermost? meaning meaning_of_unbound
  splitName)
open XsdRecords.Vocabulary (Tag)

variable {s s' : Session} {tag : StartTag} {kind : Tag} {r : Reference}

/-! ## References as they are written -/

/-- The attributes that refer to a name. -/
def referring : List String := ["ref", "type", "base", "itemType"]

/-- A symbol is the local part of a name and the namespace of its prefix. -/
theorem symbol?_eq_some {text : Option String} {symbol : Symbol}
    (found : s.symbol? text = some symbol) : ∃ written, text = some written ∧
      symbol = ⟨s.scope.bindings.resolve ((splitName written).1.getD ""), (splitName written).2⟩ := by
  unfold symbol? at found
  split at found
  · cases found
  · cases found
  · exact ⟨_, rfl, (Option.some.inj found).symm⟩

/-- A reference is written in an attribute without a namespace. -/
theorem symbol?_of_reference? (refers : reference? s tag kind = some r) :
    ∃ name ∈ referring, s.symbol? (tag.plain? name) = some r.symbol := by
  have ofElement {isAttribute : Bool} (refers : elementReference? s tag isAttribute = some r) :
      ∃ name ∈ referring, s.symbol? (tag.plain? name) = some r.symbol := by
    unfold elementReference? at refers
    split at refers
    · rename_i symbol found
      obtain rfl := Option.some.inj refers
      exact ⟨"ref", by decide, found⟩
    · obtain ⟨symbol, found, rfl⟩ := Option.map_eq_some_iff.1 refers
      exact ⟨"type", by decide, found⟩
  have ofBase {isList : Bool} (refers : baseReference? s tag isList = some r) :
      ∃ name ∈ referring, s.symbol? (tag.plain? name) = some r.symbol := by
    obtain ⟨symbol, found, rfl⟩ := Option.map_eq_some_iff.1 refers
    exact ⟨_, by cases isList <;> decide, found⟩
  unfold reference? at refers
  split at refers
  · exact ofElement refers
  · exact ofElement refers
  · exact ofBase refers
  · exact ofBase refers
  · split at refers
    · exact ofBase refers
    · cases refers
  · cases refers

/-! ## References that are accepted -/

/-- Outside skipped content a start tag that does not fail resolves what it refers to. -/
theorem Read.resolves (read : Read s (.start tag) s') (ok : s'.hasFailed = false)
    (reading : s.skipDepth = 0) (refers : reference? s tag tag.kind = some r) : s.Resolves r := by
  have own : tag? s (.start tag) = some tag := if_pos reading
  cases read with
  | @starts _ m start alike effect =>
    obtain rfl := Option.some.inj (own.symm.trans start)
    rw [← alike.reference?] at refers
    cases effect with
    | acts acts =>
      have resolves := acts.resolves r refers
      unfold Session.Resolves at resolves ⊢
      rw [alike.declarations, owns_of_setting alike.setting] at resolves
      exact resolves
    | schema isSchema opens => simp [reference?, isSchema] at refers
    | names naming names =>
      obtain action | action := (start_of_naming? naming).2 <;>
        simp [reference?, action] at refers
  | passes idle shuts =>
    rw [own] at idle
    cases idle
  | halts halts setting =>
    rw [halts.hasFailed setting] at ok
    cases ok

/-- A visit to a start tag that does not fail resolves what the tag refers to. -/
theorem Visit.resolves {v : Visit} (start : v.node = .start tag) (ok : v.after.hasFailed = false)
    (reading : v.session.skipDepth = 0) (refers : reference? v.session tag tag.kind = some r) :
    v.session.Resolves r := by
  obtain whole | ⟨m, name, started, going, -⟩ := readNode_read v.session v.node v.position
  · rw [start] at whole
    unfold Visit.after at ok
    rw [start] at ok
    exact whole.resolves ok reading refers
  · rw [start] at started
    exact started.resolves going reading refers

/-- In a document that is read without a failure, whatever prefix a start tag outside skipped content
uses is bound there, or it stands for no namespace.  An attribute with such a prefix is read like one
without a prefix.  A reference with such a prefix is accepted if the document has no target namespace,
or if its name without a namespace is known already; otherwise its prefix is bound. -/
theorem prefixes_bound_or_none (reached : Reached s) {source : Source}
    (ok : (s.readDocument source).hasFailed = false) {before rest : List Visit} {v : Visit}
    (split : s.visits source = before ++ v :: rest) (start : v.node = .start tag)
    (reading : v.session.skipDepth = 0) :
    let bound := IsBound s.scope.bindings (tag :: openTags (before.map Visit.node))
    let namespaceOf := v.session.scope.bindings.resolve
    (∀ label, ¬bound label → namespaceOf label = .none) ∧
    (∀ a ∈ tag.attributes, a.namespaceId = .none ↔ a.qualifiedName ≠ "xmlns" ∧
      ∀ label, (splitName a.qualifiedName).1 = some label → namespaceOf label = .none) ∧
    ∀ r, reference? v.session tag tag.kind = some r →
      ∃ name ∈ referring, ∃ written, tag.plain? name = some written ∧
        r.symbol = ⟨namespaceOf ((splitName written).1.getD ""), (splitName written).2⟩ ∧
        ∀ label, (splitName written).1 = some label → bound label ∨
          namespaceOf label = .none ∧
            (v.session.target = .none ∨ v.session.declarations.place? r ≠ none) := by
  intro bound namespaceOf
  have run := run_readDocument ok
  rw [split] at run
  have after : v.after.hasFailed = false :=
    run.hasFailed (List.mem_append_right _ List.mem_cons_self)
  obtain ⟨p, token, opened, answers⟩ := answers_visits reached.isInDocument split
  rw [start] at answers
  cases answers with
  | start isStart covers decoded name resolved uri =>
    rw [opened] at covers resolved
    have unbound (label : String) (free : ¬bound label) : namespaceOf label = .none := by
      show v.session.scope.bindings.resolve label = .none
      rw [covers.resolve]
      exact meaning_of_unbound _ free
    refine ⟨unbound, fun a member => ?_, fun r refers => ?_⟩
    · have own := congrArg Attribute.namespaceId (resolved a member)
      rw [← covers.resolveAttribute] at own
      rw [own]
      exact v.session.scope.namespaceId_resolveAttribute_eq_none_iff _ _
    · obtain ⟨name, member, found⟩ := symbol?_of_reference? refers
      obtain ⟨written, read, symbol⟩ := symbol?_eq_some found
      refine ⟨name, member, written, read, symbol, fun label same => ?_⟩
      refine Classical.or_iff_not_imp_left.2 fun free => ⟨unbound label free, ?_⟩
      have none : r.symbol.namespaceId = .none := by
        rw [symbol, same]
        exact unbound label free
      obtain known | target | madeUp := v.resolves start after reading refers
      · exact .inr known
      · exact .inl (target.symm.trans none)
      · rw [none] at madeUp
        exact absurd madeUp (by decide)

/-- A schema without a target namespace that refers to its own type by a prefix which nothing binds. -/
def unboundPrefixDocument : Source :=
  .bytes (["<x:schema xmlns:x='http://www.w3.org/2001/XMLSchema'>",
    "<x:simpleType name='T'>", "<x:restriction base='x:int'/>", "</x:simpleType>",
    "<x:element name='E' type='q:T'/>", "</x:schema>"].flatMap Text.Utf8.encodeText)

set_option maxRecDepth 100000 in
/-- The reference is accepted, and it is to the type of the document: the prefix stands for no
namespace, like the target namespace. -/
theorem prefixes_bound_or_none_ownType : ∃ before v rest tag,
    (start "" false).visits unboundPrefixDocument = before ++ v :: rest ∧ v.node = .start tag ∧
      tag.plain? "type" = some "q:T" ∧
      reference? v.session tag tag.kind = some ⟨.type, ⟨.none, "T"⟩⟩ ∧
      ∃ name ∈ referring, ∃ written, tag.plain? name = some written ∧
        (⟨.none, "T"⟩ : Symbol) = ⟨v.session.scope.bindings.resolve ((splitName written).1.getD ""),
          (splitName written).2⟩ := by
  have read : ((start "" false).readDocument unboundPrefixDocument).hasFailed = false ∧
      (((start "" false).visits unboundPrefixDocument).drop 4).head?.map
        (fun v => (tag? v.session v.node, refersTo? v.session v.node)) =
        some (some ⟨⟨"element", .xmlSchema, xmlSchemaUri⟩,
          [⟨"name", "name", .none, "E"⟩, ⟨"type", "type", .none, "q:T"⟩], true⟩,
          some ⟨.type, ⟨.none, "T"⟩⟩) := by decide +kernel
  obtain ⟨ok, shape⟩ := read
  obtain ⟨v, head, same⟩ := Option.map_eq_some_iff.1 shape
  obtain ⟨rest, tail⟩ := List.head?_eq_some_iff.1 head
  have split : (start "" false).visits unboundPrefixDocument =
      ((start "" false).visits unboundPrefixDocument).take 4 ++ v :: rest := by
    rw [← tail, List.take_append_drop]
  obtain ⟨tagged, refers⟩ := Prod.mk.inj same
  obtain ⟨node, reading⟩ := eq_start_of_tag? tagged
  rw [refersTo?, tagged] at refers
  obtain ⟨-, -, references⟩ := prefixes_bound_or_none (.start "" false) ok split node reading
  obtain ⟨name, member, written, own, symbol, -⟩ := references _ refers
  exact ⟨_, v, rest, _, split, node, by decide, refers, name, member, written, own, symbol⟩

end Session

end XsdRecords
