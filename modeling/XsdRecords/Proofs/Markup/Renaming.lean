import Mathlib.Logic.Equiv.Basic
import XsdRecords.Markup.Reader
import XsdRecords.Namespace.Bindings

/-! # Renaming prefixes

A renaming gives every prefix another name, different prefixes different ones.  Bindings that are
renamed give a renamed prefix the namespace that they gave it before.

A qualified name keeps its local part when its prefix is renamed.  In a scope whose prefixes are renamed
with it, it stands for what it stood for: so do the names of tags and of attributes, and declarations
bind what they bound. -/

namespace XsdRecords

/-- A renaming of prefixes.  No prefix is the empty one, which stands for the default namespace, and
`xml` and `xmlns` are bound from the start: these keep their names. -/
structure Renaming where
  label : String → String
  injective : Function.Injective label
  empty : label "" = ""
  xml : label "xml" = "xml"
  xmlns : label "xmlns" = "xmlns"
  /-- What can stand before a colon still can. -/
  bare {p : String} : ':' ∉ p.toList → ':' ∉ (label p).toList

namespace Renaming

/-- Exchanges two prefixes that a document may declare. -/
def exchange (p q : String)
    (free : ∀ r ∈ [p, q], r ∉ ["", "xml", "xmlns"] ∧ ':' ∉ r.toList) : Renaming :=
  have kept {r : String} (fixed : r ∈ ["", "xml", "xmlns"]) : Equiv.swap p q r = r := by
    refine Equiv.swap_apply_of_ne_of_ne ?_ ?_
    · rintro rfl
      exact (free r List.mem_cons_self).1 fixed
    · rintro rfl
      exact (free r (List.mem_cons_of_mem _ List.mem_cons_self)).1 fixed
  { label := Equiv.swap p q
    injective := (Equiv.swap p q).injective
    empty := kept (by decide)
    xml := kept (by decide)
    xmlns := kept (by decide)
    bare := by
      intro r bare
      rw [Equiv.swap_apply_def]
      split
      · exact (free q (List.mem_cons_of_mem _ List.mem_cons_self)).2
      · split
        · exact (free p List.mem_cons_self).2
        · exact bare }

variable (ρ : Renaming)

theorem label_eq_xmlns_iff {p : String} : ρ.label p = "xmlns" ↔ p = "xmlns" := by
  constructor
  · intro same
    exact ρ.injective (same.trans ρ.xmlns.symm)
  · rintro rfl
    exact ρ.xmlns

theorem label_eq_xml_iff {p : String} : ρ.label p = "xml" ↔ p = "xml" := by
  constructor
  · intro same
    exact ρ.injective (same.trans ρ.xml.symm)
  · rintro rfl
    exact ρ.xml

/-- Bindings with their prefixes renamed. -/
def bindings (b : Bindings) : Bindings :=
  ⟨b.entries.map fun (p, id) => (ρ.label p, id)⟩

@[simp] theorem size_bindings (b : Bindings) : (ρ.bindings b).size = b.size :=
  List.length_map _

theorem bindings_bind (b : Bindings) (p : String) (id : NamespaceId) :
    ρ.bindings (b.bind p id) = (ρ.bindings b).bind (ρ.label p) id := rfl

theorem bindings_truncate (b : Bindings) (size : Nat) :
    ρ.bindings (b.truncate size) = (ρ.bindings b).truncate size := by
  simp [bindings, Bindings.truncate, List.map_drop]

/-- Different prefixes stay different, so that a prefix is looked up where it was. -/
theorem lookup_bindings (entries : List (String × NamespaceId)) (p : String) :
    (entries.map fun (q, id) => (ρ.label q, id)).lookup (ρ.label p) = entries.lookup p := by
  induction entries with
  | nil => rfl
  | cons entry rest ih =>
    obtain ⟨q, id⟩ := entry
    rw [List.map_cons, List.lookup_cons, List.lookup_cons, ih]
    by_cases same : p = q
    · rw [same, beq_self_eq_true, beq_self_eq_true]
    · rw [beq_false_of_ne same, beq_false_of_ne (ρ.injective.ne same)]

/-- A renamed prefix stands for what the prefix stood for. -/
@[simp] theorem resolve_bindings (b : Bindings) (p : String) :
    (ρ.bindings b).resolve (ρ.label p) = b.resolve p := by
  unfold Bindings.resolve bindings
  dsimp only
  rw [lookup_bindings]
  simp only [label_eq_xml_iff, label_eq_xmlns_iff]

/-- Bindings of the default namespace alone have nothing to rename. -/
theorem bindings_default (id : NamespaceId) :
    ρ.bindings (Bindings.bind {} "" id) = Bindings.bind {} "" id := by
  rw [bindings_bind, ρ.empty]
  rfl

end Renaming

/-! ## Names -/

namespace Text

theorem cutAt?_append {mark : Char} {before : List Char} (absent : mark ∉ before)
    (after : List Char) : cutAt? mark (before ++ mark :: after) = some (before, after) := by
  have other (c : Char) (member : c ∈ before) : decide (c ≠ mark) = true := by
    refine decide_eq_true ?_
    rintro rfl
    exact absent member
  rw [cutAt?, List.dropWhile_append_of_pos other, List.takeWhile_append_of_pos other]
  simp

theorem cutAt?_of_not_mem {mark : Char} {cs : List Char} (absent : mark ∉ cs) :
    cutAt? mark cs = none := by
  unfold cutAt?
  cases found : cs.dropWhile (· ≠ mark) with
  | nil => rfl
  | cons c after =>
    have stops := List.head?_dropWhile_not (· ≠ mark) cs
    rw [found] at stops
    have inside : c ∈ cs := (List.dropWhile_sublist _).subset (found ▸ List.mem_cons_self)
    simp only [List.head?_cons, decide_eq_false_iff_not, ne_eq, Decidable.not_not] at stops
    exact absurd (stops ▸ inside) absent

end Text

namespace Markup

/-- The qualified name of a prefix and a local part. -/
def qualify (p l : String) : String :=
  p ++ ":" ++ l

variable {p q l name : String}

theorem toList_qualify (p l : String) : (qualify p l).toList = p.toList ++ ':' :: l.toList := by
  simp [qualify]

theorem qualify_not_bare (p l : String) : ':' ∈ (qualify p l).toList := by
  rw [toList_qualify]
  exact List.mem_append_right _ List.mem_cons_self

theorem splitName_bare (bare : ':' ∉ name.toList) : splitName name = (none, name) := by
  rw [splitName, Text.cutAt?_of_not_mem bare]

theorem splitName_qualify (bare : ':' ∉ p.toList) (l : String) :
    splitName (qualify p l) = (some p, l) := by
  rw [splitName, toList_qualify, Text.cutAt?_append bare]
  simp

/-- A name is bare, or what stands before its first colon is its prefix. -/
theorem bare_or_qualified (name : String) :
    ':' ∉ name.toList ∨ ∃ p l, ':' ∉ p.toList ∧ name = qualify p l := by
  by_cases colon : ':' ∈ name.toList
  · obtain ⟨before, after, split, first⟩ := List.eq_append_cons_of_mem colon
    refine .inr ⟨String.ofList before, String.ofList after, by rwa [String.toList_ofList], ?_⟩
    rw [← String.toList_inj, toList_qualify, split, String.toList_ofList, String.toList_ofList]
  · exact .inl colon

/-! ## Attributes that declare prefixes -/

theorem declared?_bare (bare : ':' ∉ name.toList) :
    Scope.declared? name = if name = "xmlns" then some "" else none := by
  unfold Scope.declared?
  split
  · rfl
  · cases dropped : Text.dropStart? "xmlns:".toList name.toList with
    | none => rfl
    | some rest =>
      refine absurd ?_ bare
      rw [Text.dropStart?_eq_some_iff.1 dropped]
      exact List.mem_append_left _ (by decide)

/-- A qualified name declares its local part, if its prefix is the one for that. -/
theorem declared?_qualify (bare : ':' ∉ p.toList) (l : String) :
    Scope.declared? (qualify p l) = if p = "xmlns" then some l else none := by
  have colon : qualify p l ≠ "xmlns" := by
    intro same
    have inside := qualify_not_bare p l
    rw [same] at inside
    exact absurd inside (by decide)
  rw [Scope.declared?, if_neg colon]
  split
  · rename_i declares
    have dropped : Text.dropStart? "xmlns:".toList (qualify p l).toList = some l.toList := by
      rw [Text.dropStart?_eq_some_iff, declares, toList_qualify]
      rfl
    rw [dropped, Option.map_some, String.ofList_toList]
  · rename_i other
    cases dropped : Text.dropStart? "xmlns:".toList (qualify p l).toList with
    | none => rfl
    | some rest =>
      have same : qualify p l = qualify "xmlns" (String.ofList rest) := by
        rw [← String.toList_inj, Text.dropStart?_eq_some_iff.1 dropped]
        simp [toList_qualify]
      have parts := congrArg splitName same
      rw [splitName_qualify bare, splitName_qualify (by decide)] at parts
      exact absurd (Option.some.inj (congrArg Prod.fst parts)) other

end Markup

namespace Renaming

open XsdRecords.Markup

variable (ρ : Renaming)

/-- A qualified name with its prefix renamed. -/
def name (n : String) : String :=
  match splitName n with
  | (some p, l) => qualify (ρ.label p) l
  | (none, _) => n

/-- The name of an attribute with its prefix renamed, or the prefix that it declares. -/
def key (k : String) : String :=
  match splitName k with
  | (some p, l) => if p = "xmlns" then qualify p (ρ.label l) else qualify (ρ.label p) l
  | (none, _) => k

variable {p l n k : String}

theorem name_bare (bare : ':' ∉ n.toList) : ρ.name n = n := by
  rw [name, splitName_bare bare]

theorem name_qualify (bare : ':' ∉ p.toList) (l : String) :
    ρ.name (qualify p l) = qualify (ρ.label p) l := by
  rw [name, splitName_qualify bare]

theorem key_bare (bare : ':' ∉ k.toList) : ρ.key k = k := by
  rw [key, splitName_bare bare]

theorem key_qualify (bare : ':' ∉ p.toList) (l : String) : ρ.key (qualify p l) =
    if p = "xmlns" then qualify "xmlns" (ρ.label l) else qualify (ρ.label p) l := by
  rw [key, splitName_qualify bare]
  dsimp only
  split
  · rename_i declares
    rw [declares]
  · rfl

/-- Only the prefix of a name changes. -/
theorem splitName_name (n : String) :
    splitName (ρ.name n) = ((splitName n).1.map ρ.label, (splitName n).2) := by
  obtain bare | ⟨p, l, bare, rfl⟩ := bare_or_qualified n
  · rw [ρ.name_bare bare, splitName_bare bare]
    rfl
  · rw [ρ.name_qualify bare, splitName_qualify bare, splitName_qualify (ρ.bare bare)]
    rfl

theorem name_eq_empty_iff : ρ.name n = "" ↔ n = "" := by
  obtain bare | ⟨p, l, bare, rfl⟩ := bare_or_qualified n
  · rw [ρ.name_bare bare]
  · have nonempty (q : String) : qualify q l ≠ "" := by
      intro none
      have inside := qualify_not_bare q l
      rw [none] at inside
      cases inside
    rw [ρ.name_qualify bare]
    exact ⟨fun none => absurd none (nonempty _), fun none => absurd none (nonempty _)⟩

/-- What declares a prefix declares the renamed one. -/
theorem declared?_key (k : String) :
    Scope.declared? (ρ.key k) = (Scope.declared? k).map ρ.label := by
  obtain bare | ⟨p, l, bare, rfl⟩ := bare_or_qualified k
  · rw [ρ.key_bare bare, declared?_bare bare]
    split
    · rw [Option.map_some, ρ.empty]
    · rfl
  · rw [ρ.key_qualify bare, declared?_qualify bare]
    split
    · rw [declared?_qualify (by decide), if_pos rfl]
      rfl
    · rename_i other
      rw [declared?_qualify (ρ.bare bare), if_neg (mt ρ.label_eq_xmlns_iff.1 other)]
      rfl

theorem prefix_key (k : String) : (splitName (ρ.key k)).1 = (splitName k).1.map ρ.label := by
  obtain bare | ⟨p, l, bare, rfl⟩ := bare_or_qualified k
  · rw [ρ.key_bare bare, splitName_bare bare]
    rfl
  · rw [ρ.key_qualify bare, splitName_qualify bare]
    split
    · rename_i declares
      rw [splitName_qualify (by decide), declares, Option.map_some, ρ.xmlns]
    · rw [splitName_qualify (ρ.bare bare)]
      rfl

/-- The local part changes with the prefix that it is, if it is one. -/
theorem localName_key (undeclared : Scope.declared? k = none) :
    (splitName (ρ.key k)).2 = (splitName k).2 := by
  obtain bare | ⟨p, l, bare, rfl⟩ := bare_or_qualified k
  · rw [ρ.key_bare bare]
  · rw [declared?_qualify bare] at undeclared
    split at undeclared
    · cases undeclared
    · rename_i other
      rw [ρ.key_qualify bare, if_neg other, splitName_qualify bare, splitName_qualify (ρ.bare bare)]

theorem key_eq_xmlns_iff : ρ.key k = "xmlns" ↔ k = "xmlns" := by
  obtain bare | ⟨p, l, bare, rfl⟩ := bare_or_qualified k
  · rw [ρ.key_bare bare]
  · have colon (q m : String) : qualify q m ≠ "xmlns" := by
      intro same
      have inside := qualify_not_bare q m
      rw [same] at inside
      exact absurd inside (by decide)
    rw [ρ.key_qualify bare]
    split
    · exact ⟨fun same => absurd same (colon _ _), fun same => absurd same (colon _ _)⟩
    · exact ⟨fun same => absurd same (colon _ _), fun same => absurd same (colon _ _)⟩

/-- A scope with its prefixes renamed. -/
def scope (s : Scope) : Scope :=
  { s with bindings := ρ.bindings s.bindings }

theorem scope_declare (s : Scope) (k value : String) :
    (ρ.scope s).declare (ρ.key k) value = ρ.scope (s.declare k value) := by
  unfold Scope.declare
  rw [ρ.declared?_key]
  cases Scope.declared? k <;> rfl

/-- A name without a prefix is in the default namespace, which keeps its prefix. -/
theorem getD_label (p : Option String) : (p.map ρ.label).getD "" = ρ.label (p.getD "") := by
  cases p with
  | none => exact ρ.empty.symm
  | some p => rfl

theorem tagName_scope (s : Scope) (n : String) :
    (ρ.scope s).tagName (ρ.name n) = s.tagName n := by
  simp only [Scope.tagName, ρ.splitName_name, ρ.getD_label, scope, resolve_bindings]

theorem namespaceId_scope (s : Scope) (k value value' : String) :
    ((ρ.scope s).resolveAttribute (ρ.key k) value').namespaceId =
      (s.resolveAttribute k value).namespaceId := by
  simp only [Scope.resolveAttribute, ρ.key_eq_xmlns_iff, ρ.prefix_key]
  cases (splitName k).1 with
  | none => rfl
  | some p => simp only [Option.map_some, scope, resolve_bindings]

end Renaming

end XsdRecords
