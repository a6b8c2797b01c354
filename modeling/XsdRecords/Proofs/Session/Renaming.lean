import Mathlib.Data.List.Find
import XsdRecords.Proofs.Markup.Pairs
import XsdRecords.Proofs.Markup.Renaming
import XsdRecords.Proofs.Session.Prefixes

/-! # Documents with renamed prefixes

A document is renamed by giving other names to prefixes in the declarations of prefixes, in the names of
tags and attributes and in the values that refer to names: `Renamed` relates the lexemes of two such
documents.  A reader with renamed bindings delivers from the one the tags that it delivers from the
other, with attributes that say the same. -/

namespace XsdRecords

open XsdRecords.Markup

/-- An attribute, as key and value, with its prefix renamed, and that of the name that it refers to. -/
def Renaming.attribute (ρ : Renaming) (a : String × String) : String × String :=
  (ρ.key a.1, if a.1 ∈ Session.referring then ρ.name a.2 else a.2)

namespace Markup

/-! ## Tags -/

/-- An attribute whose prefix stands for what it should: what declares a prefix is in the namespace
for that, and what has a prefix is not taken for an attribute that refers to a name. -/
structure Attribute.WellPrefixed (a : Attribute) : Prop where
  declares : Scope.declared? a.qualifiedName ≠ none → a.namespaceId = .xmlns
  refers : a.localName ∈ Session.referring → (splitName a.qualifiedName).1 ≠ none →
    a.namespaceId ≠ .none

instance (a : Attribute) : Decidable a.WellPrefixed :=
  decidable_of_iff
    ((Scope.declared? a.qualifiedName ≠ none → a.namespaceId = .xmlns) ∧
      (a.localName ∈ Session.referring → (splitName a.qualifiedName).1 ≠ none →
        a.namespaceId ≠ .none))
    ⟨fun both => ⟨both.1, both.2⟩, fun well => ⟨well.declares, well.refers⟩⟩

/-- A node whose attributes have prefixes that stand for what they should. -/
def Node.WellPrefixed : Node → Prop
  | .start tag => ∀ a ∈ tag.attributes, a.WellPrefixed
  | .stop _ => True

instance : (node : Node) → Decidable node.WellPrefixed
  | .start tag => inferInstanceAs (Decidable (∀ a ∈ tag.attributes, a.WellPrefixed))
  | .stop _ => .isTrue trivial

/-- Tags that say the same with other prefixes. -/
structure StartTag.Renamed (ρ : Renaming) (tag tag' : StartTag) : Prop where
  name : tag'.name = tag.name
  isEmpty : tag'.isEmpty = tag.isEmpty
  plain {l : String} : l ∉ Session.referring → tag'.plain? l = tag.plain? l
  annotated {l : String} : l ∉ Session.referring → tag'.annotated? l = tag.annotated? l
  reference {l : String} : l ∈ Session.referring → tag'.plain? l = (tag.plain? l).map ρ.name

variable {ρ : Renaming} {s s' : Scope} {a : String × String} {l : String} {id : NamespaceId}

/-- The names of the attributes that refer have no prefix. -/
theorem bare_of_referring {k : String} (refers : k ∈ Session.referring) : ':' ∉ k.toList := by
  revert k
  decide

theorem declared?_of_referring {k : String} (refers : k ∈ Session.referring) :
    Scope.declared? k = none := by
  revert k
  decide

theorem declare_attribute (s : Scope) (a : String × String) :
    (ρ.scope s).declare (ρ.attribute a).1 (ρ.attribute a).2 = ρ.scope (s.declare a.1 a.2) := by
  unfold Renaming.attribute
  dsimp only
  split
  · rename_i refers
    rw [ρ.scope_declare]
    simp only [Scope.declare, declared?_of_referring refers]
  · exact ρ.scope_declare s a.1 a.2

theorem declare_attributes (pairs : List (String × String)) (s : Scope) :
    (pairs.map ρ.attribute).foldl (fun s a => s.declare a.1 a.2) (ρ.scope s) =
      ρ.scope (pairs.foldl (fun s a => s.declare a.1 a.2) s) := by
  induction pairs generalizing s with
  | nil => rfl
  | cons a rest ih =>
    rw [List.map_cons, List.foldl_cons, List.foldl_cons, declare_attribute, ih]

/-- The tag of attributes that are resolved in a scope. -/
def Scope.tag (s : Scope) (name : TagName) (pairs : List (String × String)) (isEmpty : Bool) :
    StartTag :=
  ⟨name, pairs.map fun a => s.resolveAttribute a.1 a.2, isEmpty⟩

section Attributes

variable {name : TagName} {pairs : List (String × String)} {isEmpty : Bool}

/-- A renamed attribute answers to the names that the attribute answers to. -/
theorem answers_attribute (well : (s.resolveAttribute a.1 a.2).WellPrefixed) (other : id ≠ .xmlns)
    (value : String) :
    (((ρ.scope s).resolveAttribute (ρ.key a.1) value).localName = l ∧
        ((ρ.scope s).resolveAttribute (ρ.key a.1) value).namespaceId = id) ↔
      (s.resolveAttribute a.1 a.2).localName = l ∧ (s.resolveAttribute a.1 a.2).namespaceId = id := by
  rw [ρ.namespaceId_scope s a.1 a.2 value]
  refine and_congr_left fun here => ?_
  have undeclared : Scope.declared? a.1 = none := by
    by_contra declares
    exact other (here.symm.trans (well.declares declares))
  have localName : ((ρ.scope s).resolveAttribute (ρ.key a.1) value).localName =
      (s.resolveAttribute a.1 a.2).localName := ρ.localName_key undeclared
  rw [localName]

variable (well : (Node.start (s.tag name pairs isEmpty)).WellPrefixed)

include well

/-- The value that is found by a name is that of the renamed attribute. -/
theorem value_attributes (other : id ≠ .xmlns) :
    (((ρ.scope s).tag name (pairs.map ρ.attribute) isEmpty).attribute? l id).map (·.value) =
      (pairs.find? fun a => (s.resolveAttribute a.1 a.2).localName = l &&
        (s.resolveAttribute a.1 a.2).namespaceId = id).map fun a => (ρ.attribute a).2 := by
  unfold StartTag.attribute? Scope.tag
  rw [List.map_map, List.find?_map, Option.map_map]
  refine congrArg (Option.map _) (List.find?_congr fun a member => ?_)
  have answers := answers_attribute (ρ := ρ) (l := l)
    (well _ (List.mem_map_of_mem member)) other (ρ.attribute a).2
  simp only [← Bool.decide_and, Function.comp_apply]
  exact decide_eq_decide.2 answers

/-- An attribute that does not refer to a name keeps its value. -/
theorem unreferring_attributes (other : id ≠ .xmlns) (unreferring : l ∉ Session.referring) :
    (((ρ.scope s).tag name (pairs.map ρ.attribute) isEmpty).attribute? l id).map (·.value) =
      ((s.tag name pairs isEmpty).attribute? l id).map (·.value) := by
  rw [value_attributes well other]
  unfold StartTag.attribute? Scope.tag
  rw [List.find?_map, Option.map_map]
  refine Option.map_congr fun a found => ?_
  have called := (Bool.and_eq_true _ _ ▸ List.find?_some found).1
  have unlike : a.1 ∉ Session.referring := by
    intro refers
    refine unreferring ?_
    rw [← of_decide_eq_true called]
    show (splitName a.1).2 ∈ _
    rw [splitName_bare (bare_of_referring refers)]
    exact refers
  exact if_neg unlike

/-- An attribute that refers to a name refers to the renamed one. -/
theorem referring_attributes (refers : l ∈ Session.referring) :
    ((ρ.scope s).tag name (pairs.map ρ.attribute) isEmpty).plain? l =
      ((s.tag name pairs isEmpty).plain? l).map ρ.name := by
  unfold StartTag.plain?
  rw [value_attributes well (by decide)]
  unfold StartTag.attribute? Scope.tag
  rw [List.find?_map, Option.map_map, Option.map_map]
  refine Option.map_congr fun a found => ?_
  have answers := Bool.and_eq_true _ _ ▸ List.find?_some found
  obtain rfl : (splitName a.1).2 = l := of_decide_eq_true answers.1
  have bare : ':' ∉ a.1.toList := by
    have proper := (well _ (List.mem_map_of_mem (List.mem_of_find?_eq_some found))).refers
    obtain bare | ⟨p, m, bare, qualified⟩ := bare_or_qualified a.1
    · exact bare
    · refine absurd (of_decide_eq_true answers.2) (proper refers ?_)
      show (splitName a.1).1 ≠ none
      rw [qualified, splitName_qualify bare]
      exact Option.some_ne_none p
  rw [splitName_bare bare] at refers
  exact if_pos refers

/-- Resolved in a renamed scope, renamed attributes make a renamed tag. -/
theorem renamed_tag : (s.tag name pairs isEmpty).Renamed ρ
    ((ρ.scope s).tag name (pairs.map ρ.attribute) isEmpty) where
  name := rfl
  isEmpty := rfl
  plain unreferring := unreferring_attributes well (by decide) unreferring
  annotated unreferring := unreferring_attributes well (by decide) unreferring
  reference refers := referring_attributes well refers

end Attributes

/-! ## Faults -/

/-- A fault without its byte offsets. -/
def AttributeFault.unplaced : AttributeFault → AttributeFault
  | expectedEquals _ => expectedEquals 0
  | expectedValue _ => expectedValue 0
  | unquotedValue _ => unquotedValue 0
  | openQuote _ quote => openQuote 0 quote
  | duplicated _ _ => duplicated 0 0

@[inherit_doc AttributeFault.unplaced]
def ReferenceFault.unplaced : ReferenceFault → ReferenceFault
  | unknownEntity _ _ name => unknownEntity 0 0 name
  | unterminated _ _ => unterminated 0 0
  | charRef fault => charRef fault

@[inherit_doc AttributeFault.unplaced]
def ReaderFault.unplaced : ReaderFault → ReaderFault
  | attributes fault => attributes fault.unplaced
  | reference fault => reference fault.unplaced
  | utf8 (.invalid length _) => utf8 (.invalid length 0)
  | utf8 (.incomplete _) => utf8 (.incomplete 0)
  | fault => fault

/-! ## Lexemes and sources -/

/-- What a lexeme says, whatever is bound where it is read. -/
inductive Reading where
  | start (name : String) (pairs : List (String × String)) (isEmpty : Bool)
  | stop (name : String)
  | refused (fault : ReaderFault)
  | finish
  deriving DecidableEq, Repr

/-- What a lexeme says. -/
def Lexeme.reading (lexeme : Lexeme) : Reading :=
  match lexeme.token with
  | .finish => .finish
  | .fault fault => .refused fault
  | .stop text =>
    match Text.Utf8.decodeText text with
    | .error fault => .refused (.utf8 fault)
    | .ok name => .stop name
  | .start text isEmpty =>
    match readAttributes text with
    | (_, some fault) => .refused fault
    | (pairs, none) =>
      match Text.Utf8.decodeText (tagName text) with
      | .error fault => .refused (.utf8 fault)
      | .ok name => .start name pairs isEmpty

namespace Reading

/-- What is said with other prefixes. -/
def renamed (ρ : Renaming) : Reading → Reading
  | start name pairs isEmpty => start (ρ.name name) (pairs.map ρ.attribute) isEmpty
  | stop name => stop (ρ.name name)
  | refused fault => refused fault
  | finish => finish

/-- What is said, but for the byte offsets of a fault. -/
def unplaced : Reading → Reading
  | refused fault => refused fault.unplaced
  | reading => reading

/-- What says the same but for byte offsets says the same, or is refused. -/
theorem eq_or_refused {a b : Reading} (same : a.unplaced = b.unplaced) :
    a = b ∨ ∃ fault fault', a = refused fault ∧ b = refused fault' ∧
      fault.unplaced = fault'.unplaced := by
  cases a with
  | refused fault =>
    cases b with
    | refused fault' => exact .inr ⟨fault, fault', rfl, rfl, refused.inj same⟩
    | _ => cases same
  | _ =>
    cases b with
    | refused fault' => cases same
    | _ => exact .inl same

theorem eq_refused_of_renamed {ρ : Renaming} {reading : Reading} {fault : ReaderFault}
    (same : reading.renamed ρ = refused fault) : reading = refused fault := by
  cases reading with
  | refused fault' => exact same
  | _ => cases same

end Reading

/-- What a source says. -/
def Source.readings : Source → Except String (List Reading)
  | .failing reason => .error reason
  | .bytes content => .ok ((Lexed.ofDocument content).lexemes.map Lexeme.reading)

/-- Two sources, the second with the prefixes of the first renamed.  Where the tags stand does not
matter, nor how they are written, and the byte offsets of a fault may change with the lengths of
prefixes. -/
def Source.Renamed (ρ : Renaming) (source source' : Source) : Prop :=
  source'.readings.map (·.map Reading.unplaced) =
    source.readings.map (·.map fun reading => (reading.renamed ρ).unplaced)

instance (ρ : Renaming) (source source' : Source) : Decidable (source.Renamed ρ source') :=
  inferInstanceAs (Decidable (_ = _))

theorem Source.Renamed.failing {reason : String} {source : Source}
    (renamed : (Source.failing reason).Renamed ρ source) : source = .failing reason := by
  cases source with
  | failing reason' => exact congrArg Source.failing (Except.error.inj renamed)
  | bytes content => cases renamed

theorem Source.Renamed.bytes {content : List UInt8} {source : Source}
    (renamed : (Source.bytes content).Renamed ρ source) : ∃ content', source = .bytes content' ∧
      ((Lexed.ofDocument content').lexemes.map Lexeme.reading).map Reading.unplaced =
        ((Lexed.ofDocument content).lexemes.map Lexeme.reading).map
          fun reading => (reading.renamed ρ).unplaced := by
  cases source with
  | failing reason => cases renamed
  | bytes content' => exact ⟨content', rfl, Except.ok.inj renamed⟩

namespace Reader

/-- Bindings are dropped alike from renamed scopes. -/
theorem settle_scope (r : Reader) (s : Scope) (cursor : Cursor) :
    (r.elsewhere cursor).settle (ρ.scope s) =
      ((r.settle s).1.elsewhere cursor, ρ.scope (r.settle s).2) := by
  obtain ⟨_, _, _ | size⟩ := r
  · rfl
  · simp only [settle, elsewhere, Renaming.scope, ρ.bindings_truncate]

/-- A reader inside a tag that was read with `mark` bindings outside it. -/
def enter (r : Reader) (mark : Nat) (isEmpty : Bool) : Reader :=
  if isEmpty then { r with pending := some mark } else { r with marks := mark :: r.marks }

theorem enter_elsewhere (r : Reader) (cursor : Cursor) (mark : Nat) (isEmpty : Bool) :
    (r.elsewhere cursor).enter mark isEmpty = (r.enter mark isEmpty).elsewhere cursor := by
  cases isEmpty <;> rfl

/-- A reader after the innermost tag has ended. -/
def leave (r : Reader) : Reader :=
  { r with pending := r.marks.head?, marks := r.marks.tail }

/-- What is delivered of a reading, by a reader that has dropped the bindings of what has ended. -/
def say (r : Reader) (s : Scope) : Reading → Reader × Scope × Except ReaderFault (Option Node)
  | .finish => (r, s, .ok none)
  | .refused fault => (r, s, .error fault)
  | .stop name => (r.leave, s, .ok (some (.stop (s.tagName name))))
  | .start name pairs isEmpty =>
    let inner := pairs.foldl (fun s a => s.declare a.1 a.2) s
    (r.enter s.bindings.size isEmpty, inner,
      .ok (some (.start (inner.tag (inner.tagName name) pairs isEmpty))))

/-- A lexeme is refused with the fault that it says, or delivered as it says. -/
theorem deliver_reading (r : Reader) (s : Scope) (lexeme : Lexeme) :
    match lexeme.reading with
    | .refused fault => (r.deliver s lexeme).2.2 = .error fault
    | reading => r.deliver s lexeme =
      ((r.settle s).1.elsewhere ((r.settle s).1.cursor.moveTo lexeme.offset)).say (r.settle s).2
        reading := by
  unfold deliver Lexeme.reading
  generalize r.settle s = settled
  obtain ⟨r, s⟩ := settled
  dsimp only
  cases lexeme.token with
  | finish => rfl
  | fault fault => rfl
  | stop text =>
    dsimp only
    cases Text.Utf8.decodeText text <;> rfl
  | start text isEmpty =>
    dsimp only [Scope.readStart]
    rcases readAttributes text with ⟨pairs, _ | fault⟩
    · dsimp only
      cases Text.Utf8.decodeText (Markup.tagName text) with
      | error fault => rfl
      | ok name => cases isEmpty <;> rfl
    · rfl

end Reader

/-- What two readers deliver, the second from a document and with bindings whose prefixes are renamed:
tags that say the same, in scopes that are the same but for the prefixes. -/
inductive Delivers (ρ : Renaming) :
    Reader × Scope × Except ReaderFault (Option Node) →
      Reader × Scope × Except ReaderFault (Option Node) → Prop
  | finish (r : Reader) (s : Scope) (cursor : Cursor) :
      Delivers ρ (r, s, .ok none) (r.elsewhere cursor, ρ.scope s, .ok none)
  | fault {r r' : Reader} {s s' : Scope} {fault fault' : ReaderFault}
      (alike : fault'.unplaced = fault.unplaced) :
      Delivers ρ (r, s, .error fault) (r', s', .error fault')
  | start (r : Reader) (s : Scope) (cursor : Cursor) {tag tag' : StartTag}
      (renamed : (Node.start tag).WellPrefixed → tag.Renamed ρ tag') :
      Delivers ρ (r, s, .ok (some (.start tag)))
        (r.elsewhere cursor, ρ.scope s, .ok (some (.start tag')))
  | stop (r : Reader) (s : Scope) (cursor : Cursor) (name : TagName) :
      Delivers ρ (r, s, .ok (some (.stop name)))
        (r.elsewhere cursor, ρ.scope s, .ok (some (.stop name)))

theorem Delivers.ofFaults {call call' : Reader × Scope × Except ReaderFault (Option Node)}
    {fault fault' : ReaderFault} (here : call.2.2 = .error fault) (there : call'.2.2 = .error fault')
    (alike : fault'.unplaced = fault.unplaced) : Delivers ρ call call' := by
  obtain ⟨r, s, result⟩ := call
  obtain ⟨r', s', result'⟩ := call'
  obtain rfl := here
  obtain rfl := there
  exact .fault alike

theorem delivers_say (r : Reader) (s : Scope) (cursor : Cursor) (reading : Reading) :
    Delivers ρ (r.say s reading) ((r.elsewhere cursor).say (ρ.scope s) (reading.renamed ρ)) := by
  cases reading with
  | finish => exact .finish r s cursor
  | refused fault => exact .fault rfl
  | stop name =>
    unfold Reading.renamed Reader.say
    dsimp only
    rw [ρ.tagName_scope]
    exact .stop r.leave s cursor (s.tagName name)
  | start name pairs isEmpty =>
    have size : (ρ.scope s).bindings.size = s.bindings.size := ρ.size_bindings _
    unfold Reading.renamed Reader.say
    dsimp only
    rw [declare_attributes, ρ.tagName_scope, Reader.enter_elsewhere, size]
    exact .start _ _ cursor renamed_tag

/-- Renamed lexemes are delivered alike. -/
theorem delivers_renamed {lexeme lexeme' : Lexeme}
    (same : lexeme'.reading.unplaced = (lexeme.reading.renamed ρ).unplaced) (r : Reader) (s : Scope)
    (cursor : Cursor) :
    Delivers ρ (r.deliver s lexeme) ((r.elsewhere cursor).deliver (ρ.scope s) lexeme') := by
  have here := Reader.deliver_reading r s lexeme
  have there := Reader.deliver_reading (r.elsewhere cursor) (ρ.scope s) lexeme'
  rw [Reader.settle_scope] at there
  obtain eq | ⟨fault', fault, refused', refused, alike⟩ := Reading.eq_or_refused same
  · rw [eq] at there
    have said (reading : Reading) := delivers_say (ρ := ρ)
      ((r.settle s).1.elsewhere ((r.settle s).1.cursor.moveTo lexeme.offset)) (r.settle s).2
      (cursor.moveTo lexeme'.offset) reading
    generalize lexeme.reading = reading at here there
    cases reading with
    | refused fault => exact .ofFaults here there rfl
    | _ =>
      rw [here, there]
      exact said _
  · rw [Reading.eq_refused_of_renamed refused] at here
    rw [refused'] at there
    exact .ofFaults here there alike

end Markup

end XsdRecords
