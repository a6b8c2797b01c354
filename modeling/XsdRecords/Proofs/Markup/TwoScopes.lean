import Mathlib.Data.List.Forall2
import XsdRecords.Proofs.Markup.Pairs
import XsdRecords.Proofs.Markup.Scoping

/-! # The same text in two scopes

Two readers come to the same text, each after other text.  Both know the namespaces of a registry
under the same numbers; what they met since may have other numbers.  Of what they deliver they
therefore differ in the numbers alone that the registry does not know. -/

namespace XsdRecords.Markup

/-! ## Scopes -/

/-- Scopes whose prefixes stand for numbers that are alike. -/
structure Scope.Alike (r : Registry) (s s' : Scope) : Prop where
  entries : List.Forall₂ (fun e e' => e'.1 = e.1 ∧ r.Alike e.2 e'.2)
    s.bindings.entries s'.bindings.entries
  grows : r.Grows s.registry
  grows' : r.Grows s'.registry

variable {r : Registry} {s s' m : Scope}

theorem lookup_alike {entries entries' : List (String × NamespaceId)}
    (alike : List.Forall₂ (fun e e' => e'.1 = e.1 ∧ r.Alike e.2 e'.2) entries entries')
    (label : String) :
    Option.Rel r.Alike (entries.lookup label) (entries'.lookup label) := by
  induction alike with
  | nil => exact .none
  | @cons e e' _ _ pair _ ih =>
    obtain ⟨key, id⟩ := e
    obtain ⟨key', id'⟩ := e'
    obtain ⟨rfl, alike⟩ := pair
    rw [List.lookup_cons, List.lookup_cons]
    cases label == key' with
    | true => exact .some alike
    | false => exact ih

namespace Scope.Alike

variable (alike : s.Alike r s')

include alike

theorem resolve (label : String) :
    r.Alike (s.bindings.resolve label) (s'.bindings.resolve label) := by
  have found := lookup_alike alike.entries label
  unfold Bindings.resolve
  generalize s.bindings.entries.lookup label = o, s'.bindings.entries.lookup label = o' at found
  cases found with
  | none => exact .inl rfl
  | some alike => exact alike

theorem size : s'.bindings.size = s.bindings.size :=
  alike.entries.length_eq.symm

/-- Prefixes that stand for registered namespaces stand for the same ones. -/
theorem bindings_eq (known : ∀ entry ∈ s.bindings.entries, r.IsNumber entry.2) :
    s'.bindings = s.bindings := by
  have same {entries entries' : List (String × NamespaceId)}
      (alike : List.Forall₂ (fun e e' => e'.1 = e.1 ∧ r.Alike e.2 e'.2) entries entries')
      (known : ∀ entry ∈ entries, r.IsNumber entry.2) : entries' = entries := by
    induction alike with
    | nil => rfl
    | @cons e e' rest rest' first _ ih =>
      obtain ⟨number, known⟩ := List.forall_mem_cons.1 known
      exact congrArg₂ List.cons (Prod.ext first.1 ((first.2.eq_iff number).2 rfl)) (ih known)
  exact congrArg Bindings.mk (same alike.entries known)

theorem truncate (size : Nat) : Scope.Alike r { s with bindings := s.bindings.truncate size }
    { s' with bindings := s'.bindings.truncate size } := by
  refine ⟨?_, alike.grows, alike.grows'⟩
  unfold Bindings.truncate
  rw [alike.entries.length_eq]
  exact List.forall₂_drop _ alike.entries

theorem declare (key value : String) (room : (s.declare key value).registry.HasRoom)
    (room' : (s'.declare key value).registry.HasRoom) :
    (s.declare key value).Alike r (s'.declare key value) := by
  unfold Scope.declare at room room' ⊢
  cases own : declared? key with
  | none => exact alike
  | some label =>
    rw [own] at room room'
    exact ⟨.cons ⟨rfl, Registry.alike_register alike.grows alike.grows' room room'⟩ alike.entries,
      alike.grows.trans (Registry.grows_register _ _),
      alike.grows'.trans (Registry.grows_register _ _)⟩

theorem declareAll (pairs : List (String × String))
    (room : (pairs.foldl (fun s (key, value) => s.declare key value) s).registry.HasRoom)
    (room' : (pairs.foldl (fun s (key, value) => s.declare key value) s').registry.HasRoom) :
    (pairs.foldl (fun s (key, value) => s.declare key value) s).Alike r
      (pairs.foldl (fun s (key, value) => s.declare key value) s') := by
  induction pairs generalizing s s' with
  | nil => exact alike
  | cons pair rest ih =>
    refine ih (alike.declare pair.1 pair.2 ?_ ?_) room room'
    · exact room.of_grows (declare_foldl rest (s.declare pair.1 pair.2)).1
    · exact room'.of_grows (declare_foldl rest (s'.declare pair.1 pair.2)).1

/-- The namespace of an attribute, as far as it is known. -/
theorem resolveAttribute (key value value' : String) :
    r.Alike (s.resolveAttribute key value).namespaceId
      (s'.resolveAttribute key value').namespaceId := by
  unfold Scope.resolveAttribute
  dsimp only
  split
  · exact .inl rfl
  · split
    · exact alike.resolve _
    · exact .inl rfl

end Scope.Alike

/-! ## Tags -/

/-- Tags of which a session sees the same. -/
structure SameTag (tag tag' : StartTag) : Prop where
  localName : tag'.name.localName = tag.name.localName
  isSchema : tag'.name.namespaceId = .xmlSchema ↔ tag.name.namespaceId = .xmlSchema
  isEmpty : tag'.isEmpty = tag.isEmpty
  plain (name : String) : tag'.plain? name = tag.plain? name
  annotated (name : String) : tag'.annotated? name = tag.annotated? name

/-- An attribute of a known namespace is found in both scopes or in neither. -/
theorem Scope.Alike.find? (alike : s.Alike r s') {known : NamespaceId} (number : r.IsNumber known)
    (pairs : List (String × String)) (name : String) :
    ((pairs.map fun (key, value) => s'.resolveAttribute key value).find? fun a =>
        a.localName = name && a.namespaceId = known).map (·.value) =
      ((pairs.map fun (key, value) => s.resolveAttribute key value).find? fun a =>
        a.localName = name && a.namespaceId = known).map (·.value) := by
  have same : ((fun a : Attribute => decide (a.localName = name) && decide (a.namespaceId = known)) ∘
      fun pair : String × String => s'.resolveAttribute pair.1 pair.2) =
        (fun a : Attribute => decide (a.localName = name) && decide (a.namespaceId = known)) ∘
          fun pair : String × String => s.resolveAttribute pair.1 pair.2 := by
    funext pair
    have same := (alike.resolveAttribute pair.1 pair.2 pair.2).eq_iff number
    simp only [Function.comp_apply, same]
    rfl
  rw [List.find?_map, List.find?_map, Option.map_map, Option.map_map]
  exact congrArg (fun p => Option.map Prod.snd (pairs.find? p)) same

/-- The same start tag is read in both scopes. -/
theorem Scope.Alike.readStart (alike : s.Alike r s') {text : List UInt8} {isEmpty : Bool}
    {tag : StartTag} (read : s.readStart text isEmpty = (m, .ok tag)) (room : m.registry.HasRoom)
    (room' : (s'.readStart text isEmpty).1.registry.HasRoom) :
    ∃ m' tag', s'.readStart text isEmpty = (m', .ok tag') ∧ m.Alike r m' ∧ SameTag tag tag' := by
  unfold Scope.readStart at read room' ⊢
  dsimp only at read room' ⊢
  cases fault : (readAttributes text).2 with
  | some fault =>
    rw [fault] at read
    cases read
  | none =>
    rw [fault] at read room'
    dsimp only at read room' ⊢
    cases decoded : Text.Utf8.decodeText (Markup.tagName text) with
    | error fault =>
      rw [decoded] at read
      cases read
    | ok name =>
      rw [decoded] at read room'
      cases read
      have after := alike.declareAll (readAttributes text).1 room room'
      refine ⟨_, _, rfl, after, rfl, ?_, rfl, fun own => ?_, fun own => ?_⟩
      · exact (after.resolve _).eq_iff
          (Registry.isNumber_fixed (e := (.xmlSchema, xmlSchemaUri)) (by decide) r)
      · exact after.find? (Registry.isNumber_none r) _ own
      · exact after.find?
          (Registry.isNumber_fixed (e := (.annotations, annotationUri)) (by decide) r) _ own

/-! ## Calls -/

namespace Reader

variable {q k : Reader} {lexeme lexeme' : Lexeme}

/-- A call starts by settling. -/
theorem deliver_settle (q : Reader) (s : Scope) (lexeme : Lexeme) :
    (q.settle s).1.deliver (q.settle s).2 lexeme = q.deliver s lexeme := by
  obtain ⟨_, _, _ | size⟩ := q <;> rfl

/-- What a call does that delivers a start tag. -/
theorem deliver_start {tag : StartTag}
    (delivered : q.deliver s lexeme = (k, m, .ok (some (.start tag)))) :
    ∃ text, lexeme.token = .start text tag.isEmpty ∧
      (q.settle s).2.readStart text tag.isEmpty = (m, .ok tag) ∧
      k.marks = (if tag.isEmpty then (q.settle s).1.marks
        else (q.settle s).2.bindings.size :: (q.settle s).1.marks) ∧
      k.pending = if tag.isEmpty then some (q.settle s).2.bindings.size else none := by
  have settles := q.pending_settle s
  unfold deliver at delivered
  generalize q.settle s = settled at delivered settles ⊢
  dsimp only at delivered
  cases token : lexeme.token with
  | finish | fault _ =>
    rw [token] at delivered
    cases delivered
  | stop name =>
    rw [token] at delivered
    dsimp only at delivered
    split at delivered <;> cases delivered
  | start text isEmpty =>
    rw [token] at delivered
    dsimp only at delivered
    rcases read : settled.2.readStart text isEmpty with ⟨m', fault | tag'⟩
    · rw [read] at delivered
      cases delivered
    · rw [read] at delivered
      dsimp only at delivered
      obtain ⟨-, own⟩ := Scope.starts read
      cases empty : isEmpty with
      | true =>
        rw [empty] at delivered own read
        cases delivered
        rw [own]
        exact ⟨text, rfl, read, rfl, rfl⟩
      | false =>
        rw [empty] at delivered own read
        cases delivered
        rw [own]
        exact ⟨text, rfl, read, rfl, settles⟩

/-- What a call does that delivers an end tag. -/
theorem deliver_stop {name : TagName}
    (delivered : q.deliver s lexeme = (k, m, .ok (some (.stop name)))) :
    (∃ bytes, lexeme.token = .stop bytes) ∧ m = (q.settle s).2 ∧
      k.marks = (q.settle s).1.marks.tail ∧ k.pending = (q.settle s).1.marks.head? := by
  unfold deliver at delivered
  generalize q.settle s = settled at delivered ⊢
  dsimp only at delivered
  cases token : lexeme.token with
  | finish | fault _ =>
    rw [token] at delivered
    cases delivered
  | start text isEmpty =>
    rw [token] at delivered
    dsimp only at delivered
    split at delivered <;> cases delivered
  | stop bytes =>
    rw [token] at delivered
    dsimp only at delivered
    split at delivered
    · cases delivered
    · cases delivered
      exact ⟨⟨bytes, rfl⟩, rfl, rfl, rfl⟩

theorem eq_start_of_token {text : List UInt8} {isEmpty : Bool} {node : Node}
    (token : lexeme.token = .start text isEmpty)
    (delivered : q.deliver s lexeme = (k, m, .ok (some node))) :
    ∃ tag, node = .start tag ∧ tag.isEmpty = isEmpty := by
  cases node with
  | start tag =>
    obtain ⟨_, isStart, -⟩ := deliver_start delivered
    injection isStart.symm.trans token with _ empty
    exact ⟨tag, rfl, empty⟩
  | stop name =>
    obtain ⟨⟨bytes, isStop⟩, -⟩ := deliver_stop delivered
    cases isStop.symm.trans token

theorem eq_stop_of_token {bytes : List UInt8} {node : Node} (token : lexeme.token = .stop bytes)
    (delivered : q.deliver s lexeme = (k, m, .ok (some node))) : ∃ name, node = .stop name := by
  cases node with
  | start tag =>
    obtain ⟨_, isStart, -⟩ := deliver_start delivered
    cases isStart.symm.trans token
  | stop name => exact ⟨name, rfl⟩

theorem settle_of_pending {size : Nat} (pending : q.pending = some size) (s : Scope) :
    q.settle s = ({ q with pending := none }, { s with bindings := s.bindings.truncate size }) := by
  unfold settle
  rw [pending]

theorem settle_of_pending_eq_none (pending : q.pending = none) (s : Scope) :
    q.settle s = (q, s) := by
  unfold settle
  rw [pending]

theorem marks_settle (q : Reader) (s : Scope) : (q.settle s).1.marks = q.marks := by
  unfold settle
  cases q.pending <;> rfl

theorem bindings_settle_congr (same : m.bindings = s.bindings) :
    (q.settle m).2.bindings = (q.settle s).2.bindings := by
  unfold settle
  cases q.pending with
  | none => exact same
  | some size => exact congrArg (Bindings.truncate · size) same

end Reader

/-! ## Elements that end -/

/-- The bindings of a start tag are on top of those before it. -/
theorem Scope.truncate_readStart {text : List UInt8} {isEmpty : Bool} {tag : StartTag}
    (read : s.readStart text isEmpty = (m, .ok tag)) :
    m.bindings.truncate s.bindings.size = s.bindings := by
  obtain ⟨starts, -⟩ := Scope.starts read
  have entries : m.bindings = ⟨m.registry.bind tag.declared.reverse ++ s.bindings.entries⟩ :=
    congrArg Bindings.mk starts.entries
  rw [entries]
  exact Bindings.truncate_append _ _

/-- A reader comes back to the open elements and the prefixes in scope that there were. -/
structure Reader.Returns (r : Reader) (s : Scope) (q : Reader) (m : Scope) : Prop where
  marks : (q.settle m).1.marks = (r.settle s).1.marks
  bindings : (q.settle m).2.bindings = (r.settle s).2.bindings

namespace Reader.Returns

variable {r q k : Reader} {s s' m m' n n' : Scope} {lexeme last : Lexeme} {tag : StartTag}
  {name : TagName}

theorem trans (first : r.Returns s k m) (second : k.Returns m q n) : r.Returns s q n :=
  ⟨second.marks.trans first.marks, second.bindings.trans first.bindings⟩

/-- Only the prefixes in scope matter. -/
theorem congr (returns : r.Returns s q m) (first : s'.bindings = s.bindings)
    (second : m'.bindings = m.bindings) : r.Returns s' q m' := by
  refine ⟨?_, ?_⟩
  · rw [marks_settle, marks_settle, ← q.marks_settle m, ← r.marks_settle s]
    exact returns.marks
  · rw [bindings_settle_congr first, bindings_settle_congr second]
    exact returns.bindings

/-- A reader that is to drop what was bound since comes back. -/
theorem of_pending (marks : k.marks = (r.settle s).1.marks)
    (pending : k.pending = some (r.settle s).2.bindings.size)
    (bindings : m.bindings.truncate (r.settle s).2.bindings.size = (r.settle s).2.bindings) :
    r.Returns s k m := by
  refine ⟨?_, ?_⟩ <;> rw [settle_of_pending pending]
  · exact marks
  · exact bindings

theorem empty (delivered : r.deliver s lexeme = (k, m, .ok (some (.start tag))))
    (isEmpty : tag.isEmpty = true) : r.Returns s k m := by
  obtain ⟨_, -, read, marks, pending⟩ := deliver_start delivered
  rw [if_pos isEmpty] at marks pending
  exact of_pending marks pending (Scope.truncate_readStart read)

theorem element (delivered : r.deliver s lexeme = (k, m, .ok (some (.start tag))))
    (filled : tag.isEmpty = false) {j : Reader} (inner : k.Returns m j n)
    (ended : j.deliver n last = (q, n', .ok (some (.stop name)))) : r.Returns s q n' := by
  obtain ⟨_, -, read, marks, pending⟩ := deliver_start delivered
  obtain ⟨-, rfl, marks', pending'⟩ := deliver_stop ended
  rw [filled] at marks pending
  have opened := inner.marks
  have bound := inner.bindings
  rw [settle_of_pending_eq_none pending] at opened bound
  rw [opened, marks] at marks' pending'
  refine of_pending marks' pending' ?_
  rw [bound]
  exact Scope.truncate_readStart read

end Reader.Returns

/-! ## Nodes -/

/-- Nodes of which a session sees the same. -/
inductive SameNode : Node → Node → Prop
  | start {tag tag' : StartTag} (same : SameTag tag tag') : SameNode (.start tag) (.start tag')
  | stop (name name' : TagName) : SameNode (.stop name) (.stop name')

namespace Scope.Alike

variable {q q' k : Reader} {lexeme lexeme' : Lexeme} (alike : s.Alike r s')
  (marks : q'.marks = q.marks) (pending : q'.pending = q.pending)

include alike marks pending

theorem settle : (q.settle s).2.Alike r (q'.settle s').2 ∧
    (q'.settle s').1.marks = (q.settle s).1.marks := by
  unfold Reader.settle
  rw [pending]
  cases q.pending with
  | none => exact ⟨alike, marks⟩
  | some size => exact ⟨alike.truncate size, marks⟩

/-- The same node is delivered in both scopes. -/
theorem deliver {node : Node} (token : lexeme'.token = lexeme.token)
    (delivered : q.deliver s lexeme = (k, m, .ok (some node))) (room : m.registry.HasRoom)
    (room' : (q'.deliver s' lexeme').2.1.registry.HasRoom) :
    ∃ k' m' node', q'.deliver s' lexeme' = (k', m', .ok (some node')) ∧ k'.marks = k.marks ∧
      k'.pending = k.pending ∧ m.Alike r m' ∧ SameNode node node' := by
  obtain ⟨settled, level⟩ := alike.settle marks pending
  have settles := q'.pending_settle s'
  cases node with
  | start tag =>
    obtain ⟨text, isStart, read, marks, pending⟩ := Reader.deliver_start delivered
    unfold Reader.deliver at room' ⊢
    rw [token, isStart] at room' ⊢
    dsimp only at room' ⊢
    generalize q'.settle s' = after at settled level settles room' ⊢
    have grown : (after.2.readStart text tag.isEmpty).1.registry.HasRoom := by
      revert room'
      split <;> exact id
    obtain ⟨m', tag', read', next, same⟩ := settled.readStart read room grown
    rw [read']
    dsimp only
    refine ⟨_, _, _, rfl, ?_, ?_, next, .start same⟩
    · rw [marks]
      split
      · exact level
      · exact congrArg₂ List.cons settled.size level
    · rw [pending]
      split
      · exact congrArg some settled.size
      · exact settles
  | stop name =>
    obtain ⟨⟨bytes, isStop⟩, rfl, marks, pending⟩ := Reader.deliver_stop delivered
    have decodes : ∃ written, Text.Utf8.decodeText bytes = .ok written := by
      unfold Reader.deliver at delivered
      rw [isStop] at delivered
      dsimp only at delivered
      cases decoded : Text.Utf8.decodeText bytes with
      | ok written => exact ⟨written, rfl⟩
      | error fault =>
        rw [decoded] at delivered
        cases delivered
    obtain ⟨written, decoded⟩ := decodes
    unfold Reader.deliver
    rw [token, isStop]
    dsimp only
    rw [decoded]
    refine ⟨_, _, _, rfl, ?_, ?_, settled, .stop _ _⟩
    · rw [marks]
      exact congrArg List.tail level
    · rw [pending]
      exact congrArg List.head? level

end Scope.Alike

end XsdRecords.Markup
