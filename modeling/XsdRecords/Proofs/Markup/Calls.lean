import XsdRecords.Proofs.Markup.Scoping

/-! # Calls of a reader

A prefix is bound while attributes are read, and dropped by the call after the end of its element.
`Reader.Inside` says what is bound before a call: the declarations of the element that has just ended
and of those that are open, on top of what was bound when the document was opened.  A call keeps this,
whatever it answers, and `Answers` says how it resolves the names that it reads. -/

namespace XsdRecords.Markup

/-! ## A reader among elements -/

/-- The elements around a place in a document: the one that has just ended, and those that are open,
the innermost first. -/
structure Surroundings where
  ended : Option StartTag := none
  opened : List StartTag := []

namespace Surroundings

/-- The elements whose declarations are bound. -/
def tags (p : Surroundings) : List StartTag :=
  p.ended.toList ++ p.opened

/-- The surroundings after a call of the reader, by what it answered. -/
def after (p : Surroundings) : Option Node → Surroundings
  | none => { p with ended := none }
  | some (.start tag) =>
    if tag.isEmpty then ⟨some tag, p.opened⟩ else ⟨none, tag :: p.opened⟩
  | some (.stop _) => ⟨p.opened.head?, p.opened.tail⟩

end Surroundings

/-- The numbers of bindings outside the open tags. -/
def marksOf (outer : Bindings) : List StartTag → List Nat
  | [] => []
  | _ :: tags => ((declaredBy tags).length + outer.size) :: marksOf outer tags

/-- The names of open tags as they are written, each with the tag that was resolved when it was
opened, by the numbers known then. -/
inductive Opened (outer : Scope) (r : Registry) : List StartTag → List (List UInt8) → Prop
  | nil : Opened outer r [] []
  | cons {tag : StartTag} {tags : List StartTag} {name : List UInt8} {names : List (List UInt8)}
      {written : String} {r' : Registry} (since : outer.registry.Grows r')
      (grows : r'.Grows r) (lists : r'.Lists (declaredBy (tag :: tags)))
      (decoded : Text.Utf8.decodeText name = .ok written)
      (resolved : tag.name = nameIn r' outer.bindings (tag :: tags) written)
      (others : Opened outer r tags names) : Opened outer r (tag :: tags) (name :: names)

theorem Opened.grows {outer : Scope} {r r' : Registry} {names : List (List UInt8)}
    (opened : Opened outer r tags names) (later : r.Grows r') : Opened outer r' tags names := by
  induction opened with
  | nil => exact .nil
  | cons since grows lists decoded resolved _ ih =>
    exact .cons since (grows.trans later) lists decoded resolved ih

/-- A reader in a document opened in the scope `outer`, where the names of the open tags are written
`names`. -/
structure Reader.Inside (outer : Scope) (p : Surroundings) (names : List (List UInt8)) (r : Reader)
    (s : Scope) : Prop where
  grows : outer.registry.Grows s.registry
  covers : Covers outer.bindings p.tags s
  lists : s.registry.Lists (declaredBy p.tags)
  marks : r.marks = marksOf outer.bindings p.opened
  pending : r.pending = p.ended.map fun _ => (declaredBy p.opened).length + outer.bindings.size
  opened : Opened outer s.registry p.opened names

/-- What a call of the reader answers to a token. -/
inductive Answers (outer : Scope) (p : Surroundings) (token : Token) (s : Scope) :
    Option Node → Prop
  /-- A start tag and its attributes are resolved with its own declarations, wherever these stand. -/
  | start {tag : StartTag} {text : List UInt8} {written : String}
      (isStart : token = .start text tag.isEmpty)
      (covers : Covers outer.bindings (tag :: p.opened) s)
      (decoded : Text.Utf8.decodeText (tagName text) = .ok written)
      (name : tag.name = nameIn s.registry outer.bindings (tag :: p.opened) written)
      (resolved : ∀ a ∈ tag.attributes,
        a = attributeIn s.registry outer.bindings (tag :: p.opened) a.qualifiedName a.value)
      (uri : s.registry.IsSmall → ∀ {label uri : String},
        innermost? (tag :: p.opened) label = some uri →
        s.registry.uri (meaning s.registry outer.bindings (tag :: p.opened) label) = uri) :
      Answers outer p token s (some (.start tag))
  /-- An end tag is resolved like its start tag. -/
  | stop {name : TagName} {bytes : List UInt8} {written : String} {tag : StartTag}
      {tags : List StartTag} (isStop : token = .stop bytes)
      (decoded : Text.Utf8.decodeText bytes = .ok written) (opened : p.opened = tag :: tags)
      (resolved : name = nameIn s.registry outer.bindings (tag :: tags) written)
      (localName : name.localName = tag.name.localName)
      (namespaceId : name.namespaceId = tag.name.namespaceId)
      (namespaceUri : outer.bindings.Known outer.registry →
        name.namespaceUri = tag.name.namespaceUri) :
      Answers outer p token s (some (.stop name))
  /-- At the end of the document nothing that it declared is bound, unless a tag is open. -/
  | finish (isFinish : token = .finish)
      (restored : p.opened = [] → s.bindings = outer.bindings) : Answers outer p token s none

/-! ## One call -/

variable {outer : Scope} {p : Surroundings} {names : List (List UInt8)} {r r' : Reader} {s s' : Scope}

theorem Reader.inside_ofDocument (outer : Scope) (document : List UInt8) :
    (Reader.ofDocument document).Inside outer {} [] outer :=
  ⟨.refl, rfl, fun _ member => (by cases member), rfl, rfl, .nil⟩

/-- Between calls further namespaces may be registered. -/
theorem Reader.Inside.registers (inside : r.Inside outer p names s) {registry : Registry}
    (grows : s.registry.Grows registry) : r.Inside outer p names ⟨s.bindings, registry⟩ where
  grows := inside.grows.trans grows
  covers := inside.covers.grows inside.lists grows
  lists := grows.lists inside.lists
  marks := inside.marks
  pending := inside.pending
  opened := inside.opened.grows grows

/-- A call starts by dropping what the element bound that has just ended. -/
theorem Reader.Inside.settle (inside : r.Inside outer p names s) :
    (r.settle s).1.Inside outer ⟨none, p.opened⟩ names (r.settle s).2 := by
  have pending := inside.pending
  unfold Reader.settle
  cases ended : p.ended with
  | none =>
    rw [ended] at pending
    have same : p = ⟨none, p.opened⟩ := by rw [← ended]
    rw [pending, ← same]
    exact inside
  | some tag =>
    rw [ended] at pending
    have covers := inside.covers
    have lists := inside.lists
    unfold Surroundings.tags at covers lists
    rw [ended] at covers lists
    rw [pending]
    refine ⟨inside.grows, covers.truncate, fun d member => lists d ?_, inside.marks, rfl,
      inside.opened⟩
    exact List.mem_append_right _ member

theorem Reader.Inside.start {text : List UInt8} {isEmpty : Bool} {tag : StartTag}
    (inside : r.Inside outer ⟨none, p.opened⟩ names s)
    (read : s.readStart text isEmpty = (s', .ok tag)) (cursor : Cursor) :
    Answers outer p (.start text isEmpty) s' (some (.start tag)) ∧
      if isEmpty then
        Inside outer ⟨some tag, p.opened⟩ names ⟨cursor, r.marks, some s.bindings.size⟩ s'
      else
        Inside outer ⟨none, tag :: p.opened⟩ (tagName text :: names)
          ⟨cursor, s.bindings.size :: r.marks, r.pending⟩ s' := by
  obtain ⟨starts, rfl⟩ := Scope.starts read
  obtain ⟨written, decoded, name⟩ := starts.name
  obtain ⟨covers, lists⟩ := starts.covers inside.covers inside.lists
  have size : s.bindings.size = (declaredBy p.opened).length + outer.bindings.size :=
    inside.covers.size
  have grows := inside.grows.trans starts.grows
  have resolved : tag.name = nameIn s'.registry outer.bindings (tag :: p.opened) written :=
    name.trans (covers.tagName written)
  constructor
  · refine .start rfl covers decoded resolved (fun a member => ?_)
      fun small => uri_meaning small lists
    exact (starts.resolved member).trans (covers.resolveAttribute _ _)
  · have opened := inside.opened.grows starts.grows
    split
    · exact ⟨grows, covers, lists, inside.marks, congrArg some size, opened⟩
    · refine ⟨grows, covers, lists, ?_, inside.pending,
        .cons grows .refl lists decoded resolved opened⟩
      exact congrArg₂ List.cons size inside.marks

/-- The name of an end tag is that of its start tag. -/
theorem Reader.Inside.stop {name : List UInt8} {written : String}
    (inside : r.Inside outer ⟨none, p.opened⟩ (name :: names) s)
    (decoded : Text.Utf8.decodeText name = .ok written) (cursor : Cursor) :
    Answers outer p (.stop name) s (some (.stop (s.tagName written))) ∧
      Inside outer ⟨p.opened.head?, p.opened.tail⟩ names ⟨cursor, r.marks.tail, r.marks.head?⟩ s := by
  obtain ⟨grows, covers, lists, marks, -, opened⟩ := inside
  dsimp only [Surroundings.tags, Option.toList_none, List.nil_append] at covers lists
  generalize same : p.opened = tags at covers lists marks opened
  cases opened with
  | @cons tag tags _ _ written' before since later known decoded' resolved others =>
    obtain rfl : written' = written := Except.ok.inj (decoded'.symm.trans decoded)
    have now := covers.tagName written'
    constructor
    · refine .stop rfl decoded same now ?_ ?_ fun outside => ?_
      · rw [now, resolved]
        rfl
      · rw [now, resolved]
        exact meaning_grows later known _
      · rw [now, resolved]
        have outside' : outer.bindings.Known before := fun entry member => by
          obtain ⟨uri, registered⟩ := outside entry member
          exact ⟨uri, since.id? registered⟩
        obtain ⟨uri, registered⟩ := known_meaning outside' known ((splitName written').1.getD "")
        unfold nameIn
        dsimp only
        rw [meaning_grows later known, later.uri_eq registered]
    · rw [marks]
      exact ⟨grows, covers, lists, rfl, rfl, others⟩

/-- A call keeps what is bound. -/
theorem Reader.Inside.deliver {lexeme : Lexeme} {rest : List Lexeme} {answer : Option Node}
    (inside : r.Inside outer p names s) (nested : Nested names (lexeme :: rest))
    (delivered : r.deliver s lexeme = (r', s', .ok answer)) :
    ∃ names', Nested names' rest ∧ r'.Inside outer (p.after answer) names' s' ∧
      Answers outer p lexeme.token s' answer := by
  have settled := inside.settle
  unfold Reader.deliver at delivered
  generalize r.settle s = before at delivered settled
  dsimp only at delivered
  cases token : lexeme.token with
  | fault fault =>
    rw [token] at delivered
    simp at delivered
  | finish =>
    rw [token] at delivered
    simp only [Prod.mk.injEq, Except.ok.injEq] at delivered
    obtain ⟨rfl, rfl, rfl⟩ := delivered
    have last := nested.eq_nil_of_finish token
    refine ⟨names, last ▸ .nil _, ⟨settled.grows, settled.covers, settled.lists, settled.marks,
      settled.pending, settled.opened⟩, .finish rfl fun none => ?_⟩
    have covers : before.2.bindings.entries = _ := settled.covers
    rw [Surroundings.tags, none] at covers
    exact congrArg Bindings.mk covers
  | start text isEmpty =>
    rw [token] at delivered
    dsimp only at delivered
    rcases read : before.2.readStart text isEmpty with ⟨s₂, _ | tag⟩
    · simp [read] at delivered
    · simp only [read, Prod.mk.injEq, Except.ok.injEq] at delivered
      obtain ⟨rfl, rfl, rfl⟩ := delivered
      obtain ⟨answers, after⟩ := settled.start read (before.1.cursor.moveTo lexeme.offset)
      obtain ⟨-, same⟩ := Scope.starts read
      obtain ⟨names', moves, later⟩ := nested.moves (by rw [token]; exact id) (by simp [token])
      rw [token] at moves
      unfold Surroundings.after
      cases moves with
      | enter => exact ⟨_, later, by simpa [same] using after, answers⟩
      | empty => exact ⟨_, later, by simpa [same] using after, answers⟩
  | stop name =>
    rw [token] at delivered
    dsimp only at delivered
    cases decoded : Text.Utf8.decodeText name with
    | error fault => simp [decoded] at delivered
    | ok written =>
      simp only [decoded, Prod.mk.injEq, Except.ok.injEq] at delivered
      obtain ⟨rfl, rfl, rfl⟩ := delivered
      obtain ⟨names', moves, later⟩ := nested.moves (by rw [token]; exact id) (by simp [token])
      rw [token] at moves
      cases moves with
      | leave =>
        obtain ⟨answers, after⟩ := settled.stop decoded (before.1.cursor.moveTo lexeme.offset)
        exact ⟨_, later, after, answers⟩

/-! ## Calls one after another -/

/-- The token that the next call reads. -/
def ReaderSession.token (rs : ReaderSession) : Token :=
  match rs.document with
  | some ⟨_, lexeme :: _, _⟩ => lexeme.token
  | _ => .finish

/-- The surroundings after calls, by what they answered. -/
def around (answers : List (Option Node)) : Surroundings :=
  answers.foldl Surroundings.after {}

/-- Calls of `advance` without an error, from a document opened in the scope `outer` on: what they
have answered, and the reader and the scope after them.  Between them the caller may register
namespaces. -/
inductive Calls (rs₀ : ReaderSession) (outer : Scope) :
    List (Option Node) → ReaderSession → Scope → Prop
  | nil : Calls rs₀ outer [] rs₀ outer
  | advance {answers : List (Option Node)} {rs rs' : ReaderSession} {s s' : Scope}
      {answer : Option Node} (before : Calls rs₀ outer answers rs s)
      (answered : rs.advance s = (rs', s', .ok answer)) :
      Calls rs₀ outer (answers ++ [answer]) rs' s'
  | register {answers : List (Option Node)} {rs : ReaderSession} {s : Scope}
      (before : Calls rs₀ outer answers rs s) (uri : String) :
      Calls rs₀ outer answers rs ⟨s.bindings, (s.registry.register uri).1⟩

/-- A session whose reader is in a document that was opened in the scope `outer`. -/
def ReaderSession.Inside (outer : Scope) (p : Surroundings) (rs : ReaderSession) (s : Scope) :
    Prop :=
  ∃ d names, rs.document = some d ∧ d.reader.Inside outer p names s ∧ Nested names d.lexemes

theorem ReaderSession.Inside.advance {rs rs' : ReaderSession} {answer : Option Node}
    (inside : rs.Inside outer p s) (answered : rs.advance s = (rs', s', .ok answer)) :
    rs'.Inside outer (p.after answer) s' ∧ Answers outer p rs.token s' answer := by
  obtain ⟨⟨reader, lexemes, stop⟩, names, opened, inside, nested⟩ := inside
  unfold ReaderSession.advance at answered
  rw [opened] at answered
  unfold ReaderSession.token
  rw [opened]
  dsimp only at answered inside nested
  cases lexemes with
  | nil =>
    simp only [Prod.mk.injEq] at answered
    obtain ⟨rfl, rfl, result⟩ := answered
    have delivered : reader.deliver s ⟨stop, .finish⟩ =
        ((reader.deliver s ⟨stop, .finish⟩).1, (reader.deliver s ⟨stop, .finish⟩).2.1,
          .ok answer) := by rw [← result]
    obtain ⟨names', nested', inside', answers⟩ := inside.deliver (.finish rfl) delivered
    exact ⟨⟨_, names', rfl, inside', nested'⟩, answers⟩
  | cons lexeme rest =>
    simp only [Prod.mk.injEq] at answered
    obtain ⟨rfl, rfl, result⟩ := answered
    have delivered : reader.deliver s lexeme =
        ((reader.deliver s lexeme).1, (reader.deliver s lexeme).2.1, .ok answer) := by
      rw [← result]
    obtain ⟨names', nested', inside', answers⟩ := inside.deliver nested delivered
    exact ⟨⟨_, names', rfl, inside', nested'⟩, answers⟩

theorem Calls.inside {rs₀ rs₁ rs : ReaderSession} {content : List UInt8} {location : String}
    {answers : List (Option Node)}
    (opened : rs₀.openDocument (.bytes content) location = .ok rs₁)
    (calls : Calls rs₁ outer answers rs s) : rs.Inside outer (around answers) s := by
  -- The invariant holds of a document that was just opened, and every call and registration keeps it.
  induction calls with
  | nil =>
    obtain rfl := Except.ok.inj opened
    exact ⟨_, [], rfl, Reader.inside_ofDocument outer content, nested_ofDocument content⟩
  | advance before answered ih =>
    have after := (ih.advance answered).1
    unfold around at after ⊢
    rw [List.foldl_append]
    exact after
  | register before uri ih =>
    obtain ⟨d, names, same, inside, nested⟩ := ih
    exact ⟨d, names, same, inside.registers (Registry.grows_register _ uri), nested⟩

/-- Before every call exactly the declarations of the element that has just ended and of the open
elements are bound, on top of what was bound when the document was opened.  The call drops the former
and resolves every name by the innermost declaration; an end tag gets the name of its start tag, and
at the end of a document without open tags the bindings are those at its start. -/
theorem advance_inScope {rs₀ rs₁ rs : ReaderSession} {content : List UInt8} {location : String}
    {answers : List (Option Node)}
    (opened : rs₀.openDocument (.bytes content) location = .ok rs₁)
    (calls : Calls rs₁ outer answers rs s) :
    Covers outer.bindings (around answers).tags s ∧
      ∀ {rs' : ReaderSession} {s' : Scope} {answer : Option Node},
        rs.advance s = (rs', s', .ok answer) →
        Covers outer.bindings ((around answers).after answer).tags s' ∧
          Answers outer (around answers) rs.token s' answer := by
  have inside := calls.inside opened
  constructor
  · obtain ⟨d, names, -, inside, -⟩ := inside
    exact inside.covers
  · intro rs' s' answer answered
    obtain ⟨⟨d, names, -, inside', -⟩, answers⟩ := inside.advance answered
    exact ⟨inside'.covers, answers⟩

/-- A prefix that is declared again, by an attribute after the one that uses it. -/
def redeclaringDocument : List UInt8 :=
  Text.Utf8.encodeText "<p:a xmlns:p='u'><p:b p:c='' xmlns:p='v'/></p:a>"

/-- A session in which the document has just been opened. -/
def redeclaringSession : ReaderSession :=
  let lexed := Lexed.ofDocument redeclaringDocument
  { document := some ⟨Reader.ofDocument redeclaringDocument, lexed.lexemes, lexed.stop⟩ }

set_option maxRecDepth 100000 in
theorem advance_inScope_redeclared : ∃ rs s a rs' s' b,
    redeclaringSession.advance default = (rs, s, .ok (some (.start a))) ∧
      rs.advance s = (rs', s', .ok (some (.start b))) ∧ b.name = ⟨"b", ⟨1⟩, "v"⟩ ∧
      Covers {} [b, a] s' ∧ Answers default ⟨none, [a]⟩ rs.token s' (some (.start b)) := by
  have first : (redeclaringSession.advance default).2.2.toOption =
      some (some (.start ⟨⟨"a", ⟨0⟩, "u"⟩, [⟨"xmlns:p", "p", .xmlns, "u"⟩], false⟩)) := by
    decide +kernel
  have second : ((redeclaringSession.advance default).1.advance
      (redeclaringSession.advance default).2.1).2.2.toOption =
      some (some (.start ⟨⟨"b", ⟨1⟩, "v"⟩,
        [⟨"p:c", "c", ⟨1⟩, ""⟩, ⟨"xmlns:p", "p", .xmlns, "v"⟩], true⟩)) := by decide +kernel
  rcases read : redeclaringSession.advance default with ⟨rs, s, fault | answer⟩
  · rw [read] at first
    cases first
  · rw [read] at first second
    obtain rfl := Option.some.inj first
    rcases again : rs.advance s with ⟨rs', s', fault | answer⟩
    · rw [again] at second
      cases second
    · rw [again] at second
      obtain rfl := Option.some.inj second
      have opened : ReaderSession.openDocument {} (.bytes redeclaringDocument) "" =
        .ok redeclaringSession := rfl
      have both := (advance_inScope opened (.advance .nil read)).2 again
      exact ⟨rs, s, _, rs', s', _, rfl, again, rfl, both.1, both.2⟩

end XsdRecords.Markup
