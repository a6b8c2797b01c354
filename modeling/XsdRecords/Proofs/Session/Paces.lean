import XsdRecords.Proofs.Markup.TwoScopes
import XsdRecords.Proofs.Session.Scoping
import XsdRecords.Proofs.Session.Stacks
import XsdRecords.Proofs.Session.Strides
import XsdRecords.Proofs.Session.Support
import XsdRecords.Proofs.Session.Variants

/-! # Two runs node by node

A part of a document whose lexemes are all read without a failure: `Traverses`.  Where its tags are
balanced, it leaves the open tags, what they have opened and the prefixes in scope as they were.

Two runs that are abreast read the same nodes: the second one fails at none of them, and they are
abreast after each. -/

namespace XsdRecords

open XsdRecords.Markup (Lexeme Node Reader Scope Token)

namespace Markup

/-- Whether a token is a tag. -/
def Token.IsTag : Token → Prop
  | .start _ _ | .stop _ => True
  | .fault _ | .finish => False

/-- Tokens of which each end tag ends a start tag among them, and each start tag is ended. -/
inductive Balanced : List Token → Prop
  | nil : Balanced []
  | empty (text : List UInt8) {rest : List Token} (later : Balanced rest) :
      Balanced (.start text true :: rest)
  | element (text name : List UInt8) {inside rest : List Token} (inner : Balanced inside)
      (later : Balanced rest) : Balanced (.start text false :: (inside ++ .stop name :: rest))

theorem Balanced.isTag {tokens : List Token} (balanced : Balanced tokens) :
    ∀ token ∈ tokens, token.IsTag := by
  induction balanced with
  | nil => simp
  | empty text later ih => exact List.forall_mem_cons.2 ⟨trivial, ih⟩
  | element text name inner later ih ih' =>
    refine List.forall_mem_cons.2 ⟨trivial, fun token member => ?_⟩
    obtain inner | later := List.mem_append.1 member
    · exact ih token inner
    · exact List.forall_mem_cons.2 ⟨trivial, ih'⟩ token later

theorem Balanced.append {first second : List Token} (balanced : Balanced first)
    (others : Balanced second) : Balanced (first ++ second) := by
  induction balanced with
  | nil => exact others
  | empty text later ih => exact .empty text ih
  | element text name inner later ih ih' =>
    rw [List.cons_append, List.append_assoc, List.cons_append]
    exact .element text name inner ih'

theorem Balanced.flatten {blocks : List (List Token)} (balanced : ∀ block ∈ blocks, Balanced block) :
    Balanced blocks.flatten := by
  induction blocks with
  | nil => exact .nil
  | cons block blocks ih =>
    obtain ⟨own, others⟩ := List.forall_mem_cons.1 balanced
    exact own.append (ih others)

/-- Only the end of the document is no node. -/
theorem Reader.token_of_deliver {r k : Reader} {s m : Scope} {lexeme : Lexeme}
    (delivered : r.deliver s lexeme = (k, m, .ok none)) : lexeme.token = .finish := by
  unfold Reader.deliver at delivered
  dsimp only at delivered
  split at delivered
  · assumption
  · cases delivered
  · split at delivered <;> cases delivered
  · split at delivered <;> cases delivered

end Markup

namespace Session

open XsdRecords.Markup (Balanced)

variable {s m t : Session} {r k q : Reader} {lexemes first second rest : List Lexeme}
  {visits : List Visit}

/-! ## Traverses -/

/-- Lexemes that are all read as nodes, none of which fails: the visits, and where they lead to. -/
inductive Traverses : Session → Reader → List Lexeme → List Visit → Session → Reader → Prop
  | nil (s : Session) (r : Reader) : Traverses s r [] [] s r
  | cons {s t : Session} {r k q : Reader} {lexeme : Lexeme} {rest : List Lexeme} {scope : Scope}
      {node : Node} {visits : List Visit}
      (delivered : r.deliver s.scope lexeme = (k, scope, .ok (some node)))
      (ok : (readNode (s.withScope scope) node k.position).hasFailed = false)
      (later : Traverses (readNode (s.withScope scope) node k.position) k rest visits t q) :
      Traverses s r (lexeme :: rest) (⟨s.withScope scope, node, k.position⟩ :: visits) t q

namespace Traverses

theorem append {others : List Visit} (head : Traverses s r first visits m k)
    (tail : Traverses m k second others t q) : Traverses s r (first ++ second) (visits ++ others) t q := by
  induction head with
  | nil => exact tail
  | cons delivered ok _ ih => exact .cons delivered ok (ih tail)

theorem split (passes : Traverses s r (first ++ second) visits t q) :
    ∃ visits₁ visits₂ m k, visits = visits₁ ++ visits₂ ∧ Traverses s r first visits₁ m k ∧
      Traverses m k second visits₂ t q := by
  induction first generalizing s r visits with
  | nil => exact ⟨[], visits, s, r, rfl, .nil s r, passes⟩
  | cons lexeme rest ih =>
    cases passes with
    | cons delivered ok later =>
      obtain ⟨visits₁, visits₂, m, k, rfl, head, tail⟩ := ih later
      exact ⟨_, visits₂, m, k, rfl, .cons delivered ok head, tail⟩

theorem hasFailed (passes : Traverses s r lexemes visits t q) (ok : s.hasFailed = false) :
    t.hasFailed = false := by
  induction passes with
  | nil => exact ok
  | cons _ failed _ ih => exact ih failed

theorem run (passes : Traverses s r lexemes visits t q) : Run s visits t := by
  induction passes with
  | nil => exact .nil (.refl _)
  | cons _ ok _ ih => exact .cons (untouched_withScope _ _) ok ih

theorem isInDocument (passes : Traverses s r lexemes visits t q) (inside : s.IsInDocument) :
    t.IsInDocument := by
  induction passes with
  | nil => exact inside
  | @cons _ _ _ k _ _ _ scope node _ _ _ _ ih =>
    have within := isInDocument_withScope inside scope
    exact ih ((keepsScope_readNode within node k.position).isInDocument within)

/-- Reading goes on after a part that is passed. -/
theorem readLexemes_append (passes : Traverses s r lexemes visits t q) (ok : s.hasFailed = false)
    (rest : List Lexeme) : readLexemes s r (lexemes ++ rest) = readLexemes t q rest := by
  induction passes with
  | nil => rfl
  | cons delivered failed _ ih =>
    rw [List.cons_append, readLexemes, if_neg (by rw [ok]; exact Bool.false_ne_true), delivered]
    exact ih failed

theorem visitsOf_append (passes : Traverses s r lexemes visits t q) (ok : s.hasFailed = false)
    (rest : List Lexeme) : visitsOf s r (lexemes ++ rest) = visits ++ visitsOf t q rest := by
  induction passes with
  | nil => rfl
  | cons delivered failed _ ih =>
    rw [List.cons_append, visitsOf, if_neg (by rw [ok]; exact Bool.false_ne_true), delivered]
    exact congrArg (_ :: ·) (ih failed)

end Traverses

theorem hasFailed_of_readLexemes (lexemes : List Lexeme)
    (ok : (readLexemes s r lexemes).hasFailed = false) : s.hasFailed = false := by
  rw [Bool.eq_false_iff]
  intro failed
  rw [readLexemes_of_hasFailed failed, failed] at ok
  cases ok

/-- Tags that are read without a failure are passed. -/
theorem exists_traverses (tags : ∀ lexeme ∈ lexemes, lexeme.token.IsTag)
    (ok : (readLexemes s r (lexemes ++ rest)).hasFailed = false) :
    ∃ visits t q, Traverses s r lexemes visits t q := by
  induction lexemes generalizing s r with
  | nil => exact ⟨[], s, r, .nil s r⟩
  | cons lexeme later ih =>
    have ok' := hasFailed_of_readLexemes _ ok
    have isTag := tags lexeme List.mem_cons_self
    rcases delivered : r.deliver s.scope lexeme with ⟨k, scope, fault | answer⟩
    · rw [List.cons_append, readLexemes_of_fault ok' delivered,
        hasFailed_report_of_fails _ rfl] at ok
      cases ok
    · cases answer with
      | none =>
        rw [Reader.token_of_deliver delivered] at isTag
        exact isTag.elim
      | some node =>
        rw [List.cons_append, readLexemes, if_neg (by rw [ok']; exact Bool.false_ne_true),
          delivered] at ok
        obtain ⟨visits, t, q, passes⟩ := ih (List.forall_mem_cons.1 tags).2 ok
        exact ⟨_, t, q, .cons delivered (hasFailed_of_readLexemes _ ok) passes⟩

/-! ## Namespaces -/

theorem isInDocument_readNode (inside : s.IsInDocument) (scope : Scope) (node : Node)
    (position : Position) : (readNode (s.withScope scope) node position).IsInDocument :=
  have within := isInDocument_withScope inside scope
  (keepsScope_readNode within node position).isInDocument within

theorem grows_readLexemes (lexemes : List Lexeme) (inside : s.IsInDocument) :
    s.registry.Grows (readLexemes s r lexemes).registry := by
  refine (readLexemes_inv (P := fun _ m => s.registry.Grows m.registry ∧ m.IsInDocument)
    ?_ ?_ ?_ ?_ lexemes [] ⟨.refl, inside⟩).1
  · exact fun {_ m} r lexeme ⟨grows, here⟩ =>
      ⟨grows.trans (r.grows_deliver m.scope lexeme), isInDocument_withScope here _⟩
  · exact fun _ _ here => here
  · exact fun _ ⟨grows, here⟩ read =>
      ⟨grows.trans (read.keepsScope here).grows, (read.keepsScope here).isInDocument here⟩
  · exact fun _ ⟨grows, here⟩ read =>
      ⟨grows.trans (read.keepsScope here).grows, (read.keepsScope here).isInDocument here⟩

/-- The namespaces known after a lexeme stay known. -/
theorem grows_deliver_readLexemes (lexeme : Lexeme) (rest : List Lexeme) (inside : s.IsInDocument)
    (ok : s.hasFailed = false) :
    (r.deliver s.scope lexeme).2.1.registry.Grows (readLexemes s r (lexeme :: rest)).registry := by
  rcases delivered : r.deliver s.scope lexeme with ⟨k, scope, fault | answer⟩
  · rw [readLexemes_of_fault ok delivered]
    exact .refl
  · cases answer with
    | none =>
      rw [readLexemes_of_finish ok delivered]
      exact .refl
    | some node =>
      rw [readLexemes, if_neg (by rw [ok]; exact Bool.false_ne_true), delivered]
      exact (keepsScope_readNode (isInDocument_withScope inside scope) node k.position).grows.trans
        (grows_readLexemes rest (isInDocument_readNode inside scope node k.position))

/-! ## Balanced tags -/

theorem bindings_readNode (inside : s.IsInDocument) (scope : Scope) (node : Node)
    (position : Position) :
    (readNode (s.withScope scope) node position).scope.bindings = scope.bindings := by
  have kept := (keepsScope_readNode (isInDocument_withScope inside scope) node position).bindings
  exact kept.trans (congrArg Scope.bindings (scope_withScope inside scope))

/-- Balanced tags bring everything back that was open. -/
theorem Traverses.returns (passes : Traverses s r lexemes visits t q) (inside : s.IsInDocument)
    (balanced : Balanced (lexemes.map (·.token))) :
    r.Returns s.scope q t.scope ∧ ∀ opened, visits.foldl stepOpenings opened = opened := by
  generalize tokens : lexemes.map (·.token) = spelled at balanced
  induction balanced generalizing s r lexemes visits t q with
  | nil =>
    obtain rfl := List.map_eq_nil_iff.1 tokens
    cases passes
    exact ⟨⟨rfl, rfl⟩, fun _ => rfl⟩
  | empty text later ih =>
    obtain ⟨lexeme, rest, rfl, token, others⟩ := List.map_eq_cons_iff.1 tokens
    cases passes with
    | @cons _ _ _ k _ _ _ scope node _ delivered ok passes =>
      have within := isInDocument_readNode inside scope node k.position
      obtain ⟨back, same⟩ := ih passes within others
      obtain ⟨tag, rfl, isEmpty⟩ := Reader.eq_start_of_token token delivered
      have here := (Reader.Returns.empty delivered isEmpty).congr rfl
        (bindings_readNode inside scope (.start tag) k.position)
      exact ⟨here.trans back, fun opened =>
        (congrArg (List.foldl stepOpenings · _) (if_pos isEmpty)).trans (same opened)⟩
  | @element text name inner rest _ _ ih ih' =>
    obtain ⟨lexeme, others, rfl, token, tokens⟩ := List.map_eq_cons_iff.1 tokens
    obtain ⟨within, others, rfl, innerTokens, tokens⟩ := List.map_eq_append_iff.1 tokens
    obtain ⟨last, later, rfl, lastToken, laterTokens⟩ := List.map_eq_cons_iff.1 tokens
    cases passes with
    | @cons _ _ _ k _ _ _ scope node _ delivered ok passes =>
      have started := isInDocument_readNode inside scope node k.position
      obtain ⟨visits₁, visits₂, m, j, rfl, first, second⟩ := passes.split
      obtain ⟨back, same⟩ := ih first started innerTokens
      have filled := first.isInDocument started
      cases second with
      | @cons _ _ _ j' _ _ _ scope' node' _ delivered' ok' second =>
        obtain ⟨back', same'⟩ := ih' second (isInDocument_readNode filled scope' node' j'.position)
          laterTokens
        obtain ⟨tag, rfl, isEmpty⟩ := Reader.eq_start_of_token token delivered
        obtain ⟨name, rfl⟩ := Reader.eq_stop_of_token lastToken delivered'
        have bound := bindings_readNode inside scope (.start tag) k.position
        have here := (Reader.Returns.element delivered isEmpty (back.congr bound.symm rfl)
          delivered').congr rfl (bindings_readNode filled scope' (.stop name) j'.position)
        refine ⟨here.trans back', fun opened => ?_⟩
        have pushed : stepOpenings opened ⟨s.withScope scope, .start tag, k.position⟩ =
            (s.withScope scope).opening tag k.position :: opened :=
          if_neg (by rw [isEmpty]; exact Bool.false_ne_true)
        rw [List.foldl_cons, pushed, List.foldl_append, same, List.foldl_cons]
        exact same' opened

end Session

end XsdRecords

namespace XsdRecords.Session

open XsdRecords.Declaration
open XsdRecords.Markup (Lexeme Node Reader SameNode SameTag Scope StartTag)
open XsdRecords.Vocabulary (Tag)
open XsdRecords.Action

variable {w : Part} {s s' t : Session} {p q : Position}

/-! ## Actions that are performed -/

theorem perform_of_gives {action : Action Unit} {u : Unit} (gives : action.Gives s u t) :
    s.perform action = t := by
  rw [perform, show (ExceptT.run action).run s = _ from gives]

theorem gives_of_perform {action : Action Unit} (steady : action.Steady)
    (ok : (s.perform action).hasFailed = false) : action.Gives s () (s.perform action) := by
  obtain ⟨-, succeeds⟩ := (steady.hasFailed_perform_iff s).1 ok
  unfold Succeeds Ends at succeeds
  rcases ran : (ExceptT.run action).run s with ⟨problem | answer, m⟩
  · rw [ran] at succeeds
    exact succeeds.elim
  · have gives : action.Gives s answer m := ran
    rw [perform_of_gives gives]
    exact gives

theorem hasFailed_of_gives {action : Action Unit} (steady : action.Steady) {u : Unit}
    (gives : action.Gives s u t) : t.hasFailed = s.hasFailed :=
  (Ends.of_gives (steady s) gives).1.hasFailed

/-! ## Tags -/

/-- The place of reading, the open tags and the journal make no difference. -/
theorem Together.aside (together : Together w s s') {tagStack tagStack' : List Tag}
    {skipDepth skipDepth' : Nat} (tags : tagStack' = tagStack) (depth : skipDepth' = skipDepth)
    (journal journal' : Journal) :
    Together w { s with position := p, tagStack, journal, skipDepth }
      { s' with position := q, tagStack := tagStack', journal := journal', skipDepth := skipDepth' } := by
  obtain ⟨pairing, tally, types, elements, beside⟩ := together
  exact ⟨pairing, tally, types, elements, beside.allowUnsupported, tags, depth,
    beside.worklist, beside.target, beside.scope, beside.named⟩

theorem Together.sameTags (together : Together w s s') :
    s'.tagStack = s.tagStack ∧ s'.skipDepth = s.skipDepth := by
  obtain ⟨_, abreast⟩ := together
  exact ⟨abreast.beside.tagStack, abreast.beside.skipDepth⟩

theorem kind_of_same {tag tag' : StartTag} (same : SameTag tag tag') : tag'.kind = tag.kind := by
  unfold StartTag.kind
  rw [same.localName]

/-- A tag that is known in the first run is known in the second one. -/
theorem findTag_of_same (depth : s'.skipDepth = s.skipDepth) {tag tag' : StartTag}
    (same : SameTag tag tag') {kind : Tag} (found : findTag s tag = .ok kind) :
    findTag s' tag' = .ok kind := by
  unfold findTag at found ⊢
  dsimp only at found ⊢
  rw [depth, same.localName]
  split at found
  · cases found
  · rename_i known
    rw [if_neg]
    · exact found
    · intro unknown
      refine known ?_
      rw [Bool.and_eq_true, decide_eq_true_eq, decide_eq_true_eq] at unknown ⊢
      exact ⟨unknown.1, fun own => unknown.2 (same.isSchema.2 own)⟩

/-- What is known and to come where the first run reads a start tag outside skipped content. -/
structure Prepared (w : Part) (s : Session) (kind : Tag) (t : Session) : Prop where
  local_ : kind ≠ .schema ∧ kind ≠ .importTag ∧ kind ≠ .includeTag
  timely : Timely kind s
  underived : kind = .restriction ∨ kind = .extension ∨ kind = .list → Underived s
  foresees : Foresees w t

/-- Both runs read a start tag. -/
theorem Together.readStart (together : Together w s s') (acyclic : w.final.Acyclic)
    {tag tag' : StartTag} (same : SameTag tag tag')
    (ok : (Session.readStart s tag p).hasFailed = false) (ok' : s'.hasFailed = false)
    (prepared : s.skipDepth = 0 → Prepared w s tag.kind (Session.readStart s tag p))
    (timely' : s.skipDepth = 0 → Timely tag.kind s') :
    (Session.readStart s' tag' q).hasFailed = false ∧
      Together w (Session.readStart s tag p) (Session.readStart s' tag' q) := by
  obtain ⟨tags, depth⟩ := together.sameTags
  have kind := kind_of_same same
  have parent : parentTag s' = parentTag s := by
    unfold parentTag
    rw [tags]
  by_cases reading : s.skipDepth = 0
  · have reading' : s'.skipDepth = 0 := depth.trans reading
    obtain ⟨noSchema, timely, underived, foresees⟩ := prepared reading
    obtain ⟨found, allowed, -, -⟩ := (hasFailed_readStart_iff reading tag p).1 ok
    obtain ⟨events, marked⟩ := exists_noteAttributes tag.kind tag
      { s with position := p, tagStack := tag.kind :: s.tagStack }
    obtain ⟨events', marked'⟩ := exists_noteAttributes tag'.kind tag'
      { s' with position := q, tagStack := tag'.kind :: s'.tagStack }
    have begun := together.aside (p := p) (q := q) (rfl : tag'.kind :: s'.tagStack = _) depth
      { s.journal with events } { s'.journal with events := events' }
    have read := readStart_eq_perform reading ok
    rw [marked, ← kind, ← tags] at read
    rw [read] at ok foresees ⊢
    have gives := gives_of_perform (steady_startAction tag'.kind tag) ok
    obtain ⟨t', gives', after⟩ := startAction_abreast begun acyclic (kind ▸ noSchema)
      ⟨kind ▸ timely.bases, kind ▸ timely.builtin⟩
      ⟨kind ▸ (timely' reading).bases, kind ▸ (timely' reading).builtin⟩
      (kind ▸ underived) gives foresees
    rw [← startAction_same same (kind ▸ noSchema.1)] at gives'
    have steady := steady_startAction tag'.kind tag'
    have kept : t'.hasFailed = false := (hasFailed_of_gives steady gives').trans ok'
    have performed := perform_of_gives gives'
    rw [← performed] at kept after
    have ok₂ : (Session.readStart s' tag' q).hasFailed = false := by
      refine (hasFailed_readStart_iff reading' tag' q).2
        ⟨kind ▸ findTag_of_same depth same found, ?_, ok', ?_⟩
      · rw [parent, kind]
        exact allowed
      · rw [marked']
        exact ((steady.hasFailed_perform_iff _).1 kept).2
    refine ⟨ok₂, ?_⟩
    rw [readStart_eq_perform reading' ok₂, marked']
    exact after
  · have skipping : 0 < s.skipDepth := Nat.pos_of_ne_zero reading
    have skipping' : 0 < s'.skipDepth := depth ▸ skipping
    obtain ⟨allowed, whole⟩ := readStart_eq_of_ok ok
    rw [whole, if_pos skipping]
    have entered : Session.readStart s' tag' q =
        enterTag tag'.kind tag' { s' with position := q } :=
      startTag_of_allowed (s := { s' with position := q }) (findTag_of_skipping skipping' tag')
        (if_pos (by rw [kind]; exact parent ▸ allowed))
    have counted : enterTag tag'.kind tag' { s' with position := q } =
        { s' with
          position := q, tagStack := tag'.kind :: s'.tagStack, skipDepth := s'.skipDepth + 1 } :=
      if_pos skipping'
    rw [entered, counted, kind, tags, depth]
    exact ⟨ok', together.aside rfl rfl s.journal s'.journal⟩

/-- Both runs read an end tag. -/
theorem Together.readStop (together : Together w s s') (ok : (Session.readStop s p).hasFailed = false)
    (ok' : s'.hasFailed = false) (settles : Settles w s (Session.readStop s p)) :
    (Session.readStop s' q).hasFailed = false ∧
      Together w (Session.readStop s p) (Session.readStop s' q) := by
  obtain ⟨tags, depth⟩ := together.sameTags
  have begun := together.aside (p := p) (q := q) tags depth s.journal s'.journal
  cases open_ : s.tagStack with
  | nil =>
    have stays : Session.readStop s p = { s with position := p } :=
      stopTag_of_nil (s := { s with position := p }) open_
    have stays' : Session.readStop s' q = { s' with position := q } :=
      stopTag_of_nil (s := { s' with position := q }) (tags.trans open_)
    rw [stays, stays']
    exact ⟨ok', begun⟩
  | cons kind below =>
    have leaves : Session.readStop s p = _ :=
      stopTag_of_cons (s := { s with position := p }) open_
    have leaves' : Session.readStop s' q = _ :=
      stopTag_of_cons (s := { s' with position := q }) (tags.trans open_)
    rw [leaves] at ok settles ⊢
    rw [leaves']
    by_cases reading : s.skipDepth = 0
    · have left : leaveTag kind { s with position := p } =
          { s with position := p }.perform (endAction kind) := if_neg (reading ▸ Nat.lt_irrefl 0)
      have left' : leaveTag kind { s' with position := q } =
          { s' with position := q }.perform (endAction kind) :=
        if_neg (depth.trans reading ▸ Nat.lt_irrefl 0)
      rw [left] at ok settles ⊢
      rw [left']
      have gives := gives_of_perform (steady_endAction kind) ok
      obtain ⟨t', gives', after⟩ := endAction_abreast begun gives ⟨settles.element, settles.type⟩
      rw [perform_of_gives gives']
      obtain ⟨sameTags, sameDepth⟩ := after.sameTags
      exact ⟨(hasFailed_of_gives (steady_endAction kind) gives').trans ok',
        after.aside (congrArg List.tail sameTags) sameDepth _ _⟩
    · have left : leaveTag kind { s with position := p } =
          { s with position := p, skipDepth := s.skipDepth - 1 } := if_pos (Nat.pos_of_ne_zero reading)
      have left' : leaveTag kind { s' with position := q } =
          { s' with position := q, skipDepth := s'.skipDepth - 1 } :=
        if_pos (depth ▸ Nat.pos_of_ne_zero reading)
      rw [left, left']
      exact ⟨ok', together.aside (congrArg List.tail tags) (congrArg (· - 1) depth) s.journal
        s'.journal⟩

/-! ## Nodes -/

/-- The state in a visit before an empty tag ends. -/
def Visit.opened (v : Visit) : Session :=
  match v.node with
  | .start tag => Session.readStart v.session tag v.position
  | .stop _ => v.session

/-- Whether all that a tag looks at is known where it is read. -/
def Visit.IsTimely (v : Visit) : Prop :=
  ∀ tag, v.node = .start tag → v.session.skipDepth = 0 → Timely tag.kind v.session

instance (P : StartTag → Prop) [DecidablePred P] :
    (node : Node) → Decidable (∀ tag, node = .start tag → P tag)
  | .start tag => decidable_of_iff (P tag)
    ⟨fun holds _ same => Node.start.inj same ▸ holds, fun holds => holds tag rfl⟩
  | .stop _ => .isTrue fun _ other => nomatch other

instance : DecidablePred Visit.IsTimely := fun v => inferInstanceAs (Decidable
  (∀ tag, v.node = .start tag → v.session.skipDepth = 0 → Timely tag.kind v.session))

/-- What is known and to come where the first run reads a node. -/
structure Foreseen (w : Part) (v : Visit) : Prop where
  prepared (tag : StartTag) : v.node = .start tag → v.session.skipDepth = 0 →
    Prepared w v.session tag.kind v.opened
  settles : Settles w v.opened v.after
  named {entry : String × NamespaceId} :
    entry ∈ v.session.scope.bindings.entries → entry.2 ≠ .anonymous

/-- Both runs read a node. -/
theorem Together.after {v u : Visit} (together : Together w v.session u.session)
    (acyclic : w.final.Acyclic) (same : SameNode v.node u.node) (ok : v.after.hasFailed = false)
    (ok' : u.session.hasFailed = false) (foreseen : Foreseen w v) (timely' : u.IsTimely) :
    u.after.hasFailed = false ∧ Together w v.after u.after := by
  obtain ⟨prepared, settles, -⟩ := foreseen
  obtain ⟨s, node, p⟩ := v
  obtain ⟨s', node', q⟩ := u
  cases same with
  | @start tag tag' same =>
    obtain ⟨started, whole⟩ := readNode_start ok
    obtain ⟨begun, both⟩ := together.readStart (q := q) acyclic same started ok'
      (prepared tag rfl) fun reading =>
        kind_of_same same ▸ timely' tag' rfl (together.sameTags.2.trans reading)
    have whole' : Visit.after ⟨s', .start tag', q⟩ = if tag.isEmpty then
        Session.readStop (Session.readStart s' tag' q) q else Session.readStart s' tag' q := by
      unfold Visit.after readNode
      dsimp only
      rw [begun, same.isEmpty, Bool.not_false, Bool.and_true]
    rw [whole']
    rw [show Visit.after ⟨s, .start tag, p⟩ = _ from whole] at ok settles ⊢
    cases empty : tag.isEmpty with
    | true =>
      simp only [empty, if_true] at ok settles ⊢
      exact both.readStop ok begun settles
    | false => exact ⟨begun, both⟩
  | stop name name' => exact together.readStop ok ok' settles

/-! ## Lexemes -/

/-- Both runs get other prefixes in scope. -/
theorem Together.withScope (together : Together w s s') (inside : s.IsInDocument)
    (inside' : s'.IsInDocument) {m m' : Scope} (alike : m.Alike w.registry m')
    (named : ∀ entry ∈ m.bindings.entries, entry.2 ≠ .anonymous) :
    Together w (s.withScope m) (s'.withScope m') := by
  obtain ⟨pairing, tally, types, elements, beside⟩ := together
  have agrees := Worklist.agrees_modifyCurrent inside m.bindings
  have agrees' := Worklist.agrees_modifyCurrent inside' m'.bindings
  refine ⟨pairing, tally, types, elements, beside.allowUnsupported, beside.tagStack,
    beside.skipDepth, (agrees.symm.trans beside.worklist).trans agrees', ?_, ?_, ?_⟩
  · exact (agrees.target _).trans beside.target
  · rw [scope_withScope inside, scope_withScope inside']
    exact alike
  · rw [scope_withScope inside]
    exact fun member => named _ member

/-- A session where a reader has dropped what the element bound that has just ended. -/
def settled (s : Session) (r : Reader) : Session :=
  s.withScope (r.settle s.scope).2

/-- Two runs between two lexemes of the same part. -/
structure Level (w : Part) (s : Session) (r : Reader) (s' : Session) (r' : Reader) : Prop where
  together : Together w (s.settled r) (s'.settled r')
  marks : (r'.settle s'.scope).1.marks = (r.settle s.scope).1.marks
  inside : s.IsInDocument
  inside' : s'.IsInDocument
  ok' : s'.hasFailed = false

theorem mem_settle {r : Reader} {m : Scope} {entry : String × NamespaceId}
    (member : entry ∈ (r.settle m).2.bindings.entries) : entry ∈ m.bindings.entries := by
  unfold Reader.settle at member
  split at member
  · exact member
  · exact List.mem_of_mem_drop member

/-- What is level after a node is so for the next lexeme. -/
theorem Together.level (together : Together w s s') {k k' : Reader} (marks : k'.marks = k.marks)
    (pending : k'.pending = k.pending) (inside : s.IsInDocument) (inside' : s'.IsInDocument)
    (ok' : s'.hasFailed = false) : Level w s k s' k' := by
  have ⟨_, _, _, _, beside⟩ := together
  obtain ⟨alike, level⟩ := beside.scope.settle marks pending
  exact ⟨together.withScope inside inside' alike fun _ member => beside.named (mem_settle member),
    level, inside, inside', ok'⟩

/-- Both runs read a lexeme. -/
theorem Level.step {r r' k : Reader} (level : Level w s r s' r') (acyclic : w.final.Acyclic)
    {lexeme lexeme' : Lexeme} (token : lexeme'.token = lexeme.token) {m : Scope} {node : Node}
    (delivered : r.deliver s.scope lexeme = (k, m, .ok (some node)))
    (ok : (readNode (s.withScope m) node k.position).hasFailed = false)
    (foreseen : Foreseen w ⟨s.withScope m, node, k.position⟩) (room : m.registry.HasRoom)
    (room' : (r'.deliver s'.scope lexeme').2.1.registry.HasRoom)
    (timely' : ∀ k' m' node', r'.deliver s'.scope lexeme' = (k', m', .ok (some node')) →
      Visit.IsTimely ⟨s'.withScope m', node', k'.position⟩) :
    ∃ k' m' node', r'.deliver s'.scope lexeme' = (k', m', .ok (some node')) ∧
      (readNode (s'.withScope m') node' k'.position).hasFailed = false ∧
      Level w (readNode (s.withScope m) node k.position) k
        (readNode (s'.withScope m') node' k'.position) k' := by
  obtain ⟨together, marks, inside, inside', ok'⟩ := level
  have alike : (s.settled r).scope.Alike w.registry (s'.settled r').scope :=
    let ⟨_, _, _, _, beside⟩ := together
    beside.scope
  unfold settled at alike together
  rw [scope_withScope inside, scope_withScope inside'] at alike
  rw [← r.deliver_settle] at delivered
  rw [← r'.deliver_settle] at room'
  obtain ⟨k', m', node', delivered', level, pending, scopes, same⟩ := alike.deliver marks
    ((r'.pending_settle _).trans (r.pending_settle _).symm) token delivered room room'
  rw [r'.deliver_settle] at delivered'
  have named (entry) (member : entry ∈ m.bindings.entries) : entry.2 ≠ .anonymous := by
    refine foreseen.named ?_
    rw [scope_withScope inside]
    exact member
  have begun := together.withScope (isInDocument_withScope inside _)
    (isInDocument_withScope inside' _) scopes named
  rw [withScope_withScope, withScope_withScope] at begun
  obtain ⟨going, after⟩ := Together.after (v := ⟨s.withScope m, node, k.position⟩)
    (u := ⟨s'.withScope m', node', k'.position⟩) begun acyclic same ok ok' foreseen
    (timely' k' m' node' delivered')
  exact ⟨k', m', node', delivered', going, after.level level pending
    (isInDocument_readNode inside _ _ _) (isInDocument_readNode inside' _ _ _) going⟩

/-- The second run passes a part that the first one passes. -/
theorem Level.passes {r r' q : Reader} {lexemes lexemes' : List Lexeme} {visits : List Visit}
    (level : Level w s r s' r') (acyclic : w.final.Acyclic)
    (passes : Traverses s r lexemes visits t q) (tokens : lexemes'.map (·.token) = lexemes.map (·.token))
    (foreseen : ∀ v ∈ visits, Foreseen w v) (rooms : ∀ v ∈ visits, v.session.registry.HasRoom)
    (rest' : List Lexeme) (room' : (readLexemes s' r' (lexemes' ++ rest')).registry.HasRoom)
    (timely' : ∀ v ∈ visitsOf s' r' (lexemes' ++ rest'), v.IsTimely) :
    ∃ visits' t' q', Traverses s' r' lexemes' visits' t' q' ∧ Level w t q t' q' := by
  induction passes generalizing s' r' lexemes' with
  | nil =>
    obtain rfl := List.map_eq_nil_iff.1 tokens
    exact ⟨[], s', r', .nil s' r', level⟩
  | @cons s t r k q lexeme rest m node visits delivered ok later ih =>
    obtain ⟨lexeme', others, rfl, token, tokens⟩ := List.map_eq_cons_iff.1 tokens
    have going (k' : Reader) (m' : Scope) (node' : Node)
        (delivered' : r'.deliver s'.scope lexeme' = (k', m', .ok (some node'))) :
        readLexemes s' r' (lexeme' :: (others ++ rest')) =
            readLexemes (readNode (s'.withScope m') node' k'.position) k' (others ++ rest') ∧
          visitsOf s' r' (lexeme' :: (others ++ rest')) = ⟨s'.withScope m', node', k'.position⟩ ::
            visitsOf (readNode (s'.withScope m') node' k'.position) k' (others ++ rest') := by
      rw [readLexemes, visitsOf, level.ok', delivered']
      exact ⟨rfl, rfl⟩
    obtain ⟨k', m', node', delivered', ok', next⟩ := level.step acyclic token delivered ok
      (foreseen _ List.mem_cons_self) (rooms _ List.mem_cons_self)
      (room'.of_grows (grows_deliver_readLexemes _ _ level.inside' level.ok'))
      fun k' m' node' delivered' =>
        timely' _ ((going k' m' node' delivered').2 ▸ List.mem_cons_self)
    obtain ⟨read, visited⟩ := going k' m' node' delivered'
    rw [List.cons_append, read] at room'
    rw [List.cons_append, visited] at timely'
    obtain ⟨visits', t', q', passes', level'⟩ := ih next tokens
      (List.forall_mem_cons.1 foreseen).2 (List.forall_mem_cons.1 rooms).2 room'
      (List.forall_mem_cons.1 timely').2
    exact ⟨_, t', q', .cons delivered' ok' passes', level'⟩

end XsdRecords.Session
