import XsdRecords.Proofs.Compilation.Pairs
import XsdRecords.Proofs.Session.Paces

/-! # Documents that differ in skipped content

Two documents that are the same but for the content of a tag that is skipped are compiled alike, if
every tag in either content stands in one that allows it and the same namespaces are known after
both.  A namespace that only one of the contents declares is numbered all the same: those that come
after it have other numbers then, and records and enumerations may stand in another order. -/

namespace XsdRecords

open XsdRecords.Markup (Cursor Lexed Lexeme Node Paired Reader Scope Source)

namespace Markup

theorem paired_of_tokens {lexemes lexemes' : List Lexeme}
    (tokens : lexemes'.map (·.token) = lexemes.map (·.token)) : Paired lexemes lexemes' := by
  induction lexemes generalizing lexemes' with
  | nil =>
    obtain rfl := List.map_eq_nil_iff.1 tokens
    exact .nil
  | cons lexeme rest ih =>
    obtain ⟨lexeme', rest', rfl, token, tokens⟩ := List.map_eq_cons_iff.1 tokens
    exact .same token (ih tokens)

/-- Two readers that come back to the same elements and prefixes settle alike. -/
theorem Reader.Returns.settle_eq {r q k : Reader} {s m n : Scope} (first : r.Returns s q m)
    (second : r.Returns s k n) (known : n.registry = m.registry) (cursor : Cursor) :
    (k.elsewhere cursor).settle n = ((q.settle m).1.elsewhere cursor, (q.settle m).2) := by
  have marks := second.marks.trans first.marks.symm
  have bindings := second.bindings.trans first.bindings.symm
  have pending := (k.pending_settle n).trans (q.pending_settle m).symm
  have registry : (k.settle n).2.registry = (q.settle m).2.registry := by
    rw [registry_settle, registry_settle, known]
  rw [settle_elsewhere]
  generalize k.settle n = settled at marks bindings pending registry ⊢
  generalize q.settle m = settled' at marks bindings pending registry ⊢
  obtain ⟨⟨_, _, _⟩, _, _⟩ := settled
  obtain rfl := marks
  obtain rfl := bindings
  obtain rfl := pending
  obtain rfl := registry
  rfl

theorem Source.Paired.refl (source : Source) : source.Paired source := by
  cases source with
  | failing reason => exact .failing reason
  | bytes content => exact .bytes (paired_of_tokens rfl)

end Markup

namespace Session

variable {s t : Session} {r q q' : Reader} {scope after after' : Scope} {visits : List Visit}
  {content content' : Forest} {nodes nodes' : List Node}
  {lexemes lexemes' inside inside' rest rest' : List Lexeme}

/-- Lexemes that are all read without a failure are so at any place. -/
theorem Traverses.elsewhere (passes : Traverses s r lexemes visits t q) (ok : s.hasFailed = false)
    (tokens : lexemes'.map (·.token) = lexemes.map (·.token)) (cursor : Cursor)
    (position : Position) : ∃ visits' cursor' position',
      Traverses (s.variant s.allowUnsupported position) (r.elsewhere cursor) lexemes' visits'
        (t.variant t.allowUnsupported position') (q.elsewhere cursor') := by
  induction passes generalizing lexemes' cursor position with
  | nil s r =>
    obtain rfl := List.map_eq_nil_iff.1 tokens
    exact ⟨[], cursor, position, .nil _ _⟩
  | @cons s t r k q lexeme rest scope node visits delivered started later ih =>
    obtain ⟨lexeme', rest', rfl, token, tokens⟩ := List.map_eq_cons_iff.1 tokens
    have answers := Reader.deliver_elsewhere (r := r) (s := s.scope) token cursor
    rw [delivered] at answers
    cases twin_readNode (s := s.withScope scope) ok node k.position
      (k.elsewhere (cursor.moveTo lexeme'.offset)).position with
    | fails m ok' problem isFailure position here there =>
      rw [hasFailed_of_eq_report isFailure here] at started
      cases started
    | goes ok' position there =>
      obtain ⟨visits', cursor', position', passes'⟩ := ih ok' tokens _ position
      rw [← there] at passes'
      exact ⟨_, cursor', position', .cons answers ((congrArg Session.hasFailed there).trans ok')
        passes'⟩

theorem deliverAll_elsewhere (r : Reader) (scope : Scope) (lexemes : List Lexeme) (cursor : Cursor) :
    ∃ cursor', deliverAll (r.elsewhere cursor) scope lexemes =
      (deliverAll r scope lexemes).map fun (nodes, q, after) => (nodes, q.elsewhere cursor', after) := by
  induction lexemes generalizing r scope cursor with
  | nil => exact ⟨cursor, rfl⟩
  | cons lexeme rest ih =>
    have answers := Reader.deliver_elsewhere (r := r) (s := scope) (rfl : lexeme.token = _) cursor
    unfold deliverAll
    rw [answers]
    rcases r.deliver scope lexeme with ⟨k, later, fault | _ | node⟩
    · exact ⟨cursor, rfl⟩
    · exact ⟨cursor, rfl⟩
    · obtain ⟨cursor', same⟩ := ih k later (cursor.moveTo lexeme.offset)
      refine ⟨cursor', ?_⟩
      dsimp only
      rw [same, Option.map_map, Option.map_map]
      rfl

/-- After the content of a tag the reader comes back to what was open before it. -/
theorem deliverAll_returns (content : Forest)
    (delivers : deliverAll r scope inside = some (nodes, q, after)) (spells : content.Spells nodes) :
    r.Returns scope q after := by
  induction content generalizing r q scope after inside nodes with
  | nil =>
    obtain rfl : nodes = [] := spells
    obtain ⟨-, same⟩ := deliverAll_nil delivers
    cases same
    exact ⟨rfl, rfl⟩
  | cons tag content others ihContent ihOthers =>
    obtain ⟨lexeme, later, r₁, scope₁, rfl, first, tagged⟩ := deliverAll_tag spells delivers
    split at tagged
    · rename_i isEmpty
      obtain ⟨-, _, spellsOthers, delivers⟩ := tagged
      exact (Reader.Returns.empty first isEmpty).trans (ihOthers delivers spellsOthers)
    · rename_i nonEmpty
      obtain ⟨_, _, _, _, _, _, _, _, _, _, rfl, spellsContent, delivers, ended, spellsOthers,
        delivers'⟩ := tagged
      exact (Reader.Returns.element first (Bool.eq_false_iff.2 nonEmpty)
        (ihContent delivers spellsContent) ended).trans (ihOthers delivers' spellsOthers)

/-- What is read next is read from where the reader has settled. -/
theorem readLexemes_settle (current : s.IsInDocument) (ok : s.hasFailed = false) (q : Reader)
    (scope : Scope) (position : Position) (lexeme : Lexeme) (rest : List Lexeme) :
    readLexemes (s.moved scope position) q (lexeme :: rest) =
      readLexemes (s.moved (q.settle scope).2 position) (q.settle scope).1 (lexeme :: rest) := by
  have going (scope : Scope) : ¬(s.moved scope position).hasFailed = true := by
    rw [show (s.moved scope position).hasFailed = s.hasFailed from rfl, ok]
    exact Bool.false_ne_true
  have onwards (first second : Scope) :
      (s.moved first position).withScope second = s.moved second position :=
    moved_moved s first second position position
  rw [readLexemes, if_neg (going _), readLexemes, if_neg (going _), scope_moved current,
    scope_moved current, Reader.deliver_settle]
  simp only [onwards]

/-- Two contents of a tag that is skipped, after which the same namespaces are known. -/
theorem readLexemes_otherContent (current : s.IsInDocument) (ok : s.hasFailed = false)
    (skipping : 0 < s.skipDepth) (delivers : deliverAll r s.scope inside = some (nodes, q, after))
    (delivers' : deliverAll r s.scope inside' = some (nodes', q', after'))
    (spells : content.Spells nodes) (spells' : content'.Spells nodes')
    (allowed : content.AllowedIn (parentTag s) = true)
    (allowed' : content'.AllowedIn (parentTag s) = true)
    (known : after'.registry = after.registry) {next next' : Lexeme}
    (tokens : (next' :: rest').map (·.token) = (next :: rest).map (·.token)) (cursor : Cursor)
    (position : Position) :
    Twin (readLexemes s r (inside ++ next :: rest))
      (readLexemes (s.variant s.allowUnsupported position) (r.elsewhere cursor)
        (inside' ++ next' :: rest')) := by
  obtain ⟨p, read⟩ := readLexemes_allowed content current ok skipping delivers spells allowed
    (next :: rest)
  obtain ⟨cursor', elsewhere⟩ := deliverAll_elsewhere r s.scope inside' cursor
  rw [delivers'] at elsewhere
  obtain ⟨p', read'⟩ := readLexemes_allowed content' (s := s.variant s.allowUnsupported position)
    current ok skipping elsewhere spells' allowed' (next' :: rest')
  -- The reader may have to drop the bindings of an empty tag after one content and not after the
  -- other; once it has settled, it stands alike after both.
  have settles := (deliverAll_returns content delivers spells).settle_eq
    (deliverAll_returns content' delivers' spells') known cursor'
  rw [read, read', readLexemes_settle current ok,
    readLexemes_settle (s := s.variant s.allowUnsupported position) current ok, settles]
  exact readLexemes_twin (s := s.moved (q.settle after).2 p) (Markup.paired_of_tokens tokens) ok _ _ p'

end Session

namespace Compilation

/-- Documents that differ in the content of a tag that is skipped are compiled alike. -/
theorem finish_otherContent (resolve : Resolver) (limit : Nat) {allowUnsupported : Bool}
    {location : String} {document document' : List UInt8}
    {before before' inside inside' rest rest' : List Lexeme} {next next' : Lexeme}
    (lexemes : (Lexed.ofDocument document).lexemes = before ++ (inside ++ next :: rest))
    (lexemes' : (Lexed.ofDocument document').lexemes = before' ++ (inside' ++ next' :: rest'))
    (earlier : before'.map (·.token) = before.map (·.token))
    (later : (next' :: rest').map (·.token) = (next :: rest).map (·.token))
    {s : Session} {r q q' : Reader} {visits : List Session.Visit}
    (passes : Session.Traverses (Session.start location allowUnsupported).beginDocument
      (Reader.ofDocument document) before visits s r)
    (skipping : 0 < s.skipDepth) {content content' : Session.Forest} {nodes nodes' : List Node}
    {after after' : Scope}
    (delivers : Session.deliverAll r s.scope inside = some (nodes, q, after))
    (delivers' : Session.deliverAll r s.scope inside' = some (nodes', q', after'))
    (spells : content.Spells nodes) (spells' : content'.Spells nodes')
    (allowed : content.AllowedIn s.parentTag = true)
    (allowed' : content'.AllowedIn s.parentTag = true)
    (known : after'.registry = after.registry) :
    (run resolve limit (start allowUnsupported (.bytes document) location)).finish.Alike
      (run resolve limit (start allowUnsupported (.bytes document') location)).finish := by
  have within := (Session.Reached.start location allowUnsupported).isInDocument
  obtain ⟨visits', cursor, position, passes'⟩ :=
    passes.elsewhere rfl earlier (Cursor.start document') {}
  have twin : Session.Twin (start allowUnsupported (.bytes document) location).session
      (start allowUnsupported (.bytes document') location).session := by
    change Session.Twin (Session.readLexemes _ _ (Lexed.ofDocument document).lexemes)
      (Session.readLexemes _ _ (Lexed.ofDocument document').lexemes)
    rw [lexemes, lexemes', passes.readLexemes_append rfl]
    have reads : Session.readLexemes _ (Reader.ofDocument document') _ = _ :=
      passes'.readLexemes_append rfl (inside' ++ next' :: rest')
    refine Eq.subst (motive := Session.Twin _) reads.symm ?_
    exact Session.readLexemes_otherContent (passes.isInDocument within) (passes.hasFailed rfl) skipping
      delivers delivers' spells spells' allowed allowed' known later cursor position
  exact finish_twin (run_twin (fun request => by cases resolve request <;> constructor; exact .refl _)
    limit ⟨twin, rfl⟩)

end Compilation

end XsdRecords
