import XsdRecords.Proofs.Compilation.Progress
import XsdRecords.Proofs.Compilation.Tolerance
import XsdRecords.Proofs.Compilation.WellFormed
import XsdRecords.Proofs.Generation.Renumbering
import XsdRecords.Proofs.Session.Completeness
import XsdRecords.Proofs.Session.Halfway
import XsdRecords.Proofs.Session.Pairs

/-! # Definitions in another order

A schema whose definitions stand in another order is compiled to the same records and enumerations, as
long as every attribute and every enumeration tag finds all that it looks at, in either order. -/

namespace XsdRecords

open XsdRecords.Declaration (Declarations ElementId Pairing Renumbers)
open XsdRecords.Markup (Balanced Cursor Lexed Lexeme Node Reader Scope StartTag Token)
open XsdRecords.Vocabulary (Tag)

namespace Session

variable {s b t : Session} {r k q : Reader} {tag : StartTag} {p : Position}

/-! ## The opening tag -/

/-- A session where the opening tag of the schema is read, and nothing else. -/
structure Begun (s b : Session) : Prop where
  declarations : b.declarations = s.declarations
  held : ∃ opened, Held b opened
  elementStack : b.elementStack = []
  typeStack : b.typeStack = []
  tagStack : b.tagStack = [.schema]
  skipDepth : b.skipDepth = 0
  current : b.worklist.current = s.worklist.current
  size : b.worklist.documents.size = s.worklist.documents.size

theorem begun_readNode (held : Held s []) (filled : tag.isEmpty = false)
    (ok : (readNode s (.start tag) p).hasFailed = false) : Begun s (readNode s (.start tag) p) := by
  obtain ⟨started, whole⟩ := readNode_start ok
  rw [filled, if_neg Bool.false_ne_true] at whole
  rw [whole]
  have isSchema := (held.isSchema started).1
  have reading : s.skipDepth = 0 := held.skipDepth
  have opened := (held.readStart started).held
  have reads : skippedTags ([s.opening tag p].map Opening.tag) = [] := by
    have schema : Tag.schema.entry.start ≠ .skip := by decide
    simp [skippedTags, opening, isSchema, schema]
  obtain ⟨own, only, -, elements, types⟩ := opened.holds.schema reads isSchema
  obtain rfl := (List.cons.inj only).1
  have alike := alike_noteAttributes s p tag.kind tag
  have opens : OpensSchema s ((tag.plain? "targetNamespace").getD "") (readStart s tag p) := by
    have performs := readStart_eq_perform reading started
    rw [performs] at started ⊢
    rw [isSchema] at started alike ⊢
    exact alike.opensSchema (done_of_perform ((startSchema_opens _ tag none none).imp
      (fun _ _ opens => opens) fun _ _ halts => halts.isFailure) started)
  refine ⟨opens.declarations, ⟨_, opened⟩, ?_, ?_, ?_, ?_, ?_, ?_⟩
  · rw [opened.elementStack, List.flatMap_singleton, elements]
  · rw [opened.typeStack, List.flatMap_singleton, types]
  · exact opened.tagStack.trans (congrArg (fun kind => [kind]) isSchema)
  · rw [opened.skipDepth, reads]
    rfl
  · obtain same | ⟨-, f, same, -⟩ := opens.worklist <;> rw [same]
    rfl
  · obtain same | ⟨-, f, same, -⟩ := opens.worklist <;> rw [same]
    exact Array.size_modify

/-! ## The end tag -/

/-- The end of the schema. -/
theorem readLexemes_end (ok : s.hasFailed = false) (inside : s.IsInDocument)
    (tagStack : s.tagStack = [.schema]) (skipDepth : s.skipDepth = 0) {last finish : Lexeme}
    {name : List UInt8} {label : String} (stops : last.token = .stop name)
    (finishes : finish.token = .finish) (decoded : Text.Utf8.decodeText name = .ok label) :
    (readLexemes s r [last, finish]).hasFailed = false ∧
      (readLexemes s r [last, finish]).declarations = s.declarations ∧
      s.worklist.Agrees (readLexemes s r [last, finish]).worklist := by
  have stop : ∃ k scope name, r.deliver s.scope last = (k, scope, .ok (some (.stop name))) := by
    unfold Reader.deliver
    dsimp only
    rw [stops]
    dsimp only
    rw [decoded]
    exact ⟨_, _, _, rfl⟩
  obtain ⟨k, scope, name, delivered⟩ := stop
  have closes : readNode (s.withScope scope) (.stop name) k.position =
      { s.withScope scope with position := k.position, tagStack := [] } := by
    have tags : ({ s.withScope scope with position := k.position } : Session).tagStack =
        [.schema] := tagStack
    have left : leaveTag .schema { s.withScope scope with position := k.position } =
        { s.withScope scope with position := k.position } :=
      if_neg (show ¬0 < s.skipDepth by rw [skipDepth]; exact Nat.lt_irrefl 0)
    refine (stopTag_of_cons tags).trans ?_
    rw [left, tags]
    rfl
  have finish : ∃ k' scope', k.deliver (readNode (s.withScope scope) (.stop name) k.position).scope
      finish = (k', scope', .ok none) := by
    unfold Reader.deliver
    dsimp only
    rw [finishes]
    exact ⟨_, _, rfl⟩
  obtain ⟨k', scope', finished⟩ := finish
  have ok' : (readNode (s.withScope scope) (.stop name) k.position).hasFailed = false := by
    rw [closes]
    exact ok
  rw [readLexemes_cons ok delivered, readLexemes_of_finish ok' finished, closes]
  have within := isInDocument_withScope inside scope
  exact ⟨ok, rfl, (Worklist.agrees_modifyCurrent inside _).trans
    (Worklist.agrees_modifyCurrent within _)⟩

/-! ## Definitions in another order -/

theorem exists_parts {α β : Type} {f : α → β} {l : List α} {blocks : List (List β)}
    (whole : l.map f = blocks.flatten) :
    ∃ parts : List (List α), parts.flatten = l ∧ parts.map (·.map f) = blocks := by
  induction blocks generalizing l with
  | nil => exact ⟨[], (List.map_eq_nil_iff.1 whole).symm, rfl⟩
  | cons block blocks ih =>
    obtain ⟨part, others, rfl, rfl, later⟩ := List.map_eq_append_iff.1 whole
    obtain ⟨parts, rfl, rfl⟩ := ih later
    exact ⟨part :: parts, rfl, rfl⟩

theorem exists_perm_of_map {α β : Type} {f : α → β} {l : List α} {images : List β}
    (perm : images.Perm (l.map f)) : ∃ l' : List α, l'.Perm l ∧ l'.map f = images := by
  have pairs : List.Forall₂ (fun b a => b = f a) (l.map f) l :=
    List.forall₂_map_left_iff.2 (List.forall₂_same.2 fun _ _ => rfl)
  obtain ⟨l', pairs', perm'⟩ := List.perm_comp_forall₂ perm pairs
  exact ⟨l', perm', (List.forall₂_eq_eq_eq ▸ List.forall₂_map_right_iff.2 pairs' :
    images = l'.map f).symm⟩

section Tour

variable {tour : Tour} {p : Pairing} {lexemes lexemes' : List Lexeme} {visits : List Visit}
  {blocks blocks' : List (List Token)}

/-- The top-level elements have the same names in both runs. -/
theorem Halfway.roots {legs : List (Leg tour)} (half : Halfway tour p t q)
    (laid : Laid tour tour.base tour.reader legs)
    (passed : ∀ leg ∈ legs, leg.Passed p t.declarations)
    (homed : tour.final.declarations.Homed tour.base.target tour.base.registry) :
    List.Forall₂ (Generation.RootPair p) tour.final.declarations.roots.toSorted
      t.declarations.roots.toSorted := by
  have place {d : Declarations} {symbol : Declaration.Symbol} {id : ElementId} :
      d.roots.find? symbol = some id ↔ d.place? ⟨.root false, symbol⟩ = some id.index := by
    change _ ↔ (d.roots.find? symbol).map ElementId.index = _
    rw [Option.map_eq_some_iff]
    exact ⟨fun found => ⟨id, found, rfl⟩, fun ⟨id', found, same⟩ =>
      Declarations.elementId_index_injective same ▸ found⟩
  have named {symbol : Declaration.Symbol} {id : ElementId}
      (found : tour.final.declarations.roots.find? symbol = some id) : ¬symbol.IsMadeUp := by
    intro made
    have target := homed.inTarget (place.1 found)
    rw [made.namespaceId] at target
    exact tour.firm.intact.target_ne_anonymous tour.firm.room target.symm
  have there {symbol : Declaration.Symbol} {id : ElementId}
      (found : tour.final.declarations.roots.find? symbol = some id) : ∃ id',
      t.declarations.roots.find? symbol = some id' ∧ ¬symbol.IsMadeUp ∧ p.element id id' := by
    obtain ⟨id', pair, -⟩ := half.exists_element laid passed id
      (tour.firm'.declarations.inRange.roots found)
    exact ⟨id', place.2 ((half.root pair).1 (place.1 found)), named found, pair⟩
  refine Declaration.SymbolTable.forall₂_toSorted
    (R := fun symbol id id' => ¬symbol.IsMadeUp ∧ p.element id id') there fun {symbol id'} found => ?_
  obtain ⟨id, pair⟩ := half.elements.covers' (half.intact'.inRange.roots found)
  exact ⟨id, place.2 ((half.root pair).2 (place.1 found))⟩

/-- A run over the same definitions in another order declares the same. -/
theorem Tour.permuted (tour : Tour)
    (passes : Traverses tour.base tour.reader lexemes visits tour.final q)
    (tokens : lexemes.map (·.token) = blocks.flatten) (balanced : ∀ block ∈ blocks, Balanced block)
    (orderly : ∀ v ∈ visits, v.IsOrderly) (timely : ∀ v ∈ visits, v.IsTimely)
    (perm : blocks'.Perm blocks) {s' : Session} {r' : Reader}
    (poised : Poised tour.base tour.reader s' r')
    (begun : s'.declarations = Declarations.initial)
    (tokens' : lexemes'.map (·.token) = blocks'.flatten) (rest' : List Lexeme)
    (room' : (readLexemes s' r' (lexemes' ++ rest')).registry.HasRoom)
    (timely' : ∀ v ∈ visitsOf s' r' (lexemes' ++ rest'), v.IsTimely) :
    ∃ visits' t' q' p, Traverses s' r' lexemes' visits' t' q' ∧
      Poised tour.base tour.reader t' q' ∧
        Renumbers p tour.final.declarations t'.declarations ∧
          List.Forall₂ (Generation.RootPair p) tour.final.declarations.roots.toSorted
            t'.declarations.roots.toSorted := by
  obtain ⟨parts, rfl, rfl⟩ := exists_parts tokens
  obtain ⟨legs, rfl, laid⟩ := tour.exists_legs passes tour.poised tour.held tour.firm (.refl _)
    (fun part member => balanced _ (List.mem_map_of_mem member)) orderly timely
  -- The first run is a second run of its own, so that all its legs are ready to be taken.
  obtain ⟨ready, fresh, homed⟩ := laid.ready (tour.halfway tour.poised tour.declarations)
    (tour.declarations ▸ homed_initial _ _) fun leg _ => tour.declarations ▸ tour.awaited leg
  rw [List.map_map] at perm
  obtain ⟨order, reordered, rfl⟩ := exists_perm_of_map perm
  have apart : order.Pairwise Leg.Apart := (reordered.pairwise_iff Leg.Apart.symm).2 laid.apart
  obtain ⟨visits', t', q', p, passes', half, within, passed⟩ :=
    (tour.halfway poised begun).journey (fun leg member => ready leg (reordered.mem_iff.1 member)) apart
      (fun leg _ => begun ▸ tour.awaited leg) (tokens'.trans (by rfl)) rest' room' timely'
  have passed (leg) (member : leg ∈ legs) := passed leg (reordered.mem_iff.2 member)
  have edits := passes'.edits (begun ▸ Declarations.inRange_initial)
  have edits₀ := tour.onwards.edits
  rw [Edited, begun] at edits
  rw [tour.declarations] at edits₀
  exact ⟨visits', t', q', p, passes', half.poised,
    half.renumbers laid passed within edits.precedes fresh
      (Declarations.Edits.pristine edits₀ Declarations.pristine_initial)
      (Declarations.Edits.pristine edits Declarations.pristine_initial),
    half.roots laid passed homed⟩

end Tour

/-! ## Whole documents -/

variable {location : String} {allowUnsupported : Bool} {content content' text name : List UInt8}
  {blocks blocks' : List (List Token)} {lexemes lexemes' mid : List Lexeme}
  {first last finish : Lexeme}

/-- The lexemes of a schema: its opening tag, its definitions, its end tag and the end. -/
theorem exists_lexemes (tokens : lexemes.map (·.token) =
      .start text false :: (blocks.flatten ++ [.stop name, .finish])) :
    ∃ first mid last finish, lexemes = first :: (mid ++ [last, finish]) ∧
      first.token = .start text false ∧ mid.map (·.token) = blocks.flatten ∧
        last.token = .stop name ∧ finish.token = .finish := by
  obtain ⟨first, others, rfl, opens, tokens⟩ := List.map_eq_cons_iff.1 tokens
  obtain ⟨mid, others, rfl, inner, tokens⟩ := List.map_eq_append_iff.1 tokens
  obtain ⟨last, others, rfl, stops, tokens⟩ := List.map_eq_cons_iff.1 tokens
  obtain ⟨finish, others, rfl, finishes, tokens⟩ := List.map_eq_cons_iff.1 tokens
  obtain rfl := List.map_eq_nil_iff.1 tokens
  exact ⟨first, mid, last, finish, rfl, opens, inner, stops, finishes⟩

/-- Reading a document has come past its opening tag. -/
structure Entered (s : Session) (content : List UInt8) (first : Lexeme) (tag : StartTag)
    (scope : Scope) (b : Session) (k : Reader) : Prop where
  delivered : (Reader.ofDocument content).deliver s.scope first =
    (k, scope, .ok (some (.start tag)))
  base : readNode (s.withScope scope) (.start tag) k.position = b
  ok : b.hasFailed = false

/-- Another document that starts with the same tag. -/
theorem Entered.again {scope : Scope} (entered : Entered s content first tag scope b k)
    (ok : s.hasFailed = false) {first' : Lexeme} (token : first'.token = first.token)
    (content' : List UInt8) :
    ∃ cursor position, Entered s content' first' tag scope (b.variant b.allowUnsupported position)
      (k.elsewhere cursor) := by
  obtain ⟨delivered, rfl, started⟩ := entered
  have answers := Reader.deliver_elsewhere (r := Reader.ofDocument content) (s := s.scope) token
    (Cursor.start content')
  rw [delivered] at answers
  have twin := twin_readNode (s := s.withScope scope) ok (.start tag) k.position
    (k.elsewhere ((Cursor.start content').moveTo first'.offset)).position
  cases twin with
  | fails m ok' problem isFailure position here there =>
    rw [hasFailed_of_eq_report isFailure here] at started
    cases started
  | goes ok' position there => exact ⟨_, position, answers, there, ok'⟩

/-- What differs in its place alone is as poised. -/
theorem Tour.poised_elsewhere (tour : Tour) (cursor : Cursor) (position : Position) :
    Poised tour.base tour.reader (tour.base.variant tour.base.allowUnsupported position)
      (tour.reader.elsewhere cursor) := by
  have poised := tour.poised
  refine ⟨⟨?_, ?_⟩, poised.ok, poised.inside, rfl, rfl, rfl, poised.elementStack, poised.typeStack,
    .refl _, .refl⟩ <;> rw [Reader.settle_elsewhere] <;> rfl

/-- The end tag of a schema that is read without a failure. -/
theorem exists_label (ok : s.hasFailed = false) (stops : last.token = .stop name) {rest : List Lexeme}
    (read : (readLexemes s r (last :: rest)).hasFailed = false) :
    ∃ label, Text.Utf8.decodeText name = .ok label := by
  cases decoded : Text.Utf8.decodeText name with
  | ok label => exact ⟨label, rfl⟩
  | error fault =>
    have delivered : ∃ k scope, r.deliver s.scope last = (k, scope, .error (.utf8 fault)) := by
      unfold Reader.deliver
      dsimp only
      rw [stops]
      dsimp only
      rw [decoded]
      exact ⟨_, _, rfl⟩
    obtain ⟨k, scope, delivered⟩ := delivered
    rw [readLexemes_of_fault ok delivered, hasFailed_report_of_fails _ rfl] at read
    cases read

/-- Two runs from a session that declare the same, under other numbers, and name no documents. -/
structure Likewise (start s s' : Session) : Prop where
  ok : s'.hasFailed = false
  worklist : s.worklist.Agrees s'.worklist
  current : s.worklist.current = start.worklist.current
  size : s.worklist.documents.size = start.worklist.documents.size
  renumbered : ∃ p, Renumbers p s.declarations s'.declarations ∧
    List.Forall₂ (Generation.RootPair p) s.declarations.roots.toSorted s'.declarations.roots.toSorted

/-- What a document reads after its opening tag. -/
theorem Entered.reads {scope : Scope} (entered : Entered s content first tag scope b k)
    (ok : s.hasFailed = false) (rest : List Lexeme) :
    readLexemes s (Reader.ofDocument content) (first :: rest) = readLexemes b k rest ∧
      (visitsOf s (Reader.ofDocument content) (first :: rest)).tail = visitsOf b k rest := by
  obtain ⟨delivered, rfl, ok'⟩ := entered
  have passes := Traverses.cons delivered ok' (.nil _ _)
  refine ⟨passes.readLexemes_append ok rest, ?_⟩
  rw [show first :: rest = [first] ++ rest from rfl, passes.visitsOf_append ok rest]
  rfl

/-- A run over a schema is a tour. -/
theorem exists_tour (held : Held s []) (firm : Firm s) (begun : s.declarations = Declarations.initial)
    (opens : first.token = .start text false) (inner : mid.map (·.token) = blocks.flatten)
    (balanced : ∀ block ∈ blocks, Balanced block) {rest : List Lexeme}
    (room : (readLexemes s (Reader.ofDocument content) (first :: (mid ++ rest))).registry.HasRoom)
    (orderly : ∀ v ∈ (visitsOf s (Reader.ofDocument content) (first :: (mid ++ rest))).tail,
      v.IsOrderly)
    (ok : (readLexemes s (Reader.ofDocument content) (first :: (mid ++ rest))).hasFailed = false) :
    ∃ (tour : Tour) (scope : Scope) (tag : StartTag) (visits : List Visit) (q : Reader),
      Entered s content first tag scope tour.base tour.reader ∧
      Begun (s.withScope scope) tour.base ∧
      Traverses tour.base tour.reader mid visits tour.final q := by
  have unfailed := hasFailed_of_readLexemes _ ok
  have tags : ∀ lexeme ∈ first :: mid, lexeme.token.IsTag := by
    refine List.forall_mem_cons.2 ⟨by rw [opens]; trivial, fun lexeme member => ?_⟩
    refine (Markup.Balanced.flatten balanced).isTag _ ?_
    rw [← inner]
    exact List.mem_map_of_mem member
  obtain ⟨visits, t, q, passes⟩ := exists_traverses tags
    (show (readLexemes s _ ((first :: mid) ++ rest)).hasFailed = false from ok)
  have room' : t.registry.HasRoom := by
    rw [show first :: (mid ++ rest) = (first :: mid) ++ rest from rfl,
      passes.readLexemes_append unfailed] at room
    exact room.of_grows (grows_readLexemes rest (passes.isInDocument firm.inside))
  obtain ⟨firm', firms⟩ := passes.firm firm room'
  cases passes with
  | @cons _ _ _ k _ _ _ scope node visits delivered started later =>
    obtain ⟨tag, rfl, filled⟩ := Reader.eq_start_of_token opens delivered
    have entered : Entered s content first tag scope _ k := ⟨delivered, rfl, started⟩
    have opened := begun_readNode (held.untouched (untouched_withScope s scope)) filled started
    obtain ⟨top, held'⟩ := opened.held
    have firm_base := (firms _ List.mem_cons_self).2
    rw [(entered.reads unfailed _).2, later.visitsOf_append started] at orderly
    exact ⟨{
      base := _
      reader := k
      opened := top
      final := t
      declarations := opened.declarations.trans begun
      ok := started
      elementStack := opened.elementStack
      typeStack := opened.typeStack
      held := held'
      firm := firm_base
      firm' := firm'
      onwards := later.onwards firm_base room' fun v member =>
        orderly v (List.mem_append_left _ member) }, scope, tag, visits, q, entered, opened, later⟩

/-- Two runs over the same definitions in different orders declare the same. -/
theorem readLexemes_permuted (held : Held s []) (firm : Firm s)
    (begun : s.declarations = Declarations.initial)
    (tokens : lexemes.map (·.token) =
      .start text false :: (blocks.flatten ++ [.stop name, .finish]))
    (tokens' : lexemes'.map (·.token) =
      .start text false :: (blocks'.flatten ++ [.stop name, .finish]))
    (balanced : ∀ block ∈ blocks, Balanced block) (perm : blocks'.Perm blocks)
    (room : (readLexemes s (Reader.ofDocument content) lexemes).registry.HasRoom)
    (room' : (readLexemes s (Reader.ofDocument content') lexemes').registry.HasRoom)
    (orderly : ∀ v ∈ (visitsOf s (Reader.ofDocument content) lexemes).tail, v.IsOrderly)
    (timely : ∀ v ∈ (visitsOf s (Reader.ofDocument content) lexemes).tail, v.IsTimely)
    (timely' : ∀ v ∈ (visitsOf s (Reader.ofDocument content') lexemes').tail, v.IsTimely)
    (ok : (readLexemes s (Reader.ofDocument content) lexemes).hasFailed = false) :
    Likewise s (readLexemes s (Reader.ofDocument content) lexemes)
      (readLexemes s (Reader.ofDocument content') lexemes') := by
  obtain ⟨first, mid, last, finish, rfl, opens, inner, stops, finishes⟩ := exists_lexemes tokens
  obtain ⟨first', mid', last', finish', rfl, opens', inner', stops', finishes'⟩ :=
    exists_lexemes tokens'
  have unfailed := hasFailed_of_readLexemes _ ok
  obtain ⟨tour, scope, tag, visits, q, entered, opened, passes⟩ :=
    exists_tour held firm begun opens inner balanced room orderly ok
  obtain ⟨cursor, position, entered'⟩ :=
    entered.again unfailed (opens'.trans opens.symm) content'
  obtain ⟨read, visited⟩ := entered.reads unfailed (mid ++ [last, finish])
  obtain ⟨read', visited'⟩ := entered'.reads unfailed (mid' ++ [last', finish'])
  rw [read, passes.readLexemes_append entered.ok] at ok ⊢
  rw [visited, passes.visitsOf_append entered.ok] at orderly timely
  rw [read'] at room' ⊢
  rw [visited'] at timely'
  have orderly (v : Visit) (member : v ∈ visits) := orderly v (List.mem_append_left _ member)
  have timely (v : Visit) (member : v ∈ visits) := timely v (List.mem_append_left _ member)
  have poised' := tour.poised_elsewhere cursor position
  obtain ⟨visits', t', q', p, passes', half, renumbers, roots⟩ := tour.permuted passes inner balanced
    orderly timely perm poised' tour.declarations inner' [last', finish'] room' timely'
  obtain ⟨poised, -⟩ := tour.poised.passes passes (inner ▸ Markup.Balanced.flatten balanced) tour.held
    orderly
  obtain ⟨label, decoded⟩ := exists_label poised.ok stops ok
  obtain ⟨-, declarations, agrees⟩ := readLexemes_end (r := q) poised.ok poised.inside
    (poised.tagStack.trans opened.tagStack) (poised.skipDepth.trans opened.skipDepth) stops finishes
    decoded
  obtain ⟨ok', declarations', agrees'⟩ := readLexemes_end (r := q') half.ok half.inside
    (half.tagStack.trans opened.tagStack) (half.skipDepth.trans opened.skipDepth) stops' finishes'
    decoded
  rw [passes'.readLexemes_append poised'.ok]
  have kept := poised.worklist.trans agrees
  refine ⟨ok', kept.symm.trans (half.worklist.trans agrees'), kept.current.trans opened.current,
    kept.size.trans (opened.size.trans Array.size_modify), p, ?_⟩
  rw [declarations, declarations']
  exact ⟨renumbers, roots⟩

end Session

namespace Compilation

variable {c c' : Compilation}

/-- A compilation that has read all its documents. -/
theorem run_of_last (resolve : Resolver) (limit : Nat)
    (last : ¬c.session.worklist.current + 1 < c.session.worklist.documents.size) :
    run resolve limit c = c := by
  cases limit with
  | zero => rfl
  | succ limit => rw [run, request?_eq_none_iff.2 (.inr last)]

theorem exists_ok (ok : c.session.hasFailed = false)
    (generated : (Generation.run c.session.generation).hasFailed = false) :
    ∃ compiled, c.finish.result = .ok compiled := by
  have generated : c.session.generate.1.hasFailed = false := generated
  unfold finish
  dsimp only
  rw [if_neg (Bool.eq_false_iff.1 ok), if_neg (Bool.eq_false_iff.1 generated)]
  exact ⟨_, rfl⟩

/-- What is generated from declarations under other numbers is delivered alike. -/
theorem finish_likewise {s : Session} (likewise : s.Likewise c.session c'.session) {compiled : Compiled}
    (delivers : c.finish.result = .ok compiled) :
    ∃ compiled', c'.finish.result = .ok compiled' ∧ compiled'.schema = compiled.schema := by
  obtain ⟨p, renumbers, roots⟩ := likewise.renumbered
  have alongside : Generation.Alongside p c.session.generation c'.session.generation :=
    ⟨renumbers, rfl, likewise.ok.trans (hasFailed_of_finish_eq_ok delivers).symm⟩
  obtain ⟨schema, failed⟩ := alongside.run roots
  obtain ⟨generated, own⟩ := finish_eq_ok delivers
  obtain ⟨compiled', delivers'⟩ := exists_ok likewise.ok (failed.trans generated)
  exact ⟨compiled', delivers', by rw [own, schema, (finish_eq_ok delivers').2]⟩

/-- A schema whose definitions stand in another order is compiled to the same records and
enumerations. -/
theorem compile_permuted {allowUnsupported : Bool} {library : Library} {location : String}
    {content content' text name : List UInt8} {blocks blocks' : List (List Token)}
    (tokens : (Lexed.ofDocument content).lexemes.map (·.token) =
      .start text false :: (blocks.flatten ++ [.stop name, .finish]))
    (tokens' : (Lexed.ofDocument content').lexemes.map (·.token) =
      .start text false :: (blocks'.flatten ++ [.stop name, .finish]))
    (balanced : ∀ block ∈ blocks, Balanced block) (perm : blocks'.Perm blocks)
    (room : ((Session.start location allowUnsupported).readDocument
      (.bytes content)).registry.HasRoom)
    (room' : ((Session.start location allowUnsupported).readDocument
      (.bytes content')).registry.HasRoom)
    (orderly : ∀ v ∈ ((Session.start location allowUnsupported).visits (.bytes content)).tail,
      v.IsOrderly)
    (timely : ∀ v ∈ ((Session.start location allowUnsupported).visits (.bytes content)).tail,
      v.IsTimely)
    (timely' : ∀ v ∈ ((Session.start location allowUnsupported).visits (.bytes content')).tail,
      v.IsTimely) {compiled : Compiled}
    (delivers : (compile allowUnsupported library (.bytes content) location).result = .ok compiled) :
    ∃ compiled', (compile allowUnsupported library (.bytes content') location).result =
      .ok compiled' ∧ compiled'.schema = compiled.schema := by
  have reached := Session.Reached.start location allowUnsupported
  have inside : (Session.start location allowUnsupported).beginDocument.IsInDocument :=
    reached.isInDocument
  have lawful := reached.lawful rfl rfl
  have held : Session.Held (Session.start location allowUnsupported).beginDocument [] :=
    ⟨lawful.untouched rfl rfl rfl, rfl, rfl, rfl, rfl, .nil⟩
  have intact := Session.intact_start location allowUnsupported
  have firm : Session.Firm (Session.start location allowUnsupported).beginDocument :=
    ⟨⟨intact.declarations, intact.elementStack, intact.typeStack, intact.known⟩,
      Session.standing_beginDocument lawful rfl rfl, inside,
      room.of_grows (Session.grows_readLexemes _ inside)⟩
  have unfailed := unfailed_of_run (hasFailed_of_finish_eq_ok delivers)
  have likewise : Session.Likewise (Session.start location allowUnsupported).beginDocument
      (start allowUnsupported (.bytes content) location).session
      (start allowUnsupported (.bytes content') location).session :=
    Session.readLexemes_permuted held firm rfl tokens tokens' balanced perm room room' orderly timely
      timely' unfailed
  have last : ¬(start allowUnsupported (.bytes content) location).session.worklist.current + 1 <
      (start allowUnsupported (.bytes content) location).session.worklist.documents.size := by
    rw [likewise.current, likewise.size]
    exact Nat.lt_irrefl 1
  have last' : ¬(start allowUnsupported (.bytes content') location).session.worklist.current + 1 <
      (start allowUnsupported (.bytes content') location).session.worklist.documents.size := by
    rw [likewise.worklist.current, likewise.worklist.size]
    exact last
  unfold compile at delivers ⊢
  rw [run_of_last _ _ last] at delivers
  rw [run_of_last _ _ last']
  exact finish_likewise likewise delivers

/-- The tokens of an element of type `T`. -/
def rootTokens : List Token :=
  [.start (Text.Utf8.encodeText "x:element name='E' type='T'") true]

/-- The tokens of the complex type `T`, with an attribute of type `S`. -/
def recordTokens : List Token :=
  [.start (Text.Utf8.encodeText "x:complexType name='T'") false,
    .start (Text.Utf8.encodeText "x:attribute name='a' type='S'") true,
    .stop (Text.Utf8.encodeText "x:complexType")]

/-- The tokens of the simple type `S`, with an enumerator. -/
def enumerationTokens : List Token :=
  [.start (Text.Utf8.encodeText "x:simpleType name='S'") false,
    .start (Text.Utf8.encodeText "x:restriction base='x:string'") false,
    .start (Text.Utf8.encodeText "x:enumeration value='v'") true,
    .stop (Text.Utf8.encodeText "x:restriction"), .stop (Text.Utf8.encodeText "x:simpleType")]

/-- A schema where each definition stands before those that it refers to. -/
def usesFirst : List UInt8 :=
  ["<x:schema xmlns:x='http://www.w3.org/2001/XMLSchema'>", "<x:element name='E' type='T'/>",
    "<x:complexType name='T'>", "<x:attribute name='a' type='S'/>", "</x:complexType>",
    "<x:simpleType name='S'>", "<x:restriction base='x:string'>", "<x:enumeration value='v'/>",
    "</x:restriction>", "</x:simpleType>", "</x:schema>"].flatMap Text.Utf8.encodeText

/-- The same schema, where each definition stands after those that it refers to. -/
def usesLast : List UInt8 :=
  ["<x:schema xmlns:x='http://www.w3.org/2001/XMLSchema'>", "<x:simpleType name='S'>",
    "<x:restriction base='x:string'>", "<x:enumeration value='v'/>", "</x:restriction>",
    "</x:simpleType>", "<x:complexType name='T'>", "<x:attribute name='a' type='S'/>",
    "</x:complexType>", "<x:element name='E' type='T'/>", "</x:schema>"].flatMap
      Text.Utf8.encodeText

set_option maxRecDepth 100000 in
theorem compile_permuted_usesLast : ∃ compiled compiled',
    (compile false [] (.bytes usesFirst) "").result = .ok compiled ∧
      (compile false [] (.bytes usesLast) "").result = .ok compiled' ∧
        compiled'.schema = compiled.schema := by
  obtain ⟨compiled, delivers⟩ : ∃ compiled,
      (compile false [] (.bytes usesFirst) "").result = .ok compiled :=
    exists_eq_ok_of_isOk (by decide +kernel)
  have balanced : ∀ block ∈ [rootTokens, recordTokens, enumerationTokens], Balanced block := by
    simp only [List.forall_mem_cons, List.not_mem_nil, false_implies, implies_true, and_true]
    exact ⟨.empty _ .nil, .element _ _ (.empty _ .nil) .nil,
      .element _ _ (.element _ _ (.empty _ .nil) .nil) .nil⟩
  have tokens : (Lexed.ofDocument usesFirst).lexemes.map (·.token) =
      .start (Text.Utf8.encodeText "x:schema xmlns:x='http://www.w3.org/2001/XMLSchema'") false ::
        ([rootTokens, recordTokens, enumerationTokens].flatten ++
          [.stop (Text.Utf8.encodeText "x:schema"), .finish]) := by decide +kernel
  have tokens' : (Lexed.ofDocument usesLast).lexemes.map (·.token) =
      .start (Text.Utf8.encodeText "x:schema xmlns:x='http://www.w3.org/2001/XMLSchema'") false ::
        ([enumerationTokens, recordTokens, rootTokens].flatten ++
          [.stop (Text.Utf8.encodeText "x:schema"), .finish]) := by decide +kernel
  have first : ((Session.start "" false).readDocument (.bytes usesFirst)).registry.HasRoom ∧
      ∀ v ∈ ((Session.start "" false).visits (.bytes usesFirst)).tail, v.IsOrderly ∧ v.IsTimely := by
    decide +kernel
  have second : ((Session.start "" false).readDocument (.bytes usesLast)).registry.HasRoom ∧
      ∀ v ∈ ((Session.start "" false).visits (.bytes usesLast)).tail, v.IsTimely := by decide +kernel
  obtain ⟨compiled', delivers', same⟩ := compile_permuted tokens tokens' balanced
    (List.reverse_perm [rootTokens, recordTokens, enumerationTokens]) first.1 second.1
    (fun v member => (first.2 v member).1) (fun v member => (first.2 v member).2) second.2 delivers
  exact ⟨compiled, compiled', delivers, delivers', same⟩

end Compilation

end XsdRecords
