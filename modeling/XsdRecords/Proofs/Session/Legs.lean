import XsdRecords.Proofs.Session.Intact
import XsdRecords.Proofs.Session.Paces
import XsdRecords.Proofs.Session.Redefinition

/-! # The legs of a run

What a run has declared it keeps: `Onwards`.  What is closed stays as it is, what is open is closed
when it is defined, and a type keeps the base that it has, as long as no derivation tag finds its
type with a base and each type is defined when its tag ends.

Between its opening tag and the end tag of a schema a run reads one definition after another.  Each is
a leg of the run: it starts where nothing is open but the schema, and comes back there. -/

namespace XsdRecords.Session

open XsdRecords.Declaration (Arena Stretch Declarations Element ElementId Pairing Part TypeDef TypeId
  blankType)
open XsdRecords.Declaration.Declarations (Edits)
open XsdRecords.Markup (Balanced Lexeme Node Reader Scope StartTag)
open XsdRecords.Vocabulary (Tag)
open XsdRecords.Action

variable {b s m t : Session} {r₀ r k q : Reader} {lexemes : List Lexeme} {visits : List Visit}

/-! ## Sessions whose tables are in order -/

/-- A session in a document whose tables, stacks and namespaces are in order. -/
structure Firm (s : Session) : Prop where
  intact : Intact s
  standing : Standing s
  inside : s.IsInDocument
  room : s.registry.HasRoom

namespace Firm

theorem declarations (firm : Firm s) : s.declarations.Intact True :=
  { firm.intact.declarations with minted := fun _ => firm.intact.declarations.minted firm.room }

/-- The name that is made up next is free. -/
theorem tagFree (firm : Firm s) (tag : StartTag) : TagFree s tag := fun _ _ id found => by
  have new : s.declarations.typeTable.find? s.declarations.anonymousSymbol.2 = none :=
    (firm.declarations.minted trivial).new
  rw [new] at found
  cases found

theorem withScope (firm : Firm s) (r : Reader) (lexeme : Lexeme)
    (room : (r.deliver s.scope lexeme).2.1.registry.HasRoom) :
    Firm (s.withScope (r.deliver s.scope lexeme).2.1) :=
  ⟨firm.intact.deliver r lexeme, firm.standing.untouched (untouched_withScope _ _),
    isInDocument_withScope firm.inside _, room⟩

theorem readNode (firm : Firm s) {node : Node} {position : Position}
    (ok : (Session.readNode s node position).hasFailed = false)
    (room : (Session.readNode s node position).registry.HasRoom) :
    Firm (Session.readNode s node position) :=
  ⟨(keptByActions_intact.keptByReading fun r lexeme intact => intact.deliver r lexeme).readNode
      firm.intact node position,
    firm.standing.readNode (fun tag _ => firm.tagFree tag) ok,
    (keepsScope_readNode firm.inside node position).isInDocument firm.inside, room⟩

theorem named (firm : Firm s) {entry : String × NamespaceId}
    (member : entry ∈ s.scope.bindings.entries) : entry.2 ≠ .anonymous :=
  have ⟨_, registered⟩ := (firm.intact.known _).bindings entry member
  firm.room.ne_anonymous registered

end Firm

theorem Traverses.grows (passes : Traverses s r lexemes visits t q) (inside : s.IsInDocument) :
    s.registry.Grows t.registry := by
  induction passes with
  | nil => exact .refl
  | @cons s t r k q lexeme rest scope node visits delivered _ _ ih =>
    have within := isInDocument_withScope inside scope
    have first := r.grows_deliver s.scope lexeme
    rw [delivered] at first
    have kept := keepsScope_readNode within node k.position
    exact first.trans (kept.grows.trans (ih (kept.isInDocument within)))

/-- A pass keeps the tables in order. -/
theorem Traverses.firm (passes : Traverses s r lexemes visits t q) (firm : Firm s)
    (room : t.registry.HasRoom) : Firm t ∧ ∀ v ∈ visits, Firm v.session ∧ Firm v.after := by
  induction passes with
  | nil => exact ⟨firm, by simp⟩
  | @cons s t r k q lexeme rest scope node visits delivered ok later ih =>
    have within := isInDocument_withScope firm.inside scope
    have kept := keepsScope_readNode within node k.position
    have roomAfter := room.of_grows (later.grows (kept.isInDocument within))
    have begun : Firm (s.withScope scope) := by
      have delivers := firm.withScope r lexeme
      rw [delivered] at delivers
      exact delivers (roomAfter.of_grows kept.grows)
    have after := begun.readNode ok roomAfter
    obtain ⟨last, all⟩ := ih after room
    exact ⟨last, List.forall_mem_cons.2 ⟨⟨begun, after⟩, all⟩⟩

/-! ## What a tag leads to -/

/-- What is declared stays so, and what is closed stays as it is. -/
structure Onwards (s t : Session) : Prop where
  edits : Edits s.declarations t.declarations
  preserves : Preserves s t
  element {id : ElementId} : id ∈ s.elementStack →
    id ∈ t.elementStack ∨ (t.declarations.element id).isDefined = true
  type {id : TypeId} : id ∈ s.typeStack →
    id ∈ t.typeStack ∨ (t.declarations.type id).isDefined = true
  base {id base : TypeId} : (s.declarations.type id).base = some base →
    (t.declarations.type id).base = some base

namespace Onwards

theorem refl (s : Session) : Onwards s s :=
  ⟨.refl, .refl s, .inl, .inl, id⟩

theorem trans (first : Onwards s m) (second : Onwards m t) : Onwards s t where
  edits := first.edits.trans second.edits
  preserves := first.preserves.trans second.preserves
  element isOpen := (first.element isOpen).elim second.element fun defined =>
    .inr (second.edits.isDefined_element defined)
  type isOpen := (first.type isOpen).elim second.type fun defined =>
    .inr (second.edits.precedes.isDefined_type defined)
  base own := second.base (first.base own)

theorem untouched (untouched : Untouched s t) : Onwards s t where
  edits := by rw [untouched.declarations]
  preserves := untouched.preserves
  element isOpen := .inl (untouched.sameStacks.elementStack ▸ isOpen)
  type isOpen := .inl (untouched.sameStacks.typeStack ▸ isOpen)
  base own := untouched.declarations ▸ own

end Onwards

/-- A derivation leaves the bases that there are, if the innermost open type has none. -/
theorem startDerivation_keepsBases (underived : Underived s) (tag : StartTag) (isList : Bool) :
    (startDerivation tag isList).Ends s
      (fun _ s' => ∀ type base, (s.declarations.type type).base = some base →
        (s'.declarations.type type).base = some base) Fails := by
  simp only [startDerivation, ends_bind, ends_get]
  split
  · split <;> rfl
  · rename_i own rest opened
    split
    · simp only [ends_bind]
      refine (findType_keepsBases s _).imp ?_ fun _ _ fails => fails
      intro base m kept
      simp only [ends_declarations, ends_ite, ends_bind, ends_throw, ends_note, ends_modifyType]
      split
      · rfl
      · intro type base known
        have other : own ≠ type := by
          rintro rfl
          rw [underived own (by rw [opened]; rfl)] at known
          cases known
        rw [← kept type] at known
        exact (congrArg Declaration.TypeDef.base (Declarations.type_modifyType_of_ne other _)).trans
          known
    · split <;> rfl

/-- A start tag leaves the bases that there are. -/
theorem startAction_keepsBases (lawful : Lawful s) (tag : StartTag) {kind : Tag}
    (underived : kind = .restriction ∨ kind = .extension ∨ kind = .list → Underived s) :
    (startAction kind tag).Ends s
      (fun _ s' => ∀ type base, (s.declarations.type type).base = some base →
        (s'.declarations.type type).base = some base) Fails := by
  have silent {s' : Session} (kept : KeptBases s s') (type base : TypeId)
      (own : (s.declarations.type type).base = some base) :
      (s'.declarations.type type).base = some base := (kept type).trans own
  refine startAction_cases (fun _ _ _ _ own => own) (fun _ _ same => silent same.keptBases)
    (fun _ => ?_) (fun _ => ?_) (fun _ => ?_) (fun derives => ?_) fun _ => ?_
  · exact (startElement_keepsBases lawful tag _).imp_done fun _ _ => silent
  · exact (startGroup_keepsBases s tag kind).imp_done fun _ _ => silent
  · exact (startType_keepsBases s tag kind).imp_done fun _ _ => silent
  · exact startDerivation_keepsBases (underived derives) tag _
  · exact (startEnumerator_keepsBases s tag).imp_done fun _ _ => silent

/-- Reading a start tag leads onwards. -/
theorem Firm.readStart_onwards (firm : Firm s) {tag : StartTag} {position : Position}
    (ok : (readStart s tag position).hasFailed = false)
    (underived : s.skipDepth = 0 →
      tag.kind = .restriction ∨ tag.kind = .extension ∨ tag.kind = .list → Underived s) :
    Onwards s (readStart s tag position) := by
  have lawful := firm.standing.lawful
  have edits := readStart_edits lawful.inRange tag position
  have preserves := firm.standing.preserves_readStart (firm.tagFree tag) ok
  have element {id : ElementId} (isOpen : id ∈ s.elementStack) :=
    (readStart_read s tag position).closes lawful.listed edits ok isOpen
  by_cases reading : s.skipDepth = 0
  · refine ⟨edits, preserves, element, fun isOpen => .inl ?_, fun {id base} own => ?_⟩
    · obtain ⟨m, marks, started⟩ := firm.standing.started reading (firm.tagFree tag) ok
      rw [← marks.typeStack] at isOpen
      by_cases skips : tag.kind.entry.start = .skip
      · rw [(started.skips skips).typeStack]
        exact isOpen
      · obtain ⟨types, elements, opens⟩ := started.opens skips
        rw [opens.typeStack]
        exact List.mem_append_right _ isOpen
    · obtain ⟨m, marks, whole⟩ := readStart_of_reading reading ok
      have ok' := ok
      rw [whole] at ok' ⊢
      rw [← marks.declarations] at own
      have underived' (derives : tag.kind = .restriction ∨ tag.kind = .extension ∨ tag.kind = .list) :
          Underived m := by
        unfold Underived
        rw [marks.typeStack, marks.declarations]
        exact underived reading derives
      exact done_of_perform (P := fun s' => ∀ type base, (m.declarations.type type).base = some base →
        (s'.declarations.type type).base = some base)
        (startAction_keepsBases (marks.lawful lawful) tag underived') ok' id base own
  · obtain ⟨-, whole⟩ := readStart_eq_of_ok ok
    rw [if_pos (Nat.pos_of_ne_zero reading)] at whole
    refine ⟨edits, preserves, element, ?_, ?_⟩ <;> rw [whole]
    · exact .inl
    · exact fun own => own

/-- Reading an end tag leads onwards. -/
theorem Firm.readStop_onwards (firm : Firm s) {position : Position}
    (ok : (readStop s position).hasFailed = false)
    (fills : ∀ type ∈ s.typeStack, type ∉ (readStop s position).typeStack →
      ((readStop s position).declarations.type type).isDefined = true) :
    Onwards s (readStop s position) where
  edits := readStop_edits s position
  preserves := (firm.standing.readStop ok).2.preserves
  element isOpen := (readStop_read s ⟨"", .none, ""⟩ position).closes firm.standing.lawful.listed
    (readStop_edits s position) ok isOpen
  type {id} isOpen := Classical.or_iff_not_imp_left.2 (fills id isOpen)
  base own := declarations_readStop s position ▸ own

/-! ## What a node leads to -/

/-- What is asked of the nodes of a run: none of them opens, includes or imports a schema, no
derivation finds its type with a base, and each type is defined when its tag ends. -/
structure Visit.IsOrderly (v : Visit) : Prop where
  local_ (tag : StartTag) : v.node = .start tag → v.session.skipDepth = 0 →
    tag.kind ≠ .schema ∧ tag.kind ≠ .importTag ∧ tag.kind ≠ .includeTag
  underived (tag : StartTag) : v.node = .start tag → v.session.skipDepth = 0 →
    tag.kind = .restriction ∨ tag.kind = .extension ∨ tag.kind = .list → Underived v.session
  fills : ∀ type ∈ v.opened.typeStack, type ∉ v.after.typeStack →
    (v.after.declarations.type type).isDefined = true

instance : DecidablePred Visit.IsOrderly := fun v =>
  decidable_of_iff ((∀ tag, v.node = .start tag → v.session.skipDepth = 0 →
      tag.kind ≠ .schema ∧ tag.kind ≠ .importTag ∧ tag.kind ≠ .includeTag) ∧
    (∀ tag, v.node = .start tag → v.session.skipDepth = 0 →
      tag.kind = .restriction ∨ tag.kind = .extension ∨ tag.kind = .list → Underived v.session) ∧
    ∀ type ∈ v.opened.typeStack, type ∉ v.after.typeStack →
      (v.after.declarations.type type).isDefined = true)
    ⟨fun ⟨local_, underived, fills⟩ => ⟨local_, underived, fills⟩,
      fun ⟨local_, underived, fills⟩ => ⟨local_, underived, fills⟩⟩

/-- Reading a node leads onwards, first to where an empty tag ends. -/
theorem Firm.visit_onwards {v : Visit} (firm : Firm v.session) (orderly : v.IsOrderly)
    (ok : v.after.hasFailed = false) (room : v.after.registry.HasRoom) :
    Onwards v.session v.opened ∧ Onwards v.opened v.after := by
  obtain ⟨s, node, p⟩ := v
  obtain ⟨-, underived, fills⟩ := orderly
  cases node with
  | stop name => exact ⟨.refl s, firm.readStop_onwards ok fills⟩
  | start tag =>
    obtain ⟨started, whole⟩ := readNode_start ok
    have begins := firm.readStart_onwards started (underived tag rfl)
    refine ⟨begins, ?_⟩
    have whole : Visit.after ⟨s, .start tag, p⟩ = _ := whole
    cases empty : tag.isEmpty with
    | false =>
      rw [empty] at whole
      rw [whole]
      exact .refl _
    | true =>
      rw [empty, if_pos rfl] at whole
      rw [whole] at ok fills room ⊢
      have kept := (readStart_read s tag p).keepsScope firm.inside
      have inside := kept.isInDocument firm.inside
      have opened : Firm (readStart s tag p) :=
        ⟨keptByActions_intact.readStart firm.intact tag p,
          firm.standing.readStart (firm.tagFree tag) started, inside,
          room.of_grows ((readStop_read _ tag.name p).keepsScope inside).grows⟩
      exact opened.readStop_onwards ok fills

/-- A run leads onwards. -/
theorem Run.onwards (run : Run s visits t) (each : ∀ v ∈ visits, Onwards v.session v.after) :
    Onwards s t :=
  run.inv (P := Onwards s) (.refl s) (fun untouched before => before.trans (.untouched untouched))
    fun v member _ before => before.trans (each v member)

/-- Where nodes are passed, each leads onwards. -/
theorem Traverses.leads (passes : Traverses s r lexemes visits t q) (firm : Firm s)
    (room : t.registry.HasRoom) (orderly : ∀ v ∈ visits, v.IsOrderly) {v : Visit}
    (member : v ∈ visits) : Onwards v.session v.opened ∧ Onwards v.opened v.after :=
  have ⟨begun, after⟩ := (passes.firm firm room).2 v member
  begun.visit_onwards (orderly v member) (passes.run.hasFailed member) after.room

theorem Traverses.onwards (passes : Traverses s r lexemes visits t q) (firm : Firm s)
    (room : t.registry.HasRoom) (orderly : ∀ v ∈ visits, v.IsOrderly) : Onwards s t :=
  passes.run.onwards fun _ member =>
    have ⟨first, second⟩ := passes.leads firm room orderly member
    first.trans second

/-! ## Between definitions -/

/-- A session between two definitions, where nothing is open that was not open at the first one. -/
structure Poised (b : Session) (r₀ : Reader) (s : Session) (r : Reader) : Prop
    extends r₀.Returns b.scope r s.scope where
  ok : s.hasFailed = false
  inside : s.IsInDocument
  allowUnsupported : s.allowUnsupported = b.allowUnsupported
  tagStack : s.tagStack = b.tagStack
  skipDepth : s.skipDepth = b.skipDepth
  elementStack : s.elementStack = []
  typeStack : s.typeStack = []
  worklist : b.worklist.Agrees s.worklist
  grows : b.registry.Grows s.registry

theorem Read.setting {node : Node} (read : Read s node t) (ok : t.hasFailed = false)
    (local_ : ∀ tag, tag? s node = some tag →
      tag.kind ≠ .schema ∧ tag.kind ≠ .importTag ∧ tag.kind ≠ .includeTag) :
    t.setting = s.setting := by
  cases read with
  | @starts tag m start alike effect =>
    obtain ⟨noSchema, noImport, noInclude⟩ := local_ tag start
    cases effect with
    | acts acts => exact acts.declares.setting.trans alike.setting
    | schema isSchema =>
      exact absurd (List.mem_singleton.1 (mem_tags_of_start isSchema (by decide))) noSchema
    | names naming =>
      obtain isInclude | isImport := (start_of_naming? naming).2
      · exact absurd (List.mem_singleton.1 (mem_tags_of_start isInclude (by decide))) noInclude
      · exact absurd (List.mem_singleton.1 (mem_tags_of_start isImport (by decide))) noImport
  | passes idle shuts => exact shuts.setting
  | halts halts setting =>
    rw [halts.hasFailed setting] at ok
    cases ok

/-- Neither the documents nor the namespaces known change with a definition. -/
theorem Visit.setting_after {v : Visit} (orderly : v.IsOrderly) (ok : v.after.hasFailed = false) :
    v.after.setting = v.session.setting := by
  have local_ (tag : StartTag) (own : tag? v.session v.node = some tag) :=
    orderly.local_ tag (eq_start_of_tag? own).1 (eq_start_of_tag? own).2
  obtain whole | ⟨m, name, started, going, stopped⟩ :=
    readNode_read v.session v.node v.position
  · exact whole.setting ok local_
  · exact (stopped.setting ok fun _ own => by cases own).trans (started.setting going local_)

theorem Traverses.agrees (passes : Traverses s r lexemes visits t q) (inside : s.IsInDocument)
    (orderly : ∀ v ∈ visits, v.IsOrderly) :
    s.worklist.Agrees t.worklist ∧ t.allowUnsupported = s.allowUnsupported := by
  induction passes with
  | nil => exact ⟨.refl _, rfl⟩
  | @cons s t r k q lexeme rest scope node visits _ ok _ ih =>
    have setting := Visit.setting_after (orderly _ List.mem_cons_self) ok
    obtain ⟨worklist, allowed⟩ := ih (isInDocument_readNode inside scope node k.position)
      (List.forall_mem_cons.1 orderly).2
    have same : (readNode (s.withScope scope) node k.position).worklist =
        (s.withScope scope).worklist := congrArg Setting.worklist setting
    have allowed' : (readNode (s.withScope scope) node k.position).allowUnsupported =
        s.allowUnsupported := congrArg Setting.allowUnsupported setting
    rw [same] at worklist
    exact ⟨(Worklist.agrees_modifyCurrent inside scope.bindings).trans worklist,
      allowed.trans allowed'⟩

/-- A definition leaves nothing open. -/
theorem Poised.passes (poised : Poised b r₀ s r) (passes : Traverses s r lexemes visits t q)
    (balanced : Balanced (lexemes.map (·.token))) {opened : List Opening} (held : Held s opened)
    (orderly : ∀ v ∈ visits, v.IsOrderly) : Poised b r₀ t q ∧ Held t opened := by
  obtain ⟨returns, same⟩ := passes.returns poised.inside balanced
  obtain ⟨worklist, allowed⟩ := passes.agrees poised.inside orderly
  have after := passes.run.held held
  rw [same] at after
  exact ⟨{
    toReturns := poised.toReturns.trans returns
    ok := passes.hasFailed poised.ok
    inside := passes.isInDocument poised.inside
    allowUnsupported := allowed.trans poised.allowUnsupported
    tagStack := (after.tagStack.trans held.tagStack.symm).trans poised.tagStack
    skipDepth := (after.skipDepth.trans held.skipDepth.symm).trans poised.skipDepth
    elementStack := (after.elementStack.trans held.elementStack.symm).trans poised.elementStack
    typeStack := (after.typeStack.trans held.typeStack.symm).trans poised.typeStack
    worklist := poised.worklist.trans worklist
    grows := poised.grows.trans (passes.grows poised.inside) }, after⟩

/-! ## Legs -/

/-- A run from the opening tag of a schema to the end of its last definition. -/
structure Tour where
  base : Session
  reader : Reader
  opened : List Opening
  final : Session
  declarations : base.declarations = Declarations.initial
  ok : base.hasFailed = false
  elementStack : base.elementStack = []
  typeStack : base.typeStack = []
  held : Held base opened
  firm : Firm base
  firm' : Firm final
  onwards : Onwards base final

/-- A definition of a run. -/
structure Leg (tour : Tour) where
  start : Session
  reader : Reader
  lexemes : List Lexeme
  visits : List Visit
  stop : Session
  reader' : Reader
  passes : Traverses start reader lexemes visits stop reader'
  balanced : Balanced (lexemes.map (·.token))
  poised : Poised tour.base tour.reader start reader
  poised' : Poised tour.base tour.reader stop reader'
  firm : Firm start
  firm' : Firm stop
  before : Onwards tour.base start
  after : Onwards stop tour.final
  orderly : ∀ v ∈ visits, v.IsOrderly
  timely : ∀ v ∈ visits, v.IsTimely

variable {tour : Tour}

theorem Tour.poised (tour : Tour) : Poised tour.base tour.reader tour.base tour.reader where
  marks := rfl
  bindings := rfl
  ok := tour.ok
  inside := tour.firm.inside
  allowUnsupported := rfl
  tagStack := rfl
  skipDepth := rfl
  elementStack := tour.elementStack
  typeStack := tour.typeStack
  worklist := .refl _
  grows := .refl

namespace Leg

variable (leg : Leg tour)

/-- A leg next to a run that has declared this much, under numbers paired like this. -/
def part (other : Declarations) (before : Pairing) : Part where
  target := tour.base.target
  registry := tour.base.registry
  start := leg.start.declarations
  stop := leg.stop.declarations
  final := tour.final.declarations
  other
  before
  later := leg.after.edits.precedes
  intact := tour.firm'.declarations
  known_target := (tour.firm.intact.known _).target
  target_ne_anonymous := tour.firm.intact.target_ne_anonymous tour.firm.room

/-- The types that a leg declares, in the run as a whole. -/
def types : Stretch TypeId TypeDef :=
  (leg.part {} ⟨fun _ _ => False, fun _ _ => False⟩).types

/-- The elements that a leg declares, in the run as a whole. -/
def elements : Stretch ElementId Element :=
  (leg.part {} ⟨fun _ _ => False, fun _ _ => False⟩).elements

theorem leads {v : Visit} (member : v ∈ leg.visits) :
    Onwards v.session v.opened ∧ Onwards v.opened v.after :=
  leg.passes.leads leg.firm leg.firm'.room leg.orderly member

theorem onwards : Onwards leg.start leg.stop :=
  leg.passes.onwards leg.firm leg.firm'.room leg.orderly

/-- What is to come is known where a leg reads a node. -/
theorem foreseen (other : Declarations) (before : Pairing) {v : Visit} (member : v ∈ leg.visits) :
    Foreseen (leg.part other before) v := by
  obtain ⟨earlier, later, split⟩ := List.append_of_mem member
  have run := leg.passes.run
  rw [split] at run
  obtain ⟨m, -, run⟩ := run.split
  have rest : Onwards v.after leg.stop := by
    cases run with
    | cons _ _ run =>
      refine run.onwards fun v member => ?_
      have ⟨first, second⟩ := leg.leads (v := v)
        (split ▸ List.mem_append_right _ (List.mem_cons_of_mem _ member))
      exact first.trans second
  obtain ⟨-, ends⟩ := leg.leads member
  have onwards := ends.trans rest
  have final := onwards.trans leg.after
  have final' := rest.trans leg.after
  refine ⟨fun tag node reading => ⟨(leg.orderly v member).local_ tag node reading,
    leg.timely v member tag node reading, (leg.orderly v member).underived tag node reading,
    onwards.edits.precedes, fun isOpen => ?_, fun isOpen => ?_, fun _ own => final.base own⟩,
    ⟨fun isOpen closed => ?_, fun isOpen closed => ?_⟩,
    ((leg.passes.firm leg.firm leg.firm'.room).2 v member).1.named⟩
  · exact (onwards.element isOpen).resolve_left (leg.poised'.elementStack ▸ List.not_mem_nil)
  · exact (onwards.type isOpen).resolve_left (leg.poised'.typeStack ▸ List.not_mem_nil)
  · have defined := (ends.element isOpen).resolve_left closed
    exact ⟨defined, (final'.preserves.element ⟨defined, closed⟩).2⟩
  · have defined := (ends.type isOpen).resolve_left closed
    exact ⟨defined, (final'.preserves.type ⟨defined, closed⟩).2.1⟩

/-- Legs one of which comes before the other. -/
def Apart (leg other : Leg tour) : Prop :=
  leg.stop.declarations.Precedes other.start.declarations ∨
    other.stop.declarations.Precedes leg.start.declarations

theorem Apart.symm {leg other : Leg tour} (apart : leg.Apart other) : other.Apart leg :=
  Or.symm apart

end Leg

/-! ## The legs of a run in their order -/

/-- Legs that lead, one after another, from a session to the end of the run. -/
inductive Laid (tour : Tour) : Session → Reader → List (Leg tour) → Prop
  | nil (q : Reader) : Laid tour tour.final q []
  | cons (leg : Leg tour) {legs : List (Leg tour)} (later : Laid tour leg.stop leg.reader' legs) :
      Laid tour leg.start leg.reader (leg :: legs)

namespace Laid

variable {legs : List (Leg tour)} (laid : Laid tour s r legs)

include laid

theorem precedes {leg : Leg tour} (member : leg ∈ legs) :
    s.declarations.Precedes leg.start.declarations := by
  induction laid with
  | nil => cases member
  | cons first later ih =>
    obtain rfl | member := List.mem_cons.1 member
    · exact .refl _
    · exact first.onwards.edits.precedes.trans (ih member)

theorem apart : legs.Pairwise Leg.Apart := by
  induction laid with
  | nil => exact .nil
  | cons leg later ih => exact .cons (fun _ member => .inl (later.precedes member)) ih

/-- What holds in the end held before the legs, or comes to hold on one of them. -/
theorem gains {P : Session → Prop} (holds : P tour.final) :
    P s ∨ ∃ leg ∈ legs, P leg.stop ∧ ¬P leg.start := by
  induction laid with
  | nil => exact .inl holds
  | cons leg later ih =>
    obtain before | ⟨other, member, own⟩ := ih
    · by_cases early : P leg.start
      · exact .inl early
      · exact .inr ⟨leg, List.mem_cons_self, before, early⟩
    · exact .inr ⟨other, List.mem_cons_of_mem _ member, own⟩

end Laid

/-- A run over balanced parts goes along legs. -/
theorem Tour.exists_legs {blocks : List (List Lexeme)}
    (passes : Traverses s r blocks.flatten visits tour.final q)
    (poised : Poised tour.base tour.reader s r) (held : Held s tour.opened) (firm : Firm s)
    (before : Onwards tour.base s)
    (balanced : ∀ block ∈ blocks, Balanced (block.map (·.token)))
    (orderly : ∀ v ∈ visits, v.IsOrderly) (timely : ∀ v ∈ visits, v.IsTimely) :
    ∃ legs, legs.map Leg.lexemes = blocks ∧ Laid tour s r legs := by
  induction blocks generalizing s r visits with
  | nil =>
    cases passes
    exact ⟨[], rfl, .nil _⟩
  | cons block blocks ih =>
    obtain ⟨own, others⟩ := List.forall_mem_cons.1 balanced
    obtain ⟨visits₁, visits₂, m, k, rfl, head, tail⟩ := passes.split
    obtain ⟨orderly₁, orderly₂⟩ := List.forall_mem_append.1 orderly
    obtain ⟨timely₁, timely₂⟩ := List.forall_mem_append.1 timely
    have inside := head.isInDocument firm.inside
    have room := tour.firm'.room.of_grows (tail.grows inside)
    obtain ⟨poised', held'⟩ := poised.passes head own held orderly₁
    have firm' := (head.firm firm room).1
    have here := head.onwards firm room orderly₁
    have after := tail.onwards firm' tour.firm'.room orderly₂
    obtain ⟨legs, rfl, laid⟩ := ih tail poised' held' firm' (before.trans here) others orderly₂
      timely₂
    let leg : Leg tour := ⟨s, r, block, visits₁, m, k, head, own, poised, poised', firm, firm',
      before, after, orderly₁, timely₁⟩
    exact ⟨leg :: legs, rfl, .cons leg laid⟩

end XsdRecords.Session
