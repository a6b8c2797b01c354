import XsdRecords.Proofs.Session.Standing

/-! # Reading node by node

A document that is read without a failure is a run over its nodes: `Run`.  What nodes keep a run
keeps: the invariant, the open tags, and the elements and types that are closed.

A compile starts a session, reads documents one after another, and notes and reports what it meets.
`Reached` lists these steps; what they make of the declarations are edits. -/

namespace XsdRecords.Session

open XsdRecords.Declaration (Declarations ElementId TypeId TypeDef)
open XsdRecords.Markup (Lexeme Node Reader Source StartTag)
open XsdRecords.Vocabulary (Tag)

/-! ## Runs -/

theorem Untouched.trans {s s' s'' : Session} (first : Untouched s s')
    (second : Untouched s' s'') : Untouched s s'' :=
  ⟨first.sameStacks.trans second.sameStacks, second.declarations.trans first.declarations⟩

theorem untouched_withScope (s : Session) (scope : Markup.Scope) :
    Untouched s (s.withScope scope) :=
  ⟨⟨rfl, rfl, rfl, rfl⟩, rfl⟩

/-- One session comes from another by reading nodes without a failure.  Between them only the scope
changes. -/
inductive Run : Session → List Visit → Session → Prop
  | nil {s s' : Session} (untouched : Untouched s s') : Run s [] s'
  | cons {s s' : Session} {visit : Visit} {rest : List Visit}
      (untouched : Untouched s visit.session) (ok : visit.after.hasFailed = false)
      (later : Run visit.after rest s') : Run s (visit :: rest) s'

theorem Run.split {s s' : Session} {first second : List Visit} (run : Run s (first ++ second) s') :
    ∃ m, Run s first m ∧ Run m second s' := by
  induction first generalizing s with
  | nil => exact ⟨s, .nil (.refl s), run⟩
  | cons visit rest ih =>
    cases run with
    | cons untouched ok later =>
      obtain ⟨m, before, after⟩ := ih later
      exact ⟨m, .cons untouched ok before, after⟩

theorem Run.snoc {s m : Session} {visits : List Visit} {v : Visit} (run : Run s visits m)
    (between : Untouched m v.session) (ok : v.after.hasFailed = false) :
    Run s (visits ++ [v]) v.after := by
  induction run with
  | nil untouched => exact .cons (untouched.trans between) ok (.nil (.refl _))
  | cons untouched ok' later ih => exact .cons untouched ok' (ih between)

/-- Reading stops at a failure. -/
theorem readLexemes_of_hasFailed {s : Session} (h : s.hasFailed = true) (r : Reader)
    (lexemes : List Lexeme) : readLexemes s r lexemes = s := by
  cases lexemes with
  | nil => rfl
  | cons lexeme rest => rw [readLexemes, if_pos h]

theorem run_readLexemes (lexemes : List Lexeme) {s : Session} {r : Reader}
    (ok : (readLexemes s r lexemes).hasFailed = false) :
    Run s (visitsOf s r lexemes) (readLexemes s r lexemes) := by
  induction lexemes generalizing s r with
  | nil => exact .nil (.refl s)
  | cons lexeme rest ih =>
    unfold readLexemes at ok ⊢
    unfold visitsOf
    split
    · exact .nil (.refl s)
    · rename_i going
      rw [if_neg going] at ok
      rcases delivered : r.deliver s.scope lexeme with ⟨r', scope, result⟩
      simp only [delivered] at ok ⊢
      have moved := untouched_withScope s scope
      cases result with
      | error fault =>
        dsimp only at ok
        rw [hasFailed_report_of_fails _ (by rfl)] at ok
        cases ok
      | ok node =>
        cases node with
        | none => exact .nil moved
        | some node =>
          dsimp only at ok ⊢
          refine .cons moved ?_ (ih ok)
          cases failed : (Visit.after ⟨s.withScope scope, node, r'.position⟩).hasFailed with
          | false => rfl
          | true =>
            have stopped := readLexemes_of_hasFailed failed r' rest
            exact failed.symm.trans ((congrArg hasFailed stopped).symm.trans ok)

/-- No node is delivered after a failure. -/
theorem visitsOf_of_hasFailed {s : Session} (h : s.hasFailed = true) (r : Reader)
    (lexemes : List Lexeme) : visitsOf s r lexemes = [] := by
  cases lexemes with
  | nil => rfl
  | cons lexeme rest => rw [visitsOf, if_pos h]

/-- The first of some nodes is delivered by the first lexeme, and the others after it was read. -/
theorem visitsOf_eq_cons {s : Session} {r : Reader} {lexemes : List Lexeme} {v : Visit}
    {others : List Visit} (h : visitsOf s r lexemes = v :: others) :
    ∃ lexeme later r' scope, lexemes = lexeme :: later ∧ s.hasFailed = false ∧
      r.deliver s.scope lexeme = (r', scope, .ok (some v.node)) ∧
      v.session = s.withScope scope ∧ visitsOf v.after r' later = others := by
  cases lexemes with
  | nil => cases h
  | cons lexeme later =>
    unfold visitsOf at h
    split at h
    · cases h
    · rename_i ok
      rcases delivered : r.deliver s.scope lexeme with ⟨r', scope, result⟩
      simp only [delivered] at h
      split at h
      · obtain ⟨rfl, others⟩ := List.cons.inj h
        exact ⟨lexeme, later, r', scope, rfl, Bool.eq_false_iff.2 ok, delivered, rfl, others⟩
      · cases h

/-- The nodes before one that is read are a run up to it. -/
theorem run_visitsOf_before {lexemes : List Lexeme} {s : Session} {r : Reader}
    {before rest : List Visit} {v : Visit} (split : visitsOf s r lexemes = before ++ v :: rest) :
    ∃ m, Run s before m ∧ Untouched m v.session := by
  induction before generalizing s r lexemes with
  | nil =>
    obtain ⟨_, _, _, scope, -, -, -, session, -⟩ := visitsOf_eq_cons split
    exact ⟨s, .nil (.refl s), session ▸ untouched_withScope s scope⟩
  | cons first before ih =>
    obtain ⟨_, later, r', scope, -, -, -, session, others⟩ := visitsOf_eq_cons split
    obtain ⟨m, run, between⟩ := ih others
    have moved : Untouched s first.session := session ▸ untouched_withScope s scope
    refine ⟨m, .cons moved (Bool.eq_false_iff.2 fun failed => ?_) run, between⟩
    rw [visitsOf_of_hasFailed failed] at others
    simp at others

theorem run_before {s : Session} {source : Source} {before rest : List Visit} {v : Visit}
    (split : s.visits source = before ++ v :: rest) :
    ∃ m, Run s.beginDocument before m ∧ Untouched m v.session := by
  cases source with
  | failing reason => simp [visits] at split
  | bytes content => exact run_visitsOf_before split

/-! ## The invariant along a run -/

/-- If a node is to make up a name, outside skipped content, this name is free. -/
def Visit.IsFree (v : Visit) : Prop :=
  ∀ tag, v.node = .start tag → TagFree v.session tag

/-- An empty tag ends at once. -/
theorem readNode_start {s : Session} {tag : StartTag} {position : Position}
    (ok : (readNode s (.start tag) position).hasFailed = false) :
    (readStart s tag position).hasFailed = false ∧
      readNode s (.start tag) position =
        if tag.isEmpty then readStop (readStart s tag position) position
        else readStart s tag position := by
  have whole : readNode s (.start tag) position =
      if tag.isEmpty && !(readStart s tag position).hasFailed then
        readStop (readStart s tag position) position
      else readStart s tag position := rfl
  cases failed : (readStart s tag position).hasFailed with
  | true =>
    simp only [failed, Bool.not_true, Bool.and_false, Bool.false_eq_true, if_false] at whole
    rw [whole, failed] at ok
    cases ok
  | false =>
    simp only [failed, Bool.not_false, Bool.and_true] at whole
    exact ⟨rfl, whole⟩

/-- A node keeps the invariant. -/
theorem Standing.readNode {s : Session} (standing : Standing s) {node : Node} {position : Position}
    (free : ∀ tag, node = .start tag → TagFree s tag)
    (ok : (readNode s node position).hasFailed = false) :
    Standing (readNode s node position) := by
  cases node with
  | stop name => exact (standing.readStop ok).1
  | start tag =>
    obtain ⟨started, whole⟩ := readNode_start ok
    have inside := standing.readStart (free tag rfl) started
    rw [whole] at ok ⊢
    split
    · rename_i isEmpty
      rw [if_pos isEmpty] at ok
      exact (inside.readStop ok).1
    · exact inside

/-- What holds of a session and is kept by nodes and by what is between them, a run keeps. -/
theorem Run.inv {P : Session → Prop} {s s' : Session} {visits : List Visit} (run : Run s visits s')
    (start : P s) (untouched : ∀ {s s' : Session}, Untouched s s' → P s → P s')
    (step : ∀ v ∈ visits, v.after.hasFailed = false → P v.session → P v.after) : P s' := by
  induction run with
  | nil between => exact untouched between start
  | cons between ok later ih =>
    exact ih (step _ List.mem_cons_self ok (untouched between start))
      fun v member => step v (List.mem_cons_of_mem _ member)

/-- A run keeps the invariant. -/
theorem Run.standing {s s' : Session} {visits : List Visit} (run : Run s visits s')
    (free : ∀ v ∈ visits, v.IsFree) (standing : Standing s) : Standing s' :=
  run.inv standing (fun untouched here => here.untouched untouched)
    fun v member ok here => here.readNode (free v member) ok

/-! ## What is closed stays as it is -/

/-- What is closed in one session is closed in another, and the same there. -/
structure Preserves (s s' : Session) : Prop where
  element {id : ElementId} : s.HasClosedElement id →
    s'.HasClosedElement id ∧ s'.declarations.element id = s.declarations.element id
  type {id : TypeId} : s.HasClosedType id →
    s'.HasClosedType id ∧ (s'.declarations.type id).body = (s.declarations.type id).body ∧
      (s'.declarations.type id).symbol = (s.declarations.type id).symbol

theorem Preserves.refl (s : Session) : Preserves s s :=
  ⟨fun closed => ⟨closed, rfl⟩, fun closed => ⟨closed, rfl, rfl⟩⟩

theorem Preserves.trans {s s' s'' : Session} (first : Preserves s s')
    (second : Preserves s' s'') : Preserves s s'' where
  element closed := by
    obtain ⟨still, same⟩ := first.element closed
    obtain ⟨later, same'⟩ := second.element still
    exact ⟨later, same'.trans same⟩
  type closed := by
    obtain ⟨still, body, symbol⟩ := first.type closed
    obtain ⟨later, body', symbol'⟩ := second.type still
    exact ⟨later, body'.trans body, symbol'.trans symbol⟩

/-- Where only stacks change, and nothing is opened, what is closed is preserved. -/
theorem Preserves.closing {s s' : Session} (declarations : s'.declarations = s.declarations)
    (elements : s'.elementStack ⊆ s.elementStack) (types : s'.typeStack ⊆ s.typeStack) :
    Preserves s s' where
  element := fun ⟨isDefined, closed⟩ =>
    ⟨⟨declarations ▸ isDefined, fun member => closed (elements member)⟩, by rw [declarations]⟩
  type := fun ⟨isDefined, closed⟩ =>
    ⟨⟨declarations ▸ isDefined, fun member => closed (types member)⟩, by rw [declarations],
      by rw [declarations]⟩

theorem Untouched.preserves {s s' : Session} (untouched : Untouched s s') : Preserves s s' :=
  .closing untouched.declarations (untouched.sameStacks.elementStack ▸ List.Subset.refl _)
    (untouched.sameStacks.typeStack ▸ List.Subset.refl _)

/-- What a tag opens nothing has defined, so that it was not closed before. -/
theorem Opens.preserves {s s' : Session} {types : List TypeId} {elements : List ElementId}
    (opens : Opens types elements s s') : Preserves s s' where
  element {id} := fun ⟨isDefined, closed⟩ => by
    have old : id ∉ elements := fun new => by
      rw [(opens.newElement new).1] at isDefined
      cases isDefined
    have top : id ∉ s.elementStack.head?.toList := fun member =>
      closed (List.mem_of_mem_head? (Option.mem_toList.1 member))
    refine ⟨⟨opens.edits.isDefined_element isDefined, ?_⟩, opens.same.element ?_⟩
    · rw [opens.elementStack, List.mem_append, not_or]
      exact ⟨old, closed⟩
    · rw [List.mem_append, not_or]
      exact ⟨old, top⟩
  type {id} := fun ⟨isDefined, closed⟩ => by
    have old : id ∉ types := fun new => by
      rw [(opens.newType new).1] at isDefined
      cases isDefined
    have top : id ∉ s.typeStack.head?.toList := fun member =>
      closed (List.mem_of_mem_head? (Option.mem_toList.1 member))
    refine ⟨⟨opens.edits.isDefined_type isDefined, ?_⟩, opens.same.type ?_,
      (opens.edits.symbol (Declarations.lt_size_of_isDefined isDefined)).1⟩
    · rw [opens.typeStack, List.mem_append, not_or]
      exact ⟨old, closed⟩
    · rw [List.mem_append, not_or]
      exact ⟨old, top⟩

/-- What every start tag opens that does not skip its content. -/
theorem Started.opens {s s' : Session} {tag : StartTag} {kind : Tag}
    (started : Started s s' tag kind) (reading : kind.entry.start ≠ .skip) :
    ∃ types elements, Opens types elements s s' := by
  cases started with
  | skip action => exact absurd action reading
  | plain isPlain opens => exact ⟨_, _, opens⟩
  | element isElement id opens => exact ⟨_, _, opens⟩
  | type isType type opens => exact ⟨_, _, opens⟩
  | layout isGroup unwrapped outer opens => exact ⟨_, _, opens⟩
  | group isGroup wrapped parent type element head opens => exact ⟨_, _, opens.opens⟩

theorem Started.preserves {s s' : Session} {tag : StartTag} {kind : Tag}
    (started : Started s s' tag kind) : Preserves s s' := by
  by_cases skipping : kind.entry.start = .skip
  · have skips := started.skips skipping
    exact .closing skips.declarations (skips.elementStack ▸ List.Subset.refl _)
      (skips.typeStack ▸ List.Subset.refl _)
  · obtain ⟨types, elements, opens⟩ := started.opens skipping
    exact opens.preserves

theorem Marks.preserves {s m : Session} {kind : Tag} (marks : Marks kind s m) : Preserves s m :=
  .closing marks.declarations (marks.elementStack ▸ List.Subset.refl _)
    (marks.typeStack ▸ List.Subset.refl _)

theorem Standing.preserves_readStart {s : Session} (standing : Standing s) {tag : StartTag}
    {position : Position} (free : TagFree s tag)
    (ok : (Session.readStart s tag position).hasFailed = false) :
    Preserves s (Session.readStart s tag position) := by
  by_cases reading : s.skipDepth = 0
  · obtain ⟨m, marks, started⟩ := standing.started reading free ok
    exact marks.preserves.trans started.preserves
  · rw [(readStart_eq_of_ok ok).2, if_pos (Nat.pos_of_ne_zero reading)]
    exact .closing rfl (List.Subset.refl _) (List.Subset.refl _)

theorem Closes.preserves {s s' : Session} (closes : Closes s s') : Preserves s s' :=
  .closing closes.declarations closes.elementStack closes.typeStack

theorem Standing.preserves_readNode {s : Session} (standing : Standing s) {node : Node}
    {position : Position} (free : ∀ tag, node = .start tag → TagFree s tag)
    (ok : (Session.readNode s node position).hasFailed = false) :
    Preserves s (Session.readNode s node position) := by
  cases node with
  | stop name => exact (standing.readStop ok).2.preserves
  | start tag =>
    obtain ⟨started, whole⟩ := readNode_start ok
    have opened := standing.preserves_readStart (free tag rfl) started
    rw [whole] at ok ⊢
    split
    · rename_i isEmpty
      rw [if_pos isEmpty] at ok
      exact opened.trans ((standing.readStart (free tag rfl) started).readStop ok).2.preserves
    · exact opened

/-- What is closed is the same at the end of a run. -/
theorem Run.preserves {s s' : Session} {visits : List Visit} (run : Run s visits s')
    (free : ∀ v ∈ visits, v.IsFree) (standing : Standing s) : Preserves s s' := by
  have both : Standing s' ∧ Preserves s s' := by
    refine run.inv (P := fun m => Standing m ∧ Preserves s m) ⟨standing, .refl s⟩ ?_ ?_
    · exact fun untouched ⟨here, kept⟩ =>
        ⟨here.untouched untouched, kept.trans untouched.preserves⟩
    · exact fun v member ok ⟨here, kept⟩ => ⟨here.readNode (free v member) ok,
        kept.trans (here.preserves_readNode (free v member) ok)⟩
  exact both.2

/-- Fields that are laid out stay so as long as what is closed does. -/
theorem Entries.LaidOut.preserved {s s' : Session} (preserves : Preserves s s') {entries : Entries}
    {fields : List (String × ElementId)} (laidOut : entries.LaidOut s fields) :
    entries.LaidOut s' fields := by
  induction entries generalizing fields with
  | nil => exact laidOut
  | field isAttribute name rest ih =>
    obtain ⟨id, later, rfl, closed, tagged, marked, others⟩ := laidOut
    obtain ⟨still, same⟩ := preserves.element closed
    exact ⟨id, later, rfl, still, by rw [same, tagged], by rw [same, marked], ih others⟩
  | group isChoice inner rest ihInner ih =>
    obtain ⟨id, type, later, rfl, closed, untagged, typed, closedType, symbol, choice, own, others⟩ :=
      laidOut
    obtain ⟨still, same⟩ := preserves.element closed
    obtain ⟨stillType, body, symbol'⟩ := preserves.type closedType
    have fields := TypeDef.get_of_body TypeDef.fields (fun _ => rfl) body
    have choices := TypeDef.get_of_body TypeDef.isChoice (fun _ => rfl) body
    exact ⟨id, type, later, rfl, still, by rw [same, untagged], by rw [same, typed], stillType,
      by rw [symbol', symbol], by rw [choices, choice], by rw [fields]; exact ihInner own,
      ih others⟩

end XsdRecords.Session

namespace XsdRecords

open XsdRecords.Declaration (Declarations)
open XsdRecords.Declaration.Declarations (Edits)
open XsdRecords.Markup (Source)

/-! ## The sessions of a compile -/

namespace Session

/-- A session that a compile comes to. -/
inductive Reached : Session → Prop
  | start (location : String) (allowUnsupported : Bool) :
      Reached (Session.start location allowUnsupported)
  | readDocument {s : Session} (reached : Reached s) (source : Source) :
      Reached (s.readDocument source)
  | advance {s s' : Session} (reached : Reached s) (next : s.advance? = some s') : Reached s'
  | note {s : Session} (reached : Reached s) (e : Event) : Reached (s.note e)
  | report {s : Session} (reached : Reached s) (p : Problem) : Reached (s.report p)

theorem Reached.edits {s : Session} (reached : Reached s) :
    Edits Declarations.initial s.declarations := by
  induction reached with
  | start location allowUnsupported => exact .refl
  | readDocument reached source ih =>
    exact ih.trans (readDocument_edits (Declarations.Edits.inRange ih
      Declarations.inRange_initial) source)
  | advance reached next ih =>
    obtain ⟨worklist, -, rfl⟩ := Option.map_eq_some_iff.1 next
    exact ih
  | note reached e ih => exact ih
  | report reached p ih => exact ih

/-- A session of a compile in which nothing is open is lawful. -/
theorem Reached.lawful {s : Session} (reached : Reached s) (elements : s.elementStack = [])
    (types : s.typeStack = []) : Lawful s where
  inRange := Declarations.Edits.inRange reached.edits Declarations.inRange_initial
  listed := Declarations.Edits.listed reached.edits Declarations.inRange_initial
    Declarations.listed_initial
  openElement member := by
    rw [elements] at member
    cases member
  openType member := by
    rw [types] at member
    cases member

/-! ## Reading a document from empty stacks -/

/-- A document that is read without a failure is a run over its nodes. -/
theorem run_readDocument {s : Session} {source : Source}
    (ok : (s.readDocument source).hasFailed = false) :
    Run s.beginDocument (s.visits source) (s.readDocument source) := by
  cases source with
  | failing reason =>
    have failed : (s.readDocument (.failing reason)).hasFailed = true :=
      hasFailed_report_of_fails _ rfl
    rw [failed] at ok
    cases ok
  | bytes content => exact run_readLexemes _ ok

theorem standing_beginDocument {s : Session} (lawful : Lawful s) (elements : s.elementStack = [])
    (types : s.typeStack = []) : Standing s.beginDocument where
  lawful := lawful.untouched rfl rfl rfl
  frames := ⟨elements, types⟩
  skipped depth := by cases depth

end Session

/-- What a compile has read, it has reached. -/
theorem Compilation.reached_run (resolve : Resolver) (limit : Nat) {c : Compilation}
    (reached : c.session.Reached) : (run resolve limit c).session.Reached := by
  induction limit generalizing c with
  | zero => exact reached
  | succ limit ih =>
    unfold run
    split
    · exact reached
    · rename_i next request wanted
      refine ih ?_
      unfold request? at wanted
      split at wanted
      · cases wanted
      · obtain ⟨s, advanced, h⟩ := Option.map_eq_some_iff.1 wanted
        cases h
        have here := (reached.advance advanced).note
          (.requestedDocument s.worklist.currentEntry.location
            (s.registry.uri s.worklist.currentEntry.target))
        unfold supply
        split
        · exact here.readDocument _
        · exact here.report _

end XsdRecords
