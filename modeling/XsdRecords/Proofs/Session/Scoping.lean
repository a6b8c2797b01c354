import XsdRecords.Proofs.Markup.Calls
import XsdRecords.Proofs.Session.Documents
import XsdRecords.Proofs.Session.Visits
import XsdRecords.Proofs.Session.SkippedContent

/-! # The declarations around a node

What a node does to a session leaves the prefixes in scope as they are; only the reader binds and drops
them.  Where a node of a document is read, its names are therefore resolved by the declarations of the
tags that are open there: `answers_visits`. -/

namespace XsdRecords.Session

open XsdRecords.Markup (Answers Lexeme Nested Node Reader Scope Source Surroundings)

variable {s s' s'' : Session}

/-! ## What a node leaves of the scope -/

/-- The current document stays the same, with its prefixes, and namespaces keep their numbers. -/
structure KeepsScope (s s' : Session) : Prop where
  grows : s.registry.Grows s'.registry
  current : s'.worklist.current = s.worklist.current
  size : s.worklist.documents.size ≤ s'.worklist.documents.size
  bindings : s'.worklist.currentEntry.bindings = s.worklist.currentEntry.bindings

/-- Whether there is a current document. -/
def IsInDocument (s : Session) : Prop :=
  s.worklist.current < s.worklist.documents.size

theorem KeepsScope.isInDocument (keeps : KeepsScope s s') (inside : s.IsInDocument) :
    s'.IsInDocument := by
  unfold IsInDocument
  rw [keeps.current]
  exact Nat.lt_of_lt_of_le inside keeps.size

theorem KeepsScope.trans (first : KeepsScope s s') (second : KeepsScope s' s'') :
    KeepsScope s s'' where
  grows := first.grows.trans second.grows
  current := second.current.trans first.current
  size := Nat.le_trans first.size second.size
  bindings := second.bindings.trans first.bindings

theorem KeepsScope.ofWorklist (grows : s.registry.Grows s'.registry)
    (same : s'.worklist = s.worklist) : KeepsScope s s' where
  grows := grows
  current := by rw [same]
  size := Nat.le_of_eq (by rw [same])
  bindings := by rw [same]

theorem KeepsScope.ofSetting (same : s'.setting = s.setting) : KeepsScope s s' := by
  apply KeepsScope.ofWorklist
  · rw [show s'.registry = s.registry from congrArg Setting.registry same]
  · exact congrArg Setting.worklist same

theorem OpensSchema.keepsScope {uri : String} (opens : OpensSchema s uri s')
    (inside : s.IsInDocument) : KeepsScope s s' := by
  have grows : s.registry.Grows s'.registry := opens.registry ▸ s.registry.grows_register uri
  obtain same | ⟨-, f, same, retargets⟩ := opens.worklist
  · exact .ofWorklist grows same
  · -- The target namespace changes, the prefixes do not.
    refine ⟨grows, by rw [same, Worklist.current_modifyCurrent], ?_, ?_⟩
    · exact Nat.le_of_eq (by rw [same, Worklist.size_modifyCurrent])
    · rw [same, Worklist.currentEntry_modifyCurrent inside]
      exact (retargets _).bindings

theorem Names.keepsScope {request : Request} (names : Names s request s')
    (inside : s.IsInDocument) : KeepsScope s s' := by
  have grows : s.registry.Grows s'.registry := names.registry ▸ s.registry.grows_register _
  obtain ⟨-, kind, -, bindings, pushed⟩ | ⟨-, same⟩ := names.worklist
  · refine ⟨grows, by rw [pushed, Worklist.current_push], ?_, ?_⟩
    · rw [pushed, Worklist.size_push]
      exact Nat.le_succ _
    · rw [pushed, Worklist.currentEntry, Worklist.current_push, Worklist.entry_push _ inside]
      rfl
  · exact .ofWorklist grows same

theorem Read.keepsScope {node : Node} (read : Read s node s') (inside : s.IsInDocument) :
    KeepsScope s s' := by
  cases read with
  | starts start alike effect =>
    cases effect with
    | acts acts => exact .ofSetting (acts.declares.setting.trans alike.setting)
    | schema isSchema opens => exact (alike.opensSchema opens).keepsScope inside
    | names naming names => exact (alike.names names).keepsScope inside
  | passes idle shuts => exact .ofSetting shuts.setting
  | @halts p m halts setting =>
    have registry : s'.registry = m.registry := congrArg Setting.registry setting
    have worklist : s'.worklist = m.worklist := congrArg Setting.worklist setting
    exact .ofWorklist (registry ▸ halts.registry) (worklist.trans halts.worklist)

theorem keepsScope_readNode (inside : s.IsInDocument) (node : Node) (position : Position) :
    KeepsScope s (s.readNode node position) := by
  obtain whole | ⟨m, name, started, -, stopped⟩ := readNode_read s node position
  · exact whole.keepsScope inside
  · have first := started.keepsScope inside
    exact first.trans (stopped.keepsScope (first.isInDocument inside))

theorem isInDocument_withScope (inside : s.IsInDocument) (scope : Scope) :
    (s.withScope scope).IsInDocument :=
  Nat.lt_of_lt_of_eq inside (Worklist.size_modifyCurrent _ _).symm

/-- A session that a compile comes to has a current document. -/
theorem Reached.isInDocument (reached : Reached s) : s.IsInDocument := by
  induction reached with
  | start location allowUnsupported => exact Nat.zero_lt_one
  | @readDocument s reached source ih =>
    cases source with
    | failing reason => exact ih
    | bytes content =>
      refine readLexemes_inv (P := fun _ m => m.IsInDocument) ?_ ?_ ?_ ?_ _ [] ih
      · exact fun r lexeme here => isInDocument_withScope here _
      · exact fun fault position here => here
      · exact fun _ here read => (read.keepsScope here).isInDocument here
      · exact fun _ here read => (read.keepsScope here).isInDocument here
  | advance reached next ih =>
    obtain ⟨worklist, advanced, rfl⟩ := Option.map_eq_some_iff.1 next
    unfold Worklist.advance? at advanced
    split at advanced
    · rename_i more
      obtain rfl := Option.some.inj advanced
      exact more
    · cases advanced
  | note reached e ih => exact ih
  | report reached p ih => exact ih

/-! ## Nodes of a document -/

/-- Each node is what a call of the reader answers in the surroundings that the nodes before it
leave. -/
theorem answers_visitsOf {lexemes : List Lexeme} {r : Reader} {outer : Scope} {p : Surroundings}
    {names : List (List UInt8)} (inside : r.Inside outer p names s.scope)
    (nested : Nested names lexemes) (current : s.IsInDocument) {before rest : List Visit}
    {v : Visit} (split : visitsOf s r lexemes = before ++ v :: rest) :
    ∃ token, Answers outer ((before.map fun v => some v.node).foldl Surroundings.after p) token
      v.session.scope (some v.node) := by
  induction before generalizing s r p names lexemes with
  | nil =>
    obtain ⟨lexeme, later, r', scope, rfl, -, delivered, session, -⟩ := visitsOf_eq_cons split
    obtain ⟨-, -, -, answers⟩ := inside.deliver nested delivered
    rw [session, scope_withScope current scope]
    exact ⟨lexeme.token, answers⟩
  | cons first before ih =>
    obtain ⟨lexeme, later, r', scope, rfl, -, delivered, session, others⟩ := visitsOf_eq_cons split
    obtain ⟨names', nested', inside', -⟩ := inside.deliver nested delivered
    have here : first.session.scope = scope := session ▸ scope_withScope current scope
    have within : first.session.IsInDocument := session ▸ isInDocument_withScope current scope
    have keeps : KeepsScope first.session first.after :=
      keepsScope_readNode within first.node first.position
    have next : first.after.scope = ⟨scope.bindings, first.after.scope.registry⟩ :=
      congrArg (Scope.mk · _) (keeps.bindings.trans (congrArg Scope.bindings here))
    have grows : scope.registry.Grows first.after.registry :=
      congrArg Scope.registry here ▸ keeps.grows
    have inside'' := inside'.registers grows
    have moved := next ▸ inside''
    exact ih moved nested' (keeps.isInDocument within) others

/-- The tags that some nodes leave open are those around the place after them. -/
theorem opened_surroundings (nodes : List Node) :
    ((nodes.map some).foldl Surroundings.after {}).opened = openTags nodes := by
  have fold (p : Surroundings) :
      ((nodes.map some).foldl Surroundings.after p).opened = nodes.foldl stepTags p.opened := by
    induction nodes generalizing p with
    | nil => rfl
    | cons node rest ih =>
      rw [List.map_cons, List.foldl_cons, ih, List.foldl_cons]
      congr 1
      cases node with
      | start tag =>
        unfold Surroundings.after stepTags
        dsimp only
        split <;> rfl
      | stop name => rfl
  exact fold {}

/-- Where a node is read, its names are resolved by the declarations of the tags open there, on top
of what is bound when the document is opened. -/
theorem answers_visits (current : s.IsInDocument) {source : Source} {before rest : List Visit}
    {v : Visit} (split : s.visits source = before ++ v :: rest) :
    ∃ p token, p.opened = openTags (before.map Visit.node) ∧
      Answers s.scope p token v.session.scope (some v.node) := by
  cases source with
  | failing reason => simp [visits] at split
  | bytes content =>
    obtain ⟨token, answers⟩ := answers_visitsOf (s := s.beginDocument)
      (Reader.inside_ofDocument s.scope content) (Markup.nested_ofDocument content) current split
    refine ⟨_, token, ?_, answers⟩
    rw [← opened_surroundings, List.map_map]
    rfl

end XsdRecords.Session
