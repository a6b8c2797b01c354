import XsdRecords.Proofs.Generation.InStep

/-! # Generating a second time

A second generation that starts from the declarations of the first one emits the copies of the types
of top-level elements where the first one emitted the types, and generates the same schema. -/

namespace XsdRecords

open XsdRecords.Declaration (Declarations Element ElementId TypeId TypeDef Symbol SymbolTable)
open XsdRecords.Declaration.Declarations
open XsdRecords.Layout
open XsdRecords.Vocabulary (Builtin)

namespace Generation

/-! ## Runs -/

section Lockstep

variable {done : Generation} {again : Declarations} {g h : Generation}

/-- The emission of a type is the same with more levels than there are types. -/
theorem emitTypeWithin_eq_emitType {limit : Nat} (deep : g.declarations.types.size < limit)
    (type : TypeId) : emitTypeWithin limit g type = g.emitType type := by
  have few : g.unmarked < limit := Nat.lt_of_le_of_lt g.unmarked_le_size deep
  rw [← iterate_emitStep (fun g _ => g) few, iterate_emitStep_eq_emitType (fun g _ => g) deep]

theorem InStep.emitRoot (twice : Twice done again) (step : InStep done again g h) {symbol : Symbol}
    {id : ElementId} (found : done.declarations.roots.find? symbol = some id)
    (later : Extends (g.emitRoot id) done) :
    h.emitRoot? id = some (h.emitRoot id) ∧
      InStep done again (g.emitRoot id) (h.emitRoot id) := by
  unfold Generation.emitRoot at later ⊢
  unfold emitRoot?
  rcases step.elementType twice id with
    ⟨typed, typed'⟩ | ⟨type, other, typed, typed', corresponds⟩
  · rw [typed, typed']
    exact ⟨rfl, step⟩
  · simp only [typed, typed', step.isComplex twice corresponds] at later ⊢
    cases complex : g.declarations.isComplex type with
    | false => exact ⟨rfl, step⟩
    | true =>
      simp only [complex, if_true] at later ⊢
      have own : done.declarations.elementType id = some type := by
        rw [step.later.shape.elementType, typed]
      have complex' : done.declarations.isComplex type = true := by
        rw [step.later.shape.isComplex, complex]
      obtain ⟨copy, isCopy⟩ := twice.renewed.copied (SymbolTable.mem_toSorted.2 found) own complex'
        (twice.root found own complex')
      obtain rfl : other = copy := by
        rw [step.shape.elementType, isCopy.elementType twice.renewed twice.placed] at typed'
        exact (Option.some.inj typed').symm
      have sizes : g.declarations.types.size ≤ h.declarations.types.size := by
        rw [step.shape.size, ← step.later.shape.size]
        exact twice.renewed.size
      unfold Generation.emitType at *
      have same := emitTypeWithin_eq_emitType (Nat.lt_succ_of_le sizes) type
      unfold Generation.emitType at same
      rw [← same] at later ⊢
      exact emitsCopies twice _ g h type other symbol id step isCopy later

theorem foldl_emitRoot_grows (ids : List ElementId) (g : Generation) :
    Extends g (ids.foldl Generation.emitRoot g) := by
  have steps : Steps {} (fun _ => True) g (ids.foldl Generation.emitRoot g) :=
    foldl_emitRoot_steps ids (allows_empty g) fun _ _ _ _ _ => trivial
  exact steps.grows

theorem InStep.foldl_emitRoot (twice : Twice done again) (step : InStep done again g h)
    (roots : List (Symbol × ElementId))
    (found : ∀ root ∈ roots, done.declarations.roots.find? root.1 = some root.2)
    (later : Extends ((roots.map (·.2)).foldl Generation.emitRoot g) done) :
    (roots.map (·.2)).foldlM emitRoot? h = some ((roots.map (·.2)).foldl Generation.emitRoot h) ∧
      InStep done again ((roots.map (·.2)).foldl Generation.emitRoot g)
        ((roots.map (·.2)).foldl Generation.emitRoot h) := by
  induction roots generalizing g h with
  | nil => exact ⟨rfl, step⟩
  | cons root rest ih =>
    have rest_grows := foldl_emitRoot_grows (rest.map (·.2)) (g.emitRoot root.2)
    obtain ⟨first, next⟩ := step.emitRoot twice (found root List.mem_cons_self)
      (rest_grows.trans later)
    rw [List.map_cons, List.foldlM_cons, first]
    exact ih next (fun root member => found root (List.mem_cons_of_mem _ member)) later

end Lockstep

/-- Every complex type of a top-level element is named after it when naming gets to the end, unless it
is named like it. -/
theorem Named.namesTypes {d d' : Declarations} (named : Named d d.roots.toSorted d')
    (inRange : d.InRange) (rooted : d.Rooted)
    (typed : ∀ symbol id, d.roots.find? symbol = some id → ∃ type, d.elementType id = some type) :
    NamesTypes d' := by
  intro symbol id type found own complex differs
  rw [named.renamed.roots] at found
  obtain ⟨original, before⟩ := typed symbol id found
  have direct := named.renamed.elementType_root (inRange.roots found) (rooted.reference found)
  rw [direct] at own
  have member := SymbolTable.mem_toSorted.2 found
  by_cases wanted : d.isComplex original = true ∧ (d.type original).symbol ≠ symbol
  · obtain ⟨name, given, -, override, -⟩ := named.named member before wanted.1 wanted.2
    rw [own] at given
    rw [Option.some.inj given, override]
  · have bound : original.index < d.types.size := by
      rw [(Renamed.refl d).elementType_root (inRange.roots found) (rooted.reference found)] at before
      exact inRange.directType before
    have kept := named.own member before fun complex => not_not.1 fun other => wanted ⟨complex, other⟩
    obtain rfl := Option.some.inj (own.symm.trans kept)
    rw [named.renamed.isComplex inRange.bases bound (named.renamed.body bound)] at complex
    rw [named.renamed.symbol bound] at differs
    exact absurd ⟨complex, differs⟩ wanted

theorem SameShape.namesTypes {d d' : Declarations} (same : SameShape d d') (names : NamesTypes d) :
    NamesTypes d' := by
  intro symbol id type found typed complex other
  rw [same.roots] at found
  rw [same.elementType] at typed
  rw [same.isComplex] at complex
  rw [same.symbol] at other
  rw [same.ofCore TypeDef.overrideSymbol fun _ => rfl]
  exact names symbol id type found typed complex other

section Run

variable {g h : Generation} (pristine : g.declarations.Pristine) (inRange : g.declarations.InRange)
  (rooted : g.declarations.Rooted)

include inRange rooted in
/-- Naming once more gets to the end exactly if the first naming did. -/
theorem nameRoots_again {d : Declarations} (keeps : KeepsChecks g.declarations d)
    (declarations : h.declarations = d) :
    (nameRoots { h with schema := {} } h.declarations.roots.toSorted).2 =
      (nameRoots { g with schema := {} } g.declarations.roots.toSorted).2 := by
  subst declarations
  have placed := inRange.placed rooted
  obtain ⟨-, finishes⟩ := nameRoots_keepsChecks (g := { g with schema := {} })
    g.declarations.roots.toSorted placed fun root => SymbolTable.mem_toSorted.1
  obtain ⟨-, finishes'⟩ := nameRoots_keepsChecks (g := { h with schema := {} })
    h.declarations.roots.toSorted (keeps.placed placed) fun root => SymbolTable.mem_toSorted.1
  rw [Bool.eq_iff_iff, finishes', finishes, keeps.roots]
  refine forall₂_congr fun root member => ?_
  rw [keeps.check placed (SymbolTable.mem_toSorted.1 member)]

/-- A first generation whose naming gets to the end, and the naming of a second one that starts from its
declarations. -/
structure NamedTwice (g h start : Generation) : Prop where
  named : Named g.declarations g.declarations.roots.toSorted start.declarations
  empty : start.schema = {}
  whole : run g = (g.declarations.roots.toSorted.map (·.2)).foldl emitRoot start
  placed : (run g).declarations.Placed
  roots : (run g).declarations.roots = g.declarations.roots
  names : NamesTypes (run g).declarations
  finished : (nameRoots { h with schema := {} } h.declarations.roots.toSorted).2 = true
  renewed : Renewed (run g).declarations (run g).declarations.roots.toSorted
    (nameRoots { h with schema := {} } h.declarations.roots.toSorted).1.declarations

theorem NamedTwice.grows {start : Generation} (twice : NamedTwice g h start) :
    Extends start (run g) := by
  rw [twice.whole]
  exact foldl_emitRoot_grows _ _

include pristine inRange rooted in
theorem namedTwice (declarations : h.declarations = (run g).declarations)
    (finished : (nameRoots { g with schema := {} } g.declarations.roots.toSorted).2 = true) :
    ∃ start, NamedTwice g h start := by
  have placed := inRange.placed rooted
  obtain ⟨keeps, finishes⟩ := nameRoots_keepsChecks (g := { g with schema := {} })
    g.declarations.roots.toSorted placed fun root => SymbolTable.mem_toSorted.1
  obtain ⟨start, same, named, empty, whole⟩ := run_finished pristine inRange rooted finished
  have grows : Extends start (run g) := by
    rw [whole]
    exact foldl_emitRoot_grows _ _
  have keepsAll : KeepsChecks g.declarations (run g).declarations :=
    KeepsChecks.trans (same ▸ keeps) (.of_sameShape grows.shape)
  have placedAll := keepsAll.placed placed
  have names : NamesTypes (run g).declarations := by
    refine SameShape.namesTypes grows.shape (named.namesTypes inRange rooted fun symbol id found => ?_)
    obtain ⟨passed, checked⟩ := finishes.1 finished (symbol, id) (SymbolTable.mem_toSorted.2 found)
    obtain ⟨type, -, typed, -⟩ := check_eq_ok checked
    exact ⟨type, typed⟩
  have finished' := (nameRoots_again inRange rooted keepsAll declarations).trans finished
  refine ⟨start, named, empty, whole, placedAll, keepsAll.roots, names, finished', ?_⟩
  have begun : Renewed (run g).declarations [] h.declarations := by
    rw [declarations]
    exact .nil _
  rw [← declarations] at placedAll names begun ⊢
  exact nameRoots_renewed placedAll names h.declarations.roots.toSorted
    (g := { h with schema := {} }) begun (fun root => SymbolTable.mem_toSorted.1)
    (Rooted.distinct ⟨placedAll.reference, placedAll.injective⟩) finished'

include pristine in
/-- Only complex types have records, and only types with enumerators have enumerations. -/
theorem NamedTwice.twice {start : Generation} (both : NamedTwice g h start)
    (repeats : Repeats (run g).declarations) :
    Twice (run g) (nameRoots { h with schema := {} } h.declarations.roots.toSorted).1.declarations := by
  have grows := both.grows
  have unmarked := both.named.renamed.unmarked pristine
  refine ⟨both.placed, both.names, both.renewed, repeats.root, repeats.field,
    fun {type record} marked => ?_, fun {type enumeration} marked => ?_⟩
  · rcases grows.newRecord marked with old | ⟨complex, -⟩
    · rw [(unmarked type).1] at old
      cases old
    · rw [grows.shape.isComplex, complex]
  · rcases grows.newEnumeration marked with old | ⟨simple, enumerators⟩
    · rw [(unmarked type).2] at old
      cases old
    · rw [grows.shape.isComplex, grows.shape.enumerators]
      exact ⟨simple, enumerators⟩

include pristine inRange rooted in
/-- A second generation that starts from the declarations of the first one generates the same schema,
and looks up no record and no enumeration outside it, where the first one has settled all that the
second one sees. -/
theorem run_again (declarations : h.declarations = (run g).declarations)
    (repeats : Repeats (run g).declarations) :
    run? h = some (run h) ∧ (run h).schema = (run g).schema := by
  have schema := nameRoots_marks h.declarations.roots.toSorted { h with schema := {} }
  cases finished : (nameRoots { g with schema := {} } g.declarations.roots.toSorted).2 with
  | false =>
    have first : run g = (nameRoots { g with schema := {} } g.declarations.roots.toSorted).1 := by
      unfold run
      generalize nameRoots { g with schema := {} } g.declarations.roots.toSorted = named at finished ⊢
      obtain ⟨left, going⟩ := named
      obtain rfl : going = false := finished
      rfl
    obtain ⟨keeps, -⟩ := nameRoots_keepsChecks (g := { g with schema := {} })
      g.declarations.roots.toSorted (inRange.placed rooted) fun root => SymbolTable.mem_toSorted.1
    rw [first] at declarations ⊢
    have finished' := (nameRoots_again inRange rooted keeps declarations).trans finished
    have empty := (nameRoots_marks g.declarations.roots.toSorted { g with schema := {} } ⟨0⟩).2.2
    unfold run? run
    generalize nameRoots { h with schema := {} } h.declarations.roots.toSorted = again
      at finished' schema ⊢
    obtain ⟨left, going⟩ := again
    obtain rfl : going = false := finished'
    exact ⟨rfl, (schema ⟨0⟩).2.2.trans empty.symm⟩
  | true =>
    obtain ⟨start, both⟩ := namedTwice pristine inRange rooted declarations finished
    have twice := both.twice pristine repeats
    have finished' := both.finished
    unfold run?
    rw [run.eq_def h]
    generalize nameRoots { h with schema := {} } h.declarations.roots.toSorted = again
      at finished' schema twice ⊢
    obtain ⟨left, going⟩ := again
    obtain rfl : going = true := finished'
    obtain ⟨kept, keptSchema, -⟩ := noteTypes_keeps left
    have unmarked (type : TypeId) := (both.named.renamed.unmarked pristine type).1
    -- Both start with an empty schema, and neither a type nor a copy has a record.
    have step : InStep (run g) left.declarations start left.noteTypes := by
      refine ⟨?_, both.grows, ?_, fun type => ?_, fun {type copy symbol id} isCopy => ?_,
        fun bound => ?_, fun type => ?_, fun type record marked => ?_⟩
      · rw [keptSchema, (schema ⟨0⟩).2.2, both.empty]
      · rw [kept]
        exact .refl _
      · rw [kept]
      · obtain ⟨minted, copied⟩ := isCopy.copied
        rw [kept, copied, unmarked]
      · rw [kept, twice.renewed.old bound]
      · rw [kept]
      · rw [unmarked] at marked
        cases marked
    have roots : left.noteTypes.declarations.roots = (run g).declarations.roots := by
      rw [kept, twice.renewed.roots]
    obtain ⟨found, last⟩ := step.foldl_emitRoot twice (run g).declarations.roots.toSorted
      (fun root => SymbolTable.mem_toSorted.1) (by
        rw [both.roots, ← both.whole]
        exact .refl _)
    simp only [if_true, roots]
    refine ⟨found, ?_⟩
    rw [last.schema, both.roots, ← both.whole]

end Run

end Generation

end XsdRecords
