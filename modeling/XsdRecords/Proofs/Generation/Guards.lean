import XsdRecords.Proofs.Declaration.Valued
import XsdRecords.Proofs.Generation.Checks
import XsdRecords.Proofs.Generation.Wrappers
import XsdRecords.Proofs.Session.Guards

/-! # Generating meets no guard

A type is emitted only where its built-in type is known, a field only where its element was checked,
and a wrapper is a new record with a single field.  So a generation from declarations whose elements
have values reports no guard, whether it fails or not. -/

namespace XsdRecords

open XsdRecords.Declaration (Declarations ElementId TypeId Symbol)
open XsdRecords.Layout

namespace Declaration.Declarations

/-- A copy of a type has values if the type has. -/
theorem Valued.cloneType {d : Declarations} (valued : d.Valued) {type : TypeId}
    (own : (d.type type).isVoid = false) : (d.cloneType type).1.Valued ∧
      ((d.cloneType type).1.type (d.cloneType type).2).isVoid = false := by
  obtain ⟨symbol, place, elements, -, types⟩ := cloneType_eq d type
  have isVoid {id : TypeId} (values : (d.type id).isVoid = false) :
      ((d.cloneType type).1.type id).isVoid = false := by
    rw [types]
    split
    · exact own
    · exact values
  refine ⟨⟨fun {id other} h => isVoid ?_, fun {id base} h => isVoid ?_⟩, ?_⟩
  · simp only [element, elements] at h
    exact valued.directType h
  · rw [types] at h
    split at h
    · exact valued.base h
    · exact valued.base h
  · rw [types, place, if_pos rfl]
    exact own

end Declaration.Declarations

namespace Generation

open XsdRecords.Declaration.Declarations (Valued)

variable {g g' : Generation}

/-! ## Naming -/

theorem isGuard_of_check {d : Declarations} {record name : String} {id : ElementId}
    {problem : Problem} (h : d.check record name id = .error problem) : problem.isGuard = false := by
  unfold Declarations.check at h
  dsimp only at h
  repeat' split at h
  all_goals first | exact Except.error.inj h ▸ rfl | cases h

theorem valued_nameRoot (valued : g.declarations.Valued) (symbol : Symbol) (id : ElementId) :
    (g.nameRoot symbol id).declarations.Valued := by
  have renamed {d : Declarations} (valued : d.Valued) (type : TypeId) :
      (d.modifyType type fun t => { t with overrideSymbol := some symbol }).Valued :=
    valued.congr (fun _ => rfl)
      (fun _ => Declarations.get_type_modifyType Declaration.TypeDef.base _ _ _ fun _ => rfl)
      (fun _ => Declarations.get_type_modifyType Declaration.TypeDef.isVoid _ _ _ fun _ => rfl)
  unfold nameRoot
  split
  · exact valued
  · rename_i type typed
    split
    · exact valued
    · split
      · obtain ⟨id', direct⟩ := Declarations.exists_directType_of_elementType typed
        obtain ⟨cloned, own⟩ := valued.cloneType (valued.directType direct)
        refine renamed (Declarations.Edit.valued (.typed id _ _ ?_ ?_ ?_ own) cloned) _
        · obtain ⟨-, place, -, size, -⟩ := Declarations.cloneType_eq g.declarations type
          rw [place, size]
          exact Nat.lt_succ_self _
        · exact fun _ => rfl
        · exact fun _ => rfl
      · exact renamed valued type

theorem valued_nameRoots (roots : List (Symbol × ElementId)) (valued : g.declarations.Valued) :
    (g.nameRoots roots).1.declarations.Valued := by
  induction roots generalizing g with
  | nil => exact valued
  | cons root rest ih =>
    unfold nameRoots
    split
    · exact valued
    · exact ih (valued_nameRoot valued _ _)

theorem unguarded_nameRoot (unguarded : g.journal.Unguarded) (symbol : Symbol) (id : ElementId) :
    (g.nameRoot symbol id).journal.Unguarded := by
  unfold nameRoot
  split
  · exact unguarded
  · split
    · exact unguarded
    · split
      · exact unguarded.congr (Journal.reports_note_of_other (j := g.journal) rfl)
      · exact unguarded

theorem unguarded_nameRoots (roots : List (Symbol × ElementId)) (unguarded : g.journal.Unguarded) :
    (g.nameRoots roots).1.journal.Unguarded := by
  induction roots generalizing g with
  | nil => exact unguarded
  | cons root rest ih =>
    unfold nameRoots
    split
    · rename_i problem wrong
      exact unguarded.report (isGuard_of_check wrong)
    · exact ih (unguarded_nameRoot unguarded _ _)

/-! ## Fields -/

theorem unguarded_readDefault (unguarded : g.journal.Unguarded) (recordName name text : String)
    (type : ElemType) : (g.readDefault recordName name text type).1.journal.Unguarded := by
  unfold readDefault
  split
  · exact unguarded
  · split
    · exact unguarded
    · exact unguarded.report rfl

theorem unguarded_appendField (unguarded : g.journal.Unguarded) (record : RecordId)
    (recordName name : String) (field : Field) :
    (g.appendField record recordName name field).journal.Unguarded := by
  unfold appendField
  split
  · exact unguarded
  · exact unguarded.report rfl

/-- The items of a field are always wrapped without a fault. -/
theorem unguarded_emitTypedField (unguarded : g.journal.Unguarded) (record : RecordId)
    (recordName name : String) (id : ElementId) (type : TypeId) (mode : FormattingMode) :
    (g.emitTypedField record recordName name id type mode).journal.Unguarded := by
  have read := unguarded_readDefault unguarded recordName name
    (g.declarations.element id).defaultValue (g.fieldShape id type).1
  unfold emitTypedField
  dsimp only
  generalize g.readDefault _ _ _ _ = result at read ⊢
  split
  · split
    · rename_i fault failed
      exact absurd failed (wrapItems_ne_error _ _ _ fault)
    · rename_i schema wrapper made
      exact unguarded_appendField (g := { result.1 with schema }) read _ _ _ _
  · exact unguarded_appendField read _ _ _ _

/-- A field is emitted with a type if its element has values. -/
theorem unguarded_emitField (unguarded : g.journal.Unguarded) {entry : String × ElementId}
    (values : g.declarations.elementType entry.2 ≠ none →
      g.declarations.elementElemType entry.2 ≠ .void) (record : RecordId) (recordName : String) :
    (emitField record recordName g entry).journal.Unguarded := by
  unfold emitField
  dsimp only
  split
  · exact unguarded
  · rename_i type typed
    split
    · rename_i none
      exact absurd none (values (by rw [typed]; exact Option.some_ne_none type))
    · split
      · exact unguarded
      · exact unguarded_emitTypedField unguarded _ _ _ _ _ _

/-- An entry that is checked has values. -/
theorem Checked.values {d : Declarations} (valued : d.Valued) {owner : TypeId}
    {entry : String × ElementId} (checked : Checked d owner entry)
    (complex : d.isComplex owner = true) : d.elementElemType entry.2 ≠ .void := by
  rcases checked with itself | passes
  · obtain ⟨builtin, built, -⟩ := Declarations.exists_builtin_of_isComplex complex
    exact valued.elementElemType itself built
  · obtain ⟨type, builtin, occurs⟩ := passes.wellOccurring
    exact valued.elementElemType occurs.typed occurs.built

theorem unguarded_foldl_emitField (entries : List (String × ElementId))
    (unguarded : g.journal.Unguarded)
    (values : ∀ entry ∈ entries, g.declarations.elementElemType entry.2 ≠ .void)
    (record : RecordId) (recordName : String) :
    (entries.foldl (emitField record recordName) g).journal.Unguarded := by
  induction entries generalizing g with
  | nil => exact unguarded
  | cons entry rest ih =>
    obtain ⟨own, others⟩ := List.forall_mem_cons.1 values
    refine ih (unguarded_emitField unguarded (fun _ => own) record recordName) ?_
    rw [declarations_emitField]
    exact others

/-! ## Types -/

theorem unguarded_addEnumerators (unguarded : g.journal.Unguarded) (id : EnumerationId)
    (name : String) (enumerators : List (String × Int)) :
    (g.addEnumerators id name enumerators).journal.Unguarded := by
  unfold addEnumerators
  refine List.foldlRecOn (motive := fun g : Generation => g.journal.Unguarded) enumerators _ unguarded
    fun g unguarded enumerator _ => ?_
  dsimp only
  split
  · exact unguarded
  · exact unguarded.report rfl

theorem unguarded_emitEnumeration (unguarded : g.journal.Unguarded) (type : TypeId) :
    (g.emitEnumeration type).journal.Unguarded := by
  unfold emitEnumeration
  dsimp only
  split
  · exact unguarded
  · split
    · exact unguarded.report rfl
    · rename_i schema id created
      have filled (g : Generation) (unguarded : g.journal.Unguarded) :=
        unguarded_addEnumerators unguarded id
      split
      · exact filled _ (unguarded.congr (Journal.reports_note_of_other (j := g.journal) rfl)) _ _
      · exact filled _ (unguarded.congr (Journal.reports_note_of_other (j := g.journal) rfl)) _ _

/-- An emission reports no guard of a type whose built-in type is known. -/
def EmitsUnguarded (emit : Generation → TypeId → Generation) : Prop :=
  ∀ g type, g.declarations.Valued → (g.declarations.builtin type).isSome = true →
    g.journal.Unguarded → (emit g type).journal.Unguarded

section Emission

variable {emit : Generation → TypeId → Generation} (emits : EmitsVetted emit)
  (spares : EmitsUnguarded emit)

include emits spares

theorem unguarded_emitFieldTypes (owner : TypeId) (recordName : String)
    (entries : List (String × ElementId)) (valued : g.declarations.Valued)
    (unguarded : g.journal.Unguarded) :
    (emitFieldTypes emit owner recordName g entries).1.journal.Unguarded := by
  induction entries generalizing g with
  | nil => exact unguarded
  | cons entry rest ih =>
    have outcome := emitFieldTypes_outcome emit owner recordName entry rest g
    generalize emitFieldTypes emit owner recordName g (entry :: rest) = result at outcome ⊢
    cases outcome with
    | refused wrong => exact unguarded.report (isGuard_of_check wrong)
    | own typed => exact ih valued unguarded
    | @emitted type typed other passed =>
      obtain ⟨type', builtin, typed', built⟩ := check_eq_ok passed
      obtain rfl := Option.some.inj (typed.symm.trans typed')
      refine ih (valued.sameShape (emits g type).grows.shape) (spares g type valued ?_ unguarded)
      rw [built]
      rfl

theorem unguarded_fillRecord {type : TypeId} (complex : g.declarations.isComplex type = true)
    (valued : g.declarations.Valued) (unguarded : g.journal.Unguarded) (record : RecordId)
    (name : String) (fields : List (String × ElementId)) :
    (fillRecord emit type record name fields g).journal.Unguarded := by
  have types := unguarded_emitFieldTypes emits spares type name fields valued unguarded
  have shape := (emitFieldTypes_vets emits type name fields g).grows.shape
  unfold fillRecord
  dsimp only
  split
  · rename_i finished
    refine unguarded_foldl_emitField _ types (fun entry member => ?_) record _
    have checked := emitFieldTypes_checked emits type name fields finished entry member
    refine (checked.sameShape shape).values (valued.sameShape shape) ?_
    rw [shape.isComplex, complex]
  · exact types

theorem unguarded_emitRecord {type : TypeId} (complex : g.declarations.isComplex type = true)
    (valued : g.declarations.Valued) (unguarded : g.journal.Unguarded) :
    (emitRecord emit g type).journal.Unguarded := by
  have outcome := emitRecord_outcome emit g type
  generalize emitRecord emit g type = result at outcome ⊢
  cases outcome with
  | marked marked => exact unguarded
  | taken unmarked => exact unguarded.report rfl
  | @created schema record unmarked created =>
    have started : (g.withRecord type schema record).journal.Unguarded :=
      unguarded.congr (Journal.reports_note_of_other rfl)
    have shape := (marksRecord_withRecord complex unmarked created).grows.shape
    refine unguarded_fillRecord emits spares ?_ (valued.sameShape shape) started record _ _
    rw [shape.isComplex, complex]

end Emission

theorem emitTypeWithin_unguarded (limit : Nat) : EmitsUnguarded (emitTypeWithin limit) := by
  induction limit with
  | zero => exact fun g _ _ _ unguarded => unguarded
  | succ limit ih =>
    intro g type valued known unguarded
    have outcome := emitTypeWithin_outcome limit g type
    generalize emitTypeWithin (limit + 1) g type = result at outcome ⊢
    cases outcome with
    | undefined unknown =>
      -- The guard: a type that would be emitted without a definition.
      rw [unknown] at known
      cases known
    | record complex =>
      have shape := (vets_sortFields g type).grows.shape
      refine unguarded_emitRecord (emitTypeWithin_vets limit) ih
        (g := { g with declarations := g.declarations.sortFields type }) ?_
        (valued.sameShape shape) unguarded
      rw [shape.isComplex, complex]
    | plain scalar none => exact unguarded
    | enumeration scalar some => exact unguarded_emitEnumeration unguarded type

theorem unguarded_emitRoot (valued : g.declarations.Valued) (unguarded : g.journal.Unguarded)
    (id : ElementId) : (g.emitRoot id).journal.Unguarded := by
  obtain ⟨type, -, complex, emitted⟩ | ⟨-, unchanged⟩ := emitRoot_outcome g id
  · obtain ⟨builtin, built, -⟩ := Declarations.exists_builtin_of_isComplex complex
    rw [emitted]
    exact emitTypeWithin_unguarded _ g type valued (by rw [built]; rfl) unguarded
  · rw [unchanged]
    exact unguarded

theorem unguarded_foldl_emitRoot (ids : List ElementId) (valued : g.declarations.Valued)
    (unguarded : g.journal.Unguarded) : (ids.foldl emitRoot g).journal.Unguarded := by
  induction ids generalizing g with
  | nil => exact unguarded
  | cons id rest ih =>
    exact ih (valued.sameShape (emitRoot_vets g id).grows.shape)
      (unguarded_emitRoot valued unguarded id)

theorem reports_noteTypes (g : Generation) : g.noteTypes.journal.reports = g.journal.reports := by
  unfold noteTypes
  exact List.foldlRecOn (motive := fun m : Generation => m.journal.reports = g.journal.reports)
    g.declarations.typeTable.toSorted _ rfl
    fun m same entry _ => (Journal.reports_note_of_other rfl).trans same

/-- A generation from declarations whose elements have values reports no guard. -/
theorem unguarded_run (valued : g.declarations.Valued) (unguarded : g.journal.Unguarded) :
    g.run.journal.Unguarded := by
  have named := unguarded_nameRoots (g := { g with schema := {} }) g.declarations.roots.toSorted
    unguarded
  have values := valued_nameRoots (g := { g with schema := {} }) g.declarations.roots.toSorted valued
  unfold run
  dsimp only
  split
  · refine unguarded_foldl_emitRoot _ ?_ (named.congr (reports_noteTypes _))
    rw [(noteTypes_keeps _).1]
    exact values
  · exact named

end Generation

end XsdRecords
