import XsdRecords.Proofs.Diagnostic.Journal
import XsdRecords.Proofs.Generation.Outcomes

/-! # What a generation adds to the journal

A generation only adds to the journal.  What it reports it reports for the document that it was
started for, and without a place. -/

namespace XsdRecords.Generation

open XsdRecords.Declaration (Declarations ElementId TypeId TypeDef Symbol)
open XsdRecords.Layout

/-- A generation that has gone on, with reports of its document that have no place. -/
structure Continues (g g' : Generation) : Prop where
  source : g'.source = g.source
  journal : g.journal.Extends (fun r => r.source = g.source ∧ r.position = {}) g'.journal

variable {g g' g'' : Generation}

theorem Continues.refl (g : Generation) : Continues g g :=
  ⟨rfl, .refl⟩

theorem Continues.trans (first : Continues g g') (second : Continues g' g'') :
    Continues g g'' := by
  refine ⟨second.source.trans first.source, first.journal.trans ?_⟩
  rw [← first.source]
  exact second.journal

/-- Where nothing was added. -/
theorem Continues.of_eq (source : g'.source = g.source) (journal : g'.journal = g.journal) :
    Continues g g' :=
  ⟨source, journal ▸ .refl⟩

theorem continues_note (g : Generation) {e : Event} (other : e.report? = none) :
    Continues g (g.note e) :=
  ⟨rfl, .note .refl e other⟩

theorem continues_report (g : Generation) (p : Problem) : Continues g (g.report p) :=
  ⟨rfl, .report .refl _ ⟨rfl, rfl⟩⟩

theorem continues_withSchema (g : Generation) (schema : RecordSchema) :
    Continues g { g with schema } :=
  .of_eq rfl rfl

theorem continues_withDeclarations (g : Generation) (declarations : Declarations) :
    Continues g { g with declarations } :=
  .of_eq rfl rfl

theorem continues_modifyType (g : Generation) (type : TypeId) (f : TypeDef → TypeDef) :
    Continues g (g.modifyType type f) :=
  .of_eq rfl rfl

/-- What each entry of a list does, all of them do. -/
theorem continues_foldl {α : Type} {step : Generation → α → Generation}
    (each : ∀ g a, Continues g (step g a)) (entries : List α) (g : Generation) :
    Continues g (entries.foldl step g) :=
  List.foldlRecOn entries _ (.refl g) fun m before a _ => before.trans (each m a)

/-! ## Names of top-level elements -/

theorem continues_nameRoot (g : Generation) (symbol : Symbol) (id : ElementId) :
    Continues g (g.nameRoot symbol id) := by
  unfold nameRoot
  split
  · exact .refl g
  · split
    · exact .refl g
    · split
      · exact (continues_withDeclarations g _).trans
          ((continues_note _ rfl).trans (continues_modifyType _ _ _))
      · exact continues_modifyType g _ _

theorem continues_nameRoots (roots : List (Symbol × ElementId)) (g : Generation) :
    Continues g (g.nameRoots roots).1 := by
  induction roots generalizing g with
  | nil => exact .refl g
  | cons root rest ih =>
    unfold nameRoots
    split
    · exact continues_report g _
    · exact (continues_nameRoot g _ _).trans (ih _)

/-! ## Fields -/

theorem continues_appendField (g : Generation) (record : RecordId) (recordName name : String)
    (field : Field) : Continues g (g.appendField record recordName name field) := by
  unfold appendField
  split
  · exact .of_eq rfl rfl
  · exact continues_report g _

theorem continues_readDefault (g : Generation) (recordName name text : String) (type : ElemType) :
    Continues g (g.readDefault recordName name text type).1 := by
  unfold readDefault
  split
  · exact .refl g
  · split
    · exact .refl g
    · exact continues_report g _

theorem continues_emitTypedField (g : Generation) (record : RecordId) (recordName name : String)
    (id : ElementId) (type : TypeId) (mode : FormattingMode) :
    Continues g (g.emitTypedField record recordName name id type mode) := by
  unfold emitTypedField
  dsimp only
  have read := continues_readDefault g recordName name (g.declarations.element id).defaultValue
    (g.fieldShape id type).1
  generalize g.readDefault _ _ _ _ = result at read ⊢
  refine read.trans ?_
  split
  · split
    · exact continues_report _ _
    · exact (continues_withSchema _ _).trans (continues_appendField _ _ _ _ _)
  · exact continues_appendField _ _ _ _ _

theorem continues_emitField (record : RecordId) (recordName : String) (g : Generation)
    (entry : String × ElementId) : Continues g (emitField record recordName g entry) := by
  unfold emitField
  dsimp only
  split
  · exact .refl g
  · split
    · exact continues_report g _
    · split
      · exact .refl g
      · exact continues_emitTypedField g _ _ _ _ _ _

/-! ## Types -/

theorem continues_addEnumerators (id : EnumerationId) (name : String)
    (enumerators : List (String × Int)) (g : Generation) :
    Continues g (g.addEnumerators id name enumerators) := by
  refine continues_foldl (fun g enumerator => ?_) enumerators g
  dsimp only
  split
  · exact .of_eq rfl rfl
  · exact continues_report g _

theorem continues_emitEnumeration (g : Generation) (type : TypeId) :
    Continues g (g.emitEnumeration type) := by
  unfold emitEnumeration
  dsimp only
  split
  · exact .refl g
  · split
    · exact continues_report g _
    · rename_i schema id created
      have made := (continues_withSchema g schema).trans (continues_note _
        (e := .enumerationEmitted (g.declarations.type type).outputSymbol.localName) rfl)
      have marked := made.trans
        (continues_modifyType _ type fun t => { t with enumeration := some id })
      have filled := marked.trans (continues_addEnumerators id
        (g.declarations.type type).outputSymbol.localName (g.declarations.type type).enumerators _)
      split
      · exact filled
      · exact filled.trans (continues_withSchema _ _)

theorem continues_emitRecord {emit : Generation → TypeId → Generation}
    (emits : ∀ g type, Continues g (emit g type)) (g : Generation) (type : TypeId) :
    Continues g (emitRecord emit g type) := by
  have outcome := emitRecord_outcome emit g type
  generalize emitRecord emit g type = result at outcome ⊢
  cases outcome with
  | marked marked => exact .refl g
  | taken unmarked => exact continues_report g _
  | @created schema record unmarked created =>
    have made := (continues_withSchema g schema).trans
      (continues_modifyType _ type fun t => { t with record := some record })
    have noted : Continues g (g.withRecord type schema record) :=
      made.trans (continues_note _ rfl)
    have typed := noted.trans (emitFieldTypes_related .refl .trans continues_report emits type
      (g.declarations.type type).outputSymbol.localName (g.declarations.type type).fields _)
    unfold fillRecord
    dsimp only
    split
    · exact typed.trans (continues_foldl (continues_emitField record _) _ _)
    · exact typed

theorem continues_emitTypeWithin (limit : Nat) (g : Generation) (type : TypeId) :
    Continues g (emitTypeWithin limit g type) := by
  induction limit generalizing g type with
  | zero => exact .refl g
  | succ limit ih =>
    have outcome := emitTypeWithin_outcome limit g type
    generalize emitTypeWithin (limit + 1) g type = result at outcome ⊢
    cases outcome with
    | undefined unknown => exact continues_report g _
    | record complex => exact (continues_withDeclarations g _).trans (continues_emitRecord ih _ _)
    | plain scalar none => exact .refl g
    | enumeration scalar some => exact continues_emitEnumeration g type

theorem continues_emitRoot (g : Generation) (id : ElementId) : Continues g (g.emitRoot id) := by
  obtain ⟨type, -, -, emitted⟩ | ⟨-, unchanged⟩ := emitRoot_outcome g id
  · rw [emitted]
    exact continues_emitTypeWithin _ g type
  · rw [unchanged]
    exact .refl g

theorem continues_noteTypes (g : Generation) : Continues g g.noteTypes :=
  continues_foldl (fun g _ => continues_note g rfl) _ g

/-- A generation adds to the journal, and nothing else. -/
theorem continues_run (g : Generation) : Continues g g.run := by
  have named := continues_nameRoots g.declarations.roots.toSorted { g with schema := {} }
  have started := continues_withSchema g {}
  unfold run
  dsimp only
  split
  · refine started.trans (named.trans (.trans (continues_noteTypes _) ?_))
    exact continues_foldl continues_emitRoot _ _
  · exact started.trans named

end XsdRecords.Generation
