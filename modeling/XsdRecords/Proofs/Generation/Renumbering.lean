import XsdRecords.Proofs.Declaration.Renumbering
import XsdRecords.Proofs.Generation.Echoes
import XsdRecords.Proofs.Generation.Naming

/-! # Generating under other numbers

Two generations from declarations that are the same under paired numbers create the same records and
enumerations in the same order, and both fail or neither does. -/

namespace XsdRecords.Generation

open XsdRecords.Declaration
open XsdRecords.Layout

variable {p : Pairing} {g h : Generation} {id id' : TypeId} {e e' : ElementId}

/-! ## Names that are made up -/

theorem recordName?_of_alike {s s' : Symbol} (alike : s.Alike s') : recordName? s' = recordName? s := by
  have unnamed {s : Symbol} (made : s.IsMadeUp) : recordName? s = none := by
    unfold recordName?
    simp [made.namespaceId]
  obtain rfl | ⟨made, made'⟩ := alike
  · rfl
  · rw [unnamed made, unnamed made']

theorem enumerationName?_of_alike {s s' : Symbol} (alike : s.Alike s') :
    enumerationName? s'.localName = enumerationName? s.localName := by
  have unnamed {s : Symbol} (made : s.IsMadeUp) : enumerationName? s.localName = none := by
    obtain ⟨n, rfl⟩ := made
    have blank : (madeUp n).localName.startsWith " " = true := by
      rw [String.startsWith_string_iff]
      exact ⟨(Number.padded 6 n).toList ++ "_ANON".toList, by simp [madeUp, String.append_assoc]⟩
    unfold enumerationName?
    simp [blank]
  obtain rfl | ⟨made, made'⟩ := alike
  · rfl
  · rw [unnamed made, unnamed made']

/-! ## Generations under other numbers -/

/-- Generations of the same schema, of which both have failed or neither has. -/
structure Alongside (p : Pairing) (g h : Generation) : Prop where
  declarations : Renumbers p g.declarations h.declarations
  schema : h.schema = g.schema
  failed : h.hasFailed = g.hasFailed

theorem isFailure_replace {old new : Diagnostic} (harmless : new.isFailure = false) :
    (old.replace new).isFailure = old.isFailure := by
  unfold Diagnostic.replace
  split
  · rfl
  · rename_i noLess
    have le : old.severity ≤ new.severity := Nat.le_of_not_lt noLess
    have fine : old.isFailure = false := decide_eq_false fun failed =>
      of_decide_eq_false harmless (Nat.lt_of_lt_of_le failed le)
    rw [harmless, fine]

/-- A report that is a warning leaves it open whether the generation fails. -/
theorem hasFailed_report_of_warning (g : Generation) {q : Problem}
    (harmless : q.severity.isFailure = false) : (g.report q).hasFailed = g.hasFailed :=
  isFailure_replace harmless

namespace Alongside

variable (alongside : Alongside p g h)

include alongside

theorem note (event event' : Event) : Alongside p (g.note event) (h.note event') :=
  ⟨alongside.declarations, alongside.schema, alongside.failed⟩

theorem report {q q' : Problem} (same : q'.severity.isFailure = q.severity.isFailure) :
    Alongside p (g.report q) (h.report q') := by
  refine ⟨alongside.declarations, alongside.schema, ?_⟩
  cases harmless : q.severity.isFailure with
  | true =>
    rw [hasFailed_report_of_isFailure g harmless,
      hasFailed_report_of_isFailure h (same.trans harmless)]
  | false =>
    rw [hasFailed_report_of_warning g harmless, hasFailed_report_of_warning h (same.trans harmless)]
    exact alongside.failed

theorem withSchema (schema : RecordSchema) :
    Alongside p { g with schema } { h with schema } :=
  ⟨alongside.declarations, rfl, alongside.failed⟩

theorem modifySchema (f : RecordSchema → RecordSchema) :
    Alongside p { g with schema := f g.schema } { h with schema := f h.schema } :=
  ⟨alongside.declarations, congrArg f alongside.schema, alongside.failed⟩

theorem withDeclarations {q : Pairing} {d d' : Declarations} (same : Renumbers q d d') :
    Alongside q { g with declarations := d } { h with declarations := d' } :=
  ⟨same, alongside.schema, alongside.failed⟩

theorem modifyType (pair : p.type id id') {f k : TypeDef → TypeDef}
    (changed : (f (g.declarations.type id)).Resembles p (k (h.declarations.type id'))) :
    Alongside p (g.modifyType id f) (h.modifyType id' k) :=
  alongside.withDeclarations (alongside.declarations.modifyType pair changed)

end Alongside

theorem Alongside.foldl {α β : Type} {R : α → β → Prop} {f : Generation → α → Generation}
    {k : Generation → β → Generation}
    (each : ∀ {g h a b}, R a b → Alongside p g h → Alongside p (f g a) (k h b))
    {entries : List α} {entries' : List β} (pairs : List.Forall₂ R entries entries')
    (alongside : Alongside p g h) :
    Alongside p (entries.foldl f g) (entries'.foldl k h) := by
  induction pairs generalizing g h with
  | nil => exact alongside
  | cons pair _ ih => exact ih (each pair alongside)

/-! ## Names of top-level elements -/

/-- Top-level elements of the same names, none of which is made up. -/
def RootPair (p : Pairing) (root root' : Symbol × ElementId) : Prop :=
  root'.1 = root.1 ∧ ¬root.1.IsMadeUp ∧ p.element root.2 root'.2

/-- A check is passed by both or by neither. -/
theorem Alongside.check (alongside : Alongside p g h) (pair : p.element e e')
    (record record' name name' : String) :
    (g.declarations.check record name e = .ok () ∧ h.declarations.check record' name' e' = .ok ()) ∨
      ∃ q q', g.declarations.check record name e = .error q ∧
        h.declarations.check record' name' e' = .error q' ∧
          Alongside p (g.report q) (h.report q') := by
  have same := alongside.declarations.check pair record record' name name'
  cases first : g.declarations.check record name e with
  | ok done =>
    cases second : h.declarations.check record' name' e' with
    | ok done' => exact .inl ⟨rfl, rfl⟩
    | error q' =>
      rw [first, second] at same
      cases same
  | error q =>
    cases second : h.declarations.check record' name' e' with
    | ok done' =>
      rw [first, second] at same
      cases same
    | error q' =>
      exact .inr ⟨q, q', rfl, rfl, alongside.report
        ((isFailure_of_check second).trans (isFailure_of_check first).symm)⟩

theorem Alongside.nameRoot (alongside : Alongside p g h) {root root' : Symbol × ElementId}
    (pair : RootPair p root root') :
    ∃ q, p.Within q ∧ Alongside q (g.nameRoot root.1 root.2) (h.nameRoot root'.1 root'.2) := by
  obtain ⟨_, e⟩ := root
  obtain ⟨symbol, e'⟩ := root'
  obtain ⟨rfl, named, pair⟩ := pair
  have same := alongside.declarations
  have typed := same.elementType pair
  unfold Generation.nameRoot
  dsimp only
  generalize g.declarations.elementType e = o, h.declarations.elementType e' = o' at typed
  cases typed with
  | none => exact ⟨p, .refl p, alongside⟩
  | @some type type' types =>
    have here := same.type types
    have own := here.symbol.eq_iff named
    dsimp only
    rw [(same.alike types).isComplex, here.overrideSymbol]
    simp only [own]
    split
    · exact ⟨p, .refl p, alongside⟩
    · split
      · have copies : (p.withType ⟨g.declarations.types.size⟩ ⟨h.declarations.types.size⟩).type
            (g.declarations.cloneType type).2 (h.declarations.cloneType type').2 := .inr ⟨rfl, rfl⟩
        have cloned := same.cloneType types
        have referring := cloned.element pair
        have given := (alongside.withDeclarations (cloned.modifyElement pair
          (f := fun e => { e with directType := some (g.declarations.cloneType type).2 })
          (k := fun e => { e with directType := some (h.declarations.cloneType type').2 })
          ⟨.some copies, referring.reference, referring.plain⟩)).note
            (.clonedType symbol.localName) (.clonedType symbol.localName)
        exact ⟨_, p.within_withType _ _,
          given.modifyType copies ((given.declarations.type copies).withOverride symbol)⟩
      · exact ⟨p, .refl p, alongside.modifyType types (here.withOverride _)⟩

theorem RootPair.mono {q : Pairing} (within : p.Within q) {root root' : Symbol × ElementId}
    (pair : RootPair p root root') : RootPair q root root' :=
  ⟨pair.1, pair.2.1, within.element pair.2.2⟩

theorem Alongside.nameRoots (alongside : Alongside p g h) {roots roots' : List (Symbol × ElementId)}
    (pairs : List.Forall₂ (RootPair p) roots roots') :
    (Generation.nameRoots h roots').2 = (Generation.nameRoots g roots).2 ∧
      ∃ q, p.Within q ∧
        Alongside q (Generation.nameRoots g roots).1 (Generation.nameRoots h roots').1 := by
  induction roots generalizing p g h roots' with
  | nil =>
    cases pairs
    exact ⟨rfl, p, .refl p, alongside⟩
  | cons root rest ih =>
    cases pairs with
    | @cons _ root' _ rest' pair pairs =>
      obtain ⟨symbol, e⟩ := root
      obtain ⟨symbol', e'⟩ := root'
      unfold Generation.nameRoots
      rcases alongside.check pair.2.2 "root" "root" symbol.localName symbol'.localName with
        ⟨passed, passed'⟩ | ⟨q, q', wrong, wrong', reported⟩
      · rw [passed, passed']
        obtain ⟨q, within, named⟩ := alongside.nameRoot pair
        obtain ⟨finished, q', within', all⟩ := ih named (pairs.imp fun _ _ pair => pair.mono within)
        exact ⟨finished, q', within.trans within', all⟩
      · rw [wrong, wrong']
        exact ⟨rfl, p, .refl p, reported⟩

/-! ## Fields -/

/-- Fields of the same name. -/
def FieldPair (p : Pairing) (field field' : String × ElementId) : Prop :=
  field'.1 = field.1 ∧ p.element field.2 field'.2

namespace Alongside

variable (alongside : Alongside p g h)

include alongside

theorem appendField (record : RecordId) (recordName recordName' name name' : String) (field : Field) :
    Alongside p (g.appendField record recordName name field)
      (h.appendField record recordName' name' field) := by
  unfold Generation.appendField
  rw [alongside.schema]
  cases g.schema.appendField record field with
  | error fault => exact alongside.report rfl
  | ok schema => exact alongside.withSchema schema

theorem readDefault (recordName recordName' name name' text : String) (type : ElemType) :
    Alongside p (g.readDefault recordName name text type).1
        (h.readDefault recordName' name' text type).1 ∧
      (h.readDefault recordName' name' text type).2 = (g.readDefault recordName name text type).2 := by
  unfold Generation.readDefault
  split
  · exact ⟨alongside, rfl⟩
  · split
    · exact ⟨alongside, rfl⟩
    · exact ⟨alongside.report rfl, rfl⟩

variable (pair : p.element e e') (types : p.type id id')

include pair types

theorem fieldShape : h.fieldShape e' id' = g.fieldShape e id := by
  have same := alongside.declarations
  unfold Generation.fieldShape
  rw [(same.type types).record, same.elementElemType pair, (same.element pair).maxOccurs,
    alongside.schema]

theorem typedField (name : String) (mode : FormattingMode) (value : Option DefaultValue) :
    h.typedField name e' id' mode value = g.typedField name e id mode value := by
  have same := alongside.declarations
  have element := same.element pair
  have named : fieldName (h.declarations.element e') name =
      fieldName (g.declarations.element e) name :=
    Element.get_of_plain (fieldName · name) (fun _ => rfl) element.plain
  have number : (h.declarations.element e').id = (g.declarations.element e).id :=
    Element.get_of_plain Element.id (fun _ => rfl) element.plain
  unfold Generation.typedField
  simp only [alongside.fieldShape pair types, (same.type types).enumeration, named, number,
    element.minOccurs, element.maxOccurs]

theorem layField (record : RecordId) (recordName recordName' name : String) (mode : FormattingMode)
    (text : String) (value : Option DefaultValue) :
    Alongside p (Generation.layField record recordName name e id mode text g value)
      (Generation.layField record recordName' name e' id' mode text h value) := by
  have wraps : h.wrapItems = g.wrapItems := by
    funext type enumeration
    unfold wrapItems
    rw [alongside.schema]
  unfold Generation.layField
  dsimp only
  rw [alongside.typedField pair types, (alongside.declarations.type types).enumeration, wraps]
  split
  · split
    · exact alongside.report rfl
    · exact (alongside.withSchema _).appendField ..
  · exact alongside.appendField ..

theorem emitTypedField (record : RecordId) (recordName recordName' name : String)
    (mode : FormattingMode) :
    Alongside p (g.emitTypedField record recordName name e id mode)
      (h.emitTypedField record recordName' name e' id' mode) := by
  have lays (g : Generation) (recordName : String) (e : ElementId) (id : TypeId) :
      g.emitTypedField record recordName name e id mode =
      (let text := (g.declarations.element e).defaultValue
      let read := g.readDefault recordName name text (g.fieldShape e id).1
      Generation.layField record recordName name e id mode text read.1 read.2) := rfl
  have text : (h.declarations.element e').defaultValue = (g.declarations.element e).defaultValue :=
    Element.get_of_plain Element.defaultValue (fun _ => rfl) (alongside.declarations.element pair).plain
  rw [lays, lays]
  dsimp only
  rw [text, alongside.fieldShape pair types]
  obtain ⟨read, value⟩ := alongside.readDefault recordName recordName' name name
    (g.declarations.element e).defaultValue (g.fieldShape e id).1
  rw [value]
  exact read.layField pair types ..

end Alongside

theorem Alongside.fieldMode (alongside : Alongside p g h) (pair : p.element e e')
    (types : p.type id id') (builtin : Vocabulary.Builtin) :
    h.fieldMode e' id' builtin = g.fieldMode e id builtin := by
  have same := alongside.declarations
  have mode : (h.declarations.element e').formattingMode = (g.declarations.element e).formattingMode :=
    Element.get_of_plain Element.formattingMode (fun _ => rfl) (same.element pair).plain
  unfold Generation.fieldMode
  rw [mode, (same.alike types).isList]

theorem Alongside.emitField (record : RecordId) (recordName recordName' : String)
    {entry entry' : String × ElementId} (pair : FieldPair p entry entry')
    (alongside : Alongside p g h) :
    Alongside p (Generation.emitField record recordName g entry)
      (Generation.emitField record recordName' h entry') := by
  obtain ⟨_, e⟩ := entry
  obtain ⟨name, e'⟩ := entry'
  obtain ⟨rfl, pair⟩ := pair
  have same := alongside.declarations
  have typed := same.elementType pair
  have elemType := same.elementElemType pair
  unfold Generation.emitField
  dsimp only
  rw [elemType]
  generalize g.declarations.elementType e = o, h.declarations.elementType e' = o' at typed
  cases typed with
  | none => exact alongside
  | @some type type' types =>
    dsimp only
    rw [(same.alike types).builtin]
    split
    · exact alongside.report rfl
    · split
      · exact alongside
      · rw [alongside.fieldMode pair types]
        exact alongside.emitTypedField pair types ..

/-! ## Types -/

theorem Alongside.addEnumerators (alongside : Alongside p g h) (enumeration : EnumerationId)
    (name name' : String) (enumerators : List (String × Int)) :
    Alongside p (g.addEnumerators enumeration name enumerators)
      (h.addEnumerators enumeration name' enumerators) := by
  refine Alongside.foldl (R := Eq) (fun {g h a b} same alongside => ?_) (List.forall₂_eq_eq_eq ▸ rfl)
    alongside
  subst same
  dsimp only
  rw [alongside.schema]
  cases g.schema.addEnumerator enumeration a.1 a.2 with
  | error fault => exact alongside.report rfl
  | ok schema => exact alongside.withSchema schema

theorem Alongside.emitEnumeration (alongside : Alongside p g h) (types : p.type id id') :
    Alongside p (g.emitEnumeration id) (h.emitEnumeration id') := by
  have here := alongside.declarations.type types
  unfold Generation.emitEnumeration
  dsimp only
  rw [here.enumeration, enumerationName?_of_alike here.outputSymbol, alongside.schema,
    here.enumerators, here.preserveEnumIds]
  split
  · exact alongside
  · split
    · exact alongside.report rfl
    · rename_i schema enumeration _
      have created := (alongside.withSchema schema).note
        (.enumerationEmitted (g.declarations.type id).outputSymbol.localName)
        (.enumerationEmitted (h.declarations.type id').outputSymbol.localName)
      have filled := (created.modifyType types
        (f := fun t => { t with enumeration := some enumeration })
        (k := fun t => { t with enumeration := some enumeration })
        (here.withEnumeration enumeration)).addEnumerators enumeration
          (g.declarations.type id).outputSymbol.localName
          (h.declarations.type id').outputSymbol.localName (g.declarations.type id).enumerators
      split
      · exact filled
      · exact filled.modifySchema (·.modifyEnumeration enumeration (·.alphabetize))

section Emit

variable {emit : Generation → TypeId → Generation}
  (emits : ∀ {g h id id'}, p.type id id' → Alongside p g h → Alongside p (emit g id) (emit h id'))

include emits

theorem Alongside.emitFieldTypes (alongside : Alongside p g h) {owner owner' : TypeId}
    (owners : p.type owner owner') (recordName recordName' : String)
    {entries entries' : List (String × ElementId)}
    (pairs : List.Forall₂ (FieldPair p) entries entries') :
    (Generation.emitFieldTypes emit owner' recordName' h entries').2 =
        (Generation.emitFieldTypes emit owner recordName g entries).2 ∧
      Alongside p (Generation.emitFieldTypes emit owner recordName g entries).1
        (Generation.emitFieldTypes emit owner' recordName' h entries').1 := by
  induction pairs generalizing g h with
  | nil => exact ⟨rfl, alongside⟩
  | @cons entry entry' rest rest' pair pairs ih =>
    obtain ⟨_, e⟩ := entry
    obtain ⟨name, e'⟩ := entry'
    obtain ⟨rfl, pair⟩ := pair
    have checked := alongside.check pair recordName recordName' name name
    have typed := alongside.declarations.elementType pair
    unfold Generation.emitFieldTypes
    dsimp only
    generalize g.declarations.elementType e = o, h.declarations.elementType e' = o' at typed
    cases typed with
    | none =>
      rcases checked with ⟨passed, passed'⟩ | ⟨q, q', wrong, wrong', reported⟩
      · rw [passed, passed']
        exact ih alongside
      · rw [wrong, wrong']
        exact ⟨rfl, reported⟩
    | @some type type' types =>
      dsimp only
      simp only [alongside.declarations.eq_type types owners]
      split
      · exact ih alongside
      · rcases checked with ⟨passed, passed'⟩ | ⟨q, q', wrong, wrong', reported⟩
        · rw [passed, passed']
          exact ih (emits types alongside)
        · rw [wrong, wrong']
          exact ⟨rfl, reported⟩

theorem Alongside.emitRecord (alongside : Alongside p g h) (types : p.type id id') :
    Alongside p (Generation.emitRecord emit g id) (Generation.emitRecord emit h id') := by
  have same := alongside.declarations
  have here := same.type types
  have kind : recordKind h.declarations id' = recordKind g.declarations id := by
    rw [recordKind, recordKind, (same.alike types).isChoice]
  cases unmarked : (g.declarations.type id).record with
  | some record =>
    have marked : (g.declarations.type id).record.isSome = true := by rw [unmarked]; rfl
    rw [emitRecord_of_marked emit marked, emitRecord_of_marked emit (here.record ▸ marked)]
    exact alongside
  | none =>
    have unmarked' := here.record.trans unmarked
    have creates : h.schema.createRecord (recordName? (h.declarations.type id').outputSymbol)
        (recordKind h.declarations id') =
      g.schema.createRecord (recordName? (g.declarations.type id).outputSymbol)
        (recordKind g.declarations id) := by
      rw [alongside.schema, recordName?_of_alike here.outputSymbol, kind]
    cases created : g.schema.createRecord (recordName? (g.declarations.type id).outputSymbol)
        (recordKind g.declarations id) with
    | error fault =>
      rw [emitRecord_of_error emit unmarked created,
        emitRecord_of_error emit unmarked' (creates.trans created)]
      exact alongside.report rfl
    | ok made =>
      obtain ⟨schema, record⟩ := made
      rw [emitRecord_of_created emit unmarked created,
        emitRecord_of_created emit unmarked' (creates.trans created)]
      have marked : Alongside p (g.withRecord id schema record) (h.withRecord id' schema record) :=
        ((alongside.withSchema schema).modifyType types
          (f := fun t => { t with record := some record })
          (k := fun t => { t with record := some record }) (here.withRecord record)).note _ _
      obtain ⟨finished, typed⟩ := Alongside.emitFieldTypes emits marked types
        (g.declarations.type id).outputSymbol.localName
        (h.declarations.type id').outputSymbol.localName here.fields
      unfold fillRecord
      dsimp only
      rw [finished]
      split
      · exact Alongside.foldl (R := FieldPair p)
          (fun pair alongside => alongside.emitField record _ _ pair) here.fields typed
      · exact typed

end Emit

theorem Alongside.emitTypeWithin (limit : Nat) (types : p.type id id') (alongside : Alongside p g h) :
    Alongside p (Generation.emitTypeWithin limit g id) (Generation.emitTypeWithin limit h id') := by
  induction limit generalizing g h id id' with
  | zero => exact alongside
  | succ limit ih =>
    have same := alongside.declarations
    unfold Generation.emitTypeWithin
    rw [(same.alike types).builtin, (same.type types).enumerators]
    split
    · exact alongside.report rfl
    · split
      · exact Alongside.emitRecord (fun types alongside => ih types alongside)
          (alongside.withDeclarations (same.sortFields types)) types
      · split
        · exact alongside
        · exact alongside.emitEnumeration types

theorem Alongside.emitRoot (pair : p.element e e') (alongside : Alongside p g h) :
    Alongside p (g.emitRoot e) (h.emitRoot e') := by
  have same := alongside.declarations
  have typed := same.elementType pair
  unfold Generation.emitRoot
  generalize g.declarations.elementType e = o, h.declarations.elementType e' = o' at typed
  cases typed with
  | none => exact alongside
  | @some type type' types =>
    dsimp only
    rw [(same.alike types).isComplex]
    split
    · unfold Generation.emitType
      rw [same.types]
      exact alongside.emitTypeWithin _ types
    · exact alongside

/-! ## Generations -/

theorem roots_nameRoot (g : Generation) (symbol : Symbol) (e : ElementId) :
    (g.nameRoot symbol e).declarations.roots = g.declarations.roots := by
  unfold nameRoot
  split
  · rfl
  · split
    · rfl
    · split <;> rfl

theorem roots_nameRoots (roots : List (Symbol × ElementId)) (g : Generation) :
    (nameRoots g roots).1.declarations.roots = g.declarations.roots := by
  induction roots generalizing g with
  | nil => rfl
  | cons root rest ih =>
    unfold nameRoots
    split
    · rfl
    · exact (ih _).trans (roots_nameRoot g root.1 root.2)

/-- What is generated from declarations under other numbers is the same. -/
theorem Alongside.run (alongside : Alongside p g h)
    (roots : List.Forall₂ (RootPair p) g.declarations.roots.toSorted
      h.declarations.roots.toSorted) :
    g.run.schema = h.run.schema ∧ h.run.hasFailed = g.run.hasFailed := by
  have runs (g : Generation) : g.run = Generation.emitNamed
      (Generation.nameRoots { g with schema := {} } g.declarations.roots.toSorted) := rfl
  obtain ⟨finished, q, within, named⟩ := (alongside.withSchema {}).nameRoots roots
  have kept := roots_nameRoots g.declarations.roots.toSorted { g with schema := {} }
  have kept' := roots_nameRoots h.declarations.roots.toSorted { h with schema := {} }
  rw [runs, runs]
  generalize Generation.nameRoots { g with schema := {} } g.declarations.roots.toSorted = left,
    Generation.nameRoots { h with schema := {} } h.declarations.roots.toSorted = right
    at finished named kept kept'
  unfold Generation.emitNamed
  dsimp only
  rw [finished]
  split
  · obtain ⟨declarations, schema, failed⟩ := noteTypes_keeps left.1
    obtain ⟨declarations', schema', failed'⟩ := noteTypes_keeps right.1
    have noted : Alongside q left.1.noteTypes right.1.noteTypes := by
      refine ⟨?_, ?_, ?_⟩
      · rw [declarations, declarations']
        exact named.declarations
      · rw [schema, schema', named.schema]
      · rw [failed, failed', named.failed]
    rw [declarations, declarations', kept, kept']
    have emitted := Alongside.foldl (R := RootPair q)
      (f := fun g root => g.emitRoot root.2) (k := fun g root => g.emitRoot root.2)
      (fun pair alongside => alongside.emitRoot pair.2.2)
      (roots.imp fun _ _ pair => pair.mono within) noted
    rw [List.foldl_map, List.foldl_map]
    exact ⟨emitted.schema.symm, emitted.failed⟩
  · exact ⟨named.schema.symm, named.failed⟩

end XsdRecords.Generation
