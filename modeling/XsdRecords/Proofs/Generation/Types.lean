import Mathlib.Data.Finset.Card
import XsdRecords.Proofs.Generation.Fields
import XsdRecords.Proofs.Generation.Outcomes
import XsdRecords.Proofs.Layout.Enumerators

/-! # Emitting types

A type that is emitted without a failure is a record or an enumeration afterwards, and so is all that
it reaches.  The records that were there stay as they are, and those that are new hold the fields of
their types.  The number of types without a record bounds the depth of an emission. -/

namespace XsdRecords.Generation

open XsdRecords.Declaration (Declarations ElementId TypeId TypeDef)
open XsdRecords.Layout

/-! ## Failures are kept -/

theorem hasFailed_addEnumerators {g : Generation} (h : g.hasFailed = true) (id : EnumerationId)
    (name : String) (enumerators : List (String × Int)) :
    (g.addEnumerators id name enumerators).hasFailed = true := by
  refine hasFailed_foldl (fun g enumerator failed => ?_) enumerators h
  dsimp only
  split
  · exact failed
  · exact hasFailed_report failed _

theorem hasFailed_emitEnumeration {g : Generation} (h : g.hasFailed = true) (type : TypeId) :
    (g.emitEnumeration type).hasFailed = true := by
  unfold emitEnumeration
  dsimp only
  split
  · exact h
  · split
    · exact hasFailed_report h _
    · split
      · exact hasFailed_addEnumerators (by simpa using h) _ _ _
      · exact hasFailed_addEnumerators (by simpa using h) _ _ _

theorem hasFailed_emitFieldTypes {emit : Generation → TypeId → Generation}
    (keeps : ∀ g type, g.hasFailed = true → (emit g type).hasFailed = true) (owner : TypeId)
    (recordName : String) (entries : List (String × ElementId)) {g : Generation}
    (h : g.hasFailed = true) :
    (emitFieldTypes emit owner recordName g entries).1.hasFailed = true := by
  refine emitFieldTypes_related
    (R := fun g g' => g.hasFailed = true → g'.hasFailed = true) ?_ ?_ ?_ keeps owner _ entries g h
  · exact fun _ failed => failed
  · exact fun first second failed => second (first failed)
  · exact fun _ problem failed => hasFailed_report failed problem

theorem hasFailed_emitRecord {emit : Generation → TypeId → Generation}
    (keeps : ∀ g type, g.hasFailed = true → (emit g type).hasFailed = true) {g : Generation}
    (h : g.hasFailed = true) (type : TypeId) : (emitRecord emit g type).hasFailed = true := by
  have outcome := emitRecord_outcome emit g type
  generalize emitRecord emit g type = result at outcome ⊢
  cases outcome with
  | marked marked => exact h
  | taken unmarked => exact hasFailed_report h _
  | @created schema record unmarked created =>
    have started : (g.withRecord type schema record).hasFailed = true := h
    have types := hasFailed_emitFieldTypes keeps type
      (g.declarations.type type).outputSymbol.localName (g.declarations.type type).fields started
    unfold fillRecord
    dsimp only
    split
    · exact hasFailed_foldl (fun g a failed => hasFailed_emitField failed _ _ a) _ types
    · exact types

theorem hasFailed_emitTypeWithin (limit : Nat) {g : Generation} (h : g.hasFailed = true)
    (type : TypeId) : (emitTypeWithin limit g type).hasFailed = true := by
  induction limit generalizing g type with
  | zero => exact h
  | succ limit ih =>
    have outcome := emitTypeWithin_outcome limit g type
    generalize emitTypeWithin (limit + 1) g type = result at outcome ⊢
    cases outcome with
    | undefined unknown => exact hasFailed_report h _
    | record complex =>
      refine hasFailed_emitRecord (fun g type failed => ih failed type) ?_ type
      exact h
    | plain scalar none => exact h
    | enumeration scalar some => exact hasFailed_emitEnumeration h type

theorem hasFailed_emitRoot {g : Generation} (h : g.hasFailed = true) (id : ElementId) :
    (g.emitRoot id).hasFailed = true := by
  obtain ⟨type, -, -, emitted⟩ | ⟨-, unchanged⟩ := emitRoot_outcome g id
  · rw [emitted]
    exact hasFailed_emitTypeWithin _ h type
  · rw [unchanged]
    exact h

/-! ## Growth by whole types -/

/-- The growth of a generation that emits types: earlier records stay, new ones are filled. -/
structure GrowsBelow (g g' : Generation) : Prop where
  grows : Extends g g'
  sound : Sound g'
  old {record : RecordId} : record.index < g.schema.records.size →
    g'.schema.record record = g.schema.record record
  filled {type : TypeId} {record : RecordId} :
    (g'.declarations.type type).record = some record →
      g.schema.records.size ≤ record.index → Filled g' type

/-- After a start without output every record is new, and so has all of its fields. -/
theorem GrowsBelow.filled_of_empty {g g' : Generation} (grown : GrowsBelow g g')
    (schema : g.schema = {}) (type : TypeId) : Filled g' type := fun record marked =>
  grown.filled marked (by rw [schema]; exact Nat.zero_le _) record marked

theorem GrowsBelow.refl {g : Generation} (sound : Sound g) : GrowsBelow g g where
  grows := .refl g
  sound := sound
  old _ := rfl
  filled marked new := absurd (sound.record_lt marked) (Nat.not_lt.2 new)

theorem GrowsBelow.trans {a b c : Generation} (ab : GrowsBelow a b) (bc : GrowsBelow b c) :
    GrowsBelow a c where
  grows := ab.grows.trans bc.grows
  sound := bc.sound
  old inRange := (bc.old (Nat.lt_of_lt_of_le inRange ab.grows.records)).trans (ab.old inRange)
  filled {type record} marked new := by
    by_cases recent : b.schema.records.size ≤ record.index
    · exact bc.filled marked recent
    · have inRange : record.index < b.schema.records.size := Nat.lt_of_not_le recent
      have before : (b.declarations.type type).record = some record := by
        rcases bc.grows.newRecord marked with old | ⟨-, later⟩
        · exact old
        · exact absurd later recent
      exact bc.grows.filled (ab.filled before new) before (bc.old inRange)

/-- The number of types without a record. -/
def unmarked (g : Generation) : Nat :=
  ((Finset.range g.declarations.types.size).filter fun index =>
    (g.declarations.type ⟨index⟩).record = none).card

theorem Extends.unmarked_le {g g' : Generation} (grows : Extends g g') :
    g'.unmarked ≤ g.unmarked := by
  apply Finset.card_le_card
  intro index member
  rw [Finset.mem_filter, grows.shape.size] at member
  rw [Finset.mem_filter]
  exact ⟨member.1, grows.record_eq_none member.2⟩

/-- A type that becomes a record is no longer without one. -/
theorem Extends.unmarked_lt {g g' : Generation} (grows : Extends g g') {type : TypeId}
    (inRange : type.index < g.declarations.types.size)
    (before : (g.declarations.type type).record = none) {record : RecordId}
    (after : (g'.declarations.type type).record = some record) : g'.unmarked < g.unmarked := by
  apply Finset.card_lt_card
  refine ⟨?_, fun reverse => ?_⟩
  · intro index member
    rw [Finset.mem_filter, grows.shape.size] at member
    rw [Finset.mem_filter]
    exact ⟨member.1, grows.record_eq_none member.2⟩
  · have member := reverse (Finset.mem_filter.2 ⟨Finset.mem_range.2 inRange, before⟩)
    have absent := (Finset.mem_filter.1 member).2
    rw [after] at absent
    cases absent

theorem unmarked_le_size (g : Generation) : g.unmarked ≤ g.declarations.types.size := by
  have bound := Finset.card_filter_le (Finset.range g.declarations.types.size) fun index =>
    (g.declarations.type ⟨index⟩).record = none
  rwa [Finset.card_range] at bound

/-! ## Enumerations -/

/-- Adding enumerators changes nothing but the enumeration. -/
theorem addEnumerators_keeps (id : EnumerationId) (name : String)
    (enumerators : List (String × Int)) (g : Generation) :
    (g.addEnumerators id name enumerators).declarations = g.declarations ∧
      (g.addEnumerators id name enumerators).schema.records = g.schema.records ∧
      (g.addEnumerators id name enumerators).schema.enumerations.size =
        g.schema.enumerations.size ∧
      (g.schema.Consistent → (g.addEnumerators id name enumerators).schema.Consistent) := by
  induction enumerators generalizing g with
  | nil => exact ⟨rfl, rfl, rfl, fun consistent => consistent⟩
  | cons enumerator rest ih =>
    simp only [addEnumerators, List.foldl_cons] at ih ⊢
    cases added : g.schema.addEnumerator id enumerator.1 enumerator.2 with
    | error fault => exact ih _
    | ok schema =>
      obtain ⟨e, own, rfl⟩ := RecordSchema.addEnumerator_eq_ok added
      obtain ⟨declarations, records, size, consistent⟩ :=
        ih { g with schema := g.schema.modifyEnumeration id fun _ => e }
      refine ⟨declarations, records, ?_, fun before => consistent ?_⟩
      · rw [size, RecordSchema.size_modifyEnumeration]
      · apply before.modifyEnumeration
        rw [(Enumeration.add_eq_ok_iff.1 own).2]

/-- An enumeration takes the enumerators that are added to it one after another. -/
theorem enumeration_addEnumerators (id : EnumerationId) (name : String)
    (enumerators : List (String × Int)) {g : Generation}
    (inRange : id.index < g.schema.enumerations.size) (other : EnumerationId) :
    (g.addEnumerators id name enumerators).schema.enumeration other =
      if other = id then
        { g.schema.enumeration id with
          enumerators := enumerators.foldl enroll (g.schema.enumeration id).enumerators }
      else g.schema.enumeration other := by
  -- The enumeration grows with each enumerator, and may be any in the induction.
  induction enumerators generalizing g with
  | nil =>
    split
    · rename_i same
      rw [same]
      rfl
    · rfl
  | cons enumerator rest ih =>
    simp only [addEnumerators, List.foldl_cons] at ih ⊢
    cases added : g.schema.addEnumerator id enumerator.1 enumerator.2 with
    | error fault =>
      rw [Enumeration.enroll_of_refused (RecordSchema.addEnumerator_eq_error added)]
      exact ih (g := g.report (.duplicateEnumerator name enumerator.1)) inRange
    | ok schema =>
      obtain ⟨e, own, rfl⟩ := RecordSchema.addEnumerator_eq_ok added
      obtain rfl := Enumeration.enroll_of_add own
      have later := ih (g := { g with schema := g.schema.modifyEnumeration id fun _ =>
        { g.schema.enumeration id with
          enumerators := enroll (g.schema.enumeration id).enumerators enumerator } })
        (by simpa using inRange)
      simp only [RecordSchema.enumeration_modifyEnumeration_eq _ _ _ _ inRange, if_true] at later
      refine later.trans ?_
      split <;> rfl

/-- The enumeration of a type: what is taken of its enumerators, in alphabetical order unless their
order is kept. -/
def enumerationOf (t : TypeDef) : Enumeration :=
  let taken : Enumeration := ⟨enumerationName? t.outputSymbol.localName, enrolled t.enumerators⟩
  if t.preserveEnumIds then taken else taken.alphabetize

/-- A state that differs in enumerations, and in the mark of a simple type for a new one. -/
structure MarksEnumeration (g g' : Generation) (type : TypeId) : Prop where
  scalar : g.declarations.isComplex type = false
  enumerators : (g.declarations.type type).enumerators ≠ []
  unmarked : (g.declarations.type type).enumeration = none
  declarations : g'.declarations = g.declarations.modifyType type fun t =>
    { t with enumeration := some ⟨g.schema.enumerations.size⟩ }
  records : g'.schema.records = g.schema.records
  size : g'.schema.enumerations.size = g.schema.enumerations.size + 1
  enumeration (id : EnumerationId) : g'.schema.enumeration id =
    if id.index = g.schema.enumerations.size then enumerationOf (g.declarations.type type)
    else g.schema.enumeration id

namespace MarksEnumeration

variable {g g' : Generation} {type : TypeId} (marks : MarksEnumeration g g' type)

include marks

theorem types (other : TypeId) : g'.declarations.type other = if other = type then
    { g.declarations.type type with enumeration := some ⟨g.schema.enumerations.size⟩ }
    else g.declarations.type other := by
  have inRange : type.index < g.declarations.types.size :=
    Declarations.lt_size_of_ne_blank fun blank => marks.enumerators (by rw [blank])
  rw [marks.declarations, Declarations.type_modifyType_eq _ _ _ _ inRange]

theorem record (other : TypeId) :
    (g'.declarations.type other).record = (g.declarations.type other).record := by
  rw [marks.declarations]
  exact Declarations.get_type_modifyType TypeDef.record _ _ _ fun _ => rfl

theorem rows (id : RecordId) : g'.schema.record id = g.schema.record id := by
  simp only [RecordSchema.record, marks.records]

theorem grows : Extends g g' where
  shape := by
    rw [marks.declarations]
    exact Declarations.sameShape_modifyType _ _ _ fun _ => rfl
  fields other := by
    rw [marks.declarations, Declarations.get_type_modifyType TypeDef.fields]
    exact fun _ => rfl
  record marked := by rw [marks.record, marked]
  newRecord marked := .inl (by rw [← marks.record, marked])
  enumeration {other} _ marked := by
    rw [marks.types, if_neg, marked]
    rintro rfl
    rw [marks.unmarked] at marked
    cases marked
  newEnumeration {other} _ marked := by
    rw [marks.types] at marked
    split at marked
    · rename_i same
      rw [same]
      exact .inr ⟨marks.scalar, marks.enumerators⟩
    · exact .inl marked
  records := by rw [marks.records]
  enumerations := by
    have size := marks.size
    omega
  name _ := by rw [marks.rows]
  kind _ := by rw [marks.rows]
  unmarked _ _ := marks.rows _

end MarksEnumeration

theorem GrowsBelow.of_enumeration {g g' : Generation} (sound : Sound g) {type : TypeId}
    (marks : MarksEnumeration g g' type) (consistent : g'.schema.Consistent) :
    GrowsBelow g g' := by
  have grows := marks.grows
  have record := marks.record
  have rows := marks.rows
  refine ⟨grows, ?_, fun _ => rows _, fun marked new => ?_⟩
  · refine ⟨consistent, fun marked => ?_, fun marked => ?_, fun marked other => ?_,
      fun marked => ?_, fun marked => ?_, fun {other} _ marked => ?_, fun id field inside => ?_⟩
    · rw [record] at marked
      rw [marks.records]
      exact sound.record_lt marked
    · rw [record] at marked
      rw [grows.shape.isComplex]
      exact sound.complex marked
    · rw [record] at marked other
      exact sound.injective marked other
    · rw [record] at marked
      rw [rows, grows.shape.outputSymbol]
      exact sound.name marked
    · rw [record] at marked
      rw [rows, grows.recordKind]
      exact sound.kind marked
    · rw [marks.types] at marked
      split at marked
      · obtain rfl := Option.some.inj marked
        rw [marks.size]
        exact Nat.lt_succ_self _
      · exact Nat.lt_of_lt_of_le (sound.enumeration_lt marked) grows.enumerations
    · rw [rows] at inside
      exact (sound.fields id field inside).imp (fun ⟨e, h⟩ => ⟨e, grows.fieldOf h⟩) grows.isItem
  · rw [record] at marked
    exact absurd (sound.record_lt marked) (Nat.not_lt.2 new)

/-- What emitting a new enumeration does, once its name is found to be free. -/
theorem emitEnumeration_new {g : Generation} {type : TypeId}
    (unmarked : (g.declarations.type type).enumeration = none) {made : RecordSchema × EnumerationId}
    (created : g.schema.createEnumeration
      (enumerationName? (g.declarations.type type).outputSymbol.localName) = .ok made) :
    (g.emitEnumeration type).declarations = g.declarations.modifyType type (fun t =>
        { t with enumeration := some ⟨g.schema.enumerations.size⟩ }) ∧
      (g.emitEnumeration type).schema.records = g.schema.records ∧
      (g.emitEnumeration type).schema.enumerations.size = g.schema.enumerations.size + 1 ∧
      (g.schema.Consistent → (g.emitEnumeration type).schema.Consistent) := by
  unfold emitEnumeration
  simp only [unmarked, Option.isSome_none, Bool.false_eq_true, if_false, created]
  obtain ⟨schema, id⟩ := made
  obtain ⟨names, -, place, whole⟩ := RecordSchema.createEnumeration_eq_ok created
  dsimp only
  obtain ⟨declarations, records, size, keeps⟩ := addEnumerators_keeps id
    (g.declarations.type type).outputSymbol.localName (g.declarations.type type).enumerators
    (Generation.modifyType (Generation.note { g with schema }
      (.enumerationEmitted (g.declarations.type type).outputSymbol.localName)) type
      fun t => { t with enumeration := some id })
  have pushed : schema.enumerations.size = g.schema.enumerations.size + 1 := by
    rw [whole]
    exact Array.size_push _
  have same : schema.records = g.schema.records := by rw [whole]
  rw [← place]
  split
  · exact ⟨declarations, records.trans same, size.trans pushed,
      fun consistent => keeps (consistent.createEnumeration created)⟩
  · refine ⟨declarations, records.trans same, ?_, fun consistent => ?_⟩
    · rw [RecordSchema.size_modifyEnumeration]
      exact size.trans pushed
    · exact (keeps (consistent.createEnumeration created)).modifyEnumeration _ _ rfl

theorem enumeration_emitEnumeration {g : Generation} {type : TypeId}
    (unmarked : (g.declarations.type type).enumeration = none) {made : RecordSchema × EnumerationId}
    (created : g.schema.createEnumeration
      (enumerationName? (g.declarations.type type).outputSymbol.localName) = .ok made)
    (other : EnumerationId) :
    (g.emitEnumeration type).schema.enumeration other =
      if other.index = g.schema.enumerations.size then enumerationOf (g.declarations.type type)
      else g.schema.enumeration other := by
  unfold emitEnumeration enumerationOf
  simp only [unmarked, Option.isSome_none, Bool.false_eq_true, if_false, created]
  obtain ⟨schema, id⟩ := made
  obtain ⟨names, -, rfl, rfl⟩ := RecordSchema.createEnumeration_eq_ok created
  dsimp only
  generalize begins : Generation.modifyType (Generation.note _ _) type _ = begun
  have size : begun.schema.enumerations.size = g.schema.enumerations.size + 1 := by
    rw [← begins]
    exact Array.size_push _
  have rows (id : EnumerationId) : begun.schema.enumeration id =
      if id.index = g.schema.enumerations.size then
        { name := enumerationName? (g.declarations.type type).outputSymbol.localName }
      else g.schema.enumeration id := by
    rw [← begins]
    exact RecordSchema.enumeration_push _ _ _ _
  have filled := enumeration_addEnumerators ⟨g.schema.enumerations.size⟩
    (g.declarations.type type).outputSymbol.localName (g.declarations.type type).enumerators
    (g := begun) (size ▸ Nat.lt_succ_self _)
  rw [rows, if_pos rfl] at filled
  have same : other = ⟨g.schema.enumerations.size⟩ ↔ other.index = g.schema.enumerations.size :=
    ⟨congrArg EnumerationId.index, congrArg EnumerationId.mk⟩
  split
  · rename_i kept
    rw [filled, if_congr same rfl rfl, rows]
    split <;> rfl
  · change (RecordSchema.modifyEnumeration _ _ _).enumeration other = _
    rw [RecordSchema.enumeration_modifyEnumeration_eq _ _ _ _ ?_, filled, filled, if_pos rfl,
      if_congr same rfl rfl, if_congr same rfl rfl]
    · split
      · rfl
      · rename_i new
        rw [rows, if_neg new]
    · rw [(addEnumerators_keeps _ _ _ _).2.2.1, size]
      exact Nat.lt_succ_self _

/-- An enumeration whose name is taken fails the generation. -/
theorem emitEnumeration_taken {g : Generation} {type : TypeId}
    (unmarked : (g.declarations.type type).enumeration = none) {fault : SchemaFault}
    (taken : g.schema.createEnumeration
      (enumerationName? (g.declarations.type type).outputSymbol.localName) = .error fault) :
    g.emitEnumeration type =
      g.report (.nameCollision (g.declarations.type type).outputSymbol.localName) := by
  unfold emitEnumeration
  simp only [unmarked, Option.isSome_none, Bool.false_eq_true, if_false, taken]

theorem Sound.record_eq_none {g : Generation} (sound : Sound g) {type : TypeId}
    (scalar : g.declarations.isComplex type = false) :
    (g.declarations.type type).record = none := by
  cases marked : (g.declarations.type type).record with
  | none => rfl
  | some record =>
    rw [sound.complex marked] at scalar
    cases scalar

theorem Sound.emitted_of_enumeration {g : Generation} (sound : Sound g) {type : TypeId}
    (scalar : g.declarations.isComplex type = false)
    (enumerated : (g.declarations.type type).enumerators ≠ [] →
      (g.declarations.type type).enumeration.isSome = true) : Emitted g type where
  complex complex := by
    rw [scalar] at complex
    cases complex
  scalar := sound.record_eq_none
  enumerated _ enumerators := by
    obtain ⟨enumeration, marked⟩ := Option.isSome_iff_exists.1 (enumerated enumerators)
    exact ⟨enumeration, marked, sound.enumeration_lt marked⟩

/-- A simple type that is emitted without a failure is an enumeration. -/
theorem emitEnumeration_growsBelow {g : Generation} (sound : Sound g) {type : TypeId}
    (scalar : g.declarations.isComplex type = false)
    (enumerators : (g.declarations.type type).enumerators ≠ [])
    (ok : (g.emitEnumeration type).hasFailed = false) :
    GrowsBelow g (g.emitEnumeration type) ∧ Emitted (g.emitEnumeration type) type := by
  cases marked : (g.declarations.type type).enumeration with
  | some enumeration =>
    have unchanged : g.emitEnumeration type = g := by
      simp [emitEnumeration, marked]
    rw [unchanged]
    exact ⟨.refl sound, sound.emitted_of_enumeration scalar fun _ => by rw [marked]; rfl⟩
  | none =>
    obtain ⟨made, created⟩ : ∃ made, g.schema.createEnumeration
        (enumerationName? (g.declarations.type type).outputSymbol.localName) = .ok made := by
      cases created : g.schema.createEnumeration
          (enumerationName? (g.declarations.type type).outputSymbol.localName) with
      | ok made => exact ⟨made, rfl⟩
      | error fault =>
        rw [emitEnumeration_taken marked created, hasFailed_report_of_isFailure g rfl] at ok
        cases ok
    obtain ⟨declarations, records, size, keeps⟩ := emitEnumeration_new marked created
    have grown := GrowsBelow.of_enumeration sound
      ⟨scalar, enumerators, marked, declarations, records, size,
        enumeration_emitEnumeration marked created⟩ (keeps sound.store)
    have inRange : type.index < g.declarations.types.size :=
      Declarations.lt_size_of_ne_blank fun blank => enumerators (by rw [blank])
    refine ⟨grown, grown.sound.emitted_of_enumeration ?_ fun _ => ?_⟩
    · rw [grown.grows.shape.isComplex, scalar]
    · rw [declarations, Declarations.type_modifyType inRange]
      rfl

/-! ## Records -/

/-- What emission of types does up to a depth: it keeps failures, and without one it grows the
generation by the type and what it reaches. -/
structure EmitsWithin (limit : Nat) (emit : Generation → TypeId → Generation) : Prop where
  keeps (g : Generation) (type : TypeId) : g.hasFailed = true → (emit g type).hasFailed = true
  grows {g : Generation} (type : TypeId) : Sound g → g.unmarked < limit →
    (emit g type).hasFailed = false → GrowsBelow g (emit g type) ∧ Emitted (emit g type) type

/-- The types of fields that are emitted without a failure are all emitted. -/
theorem emitFieldTypes_growsBelow {limit : Nat} {emit : Generation → TypeId → Generation}
    (emits : EmitsWithin limit emit) (owner : TypeId) (recordName : String)
    (entries : List (String × ElementId)) {g : Generation} (sound : Sound g)
    (depth : g.unmarked < limit) (complex : g.declarations.isComplex owner = true)
    (ok : (emitFieldTypes emit owner recordName g entries).1.hasFailed = false) :
    GrowsBelow g (emitFieldTypes emit owner recordName g entries).1 ∧
      ∀ entry ∈ entries, ∃ type builtin,
        g.declarations.elementType entry.2 = some type ∧
          g.declarations.builtin type = some builtin ∧
          (type = owner ∨ Emitted (emitFieldTypes emit owner recordName g entries).1 type) := by
  induction entries generalizing g with
  | nil => exact ⟨.refl sound, by simp⟩
  | cons entry rest ih =>
    have outcome := emitFieldTypes_outcome emit owner recordName entry rest g
    generalize emitFieldTypes emit owner recordName g (entry :: rest) = result at ok outcome ⊢
    cases outcome with
    | refused wrong =>
      rw [hasFailed_of_check wrong] at ok
      cases ok
    | own typed =>
      obtain ⟨grown, ready⟩ := ih sound depth complex ok
      obtain ⟨builtin, built, -⟩ := Declarations.exists_builtin_of_isComplex complex
      exact ⟨grown, List.forall_mem_cons.2 ⟨⟨owner, builtin, typed, built, .inl rfl⟩, ready⟩⟩
    | @emitted type typed other passed =>
      have emitOk := unfailed_before (hasFailed_emitFieldTypes emits.keeps _ _ _) ok
      obtain ⟨first, emitted⟩ := emits.grows type sound depth emitOk
      obtain ⟨grown, ready⟩ := ih first.sound
        (Nat.lt_of_le_of_lt first.grows.unmarked_le depth)
        (by rw [first.grows.shape.isComplex, complex]) ok
      refine ⟨first.trans grown, List.forall_mem_cons.2 ⟨?_, fun entry' later => ?_⟩⟩
      · obtain ⟨found, builtin, typedAgain, built⟩ := check_eq_ok passed
        obtain rfl := Option.some.inj (typed.symm.trans typedAgain)
        exact ⟨type, builtin, typed, built, .inr (grown.grows.emitted emitted)⟩
      · obtain ⟨type', builtin, typed', built, done⟩ := ready entry' later
        rw [first.grows.shape.elementType] at typed'
        rw [first.grows.shape.builtin] at built
        exact ⟨type', builtin, typed', built, done⟩

/-- A complex type that gets a new, empty record. -/
structure Opens (g g' : Generation) (type : TypeId) (record : RecordId) : Prop where
  grows : Extends g g'
  sound : Sound g'
  marked : (g'.declarations.type type).record = some record
  place : record = ⟨g.schema.records.size⟩
  size : g'.schema.records.size = g.schema.records.size + 1
  empty : (g'.schema.record record).fields = []
  old {other : RecordId} : other.index < g.schema.records.size →
    g'.schema.record other = g.schema.record other

/-- A state that differs in a new record, and in the mark of a complex type for it. -/
structure MarksRecord (g g' : Generation) (type : TypeId) (record : RecordId) : Prop where
  complex : g.declarations.isComplex type = true
  unmarked : (g.declarations.type type).record = none
  created : g.schema.createRecord (recordName? (g.declarations.type type).outputSymbol)
    (recordKind g.declarations type) = .ok (g'.schema, record)
  declarations : g'.declarations = g.declarations.modifyType type fun t =>
    { t with record := some record }

theorem marksRecord_withRecord {g : Generation} {type : TypeId} {schema : RecordSchema}
    {record : RecordId} (complex : g.declarations.isComplex type = true)
    (unmarked : (g.declarations.type type).record = none)
    (created : g.schema.createRecord (recordName? (g.declarations.type type).outputSymbol)
      (recordKind g.declarations type) = .ok (schema, record)) :
    MarksRecord g (g.withRecord type schema record) type record :=
  ⟨complex, unmarked, created, rfl⟩

namespace MarksRecord

variable {g g' : Generation} {type : TypeId} {record : RecordId}
  (marks : MarksRecord g g' type record)

include marks

theorem place : record = ⟨g.schema.records.size⟩ := by
  obtain ⟨names, -, rfl, -⟩ := RecordSchema.createRecord_eq_ok marks.created
  rfl

theorem size : g'.schema.records.size = g.schema.records.size + 1 := by
  obtain ⟨names, -, -, schema⟩ := RecordSchema.createRecord_eq_ok marks.created
  rw [schema]
  exact Array.size_push _

/-- The new record is in the schema. -/
theorem inRange : record.index < g'.schema.records.size := by
  rw [marks.size, marks.place]
  exact Nat.lt_succ_self _

theorem enumerations : g'.schema.enumerations = g.schema.enumerations := by
  obtain ⟨names, -, -, schema⟩ := RecordSchema.createRecord_eq_ok marks.created
  rw [schema]

theorem rows (id : RecordId) : g'.schema.record id = if id.index = g.schema.records.size then
    { name := recordName? (g.declarations.type type).outputSymbol
      kind := recordKind g.declarations type }
    else g.schema.record id := by
  obtain ⟨names, -, -, schema⟩ := RecordSchema.createRecord_eq_ok marks.created
  rw [schema]
  exact RecordSchema.record_push _ _ _ _

theorem old {id : RecordId} (h : id.index < g.schema.records.size) :
    g'.schema.record id = g.schema.record id := by
  rw [marks.rows, if_neg (Nat.ne_of_lt h)]

theorem types (other : TypeId) : g'.declarations.type other = if other = type then
    { g.declarations.type type with record := some record } else g.declarations.type other := by
  rw [marks.declarations]
  exact Declarations.type_modifyType_eq _ _ _ _ (Declarations.lt_size_of_isComplex marks.complex)

theorem marked : (g'.declarations.type type).record = some record := by
  rw [marks.types, if_pos rfl]

theorem enumeration (other : TypeId) :
    (g'.declarations.type other).enumeration = (g.declarations.type other).enumeration := by
  rw [marks.declarations]
  exact Declarations.get_type_modifyType TypeDef.enumeration _ _ _ fun _ => rfl

/-- Who has a record has had it, or is the type with the new one. -/
theorem marks_cases {other : TypeId} {id : RecordId}
    (marked : (g'.declarations.type other).record = some id) :
    (other = type ∧ id = ⟨g.schema.records.size⟩) ∨
      (g.declarations.type other).record = some id := by
  rw [marks.types] at marked
  split at marked
  · rename_i same
    exact .inl ⟨same, (Option.some.inj marked).symm.trans marks.place⟩
  · exact .inr marked

theorem grows : Extends g g' where
  shape := by
    rw [marks.declarations]
    exact Declarations.sameShape_modifyType _ _ _ fun _ => rfl
  fields other := by
    rw [marks.declarations, Declarations.get_type_modifyType TypeDef.fields]
    exact fun _ => rfl
  record {other} _ marked := by
    rw [marks.types, if_neg, marked]
    rintro rfl
    rw [marks.unmarked] at marked
    cases marked
  newRecord marked := by
    rcases marks.marks_cases marked with ⟨rfl, rfl⟩ | before
    · exact .inr ⟨marks.complex, Nat.le_refl _⟩
    · exact .inl before
  enumeration marked := by rw [marks.enumeration, marked]
  newEnumeration marked := .inl (by rw [← marks.enumeration, marked])
  records := by
    have size := marks.size
    omega
  enumerations := by rw [marks.enumerations]
  name h := by rw [marks.old h]
  kind h := by rw [marks.old h]
  unmarked h _ := marks.old h

end MarksRecord

theorem MarksRecord.opens {g g' : Generation} (sound : Sound g) {type : TypeId} {record : RecordId}
    (marks : MarksRecord g g' type record) : Opens g g' type record := by
  have store := sound.store.createRecord marks.created
  have grows := marks.grows
  have shape := grows.shape
  have complex := marks.complex
  have rows := marks.rows
  have size := marks.size
  have old {id : RecordId} (h : id.index < g.schema.records.size) := marks.old h
  obtain rfl := marks.place
  refine ⟨grows, ?_, ?_, rfl, size, ?_, old⟩
  · refine ⟨store, fun marked => ?_, fun marked => ?_, fun marked other => ?_, fun marked => ?_,
      fun marked => ?_, fun marked => ?_, fun id field inside => ?_⟩
    · rcases marks.marks_cases marked with ⟨-, rfl⟩ | before
      · rw [size]
        exact Nat.lt_succ_self _
      · exact Nat.lt_of_lt_of_le (sound.record_lt before) grows.records
    · rw [shape.isComplex]
      rcases marks.marks_cases marked with ⟨rfl, -⟩ | before
      · exact complex
      · exact sound.complex before
    · rcases marks.marks_cases marked with ⟨rfl, rfl⟩ | before <;>
        rcases marks.marks_cases other with ⟨rfl, new⟩ | after
      · rfl
      · exact absurd (sound.record_lt after) (Nat.lt_irrefl _)
      · rw [new] at before
        exact absurd (sound.record_lt before) (Nat.lt_irrefl _)
      · exact sound.injective before after
    · rcases marks.marks_cases marked with ⟨rfl, rfl⟩ | before
      · rw [rows, if_pos rfl, shape.outputSymbol]
      · rw [old (sound.record_lt before), shape.outputSymbol, sound.name before]
    · rcases marks.marks_cases marked with ⟨rfl, rfl⟩ | before
      · rw [rows, if_pos rfl, grows.recordKind]
      · rw [old (sound.record_lt before), grows.recordKind, sound.kind before]
    · rw [marks.enumeration] at marked
      rw [marks.enumerations]
      exact sound.enumeration_lt marked
    · rw [rows] at inside
      split at inside
      · cases inside
      · exact (sound.fields id field inside).imp (fun ⟨e, h⟩ => ⟨e, grows.fieldOf h⟩) grows.isItem
  · exact marks.marked
  · rw [rows, if_pos rfl]

theorem Sound.emitted_of_record {g : Generation} (sound : Sound g) {type : TypeId}
    {record : RecordId} (marked : (g.declarations.type type).record = some record) :
    Emitted g type where
  complex _ := ⟨record, marked, sound.record_lt marked, sound.kind marked⟩
  scalar := sound.record_eq_none
  enumerated scalar := by
    rw [sound.complex marked] at scalar
    cases scalar

/-- A record that is filled without a failure is filled after all types of its fields. -/
theorem fillRecord_eq {emit : Generation → TypeId → Generation} {type : TypeId} {record : RecordId}
    {name : String} {fields : List (String × ElementId)} {g : Generation}
    (ok : (fillRecord emit type record name fields g).hasFailed = false) :
    (emitFieldTypes emit type name g fields).1.hasFailed = false ∧
      fillRecord emit type record name fields g =
        fields.foldl (emitField record name) (emitFieldTypes emit type name g fields).1 := by
  unfold fillRecord at ok ⊢
  dsimp only at ok ⊢
  have typesOk : (emitFieldTypes emit type name g fields).1.hasFailed = false := by
    split at ok
    · exact unfailed_before (hasFailed_foldl (fun g a h => hasFailed_emitField h _ _ a) _) ok
    · exact ok
  exact ⟨typesOk, if_pos (emitFieldTypes_finished type _ _ typesOk)⟩

/-- A new record grows the generation once it is filled, with whole types before. -/
theorem Opens.growsBelow {g start left final : Generation} {type : TypeId} {record : RecordId}
    {fields : List Field} (opened : Opens g start type record) (below : GrowsBelow start left)
    (last : GrowsBy left final record fields)
    (owns : List.Forall₂ (FieldOf final)
      (g.declarations.attributesFirst (g.declarations.type type).fields) fields) :
    GrowsBelow g final := by
  have grows : Extends g final := opened.grows.trans (below.grows.trans last.grows)
  have finalMark := last.grows.record (below.grows.record opened.marked)
  have size := opened.size
  have more := below.grows.records
  have place : record.index = g.schema.records.size := congrArg RecordId.index opened.place
  have own : (final.schema.record record).fields = fields := by
    rw [last.own, below.old (by omega), opened.empty, List.nil_append]
  refine ⟨grows, last.sound, fun {id} inRange => ?_, fun {other id} otherMark new => ?_⟩
  · have ne : id ≠ record := by
      rintro rfl
      omega
    rw [last.others ne (by omega), below.old (by omega), opened.old inRange]
  · by_cases same : id = record
    · rw [same] at otherMark
      obtain rfl := last.sound.injective otherMark finalMark
      intro id' found
      rw [finalMark] at found
      obtain rfl := Option.some.inj found
      rw [own, grows.shape.attributesFirst, grows.fields]
      exact owns
    · have before : (left.declarations.type other).record = some id := by
        rw [← last.declarations, otherMark]
      have ne : id.index ≠ record.index := fun h => same (congrArg RecordId.mk h)
      have filled := below.filled before (by omega)
      exact last.grows.filled filled before (last.others same (below.sound.record_lt before))

/-- A complex type that is emitted without a failure is a record with the fields of its entries. -/
theorem emitRecord_growsBelow {limit : Nat} {emit : Generation → TypeId → Generation}
    (emits : EmitsWithin limit emit) {g : Generation} (sound : Sound g)
    (depth : g.unmarked < limit + 1) {type : TypeId}
    (complex : g.declarations.isComplex type = true)
    (sorted : g.declarations.attributesFirst (g.declarations.type type).fields =
      (g.declarations.type type).fields)
    (ok : (emitRecord emit g type).hasFailed = false) :
    GrowsBelow g (emitRecord emit g type) ∧ Emitted (emitRecord emit g type) type := by
  have outcome := emitRecord_outcome emit g type
  generalize emitRecord emit g type = result at ok outcome ⊢
  cases outcome with
  | marked marked => exact ⟨.refl sound, sound.emitted_of_record marked⟩
  | taken unmarked =>
    rw [hasFailed_report_of_isFailure g rfl] at ok
    cases ok
  | @created schema record unmarked created =>
    obtain ⟨typesOk, filled⟩ := fillRecord_eq ok
    rw [filled] at ok ⊢
    have opened := (marksRecord_withRecord complex unmarked created).opens sound
    -- The type is marked before its fields are emitted: one fewer is left without a record.
    have deep : (g.withRecord type schema record).unmarked < limit := by
      have fewer := opened.grows.unmarked_lt (Declarations.lt_size_of_isComplex complex) unmarked
        opened.marked
      omega
    obtain ⟨below, ready⟩ := emitFieldTypes_growsBelow emits type _ _ opened.sound deep
      (by rw [opened.grows.shape.isComplex, complex]) typesOk
    generalize (emitFieldTypes emit type (g.declarations.type type).outputSymbol.localName
      (g.withRecord type schema record) (g.declarations.type type).fields).1 = left at *
    have ownMark := below.grows.record opened.marked
    have readyLeft : ∀ entry ∈ (g.declarations.type type).fields, ∃ type builtin,
        left.declarations.elementType entry.2 = some type ∧
          left.declarations.builtin type = some builtin ∧ Emitted left type := by
      intro entry member
      obtain ⟨found, builtin, typed, built, done⟩ := ready entry member
      refine ⟨found, builtin, by rw [below.grows.shape.elementType, typed],
        by rw [below.grows.shape.builtin, built], ?_⟩
      rcases done with rfl | done
      · exact below.sound.emitted_of_record ownMark
      · exact done
    obtain ⟨fields, owns, last⟩ := foldl_emitField_growsBy _ below.sound ownMark readyLeft ok
    exact ⟨opened.growsBelow below last (sorted.symm ▸ owns),
      last.sound.emitted_of_record (last.grows.record ownMark)⟩

/-! ## All types that are reached -/

/-- A generation that grows without new records and enumerations stays sound. -/
theorem Sound.of_schema {g g' : Generation} (sound : Sound g) (grows : Extends g g')
    (schema : g'.schema = g.schema)
    (record : ∀ type, (g'.declarations.type type).record = (g.declarations.type type).record)
    (enumeration : ∀ type, (g'.declarations.type type).enumeration =
      (g.declarations.type type).enumeration) : Sound g' where
  store := by rw [schema]; exact sound.store
  record_lt marked := by
    rw [record] at marked
    rw [schema]
    exact sound.record_lt marked
  complex marked := by
    rw [record] at marked
    rw [grows.shape.isComplex]
    exact sound.complex marked
  injective marked other := by
    rw [record] at marked other
    exact sound.injective marked other
  name marked := by
    rw [record] at marked
    rw [schema, grows.shape.outputSymbol]
    exact sound.name marked
  kind marked := by
    rw [record] at marked
    rw [schema, grows.recordKind]
    exact sound.kind marked
  enumeration_lt marked := by
    rw [enumeration] at marked
    rw [schema]
    exact sound.enumeration_lt marked
  fields id field inside := by
    rw [schema] at inside
    exact (sound.fields id field inside).imp (fun ⟨e, h⟩ => ⟨e, grows.fieldOf h⟩) grows.isItem

/-- Sorting the fields of a type leaves its marks alone. -/
theorem marks_sortFields (d : Declarations) (type other : TypeId) :
    ((d.sortFields type).type other).record = (d.type other).record ∧
      ((d.sortFields type).type other).enumeration = (d.type other).enumeration :=
  ⟨Declarations.get_type_modifyType TypeDef.record _ _ _ fun _ => rfl,
    Declarations.get_type_modifyType TypeDef.enumeration _ _ _ fun _ => rfl⟩

theorem extends_sortFields (g : Generation) (type : TypeId) :
    Extends g { g with declarations := g.declarations.sortFields type } where
  shape := Declarations.sameShape_sortFields _ _
  fields := Declarations.attributesFirst_fields_sortFields _ _
  record marked := by rw [(marks_sortFields _ _ _).1, marked]
  newRecord marked := .inl (by rw [← (marks_sortFields _ type _).1, marked])
  enumeration marked := by rw [(marks_sortFields _ _ _).2, marked]
  newEnumeration marked := .inl (by rw [← (marks_sortFields _ type _).2, marked])
  records := Nat.le_refl _
  enumerations := Nat.le_refl _
  name _ := rfl
  kind _ := rfl
  unmarked _ _ := rfl

/-- Sorting the fields of a type only grows the generation in name. -/
theorem sortFields_growsBelow {g : Generation} (sound : Sound g) (type : TypeId) :
    GrowsBelow g { g with declarations := g.declarations.sortFields type } := by
  have grows := extends_sortFields g type
  refine ⟨grows, sound.of_schema grows rfl (fun _ => (marks_sortFields _ _ _).1)
    fun _ => (marks_sortFields _ _ _).2, fun _ => rfl, fun marked new => ?_⟩
  rw [(marks_sortFields _ _ _).1] at marked
  exact absurd (sound.record_lt marked) (Nat.not_lt.2 new)

/-- Emission within a depth that exceeds the number of types without a record. -/
theorem emitTypeWithin_emits (limit : Nat) : EmitsWithin limit (emitTypeWithin limit) := by
  induction limit with
  | zero => exact ⟨fun _ _ failed => failed, fun _ _ depth => absurd depth (Nat.not_lt_zero _)⟩
  | succ limit ih =>
    refine ⟨fun _ type failed => hasFailed_emitTypeWithin _ failed type,
      fun {g} type sound depth ok => ?_⟩
    have outcome := emitTypeWithin_outcome limit g type
    generalize emitTypeWithin (limit + 1) g type = result at ok outcome ⊢
    cases outcome with
    | undefined unknown =>
      rw [hasFailed_report_of_isFailure g rfl] at ok
      cases ok
    | record complex =>
      have first := sortFields_growsBelow sound type
      have complex' : (g.declarations.sortFields type).isComplex type = true := by
        rw [first.grows.shape.isComplex, complex]
      have sorted : (g.declarations.sortFields type).attributesFirst
          ((g.declarations.sortFields type).type type).fields =
            ((g.declarations.sortFields type).type type).fields := by
        rw [first.grows.shape.attributesFirst, Declarations.fields_sortFields _ _
          (Declarations.lt_size_of_isComplex complex), Declarations.attributesFirst_attributesFirst]
      obtain ⟨second, emitted⟩ := emitRecord_growsBelow ih first.sound
        (Nat.lt_of_le_of_lt first.grows.unmarked_le depth) complex' sorted ok
      exact ⟨first.trans second, emitted⟩
    | plain scalar none =>
      exact ⟨.refl sound, sound.emitted_of_enumeration scalar fun some => absurd none some⟩
    | enumeration scalar some => exact emitEnumeration_growsBelow sound scalar some ok

/-- A type that is emitted without a failure is emitted with all that it reaches. -/
theorem emitType_growsBelow {g : Generation} (sound : Sound g) (type : TypeId)
    (ok : (g.emitType type).hasFailed = false) :
    GrowsBelow g (g.emitType type) ∧ Emitted (g.emitType type) type :=
  (emitTypeWithin_emits _).grows type sound (Nat.lt_succ_of_le g.unmarked_le_size) ok

/-- Top-level elements that are emitted without a failure have emitted types, where complex. -/
theorem foldl_emitRoot_growsBelow (ids : List ElementId) {g : Generation} (sound : Sound g)
    (ok : (ids.foldl emitRoot g).hasFailed = false) :
    GrowsBelow g (ids.foldl emitRoot g) ∧
      ∀ id ∈ ids, ∀ type, g.declarations.elementType id = some type →
        g.declarations.isComplex type = true → Emitted (ids.foldl emitRoot g) type := by
  induction ids generalizing g with
  | nil => exact ⟨.refl sound, by simp⟩
  | cons id rest ih =>
    rw [List.foldl_cons] at ok ⊢
    have rootOk := unfailed_before (hasFailed_foldl (fun g a h => hasFailed_emitRoot h a) rest) ok
    have root : GrowsBelow g (g.emitRoot id) ∧ ∀ type,
        g.declarations.elementType id = some type → g.declarations.isComplex type = true →
          Emitted (g.emitRoot id) type := by
      obtain ⟨type, typed, -, emits⟩ | ⟨scalar, unchanged⟩ := emitRoot_outcome g id
      · rw [emits] at rootOk ⊢
        obtain ⟨grown, emitted⟩ := emitType_growsBelow sound type rootOk
        refine ⟨grown, fun other found _ => ?_⟩
        obtain rfl := Option.some.inj (typed.symm.trans found)
        exact emitted
      · rw [unchanged]
        refine ⟨.refl sound, fun type found complex => ?_⟩
        rw [scalar type found] at complex
        cases complex
    obtain ⟨first, emitted⟩ := root
    obtain ⟨last, others⟩ := ih first.sound ok
    refine ⟨first.trans last, fun other member type typed complex => ?_⟩
    rcases List.mem_cons.1 member with rfl | later
    · exact last.grows.emitted (emitted type typed complex)
    · exact others other later type (by rw [first.grows.shape.elementType, typed])
        (by rw [first.grows.shape.isComplex, complex])

end XsdRecords.Generation
