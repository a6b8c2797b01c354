import XsdRecords.Proofs.Session.Traced
import XsdRecords.Proofs.Session.Given

/-! # Where default values come from

An element has the default value that the tag gave which declared it, and need not occur if there is
one.  A top-level element may be declared twice, if the first document breaks off in it; the last tag
decides. -/

namespace XsdRecords.Session

open XsdRecords.Declaration (Declarations Element ElementId)
open XsdRecords.Markup (StartTag)
open XsdRecords.Action

/-! ## Element and attribute tags -/

/-- The default or fixed value that a tag gives. -/
def givenValue? (tag : StartTag) : Option String :=
  tag.plain? "default" <|> tag.plain? "fixed"

theorem ElementForm.value_of_read {tag : StartTag} {isAttribute : Bool} {form : ElementForm}
    (reads : ElementForm.read tag isAttribute = .ok form) : form.value = givenValue? tag := by
  simp only [ElementForm.read, exceptBind_eq_ok_iff] at reads
  obtain ⟨_, -, _, -, reads⟩ := reads
  split at reads
  · cases reads
  · simp only [exceptBind_eq_ok_iff] at reads
    obtain ⟨_, -, reads⟩ := reads
    split at reads
    · simp only [exceptBind_eq_ok_iff] at reads
      obtain ⟨_, -, reads⟩ := reads
      obtain rfl := Except.ok.inj reads
      rfl
    · obtain rfl := Except.ok.inj reads
      rfl

variable {s s' : Session}

/-! ## Nodes -/

/-- Whether a node is the tag that declares an element. -/
def Visit.declares (v : Visit) (id : ElementId) : Bool :=
  match v.node with
  | .start tag =>
    (tag.kind = .element || tag.kind = .attributeTag) && v.session.skipDepth = 0 &&
      (readStart v.session tag v.position).elementStack.head? = some id
  | .stop _ => false

/-- The default or fixed value that a node gives. -/
def Visit.value? (v : Visit) : Option String :=
  match v.node with
  | .start tag => givenValue? tag
  | .stop _ => none

/-- A session in which an element has the value that a node gave. -/
def HasValueOf (s : Session) (id : ElementId) (v : Visit) : Prop :=
  ∀ value, v.value? = some value → (s.declarations.element id).defaultValue = value ∧
    (s.declarations.element id).minOccurs ≤ 0

/-- Values are kept where elements are. -/
theorem HasValueOf.kept {id : ElementId} {v : Visit} (has : HasValueOf s id v)
    (defaultValue : (s'.declarations.element id).defaultValue =
      (s.declarations.element id).defaultValue)
    (minOccurs : (s'.declarations.element id).minOccurs ≤ (s.declarations.element id).minOccurs) :
    HasValueOf s' id v := fun value given =>
  ⟨defaultValue.trans (has value given).1, Int.le_trans minOccurs (has value given).2⟩

/-- An element or attribute tag declares the element that it opens. -/
theorem declares_eq {tag : StartTag} {position : Position} {own : ElementId}
    (isElement : tag.kind = .element ∨ tag.kind = .attributeTag) (reading : s.skipDepth = 0)
    (head : (readStart s tag position).elementStack.head? = some own) (id : ElementId) :
    (Visit.mk s (.start tag) position).declares id = decide (own = id) := by
  obtain kind | kind := isElement <;> simp [Visit.declares, kind, reading, head]

/-- No other tag declares an element. -/
theorem declares_eq_false {tag : StartTag} {position : Position}
    (noElement : tag.kind ≠ .element) (noAttribute : tag.kind ≠ .attributeTag) (id : ElementId) :
    (Visit.mk s (.start tag) position).declares id = false := by
  simp [Visit.declares, noElement, noAttribute]

/-- A start tag outside skipped content gives a value to the element that it declares. -/
theorem Lawful.values_readStart (lawful : Lawful s) {tag : StartTag} {position : Position}
    (reading : s.skipDepth = 0) (ok : (readStart s tag position).hasFailed = false)
    (id : ElementId) :
    if (Visit.mk s (.start tag) position).declares id then
      HasValueOf (readStart s tag position) id ⟨s, .start tag, position⟩
    else
      ((readStart s tag position).declarations.element id).defaultValue =
          (s.declarations.element id).defaultValue ∧
        ((readStart s tag position).declarations.element id).minOccurs ≤
          (s.declarations.element id).minOccurs := by
  have gives := lawful.gives_readStart reading ok
  cases gives with
  | element isElement own d form head before bound reads after =>
    rw [declares_eq isElement reading head]
    split
    · rename_i same
      obtain rfl := of_decide_eq_true same
      have formed := Declarations.element_modifyElement bound form.apply
      intro value given
      have own : form.value = some value := (ElementForm.value_of_read reads).trans given
      constructor
      · rw [after.defaultValue, formed, ElementForm.apply, own]
        rfl
      · rw [after.minOccurs, formed, ElementForm.apply, own]
        exact Int.le_refl _
    · rename_i apart
      have other := Declarations.element_modifyElement_of_ne (d := d)
        (fun same => apart (decide_eq_true same)) form.apply
      rw [after.defaultValue, after.minOccurs, other, before.defaultValue, before.minOccurs]
      exact ⟨rfl, Int.le_refl _⟩
  | type isType own d head before bound after =>
    rw [if_neg (by obtain h | h := isType <;> simp [declares_eq_false, h]), after.defaultValue,
      after.minOccurs]
    exact ⟨before.defaultValue id, Int.le_of_eq (before.minOccurs id)⟩
  | group isGroup d before widens =>
    rw [if_neg (by obtain h | h := isGroup <;> simp [declares_eq_false, h]),
      ← before.defaultValue, ← before.minOccurs]
    split at widens
    · rw [widens.2]
      exact ⟨Declarations.get_element_modifyElement Element.defaultValue _ _ id fun _ => rfl,
        Declarations.element_modifyElement_of (P := fun e => e.minOccurs ≤ (d.element id).minOccurs)
          (Int.le_refl _) fun same => same ▸ Int.min_le_left _ _⟩
    · rw [widens]
      exact ⟨rfl, Int.le_refl _⟩
  | enumerator isEnumeration elements types =>
    rw [if_neg (by simp [declares_eq_false, isEnumeration]), elements]
    exact ⟨rfl, Int.le_refl _⟩
  | nothing other kept =>
    have silent : tag.kind ≠ .element ∧ tag.kind ≠ .attributeTag :=
      ⟨fun h => other (h ▸ by decide), fun h => other (h ▸ by decide)⟩
    rw [if_neg (by simp [declares_eq_false, silent])]
    exact ⟨kept.defaultValue id, Int.le_of_eq (kept.minOccurs id)⟩

/-- A node gives a value to the element that it declares, and leaves the values of others alone. -/
theorem Visit.values_after {v : Visit} (lawful : Lawful v.session) (ok : v.after.hasFailed = false)
    (id : ElementId) :
    if v.declares id then HasValueOf v.after id v
    else
      (v.after.declarations.element id).defaultValue =
          (v.session.declarations.element id).defaultValue ∧
        (v.after.declarations.element id).minOccurs ≤
          (v.session.declarations.element id).minOccurs := by
  have makes := v.makes ok
  unfold HasValueOf
  generalize v.after.declarations = d at makes ⊢
  cases makes with
  | stop s name position => exact ⟨rfl, Int.le_refl _⟩
  | skipped s tag position skipping =>
    rw [if_neg (by simp [Visit.declares, skipping])]
    exact ⟨rfl, Int.le_refl _⟩
  | start s tag position reading started => exact lawful.values_readStart reading started id

/-! ## Runs -/

/-- The node that declares an element: the last one, if there are several. -/
def declaring? (visits : List Visit) (id : ElementId) : Option Visit :=
  (visits.filter (·.declares id)).getLast?

theorem declaring?_concat (visits : List Visit) (v : Visit) (id : ElementId) :
    declaring? (visits ++ [v]) id = if v.declares id then some v else declaring? visits id := by
  unfold declaring?
  cases declares : v.declares id with
  | true => simp [List.filter_append, declares]
  | false => simp [List.filter_append, declares]

/-- A session in which every element has the value that the node gave which declared it. -/
def HasValues (s : Session) (visits : List Visit) : Prop :=
  ∀ id v, declaring? visits id = some v → HasValueOf s id v

theorem HasValues.untouched {visits : List Visit} (has : HasValues s visits)
    (same : s'.declarations = s.declarations) : HasValues s' visits := fun id v declared =>
  (has id v declared).kept (by rw [same]) (Int.le_of_eq (by rw [same]))

theorem HasValues.after {visits : List Visit} {v : Visit} (has : HasValues v.session visits)
    (lawful : Lawful v.session) (ok : v.after.hasFailed = false) :
    HasValues v.after (visits ++ [v]) := by
  intro id w declared
  have values := v.values_after lawful ok id
  rw [declaring?_concat] at declared
  cases declares : v.declares id with
  | true =>
    rw [if_pos declares] at declared values
    obtain rfl := Option.some.inj declared
    exact values
  | false =>
    rw [declares, if_neg Bool.false_ne_true] at declared values
    exact (has id w declared).kept values.1 values.2

theorem carried_hasValues : Carried HasValues :=
  ⟨.untouched, .after⟩

end XsdRecords.Session
