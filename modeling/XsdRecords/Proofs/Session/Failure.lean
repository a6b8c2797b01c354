import XsdRecords.Proofs.Session.Ends

/-! # Actions that fail

Every problem of an action fails the compile.  What is known of the end of an action without a
problem is therefore known of every session that has not failed.  Most problems are local: the tag
that they are reported for has them whatever was declared or named before. -/

namespace XsdRecords.Problem

/-- Whether a problem is that nothing of a name is declared. -/
def isUnknownName : Problem → Bool
  | noSuchElement _ | noSuchAttribute _ | noSuchType _ => true
  | _ => false

/-- Whether a problem is that a document includes itself. -/
def isRecursion : Problem → Bool
  | recursiveInclusion _ => true
  | _ => false

/-- A failure that depends neither on the names declared nor on the documents named so far. -/
structure IsLocal (p : Problem) : Prop where
  isFailure : p.severity.isFailure = true
  isUnknownName : p.isUnknownName = false
  isRecursion : p.isRecursion = false

/-- What may be wrong with the values of attributes. -/
inductive IsOfValue : Problem → Prop
  | number (attributeName value : String) : IsOfValue (.invalidNumber attributeName value)
  | use : IsOfValue .invalidUse
  | both : IsOfValue .defaultAndFixed

theorem IsOfValue.isLocal {p : Problem} (ofValue : p.IsOfValue) : p.IsLocal := by
  cases ofValue <;> exact ⟨rfl, rfl, rfl⟩

end XsdRecords.Problem

namespace XsdRecords.Session

open XsdRecords.Declaration (Element)
open XsdRecords.Layout (FormattingMode)
open XsdRecords.Markup (StartTag)

/-! ## Actions that end without a failure -/

/-- A problem that fails the compile. -/
abbrev Fails (problem : Problem) (_ : Session) : Prop :=
  problem.severity.isFailure = true

/-- What holds of an action that ends without a problem holds if performing it does not fail. -/
theorem done_of_perform {s : Session} {action : Action Unit} {P : Session → Prop}
    (ends : action.Ends s (fun _ s' => P s') Fails) (ok : (s.perform action).hasFailed = false) :
    P (s.perform action) := by
  refine perform_of_ends (P := fun s' => s'.hasFailed = false → P s') ?_ ok
  refine ends.imp (fun _ _ done _ => done) fun problem s' fails ok => ?_
  have failed : (s'.report problem).hasFailed = true :=
    Journal.hasFailed_report_of_isFailure s'.journal fails
  rw [failed] at ok
  cases ok

/-! ## Values of attributes -/

theorem isOfValue_of_mapM {text : Option String} {read : String → Except Problem Int}
    (reads : ∀ text problem, read text = .error problem → problem.IsOfValue)
    {problem : Problem} (h : text.mapM read = .error problem) : problem.IsOfValue := by
  cases text with
  | none => cases h
  | some text =>
    simp only [Option.mapM_some] at h
    cases number : read text with
    | ok n =>
      rw [number] at h
      cases h
    | error other =>
      rw [number] at h
      obtain rfl : other = problem := Except.error.inj h
      exact reads text _ number

theorem isOfValue_of_readNumber (attributeName text : String) (problem : Problem)
    (h : readNumber attributeName text = .error problem) : problem.IsOfValue := by
  unfold readNumber at h
  split at h
  · cases h
  · exact Except.error.inj h ▸ .number attributeName text

theorem isOfValue_of_minOccurs? {tag : StartTag} {problem : Problem}
    (h : minOccurs? tag = .error problem) : problem.IsOfValue :=
  isOfValue_of_mapM (isOfValue_of_readNumber "minOccurs") h

theorem isOfValue_of_maxOccurs? {tag : StartTag} {problem : Problem}
    (h : maxOccurs? tag = .error problem) : problem.IsOfValue := by
  refine isOfValue_of_mapM (fun text problem h => ?_) h
  unfold readMaxOccurs at h
  split at h
  · cases h
  · exact isOfValue_of_readNumber "maxOccurs" text problem h

theorem isOfValue_of_annotatedId? {tag : StartTag} {problem : Problem}
    (h : annotatedId? tag = .error problem) : problem.IsOfValue :=
  isOfValue_of_mapM (isOfValue_of_readNumber "id") h

/-! ## Forms of elements -/

theorem exceptBind_eq_error_iff {α β ε : Type} {x : Except ε α} {f : α → Except ε β} {e : ε} :
    (x >>= f) = .error e ↔ x = .error e ∨ ∃ a, x = .ok a ∧ f a = .error e := by
  cases x with
  | error e' => simp [bind, Except.bind]
  | ok a => simp [bind, Except.bind]

theorem exceptBind_eq_ok_iff {α β ε : Type} {x : Except ε α} {f : α → Except ε β} {b : β} :
    (x >>= f) = .ok b ↔ ∃ a, x = .ok a ∧ f a = .ok b := by
  cases x with
  | error e => simp [bind, Except.bind]
  | ok a => simp [bind, Except.bind]

theorem isOfValue_of_readUse {use : Option String} {problem : Problem}
    (h : readUse use = .error problem) : problem.IsOfValue := by
  unfold readUse at h
  split at h
  · cases h
  · cases h
  · cases h
  · cases h
  · exact Except.error.inj h ▸ .use

namespace ElementForm

theorem isOfValue_of_read {tag : StartTag} {isAttribute : Bool} {problem : Problem}
    (h : ElementForm.read tag isAttribute = .error problem) :
    problem.IsOfValue := by
  simp only [ElementForm.read, exceptBind_eq_error_iff] at h
  obtain least | ⟨_, -, largest | ⟨_, -, h⟩⟩ := h
  · exact isOfValue_of_minOccurs? least
  · exact isOfValue_of_maxOccurs? largest
  · split at h
    · exact Except.error.inj h ▸ .both
    · simp only [exceptBind_eq_error_iff] at h
      obtain number | ⟨_, -, h⟩ := h
      · exact isOfValue_of_annotatedId? number
      · split at h
        · simp only [exceptBind_eq_error_iff] at h
          obtain use | ⟨_, -, h⟩ := h
          · exact isOfValue_of_readUse use
          · cases h
        · cases h

theorem isAttribute_of_read {tag : StartTag} {isAttribute : Bool} {form : ElementForm}
    (h : ElementForm.read tag isAttribute = .ok form) : form.isAttribute = isAttribute := by
  simp only [ElementForm.read, exceptBind_eq_ok_iff] at h
  obtain ⟨_, -, _, -, h⟩ := h
  split at h
  · cases h
  · simp only [exceptBind_eq_ok_iff] at h
    obtain ⟨_, -, h⟩ := h
    split at h
    · rename_i marked
      simp only [exceptBind_eq_ok_iff] at h
      obtain ⟨_, -, h⟩ := h
      rw [← Except.ok.inj h, marked]
    · rename_i element
      rw [← Except.ok.inj h, Bool.eq_false_iff.2 element]

/-- A form says nothing of whether an element has a tag of its own. -/
theorem isUntagged_apply (form : ElementForm) (e : Element) :
    (form.apply e).isUntagged = e.isUntagged := by
  have marked := FormattingMode.contains_insert_of_disjoint .untagged .asAttribute
    (by decide) (by decide)
  have nillable := FormattingMode.contains_insert_of_disjoint .untagged .nillable
    (by decide) (by decide)
  simp only [Element.isUntagged, apply]
  split <;> split <;> simp only [marked, nillable]

theorem isAttribute_apply (form : ElementForm) (e : Element) :
    (form.apply e).isAttribute = (form.isAttribute || e.isAttribute) := by
  have nillable := FormattingMode.contains_insert_of_disjoint .asAttribute .nillable
    (by decide) (by decide)
  have marked := FormattingMode.contains_insert_self .asAttribute (by decide)
  simp only [Element.isAttribute, apply]
  split <;> split <;> simp only [*, Bool.true_or, Bool.false_or]

end ElementForm

end XsdRecords.Session
