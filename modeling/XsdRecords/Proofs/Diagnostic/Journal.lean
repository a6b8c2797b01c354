import XsdRecords.Diagnostic.Journal

/-! # What the diagnostic of a compile stands for

The diagnostic is computed report by report; `Decisive` says which of all reports it is: the last
one among those of the greatest severity.  A journal is `Sound` if its diagnostic is that of its
reports, and everything that is ever added to a journal keeps it so. -/

namespace XsdRecords

/-- The report that an event is, if it is one. -/
def Event.report? : Event → Option Report
  | .reported r => some r
  | _ => none

/-- Whether a report fails the compile. -/
def Report.isFailure (r : Report) : Bool :=
  r.problem.severity.isFailure

/-! ## The diagnostic of some reports -/

/-- The diagnostic is that of the last report among those of the greatest severity, the reports
being in the order they were made; where there are none it is empty. -/
inductive Decisive : List Report → Diagnostic → Prop
  | none : Decisive [] {}
  | last (before : List Report) (r : Report) (after : List Report)
      (earlier : ∀ r' ∈ before, r'.problem.severity ≤ r.problem.severity)
      (later : ∀ r' ∈ after, r'.problem.severity < r.problem.severity) :
      Decisive (before ++ r :: after) r.diagnostic

namespace Decisive

variable {reports : List Report} {d : Diagnostic}

/-- No report is more severe than one that is not below any before it and above all after it. -/
theorem severity_le {before after : List Report} {r other : Report}
    (earlier : ∀ r' ∈ before, r'.problem.severity ≤ r.problem.severity)
    (later : ∀ r' ∈ after, r'.problem.severity < r.problem.severity)
    (member : other ∈ before ++ r :: after) : other.problem.severity ≤ r.problem.severity := by
  obtain old | rfl | new := by simpa using member
  · exact earlier other old
  · exact Nat.le_refl _
  · exact Nat.le_of_lt (later other new)

/-- A further report takes over unless it is less severe. -/
theorem record (decisive : Decisive reports d) (r : Report) :
    Decisive (reports ++ [r]) (d.record r) := by
  cases decisive with
  | none => exact .last [] r [] nofun nofun
  | last before r' after earlier later =>
    have place : before ++ r' :: after ++ [r] = before ++ r' :: (after ++ [r]) := by simp
    unfold Diagnostic.record Diagnostic.replace
    split
    · rename_i less
      rw [place]
      refine .last before r' (after ++ [r]) earlier fun other member => ?_
      obtain old | new := List.mem_append.1 member
      · exact later other old
      · rw [List.mem_singleton.1 new]
        exact less
    · rename_i notLess
      have greatest : r'.problem.severity ≤ r.problem.severity := Nat.le_of_not_lt notLess
      exact .last (before ++ r' :: after) r []
        (fun other member => Nat.le_trans (severity_le earlier later member) greatest) nofun

/-- The diagnostic is empty or that of one of the reports. -/
theorem eq_or_mem (decisive : Decisive reports d) : d = {} ∨ ∃ r ∈ reports, d = r.diagnostic := by
  cases decisive with
  | none => exact .inl rfl
  | last before r after => exact .inr ⟨r, by simp, rfl⟩

/-- The diagnostic is a failure exactly if some report is. -/
theorem isFailure_iff (decisive : Decisive reports d) :
    d.isFailure = true ↔ ∃ r ∈ reports, r.isFailure = true := by
  cases decisive with
  | none =>
    have harmless : Diagnostic.isFailure {} = false := by decide
    simp [harmless]
  | last before r after earlier later =>
    refine ⟨fun failed => ⟨r, by simp, failed⟩, fun ⟨other, member, failed⟩ => ?_⟩
    have severe : Severity.warning < other.problem.severity := of_decide_eq_true failed
    exact decide_eq_true (Nat.lt_of_lt_of_le severe (severity_le earlier later member))

end Decisive

namespace Journal

variable {j j' j'' : Journal} {P Q : Report → Prop}

@[simp] theorem reports_note_of_other {e : Event} (other : e.report? = none) :
    (j.note e).reports = j.reports := by
  cases e with
  | reported r => cases other
  | _ => rfl

/-! ## Journals that grow -/

/-- A journal with more entries: events that are no reports, and reports of which `P` holds. -/
inductive Extends (P : Report → Prop) (j : Journal) : Journal → Prop
  | refl : Extends P j j
  | note {j' : Journal} (before : Extends P j j') (e : Event) (other : e.report? = none) :
      Extends P j (j'.note e)
  | report {j' : Journal} (before : Extends P j j') (r : Report) (holds : P r) :
      Extends P j (j'.report r)

theorem Extends.trans (first : Extends P j j') (second : Extends P j' j'') :
    Extends P j j'' := by
  induction second with
  | refl => exact first
  | note _ e other ih => exact ih.note e other
  | report _ r holds ih => exact ih.report r holds

/-- New reports come after the old ones, and `P` holds of each. -/
theorem Extends.reports (extends_ : Extends P j j') :
    ∃ new, j'.reports = new ++ j.reports ∧ ∀ r ∈ new, P r := by
  induction extends_ with
  | refl => exact ⟨[], rfl, nofun⟩
  | note _ e other ih =>
    rw [reports_note_of_other other]
    exact ih
  | report _ r holds ih =>
    obtain ⟨new, same, all⟩ := ih
    refine ⟨r :: new, by rw [reports_report, same, List.cons_append], fun r' member => ?_⟩
    obtain rfl | member := List.mem_cons.1 member
    · exact holds
    · exact all r' member

/-! ## Journals whose diagnostic is that of their reports -/

/-- The diagnostic of a journal is that of its reports. -/
def Sound (j : Journal) : Prop :=
  Decisive j.reports.reverse j.diagnostic

theorem sound_empty : Sound {} :=
  .none

theorem Sound.report (sound : j.Sound) (r : Report) : (j.report r).Sound := by
  rw [Sound, reports_report, List.reverse_cons]
  exact Decisive.record sound r

theorem Sound.congr (sound : j.Sound) (reports : j'.reports = j.reports)
    (diagnostic : j'.diagnostic = j.diagnostic) : j'.Sound := by
  rw [Sound, reports, diagnostic]
  exact sound

theorem Sound.extends (sound : j.Sound) (extends_ : Extends P j j') : j'.Sound := by
  induction extends_ with
  | refl => exact sound
  | note _ e other ih => exact ih.congr (reports_note_of_other other) rfl
  | report _ r holds ih => exact ih.report r

/-- A compile has failed exactly if a failure was reported. -/
theorem Sound.hasFailed_iff (sound : j.Sound) :
    j.hasFailed = true ↔ ∃ r ∈ j.reports, r.isFailure = true := by
  have decided := Decisive.isFailure_iff sound
  simp only [List.mem_reverse] at decided
  exact decided

end Journal

end XsdRecords
