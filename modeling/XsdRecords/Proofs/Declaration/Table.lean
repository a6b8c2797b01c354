import XsdRecords.Declaration.Symbol

/-! # Tables of symbols

Symbols are totally ordered.  The entries of a table in the order of their symbols are exactly what
the table finds, one entry for a symbol. -/

namespace XsdRecords.Declaration

/-! ## The order of symbols -/

namespace Symbol

theorem le_iff {a b : Symbol} : a.le b = true ↔
    a.namespaceId.value < b.namespaceId.value ∨
      a.namespaceId = b.namespaceId ∧ a.localName ≤ b.localName := by
  simp [le]

theorem le_total (a b : Symbol) : a.le b = true ∨ b.le a = true := by
  rw [le_iff, le_iff]
  rcases Int.lt_trichotomy a.namespaceId.value b.namespaceId.value with less | same | more
  · exact .inl (.inl less)
  · have spaces : a.namespaceId = b.namespaceId := congrArg NamespaceId.mk same
    rcases String.le_total a.localName b.localName with h | h
    · exact .inl (.inr ⟨spaces, h⟩)
    · exact .inr (.inr ⟨spaces.symm, h⟩)
  · exact .inr (.inl more)

theorem le_trans {a b c : Symbol} (ab : a.le b = true) (bc : b.le c = true) : a.le c = true := by
  rw [le_iff] at *
  rcases ab with ab | ⟨same, ab⟩
  · rcases bc with bc | ⟨same, -⟩
    · exact .inl (Int.lt_trans ab bc)
    · exact .inl (same ▸ ab)
  · rcases bc with bc | ⟨same', bc⟩
    · exact .inl (same ▸ bc)
    · exact .inr ⟨same.trans same', String.le_trans ab bc⟩

theorem le_antisymm {a b : Symbol} (ab : a.le b = true) (ba : b.le a = true) : a = b := by
  rw [le_iff] at *
  rcases ab with ab | ⟨same, ab⟩ <;> rcases ba with ba | ⟨same', ba⟩
  · omega
  · rw [same'] at ab
    omega
  · rw [same] at ba
    omega
  · cases a
    cases b
    cases same
    cases String.le_antisymm ab ba
    rfl

end Symbol

namespace SymbolTable

variable {α : Type}

/-! ## Entries from the last symbol to the first -/

/-- One symbol comes strictly after another. -/
def After (a b : Symbol × α) : Prop :=
  b.1.le a.1 = true ∧ a.1 ≠ b.1

theorem After.trans {a b c : Symbol × α} (ab : After a b) (bc : After b c) : After a c := by
  refine ⟨Symbol.le_trans bc.1 ab.1, fun same => ?_⟩
  have back : a.1.le b.1 = true := same ▸ bc.1
  exact ab.2 (Symbol.le_antisymm back ab.1)

theorem mem_place {s : Symbol} {a : α} {l : List (Symbol × α)} (sorted : l.Pairwise After)
    (entry : Symbol × α) :
    entry ∈ place s a l ↔ entry = (s, a) ∨ entry.1 ≠ s ∧ entry ∈ l := by
  induction l with
  | nil => simp [place]
  | cons head rest ih =>
    obtain ⟨other, b⟩ := head
    obtain ⟨first, sortedRest⟩ := List.pairwise_cons.1 sorted
    have later (entry : Symbol × α) (h : entry ∈ rest) : entry.1 ≠ other :=
      fun same => (first entry h).2 same.symm
    unfold place
    split
    · rename_i same
      subst same
      rw [List.mem_cons, List.mem_cons]
      constructor
      · rintro (new | old)
        · exact .inl new
        · exact .inr ⟨later entry old, .inr old⟩
      · rintro (new | ⟨ne, same | old⟩)
        · exact .inl new
        · exact absurd (congrArg Prod.fst same) ne
        · exact .inr old
    · rename_i ne
      split
      · rename_i before
        have absent (entry : Symbol × α) (h : entry ∈ (other, b) :: rest) : entry.1 ≠ s := by
          rcases List.mem_cons.1 h with rfl | old
          · exact Ne.symm ne
          · rintro rfl
            exact ne (Symbol.le_antisymm (first entry old).1 before)
        rw [List.mem_cons]
        constructor
        · rintro (new | old)
          · exact .inl new
          · exact .inr ⟨absent entry old, old⟩
        · rintro (new | ⟨-, old⟩)
          · exact .inl new
          · exact .inr old
      · rw [List.mem_cons, ih sortedRest, List.mem_cons]
        constructor
        · rintro (same | new | ⟨other, old⟩)
          · exact .inr ⟨by rw [same]; exact Ne.symm ne, .inl same⟩
          · exact .inl new
          · exact .inr ⟨other, .inr old⟩
        · rintro (new | ⟨other, same | old⟩)
          · exact .inr (.inl new)
          · exact .inl same
          · exact .inr (.inr ⟨other, old⟩)

theorem pairwise_place {s : Symbol} {a : α} {l : List (Symbol × α)} (sorted : l.Pairwise After) :
    (place s a l).Pairwise After := by
  induction l with
  | nil => exact List.pairwise_singleton _ _
  | cons head rest ih =>
    obtain ⟨other, b⟩ := head
    obtain ⟨first, sortedRest⟩ := List.pairwise_cons.1 sorted
    unfold place
    split
    · rename_i same
      subst same
      exact List.pairwise_cons.2 ⟨first, sortedRest⟩
    · rename_i ne
      split
      · rename_i before
        have next : After (s, a) (other, b) := ⟨before, ne⟩
        refine List.pairwise_cons.2 ⟨fun entry member => ?_, sorted⟩
        rcases List.mem_cons.1 member with rfl | old
        · exact next
        · exact next.trans (first entry old)
      · rename_i notBefore
        refine List.pairwise_cons.2 ⟨fun entry member => ?_, ih sortedRest⟩
        rcases (mem_place sortedRest entry).1 member with rfl | ⟨-, old⟩
        · refine ⟨?_, Ne.symm ne⟩
          rcases Symbol.le_total s other with le | le
          · exact le
          · exact absurd le notBefore
        · exact first entry old

/-! ## Entries in the order of their symbols -/

theorem foldr_place (entries : List (Symbol × α)) :
    (entries.foldr (fun (s, a) sorted => place s a sorted) []).Pairwise After ∧
      ∀ s a, (s, a) ∈ entries.foldr (fun (s, a) sorted => place s a sorted) [] ↔
        entries.lookup s = some a := by
  induction entries with
  | nil => exact ⟨.nil, by simp⟩
  | cons head rest ih =>
    obtain ⟨other, b⟩ := head
    obtain ⟨sorted, members⟩ := ih
    refine ⟨pairwise_place sorted, fun s a => ?_⟩
    rw [List.foldr_cons, mem_place sorted, members]
    by_cases same : s = other
    · simp [same, eq_comm]
    · simp [List.lookup_cons, beq_false_of_ne same, same]

/-- The entries of a table are what it finds. -/
theorem mem_toSorted {t : SymbolTable α} {s : Symbol} {a : α} :
    (s, a) ∈ t.toSorted ↔ t.find? s = some a := by
  rw [toSorted, List.mem_reverse, (foldr_place t.entries).2]
  rfl

/-- The entries of a table come in the strict order of their symbols. -/
theorem pairwise_toSorted (t : SymbolTable α) :
    t.toSorted.Pairwise fun a b => a.1.le b.1 = true ∧ a.1 ≠ b.1 := by
  rw [toSorted, List.pairwise_reverse]
  exact (foldr_place t.entries).1.imp fun h => ⟨h.1, Ne.symm h.2⟩

end SymbolTable

end XsdRecords.Declaration
