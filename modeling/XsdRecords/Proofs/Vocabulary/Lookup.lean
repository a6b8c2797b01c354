import XsdRecords.Proofs.Text.Bytes
import XsdRecords.Vocabulary.Tag

/-! # The search for a tag finds what a scan of the table would

The comparison that checks the table, the one that the search makes and the order of the bytes are
the same order of names.  In a table whose names rise in it, dropping the half that cannot hold a
name loses no entry of that name. -/

namespace XsdRecords.Vocabulary

open Text.Utf8 (encodeText encodeText_lt_iff)

/-! ## One order of names -/

theorem nameLess_iff {as bs : List UInt8} : nameLess as bs = true ↔ as < bs := by
  induction as generalizing bs with
  | nil => cases bs <;> simp [nameLess]
  | cons a as ih =>
    cases bs with
    | nil => simp [nameLess]
    | cons b bs =>
      rw [nameLess, List.cons_lt_cons_iff]
      by_cases same : a = b
      · simp [same, ih]
      · simp [same]

/-- What is compared from a place on is what is left there. -/
theorem precedesFrom_eq {a b : Array UInt8} {i : Nat} (inLeft : i ≤ a.size) (inRight : i ≤ b.size) :
    precedesFrom a b i = nameLess (a.toList.drop i) (b.toList.drop i) := by
  have dropped {bytes : Array UInt8} {i : Nat} (inside : i < bytes.size) :
      bytes.toList.drop i = bytes[i] :: bytes.toList.drop (i + 1) :=
    List.drop_eq_getElem_cons (by simpa using inside)
  fun_induction precedesFrom a b i with
  | case1 i here _ _ differ => rw [dropped here.1, dropped here.2, nameLess, if_neg differ]
  | case2 i here _ _ same ih =>
    rw [ih here.1 here.2, dropped here.1, dropped here.2, nameLess, if_pos (not_not.1 same)]
  | case3 i ended =>
    have endsAt {bytes : Array UInt8} (ended : ¬i < bytes.size) : bytes.toList.drop i = [] :=
      List.drop_eq_nil_iff.2 (by simpa using ended)
    by_cases left : i < a.size
    · rw [endsAt fun right => ended ⟨left, right⟩, dropped left, nameLess]
      simp
      omega
    · by_cases right : i < b.size
      · rw [endsAt left, dropped right, nameLess]
        simp
        omega
      · rw [endsAt left, endsAt right, nameLess]
        simp
        omega

theorem precedes_eq (a b : String) : precedes a b = nameLess (encodeText a) (encodeText b) :=
  precedesFrom_eq (Nat.zero_le _) (Nat.zero_le _)

theorem nameLess_encodeText_iff {a b : String} :
    nameLess (encodeText a) (encodeText b) = true ↔ a < b := by
  rw [nameLess_iff, encodeText_lt_iff]

theorem precedes_iff {a b : String} : precedes a b = true ↔ a < b := by
  rw [precedes_eq, nameLess_encodeText_iff]

/-! ## What the checks establish -/

theorem risesFrom_iff {table : Array Entry} {i : Nat} :
    risesFrom table i = true ↔
      ∀ j, i ≤ j → (before : j - 1 < table.size) → (here : j < table.size) →
        table[j - 1].name < table[j].name := by
  fun_induction risesFrom table i with
  | case1 i here rises ih =>
    rw [ih]
    refine ⟨fun later j le before here => ?_, fun all j le => all j (by omega)⟩
    obtain rfl | lt := le.eq_or_lt
    · exact precedes_iff.1 rises
    · exact later j lt before here
  | case2 i here falls =>
    simp only [Bool.false_eq_true, false_iff, not_forall]
    exact ⟨i, le_rfl, by omega, here, fun less => falls (precedes_iff.2 less)⟩
  | case3 i ended => simpa using fun j le _ here => absurd here (by omega)

theorem placedFrom_iff {tags : Array Tag} {i : Nat} :
    placedFrom tags i = true ↔ ∀ j, i ≤ j → (here : j < tags.size) → tags[j].index = j := by
  fun_induction placedFrom tags i with
  | case1 i here placed ih =>
    rw [ih]
    refine ⟨fun later j le here => ?_, fun all j le here => all j (by omega) here⟩
    obtain rfl | lt := le.eq_or_lt
    · exact placed
    · exact later j lt here
  | case2 i here elsewhere =>
    simp only [Bool.false_eq_true, false_iff, not_forall]
    exact ⟨i, le_rfl, here, elsewhere⟩
  | case3 i ended => simpa using fun j le here => absurd here (by omega)

/-- In a table that passed the check every name is before every later one. -/
theorem pairwise_of_rises {table : List Entry} (rises : risesFrom table.toArray 1 = true) :
    table.Pairwise (·.name < ·.name) := by
  have : Trans (fun e f : Entry => e.name < f.name) (fun e f : Entry => e.name < f.name)
      (fun e f : Entry => e.name < f.name) := ⟨lt_trans⟩
  refine (List.isChain_iff_getElem.2 fun i next => ?_).pairwise
  exact risesFrom_iff.1 rises (i + 1) (by omega) (Nat.lt_of_succ_lt next) next

/-! ## Halving -/

/-- A table whose names rise orders its places as their names. -/
theorem name_lt_iff {table : Array Entry} (rising : table.toList.Pairwise (·.name < ·.name))
    {i j : Nat} (left : i < table.size) (right : j < table.size) :
    table[i].name < table[j].name ↔ i < j := by
  have rises {i j : Nat} (left : i < table.size) (right : j < table.size) (less : i < j) :
      table[i].name < table[j].name := List.pairwise_iff_getElem.1 rising i j left right less
  refine ⟨fun before => not_le.1 fun le => ?_, rises left right⟩
  obtain less | rfl := le.lt_or_eq
  · exact before.asymm (rises right left less)
  · exact before.false

/-- Halving finds the place of a name in the part of a table where it looks. -/
theorem searchSorted_eq_some_iff {table : Array Entry}
    (rising : table.toList.Pairwise (·.name < ·.name)) {s : String} {low high : Nat}
    (within : high ≤ table.size) {i : Nat} :
    searchSorted (encodeText s) table low high = some i ↔
      ∃ here : i < table.size, low ≤ i ∧ i < high ∧ table[i].name = s := by
  fun_induction searchSorted (encodeText s) table low high with
  | case1 low high left middle missing =>
    exact absurd (Array.getElem?_eq_none_iff.1 missing) (by omega)
  | case2 low high left middle entry found bytes below ih =>
    obtain ⟨inside, rfl⟩ := Array.getElem?_eq_some_iff.1 found
    rw [ih within]
    refine exists_congr fun here => ?_
    -- An entry of the name is past the middle, whose name is before it.
    have later : table[i].name = s → middle < i := fun named =>
      (name_lt_iff rising inside here).1 (named ▸ nameLess_encodeText_iff.1 below)
    exact ⟨fun ⟨_, less, named⟩ => ⟨by omega, less, named⟩,
      fun ⟨_, less, named⟩ => ⟨later named, less, named⟩⟩
  | case3 low high left middle entry found bytes notBelow above ih =>
    obtain ⟨inside, rfl⟩ := Array.getElem?_eq_some_iff.1 found
    rw [ih inside.le]
    refine exists_congr fun here => ?_
    have earlier : table[i].name = s → i < middle := fun named =>
      (name_lt_iff rising here inside).1 (named ▸ nameLess_encodeText_iff.1 above)
    exact ⟨fun ⟨le, _, named⟩ => ⟨le, by omega, named⟩,
      fun ⟨le, _, named⟩ => ⟨le, earlier named, named⟩⟩
  | case4 low high left middle entry found bytes notBelow notAbove =>
    obtain ⟨inside, rfl⟩ := Array.getElem?_eq_some_iff.1 found
    have named : table[middle].name = s :=
      le_antisymm (not_lt.1 fun less => notAbove (nameLess_encodeText_iff.2 less))
        (not_lt.1 fun less => notBelow (nameLess_encodeText_iff.2 less))
    rw [Option.some_inj]
    refine ⟨fun same => same ▸ ⟨inside, by omega, by omega, named⟩, ?_⟩
    rintro ⟨here, -, -, named'⟩
    have notLess : ¬i < middle := fun less =>
      ((name_lt_iff rising here inside).2 less).ne (named'.trans named.symm)
    have notMore : ¬middle < i := fun more =>
      ((name_lt_iff rising inside here).2 more).ne (named.trans named'.symm)
    omega
  | case5 low high empty =>
    refine ⟨fun found => by simp at found, fun ⟨_, le, less, _⟩ => absurd less (by omega)⟩

/-! ## The table of tags -/

theorem pairwise_entries : entries.Pairwise (·.name < ·.name) :=
  pairwise_of_rises entries_rise

theorem pairwise_namedEntries : namedEntries.Pairwise (·.name < ·.name) :=
  pairwise_entries.of_cons

/-- A place among the tags is that of a tag exactly if it is its number and the tag has an entry. -/
theorem getElem?_tags {i : Nat} {t : Tag} : tags[i]? = some t ↔ t ∈ tags ∧ t.index = i := by
  have placed {i : Nat} (here : i < tags.length) : tags[i].index = i :=
    placedFrom_iff.1 tags_placed i (Nat.zero_le i) here
  constructor
  · intro found
    obtain ⟨here, rfl⟩ := List.getElem?_eq_some_iff.1 found
    exact ⟨List.getElem_mem here, placed here⟩
  · rintro ⟨member, rfl⟩
    obtain ⟨j, here, rfl⟩ := List.getElem_of_mem member
    rw [placed here, List.getElem?_eq_getElem here]

/-- The number of a tag that has an entry is a place in the table. -/
theorem entries_getElem?_index {t : Tag} (listed : t ∈ tags) :
    entries[t.index]? = some t.entry := by
  obtain ⟨inside, -⟩ := List.getElem?_eq_some_iff.1 (getElem?_tags.2 ⟨listed, rfl⟩)
  have same : t.index < entries.length := inside
  rw [Tag.entry, List.getD_eq_getElem?_getD, List.getElem?_eq_getElem same, Option.getD_some]

/-- The places that are searched are those of all tags but the first, one less than their numbers. -/
theorem getElem?_namedEntries {t : Tag} (listed : t ∈ tags) (inside : t ≠ .outside) :
    ∃ i, t.index = i + 1 ∧ namedEntries[i]? = some t.entry := by
  have found := entries_getElem?_index listed
  cases number : t.index with
  | zero =>
    have first : tags[0]? = some t := getElem?_tags.2 ⟨listed, number⟩
    exact absurd (Option.some.inj first).symm inside
  | succ i => exact ⟨i, rfl, by rwa [number] at found⟩

/-- No two tags have the same name. -/
theorem name_inj {t u : Tag} (left : t ∈ tags) (right : u ∈ tags) (same : t.name = u.name) :
    t = u := by
  obtain ⟨here, found⟩ := List.getElem?_eq_some_iff.1 (entries_getElem?_index left)
  obtain ⟨here', found'⟩ := List.getElem?_eq_some_iff.1 (entries_getElem?_index right)
  have names : entries[t.index].name = entries[u.index].name := by rw [found, found']; exact same
  have numbers : t.index = u.index :=
    le_antisymm
      (not_lt.1 fun less => ((name_lt_iff pairwise_entries here' here).2 less).ne names.symm)
      (not_lt.1 fun less => ((name_lt_iff pairwise_entries here here').2 less).ne names)
  exact Option.some.inj ((getElem?_tags.2 ⟨left, rfl⟩).symm.trans
    (getElem?_tags.2 ⟨right, numbers.symm⟩))

/-- A name is found exactly if it is that of a tag with an entry, other than the document. -/
theorem ofName?_eq_some_iff {s : String} {t : Tag} :
    Tag.ofName? s = some t ↔ t ∈ tags ∧ t ≠ .outside ∧ t.name = s := by
  rw [Tag.ofName?, Option.bind_eq_some_iff]
  constructor
  · rintro ⟨i, found, shifted⟩
    obtain ⟨here, -, -, rfl⟩ := (searchSorted_eq_some_iff pairwise_namedEntries le_rfl).1 found
    obtain ⟨listed, number⟩ := getElem?_tags.1 shifted
    have inside : t ≠ .outside := by
      rintro rfl
      cases number
    obtain ⟨j, number', entry⟩ := getElem?_namedEntries listed inside
    obtain rfl : i = j := by omega
    refine ⟨listed, inside, ?_⟩
    rw [Tag.name, ← (List.getElem?_eq_some_iff.1 entry).2]
    rfl
  · rintro ⟨listed, inside, rfl⟩
    obtain ⟨i, number, entry⟩ := getElem?_namedEntries listed inside
    obtain ⟨here, found⟩ := List.getElem?_eq_some_iff.1 entry
    refine ⟨i, ?_, getElem?_tags.2 ⟨listed, number⟩⟩
    refine (searchSorted_eq_some_iff pairwise_namedEntries le_rfl).2
      ⟨here, Nat.zero_le i, here, ?_⟩
    rw [Tag.name, ← found]
    rfl

/-- An entry belongs to the one tag that stands at its place. -/
theorem tag_entry {t : Tag} (listed : t ∈ tags) : t.entry.tag = t := by
  cases found : tags.find? (·.entry = t.entry) with
  | none => exact absurd (List.find?_eq_none.1 found t listed) (by simp)
  | some first =>
    have same : first.entry = t.entry := by simpa using List.find?_some found
    rw [Entry.tag, found, Option.getD_some]
    exact name_inj (List.mem_of_find?_eq_some found) listed (congrArg Entry.name same)

/-- The entries that are searched are those of all tags but the first. -/
theorem mem_namedEntries_iff {entry : Entry} :
    entry ∈ namedEntries ↔ ∃ t ∈ tags, t ≠ .outside ∧ t.entry = entry := by
  constructor
  · intro member
    obtain ⟨i, here, rfl⟩ := List.getElem_of_mem member
    have inside : i + 1 < tags.length := Nat.succ_lt_succ here
    obtain ⟨listed, number⟩ := getElem?_tags.1 (List.getElem?_eq_getElem inside)
    refine ⟨tags[i + 1], listed, fun outside => ?_, ?_⟩
    · rw [outside] at number
      cases number
    · have found := entries_getElem?_index listed
      rw [number] at found
      exact (List.getElem?_eq_some_iff.1 found).2.symm
  · rintro ⟨t, listed, inside, rfl⟩
    obtain ⟨i, -, found⟩ := getElem?_namedEntries listed inside
    exact List.mem_of_getElem? found

/-- A scan of the entries finds the same. -/
theorem find?_namedEntries_eq_some_iff {s : String} {t : Tag} :
    (namedEntries.find? (·.name = s)).map (·.tag) = some t ↔
      t ∈ tags ∧ t ≠ .outside ∧ t.name = s := by
  rw [Option.map_eq_some_iff]
  constructor
  · rintro ⟨entry, found, rfl⟩
    obtain ⟨t, listed, inside, rfl⟩ := mem_namedEntries_iff.1 (List.mem_of_find?_eq_some found)
    have named := List.find?_some found
    rw [tag_entry listed]
    exact ⟨listed, inside, of_decide_eq_true named⟩
  · rintro ⟨listed, inside, rfl⟩
    have member := mem_namedEntries_iff.2 ⟨t, listed, inside, rfl⟩
    cases found : namedEntries.find? (·.name = t.name) with
    | none => exact absurd (List.find?_eq_none.1 found _ member) (by simp [Tag.name])
    | some first =>
      obtain ⟨u, listed', inside', rfl⟩ := mem_namedEntries_iff.1 (List.mem_of_find?_eq_some found)
      have named := List.find?_some found
      exact ⟨_, rfl, (tag_entry listed').trans
        (name_inj listed' listed (of_decide_eq_true named))⟩

/-- The check of the table, the search and the library compare names as sequences of bytes, and so
the search by halving, whose answer is a place in the table that is moved by one to a place among the
tags, finds a tag exactly if it has an entry of that name at the place of its number, the document
apart: the answer of a scan from one end to the other. -/
theorem ofName?_eq_scan :
    (∀ a b : String,
      (precedes a b = true ↔ encodeText a < encodeText b) ∧
      nameLess (encodeText a) (encodeText b) = precedes a b ∧
      ((precedes a b = false ∧ precedes b a = false) ↔ a = b)) ∧
    ∀ s : String,
      Tag.ofName? s = ((entries.drop 1).find? (·.name = s)).map (·.tag) ∧
      ∀ t : Tag, Tag.ofName? s = some t ↔
        t ≠ .outside ∧ tags[t.index]? = some t ∧
          ∃ entry, entries[t.index]? = some entry ∧ entry.name = s := by
  refine ⟨fun a b => ⟨?_, (precedes_eq a b).symm, ?_⟩, fun s => ⟨?_, fun t => ?_⟩⟩
  · rw [precedes_iff, encodeText_lt_iff]
  · rw [Bool.eq_false_iff, Bool.eq_false_iff, Ne, Ne, precedes_iff, precedes_iff]
    exact ⟨fun ⟨notLess, notMore⟩ => le_antisymm (not_lt.1 notMore) (not_lt.1 notLess),
      fun same => same ▸ ⟨lt_irrefl a, lt_irrefl a⟩⟩
  · exact Option.ext fun t => ofName?_eq_some_iff.trans find?_namedEntries_eq_some_iff.symm
  · rw [ofName?_eq_some_iff]
    constructor
    · rintro ⟨listed, inside, named⟩
      exact ⟨inside, getElem?_tags.2 ⟨listed, rfl⟩, t.entry, entries_getElem?_index listed, named⟩
    · rintro ⟨inside, placed, entry, found, named⟩
      have listed := (getElem?_tags.1 placed).1
      obtain rfl := Option.some.inj (found.symm.trans (entries_getElem?_index listed))
      exact ⟨listed, inside, named⟩

end XsdRecords.Vocabulary
