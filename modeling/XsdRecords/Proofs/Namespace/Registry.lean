import Mathlib.Logic.Relation
import XsdRecords.Namespace.Bindings

/-! # Numbers that last

A registry only ever grows, and a namespace keeps its number.  As long as there are fewer namespaces
than the first of the fixed numbers, a number also leads back to its namespace. -/

namespace XsdRecords.Registry

variable {r r' r'' : Registry} {uri : String} {id : NamespaceId}

/-- One registry comes from another by registering namespaces. -/
abbrev Grows : Registry → Registry → Prop :=
  Relation.ReflTransGen fun r r' => ∃ uri, r' = (r.register uri).1

theorem grows_register (r : Registry) (uri : String) : r.Grows (r.register uri).1 :=
  .single ⟨uri, rfl⟩

/-- A namespace that is registered has the number that it is given. -/
theorem id?_register (r : Registry) (uri : String) :
    (r.register uri).1.id? uri = some (r.register uri).2 := by
  cases known : r.id? uri with
  | some id => rw [register_of_id? known, known]
  | none =>
    have unplaced := places_eq_none_of_id? known
    rw [register_of_new known]
    unfold id? at known ⊢
    split at known
    · cases known
    · rename_i named
      rw [if_neg named]
      split at known
      · cases known
      · have placed : (r.push uri unplaced).places[uri]? = some r.uris.size := by
          rw [getElem?_places, uris_push, Array.getElem?_push_size]
        simp [placed]

/-- What is registered keeps its number. -/
theorem id?_register_of_id? (known : r.id? uri = some id) (other : String) :
    (r.register other).1.id? uri = some id := by
  cases old : r.id? other with
  | some _ => rwa [register_of_id? old]
  | none =>
    have unplaced := places_eq_none_of_id? old
    rw [register_of_new old]
    unfold id? at known ⊢
    split at known
    · rename_i none
      rw [if_pos none, known]
    · rename_i named
      rw [if_neg named]
      split at known
      · exact known
      · obtain ⟨place, found, rfl⟩ := Option.map_eq_some_iff.1 known
        have placed : (r.push other unplaced).places[uri]? = some place := by
          rw [getElem?_places, uris_push, Array.getElem?_push]
          have inside := (r.getElem?_places uri place).1 found
          have bound := (Array.getElem?_eq_some_iff.1 inside).1
          rw [if_neg (Nat.ne_of_lt bound), inside]
        simp [placed]

theorem Grows.id? (grows : r.Grows r') (known : r.id? uri = some id) : r'.id? uri = some id := by
  induction grows with
  | refl => exact known
  | tail _ step ih =>
    obtain ⟨other, rfl⟩ := step
    exact id?_register_of_id? ih other

theorem Grows.size_le (grows : r.Grows r') : r.size ≤ r'.size := by
  induction grows with
  | refl => exact Nat.le_refl _
  | @tail m _ _ step ih =>
    obtain ⟨other, rfl⟩ := step
    refine Nat.le_trans ih ?_
    cases old : m.id? other with
    | some _ => simp [register_of_id? old]
    | none => simp [register_of_new old, size]

/-! ## From a number back to its namespace -/

/-- The numbers given in the order of registration stay below the fixed ones. -/
def IsSmall (r : Registry) : Prop :=
  r.size ≤ 0x40000

theorem Grows.isSmall (grows : r.Grows r') (small : r'.IsSmall) : r.IsSmall :=
  Nat.le_trans grows.size_le small

theorem find?_fixedNamespaces {entry : NamespaceId × String} (member : entry ∈ fixedNamespaces) :
    fixedNamespaces.find? (fun (known, _) => known = entry.1) = some entry := by
  simp only [fixedNamespaces, List.mem_cons, List.not_mem_nil, or_false] at member
  obtain rfl | rfl | rfl | rfl | rfl := member <;>
    simp [fixedNamespaces, NamespaceId.xmlns, NamespaceId.xml, NamespaceId.xmlSchema,
      NamespaceId.xmlSchemaInstance, NamespaceId.annotations, NamespaceId.firstFixed]

theorem ofCount_of_lt {count : Nat} (small : count < 0x40000) :
    NamespaceId.ofCount count = ⟨count⟩ := by
  have same : Int.bmod (count : Int) 0x100000000 = count := by
    rw [Int.bmod_def]
    split <;> omega
  unfold NamespaceId.ofCount
  rw [same]

/-- No fixed number is small. -/
theorem find?_small {value : Int} (small : value < 0x40000) :
    fixedNamespaces.find? (fun (known, _) => known = ⟨value⟩) = none := by
  rw [List.find?_eq_none]
  intro entry member
  have large : 0x40000 ≤ entry.1.value := by
    simp only [fixedNamespaces, List.mem_cons, List.not_mem_nil, or_false] at member
    obtain rfl | rfl | rfl | rfl | rfl := member <;>
      simp [NamespaceId.xmlns, NamespaceId.xml, NamespaceId.xmlSchema,
        NamespaceId.xmlSchemaInstance, NamespaceId.annotations, NamespaceId.firstFixed]
  intro same
  have value := congrArg NamespaceId.value (of_decide_eq_true same)
  simp only at value
  omega

theorem uri_of_place {place : Nat} (small : r.IsSmall) (found : r.uris[place]? = some uri) :
    r.uri (.ofCount place) = uri := by
  have bound : place < r.size := (Array.getElem?_eq_some_iff.1 found).1
  have less : place < 0x40000 := Nat.lt_of_lt_of_le bound small
  rw [ofCount_of_lt less, Registry.uri, find?_small (by omega)]
  simp only [Array.getD_eq_getD_getElem?, Int.toNat_natCast, found, Option.getD_some]
  rw [if_neg (by omega)]

/-- As long as numbers are small, each leads back to its namespace. -/
theorem uri_of_id? (small : r.IsSmall) (known : r.id? uri = some id) : r.uri id = uri := by
  unfold Registry.id? at known
  split at known
  · rename_i none
    rw [none, ← Option.some.inj known]
    rfl
  · split at known
    · rename_i entry fixed named found
      obtain rfl := Option.some.inj known
      have own := List.find?_some found
      rw [Registry.uri, find?_fixedNamespaces (List.mem_of_find?_eq_some found)]
      simpa using own
    · obtain ⟨place, found, rfl⟩ := Option.map_eq_some_iff.1 known
      exact uri_of_place small ((r.getElem?_places uri place).1 found)

/-- A prefix that is bound to a namespace stands for it. -/
theorem uri?_bindUri (b : Bindings) (label : String) (named : uri ≠ "")
    (small : (r.register uri).1.IsSmall) :
    (b.bindUri r label uri).1.uri? (b.bindUri r label uri).2.1 label = some uri := by
  have back := uri_of_id? small (id?_register r uri)
  have some : (r.register uri).2 ≠ .none := fun none => named (by rw [← back, none, uri_none])
  simp only [Bindings.bindUri, Bindings.uri?, Bindings.resolve_bind_self, if_neg some, back]

/-! ## The number of made-up names -/

/-- Whether the numbers given in the order of registration stay below that of made-up names. -/
def HasRoom (r : Registry) : Prop :=
  (r.size : Int) ≤ NamespaceId.anonymous.value

instance : DecidablePred HasRoom := fun r => inferInstanceAs (Decidable ((r.size : Int) ≤ _))

theorem HasRoom.of_grows {r' : Registry} (room : r'.HasRoom) (grows : r.Grows r') : r.HasRoom :=
  Int.le_trans (Int.ofNat_le.2 grows.size_le) room

/-- No namespace has the number of made-up names. -/
theorem HasRoom.ne_anonymous (room : r.HasRoom) {uri : String} (known : r.id? uri = some id) :
    id ≠ .anonymous := by
  unfold Registry.id? at known
  split at known
  · obtain rfl := Option.some.inj known
    decide
  · split at known
    · rename_i entry fixed named found
      obtain rfl := Option.some.inj known
      have distinct : ∀ entry ∈ fixedNamespaces, entry.1 ≠ .anonymous := by decide
      exact distinct _ (List.mem_of_find?_eq_some found)
    · obtain ⟨place, placed, rfl⟩ := Option.map_eq_some_iff.1 known
      have bound : place < r.size :=
        (Array.getElem?_eq_some_iff.1 ((r.getElem?_places uri place).1 placed)).1
      have below : (r.size : Int) ≤ 0x40000 - 1000 := room
      rw [ofCount_of_lt (by omega)]
      intro same
      have value : (place : Int) = 0x40000 - 1000 := congrArg NamespaceId.value same
      omega

/-! ## Registering the URI of a number -/

/-- The URIs that have places have no fixed numbers. -/
def Proper (r : Registry) : Prop :=
  ∀ {place : Nat} {uri : String}, r.uris[place]? = some uri → r.id? uri = some (.ofCount place)

theorem proper_default : (default : Registry).Proper := fun found => by
  simp [show (default : Registry).uris = #[] from rfl] at found

theorem Proper.register (proper : r.Proper) (uri : String) : (r.register uri).1.Proper := by
  intro place other found
  cases known : r.id? uri with
  | some id =>
    rw [register_of_id? known] at found ⊢
    exact proper found
  | none =>
    rw [register_of_new known, uris_push, Array.getElem?_push] at found
    split at found
    · rename_i last
      obtain rfl := Option.some.inj found
      rw [id?_register, register_of_new known, last]
    · exact id?_register_of_id? (proper found) uri

theorem Grows.proper (grows : r.Grows r') (proper : r.Proper) : r'.Proper := by
  induction grows with
  | refl => exact proper
  | tail _ step ih =>
    obtain ⟨uri, rfl⟩ := step
    exact Proper.register ih uri

theorem id?_of_mem_fixedNamespaces {entry : NamespaceId × String} (member : entry ∈ fixedNamespaces)
    (r : Registry) : r.id? entry.2 = some entry.1 := by
  simp only [fixedNamespaces, List.mem_cons, List.not_mem_nil, or_false] at member
  obtain rfl | rfl | rfl | rfl | rfl := member <;>
    simp [id?, fixedNamespaces, xmlSchemaUri, annotationUri]

/-- The URI of a number that a namespace has stays the same. -/
theorem Grows.uri_eq (grows : r.Grows r') (known : r.id? uri = some id) : r'.uri id = r.uri id := by
  have kept (place : Nat) (inside : place < r.uris.size) :
      r'.uris.getD place "" = r.uris.getD place "" := by
    induction grows with
    | refl => rfl
    | @tail m _ before step ih =>
      obtain ⟨other, rfl⟩ := step
      rw [← ih]
      cases old : m.id? other with
      | some _ => rw [register_of_id? old]
      | none =>
        have last : place ≠ m.uris.size := Nat.ne_of_lt (Nat.lt_of_lt_of_le inside (Grows.size_le before))
        rw [register_of_new old, uris_push, Array.getD_eq_getD_getElem?, Array.getElem?_push,
          if_neg last, Array.getD_eq_getD_getElem?]
  unfold Registry.uri
  split
  · rfl
  · rename_i dynamic
    split
    · rfl
    · rename_i nonnegative
      apply kept
      unfold Registry.id? at known
      split at known
      · obtain rfl := Option.some.inj known
        exact absurd (by decide) nonnegative
      · split at known
        · rename_i entry fixed named found
          obtain rfl := Option.some.inj known
          rw [find?_fixedNamespaces (List.mem_of_find?_eq_some found)] at dynamic
          cases dynamic
        · obtain ⟨place, found, rfl⟩ := Option.map_eq_some_iff.1 known
          have bound := (Array.getElem?_eq_some_iff.1 ((r.getElem?_places _ place).1 found)).1
          have less : (NamespaceId.ofCount place).value ≤ place := by
            unfold NamespaceId.ofCount
            dsimp only
            rw [Int.bmod_def]
            split <;> omega
          omega

/-- Numbers have thirty-two bits. -/
theorem value_lt_of_id? (known : r.id? uri = some id) : id.value < 0x80000000 := by
  unfold Registry.id? at known
  split at known
  · obtain rfl := Option.some.inj known
    decide
  · split at known
    · rename_i entry fixed named found
      obtain rfl := Option.some.inj known
      have member := List.mem_of_find?_eq_some found
      simp only [fixedNamespaces, List.mem_cons, List.not_mem_nil, or_false, Prod.mk.injEq] at member
      obtain ⟨rfl, -⟩ | ⟨rfl, -⟩ | ⟨rfl, -⟩ | ⟨rfl, -⟩ | ⟨rfl, -⟩ := member <;>
        simp [NamespaceId.xmlns, NamespaceId.xml, NamespaceId.xmlSchema,
          NamespaceId.xmlSchemaInstance, NamespaceId.annotations, NamespaceId.firstFixed]
    · obtain ⟨place, -, number⟩ := Option.map_eq_some_iff.1 known
      rw [← number]
      unfold NamespaceId.ofCount
      dsimp only
      rw [Int.bmod_def]
      split <;> omega

/-- The URI of a number that a namespace has is registered under this number, unless it is empty. -/
theorem register_uri (proper : r.Proper) (known : r.id? uri = some id) :
    (r.register (r.uri id)).2 = id ∨ (r.register (r.uri id)).2 = .none := by
  have same {other : String} {number : NamespaceId} (known : r.id? other = some number) :
      (r.register other).2 = number := by
    rw [register_of_id? known]
  have bound := value_lt_of_id? known
  unfold Registry.uri
  split
  · rename_i entry fixed named found
    have own : fixed = id := by simpa using List.find?_some found
    exact .inl (own ▸ same (id?_of_mem_fixedNamespaces (List.mem_of_find?_eq_some found) r))
  · split
    · exact .inr (same r.id?_empty)
    · rename_i nonnegative
      rw [Array.getD_eq_getD_getElem?]
      cases found : r.uris[id.value.toNat]? with
      | none => exact .inr (same r.id?_empty)
      | some other =>
        have number : NamespaceId.ofCount id.value.toNat = id := by
          have reduced : Int.bmod id.value.toNat 0x100000000 = id.value := by
            rw [Int.bmod_def]
            split <;> omega
          unfold NamespaceId.ofCount
          rw [reduced]
        exact .inl (number ▸ same (proper found))

/-! ## Two registries -/

/-- Whether a number is that of a namespace that is registered. -/
def IsNumber (r : Registry) (id : NamespaceId) : Prop :=
  ∃ uri, r.id? uri = some id

/-- Numbers that are the same, or neither is that of a namespace that is registered. -/
def Alike (r : Registry) (id id' : NamespaceId) : Prop :=
  id' = id ∨ ¬r.IsNumber id ∧ ¬r.IsNumber id'

theorem isNumber_none (r : Registry) : r.IsNumber .none :=
  ⟨"", r.id?_empty⟩

theorem isNumber_fixed {e : NamespaceId × String} (fixed : e ∈ fixedNamespaces)
    (r : Registry) : r.IsNumber e.1 :=
  ⟨e.2, id?_of_mem_fixedNamespaces fixed r⟩

theorem Alike.eq_iff {id' known : NamespaceId} (alike : r.Alike id id') (number : r.IsNumber known) :
    id' = known ↔ id = known := by
  obtain rfl | ⟨foreign, foreign'⟩ := alike
  · exact .rfl
  · exact iff_of_false (fun same => foreign' (same ▸ number)) fun same => foreign (same ▸ number)

theorem HasRoom.isSmall (room : r.HasRoom) : r.IsSmall := by
  have below : (r.size : Int) ≤ 0x40000 - 1000 := room
  unfold IsSmall
  omega

/-- Registering a namespace in two registries that have grown from one gives numbers that are
alike. -/
theorem alike_register {m m' : Registry} (grows : r.Grows m) (grows' : r.Grows m')
    (room : (m.register uri).1.HasRoom) (room' : (m'.register uri).1.HasRoom) :
    r.Alike (m.register uri).2 (m'.register uri).2 := by
  cases known : r.id? uri with
  | some id =>
    rw [register_of_id? (grows.id? known), register_of_id? (grows'.id? known)]
    exact .inl rfl
  | none =>
    have foreign {m : Registry} (grows : r.Grows m) (room : (m.register uri).1.HasRoom) :
        ¬r.IsNumber (m.register uri).2 := by
      rintro ⟨other, number⟩
      have own := uri_of_id? room.isSmall (id?_register m uri)
      have later : r.Grows (m.register uri).1 := grows.trans (grows_register m uri)
      have same := uri_of_id? room.isSmall (later.id? number)
      rw [← own, same, number] at known
      cases known
    exact .inr ⟨foreign grows room, foreign grows' room'⟩

end XsdRecords.Registry
