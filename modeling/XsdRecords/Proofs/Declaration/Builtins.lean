import XsdRecords.Proofs.Declaration.Fresh

/-! # The built-in types among all types

Declarations start with the built-in types, which are found under their names and come before all
others.  `WithBuiltins` says that they are still there, as they were.  What adds types and changes
others keeps them, and a type that is not defined, or is found under a name of another namespace, is
none of them. -/

namespace XsdRecords.Declaration

open XsdRecords.Vocabulary (Builtin)

/-- The entry of a built-in type. -/
def TypeDef.ofBuiltin (b : Builtin) : TypeDef :=
  { symbol := ⟨.xmlSchema, b.name⟩, builtin := some b, maxValue := b.maxValue }

/-- A type that is none of the built-in ones. -/
def TypeId.IsOwn (id : TypeId) : Prop :=
  Builtin.all.length ≤ id.index

namespace Declarations

/-- Declarations whose first types are the built-in ones, which are found under their names. -/
structure WithBuiltins (d : Declarations) : Prop where
  entry {n : Nat} {b : Builtin} : Builtin.all[n]? = some b → d.type ⟨n⟩ = .ofBuiltin b
  found {n : Nat} {b : Builtin} : Builtin.all[n]? = some b →
    d.typeTable.find? ⟨.xmlSchema, b.name⟩ = some ⟨n⟩
  elsewhere {s : Symbol} {id : TypeId} : d.typeTable.find? s = some id →
    s.namespaceId ≠ .xmlSchema → id.IsOwn
  size : Builtin.all.length ≤ d.types.size

/-- A made-up symbol is of another namespace than the built-in types. -/
theorem namespaceId_anonymousSymbol (d : Declarations) :
    d.anonymousSymbol.2.namespaceId ≠ .xmlSchema := by
  change NamespaceId.anonymous ≠ .xmlSchema
  decide

namespace WithBuiltins

variable {d d' : Declarations} (builtins : d.WithBuiltins)

include builtins

/-- What is there of built-in types, by the types and their names alone. -/
theorem of_eq (types : d'.types = d.types) (table : d'.typeTable = d.typeTable) :
    d'.WithBuiltins := by
  have type (id : TypeId) : d'.type id = d.type id := by rw [Declarations.type, types]; rfl
  refine ⟨fun own => ?_, fun own => ?_, fun found => ?_, ?_⟩
  · rw [type, builtins.entry own]
  · rw [table, builtins.found own]
  · rw [table] at found
    exact builtins.elsewhere found
  · rw [types]
    exact builtins.size

theorem anonymousSymbol : d.anonymousSymbol.1.WithBuiltins :=
  builtins.of_eq rfl rfl

theorem addElement : d.addElement.1.WithBuiltins :=
  builtins.of_eq rfl rfl

theorem modifyElement (id : ElementId) (f : Element → Element) :
    (d.modifyElement id f).WithBuiltins :=
  builtins.of_eq rfl rfl

/-- A type that is none of the built-in ones may change. -/
theorem modifyType {id : TypeId} (isOwn : id.IsOwn) (f : TypeDef → TypeDef) :
    (d.modifyType id f).WithBuiltins where
  entry {n b} own := by
    have ne : id ≠ ⟨n⟩ := by
      rintro rfl
      exact Nat.not_lt.2 isOwn (List.getElem?_eq_some_iff.1 own).1
    rw [type_modifyType_of_ne ne, builtins.entry own]
  found := builtins.found
  elsewhere := builtins.elsewhere
  size := by
    rw [size_modifyType]
    exact builtins.size

theorem addField {id : TypeId} (isOwn : id.IsOwn) (name : String) (element : ElementId) :
    (d.addField id name element).WithBuiltins :=
  builtins.modifyType isOwn _

/-- A type may be added under a name that is none of the built-in types. -/
theorem addType {t : TypeDef}
    (new : t.symbol.namespaceId ≠ .xmlSchema ∨ d.typeTable.find? t.symbol = none) :
    (d.addType t).1.WithBuiltins where
  entry {n b} own := by
    have bound := Nat.lt_of_lt_of_le (List.getElem?_eq_some_iff.1 own).1 builtins.size
    rw [type_addType, if_neg (Nat.ne_of_lt bound), builtins.entry own]
  found {n b} own := by
    have ne : (⟨.xmlSchema, b.name⟩ : Symbol) ≠ t.symbol := by
      intro same
      rw [← same] at new
      obtain other | none := new
      · exact other rfl
      · rw [builtins.found own] at none
        cases none
    change (d.typeTable.insert _ _).find? _ = _
    rw [SymbolTable.find?_insert, if_neg ne, builtins.found own]
  elsewhere {s id} found other := by
    change (d.typeTable.insert _ _).find? _ = _ at found
    rw [SymbolTable.find?_insert] at found
    split at found
    · obtain rfl := Option.some.inj found
      exact builtins.size
    · exact builtins.elsewhere found other
  size := Nat.le_trans builtins.size (by simp [Declarations.addType])

theorem findOrAddType (s : Symbol) : (d.findOrAddType s).1.WithBuiltins := by
  unfold Declarations.findOrAddType
  split
  · exact builtins
  · rename_i new
    exact builtins.addType (.inr new)

/-- What is found or added under a name of another namespace is no built-in type. -/
theorem isOwn_findOrAddType {s : Symbol} (other : s.namespaceId ≠ .xmlSchema) :
    (d.findOrAddType s).2.1.IsOwn := by
  unfold Declarations.findOrAddType
  split
  · rename_i found
    exact builtins.elsewhere found other
  · exact builtins.size

theorem findOrAddRoot (s : Symbol) : (d.findOrAddRoot s).1.WithBuiltins := by
  unfold Declarations.findOrAddRoot
  split <;> exact builtins.of_eq rfl rfl

theorem findOrAddRootAttribute (s : Symbol) :
    (d.findOrAddRootAttribute s).1.WithBuiltins := by
  unfold Declarations.findOrAddRootAttribute
  split <;> exact builtins.of_eq rfl rfl

/-- A type is one of its own or has the entry of a built-in one. -/
theorem isOwn_or_entry (id : TypeId) :
    id.IsOwn ∨ ∃ b ∈ Builtin.all, d.type id = .ofBuiltin b := by
  obtain isOwn | bound := Nat.lt_or_ge id.index Builtin.all.length |>.symm
  · exact .inl isOwn
  · exact .inr ⟨Builtin.all[id.index], List.getElem_mem bound,
      builtins.entry (List.getElem?_eq_getElem bound)⟩

/-- A type that is not defined yet is none of the built-in ones. -/
theorem isOwn_of_isDefined {id : TypeId} (undefined : ¬(d.type id).isDefined = true) :
    id.IsOwn := by
  obtain isOwn | ⟨b, -, entry⟩ := builtins.isOwn_or_entry id
  · exact isOwn
  · rw [entry] at undefined
    exact absurd rfl undefined

/-- No built-in type is complex. -/
theorem isOwn_of_isComplex {id : TypeId} (complex : d.isComplex id = true) : id.IsOwn := by
  obtain isOwn | ⟨b, member, entry⟩ := builtins.isOwn_or_entry id
  · exact isOwn
  · have own : (d.type id).builtin = some b := by
      rw [entry]
      rfl
    have simple : ∀ b ∈ Builtin.all, b.isComplex = false := by decide
    rw [isComplex_of_builtin (builtin_of_own own), simple b member] at complex
    cases complex

/-- No built-in type has enumerators. -/
theorem isOwn_of_enumerators {id : TypeId} (listed : (d.type id).enumerators ≠ []) : id.IsOwn := by
  obtain isOwn | ⟨b, -, entry⟩ := builtins.isOwn_or_entry id
  · exact isOwn
  · rw [entry] at listed
    exact absurd rfl listed

/-- Sorting the fields of a built-in type, which has none, changes nothing. -/
theorem sortFields (id : TypeId) : (d.sortFields id).WithBuiltins where
  entry {n b} own := by
    refine type_modifyType_of (P := fun t => t = .ofBuiltin b) (builtins.entry own) fun same => ?_
    rw [← same, builtins.entry own]
    rfl
  found := builtins.found
  elsewhere := builtins.elsewhere
  size := Nat.le_trans builtins.size (Nat.le_of_eq (size_modifyType d id _).symm)

theorem cloneType (id : TypeId) : (d.cloneType id).1.WithBuiltins :=
  builtins.anonymousSymbol.addType (.inl (namespaceId_anonymousSymbol d))

/-- A copy is none of the built-in types. -/
theorem isOwn_cloneType (id : TypeId) : (d.cloneType id).2.IsOwn :=
  builtins.size

end WithBuiltins

end Declarations

end XsdRecords.Declaration
