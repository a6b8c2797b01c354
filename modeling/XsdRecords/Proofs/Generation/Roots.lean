import XsdRecords.Proofs.Generation.WellFormed

/-! # The records of top-level elements

Each top-level element of a complex type is to have a record of its own that bears its name and holds
the fields of its type.  This holds exactly if no such element shares its type with another when the
type is named like the element: the type keeps the element then, but takes the name of the other. -/

namespace XsdRecords.Generation

open XsdRecords.Declaration (Declarations ElementId TypeId TypeDef Symbol SymbolTable)
open XsdRecords.Layout

/-- The record that the type of an element became. -/
def elementRecord? (g : Generation) (id : ElementId) : Option RecordId :=
  (g.declarations.elementType id).bind fun type => (g.declarations.type type).record

/-- A top-level element of a complex type whose name is not like those that generators make. -/
structure ComplexRoot (d : Declarations) (symbol : Symbol) (id : ElementId) (type : TypeId) :
    Prop where
  found : d.roots.find? symbol = some id
  typed : d.elementType id = some type
  complex : d.isComplex type = true
  nonempty : symbol.localName ≠ ""
  plain : symbol.localName.startsWith recordStart = false

/-- Every such element has a record of its own that is found by its name and holds the fields of its
type. -/
def RecordsOfRoots (d : Declarations) (g : Generation) : Prop :=
  ∀ symbol id type, ComplexRoot d symbol id type →
    ∃ record, g.elementRecord? id = some record ∧
      g.schema.findRecordId? symbol.localName = some record ∧
      List.Forall₂ (FieldOf g) (d.attributesFirst (d.type type).fields)
        (g.schema.record record).fields ∧
      ∀ symbol' id' type', ComplexRoot d symbol' id' type' → id' ≠ id →
        g.elementRecord? id' ≠ some record

/-- No such element shares a type of its own name, nor is its namespace that of made-up names. -/
def NamesakesUnshared (d : Declarations) : Prop :=
  ∀ symbol id type, ComplexRoot d symbol id type →
    symbol.namespaceId ≠ .anonymous ∧
      ((d.type type).symbol = symbol → ∀ symbol' id', d.roots.find? symbol' = some id' →
        d.elementType id' = some type → id' = id)

theorem recordName?_eq_some_iff {symbol : Symbol} {name : String} :
    recordName? symbol = some name ↔
      (symbol.localName ≠ "" ∧ symbol.namespaceId ≠ .anonymous ∧
        symbol.localName.startsWith recordStart = false) ∧ symbol.localName = name := by
  unfold recordName?
  dsimp only
  split
  · rename_i unnamed
    simp only [reduceCtorEq, false_iff, not_and]
    rintro ⟨nonempty, space, plain⟩
    simp [nonempty, space, plain] at unnamed
  · rename_i named
    simp only [Bool.or_eq_true, decide_eq_true_eq, not_or, Bool.not_eq_true] at named
    simp [named.1.1, named.1.2, named.2]

section Roots

variable {d : Declarations} {start final : Generation} {symbol : Symbol} {id : ElementId}
  {type : TypeId}

/-- The type that a top-level element has when all are named. -/
theorem Named.rootType (named : Named d d.roots.toSorted start.declarations)
    (inRange : d.InRange) (rooted : d.Rooted) (found : d.roots.find? symbol = some id)
    (typed : d.elementType id = some type) (complex : d.isComplex type = true) :
    ∃ own, start.declarations.elementType id = some own ∧
      start.declarations.isComplex own = true ∧
      (start.declarations.type own).body = (d.type type).body ∧
      ((d.type type).symbol ≠ symbol →
        (start.declarations.type own).overrideSymbol = some symbol) ∧
      ((d.type type).symbol = symbol → own = type) := by
  have bound := Declarations.lt_size_of_isComplex complex
  have member := SymbolTable.mem_toSorted.2 found
  have direct := named.renamed.elementType_root (inRange.roots found) (rooted.reference found)
  rw [direct]
  by_cases same : (d.type type).symbol = symbol
  · refine ⟨type, named.own member typed fun _ => same, ?_, named.renamed.body bound,
      fun other => absurd same other, fun _ => rfl⟩
    rw [named.renamed.isComplex inRange.bases bound (named.renamed.body bound), complex]
  · obtain ⟨own, given, -, override, body⟩ := named.named member typed complex same
    refine ⟨own, given, ?_, body, fun _ => override, fun own => absurd own same⟩
    rw [named.renamed.isComplex inRange.bases bound body, complex]

/-- The record of a top-level element, named after the type that the element has at last. -/
theorem Named.rootRecord (named : Named d d.roots.toSorted start.declarations)
    (grown : GrowsBelow start final) (schema : start.schema = {})
    (emitted : ∀ id ∈ d.roots.toSorted.map (·.2), ∀ own,
      start.declarations.elementType id = some own → start.declarations.isComplex own = true →
        Emitted final own)
    (found : d.roots.find? symbol = some id) {own : TypeId}
    (typed : start.declarations.elementType id = some own)
    (complex : start.declarations.isComplex own = true)
    (body : (start.declarations.type own).body = (d.type type).body) :
    ∃ record, final.elementRecord? id = some record ∧
      (final.declarations.type own).record = some record ∧
      record.index < final.schema.records.size ∧
      (final.schema.record record).name =
        recordName? (start.declarations.type own).outputSymbol ∧
      List.Forall₂ (FieldOf final) (d.attributesFirst (d.type type).fields)
        (final.schema.record record).fields := by
  have member : id ∈ d.roots.toSorted.map (·.2) :=
    List.mem_map.2 ⟨(symbol, id), SymbolTable.mem_toSorted.2 found, rfl⟩
  have finalComplex : final.declarations.isComplex own = true := by
    rw [grown.grows.shape.isComplex, complex]
  obtain ⟨record, marked, inside, -⟩ := (emitted id member own typed complex).complex finalComplex
  refine ⟨record, ?_, marked, inside, ?_, ?_⟩
  · rw [elementRecord?, grown.grows.shape.elementType, typed]
    exact marked
  · rw [grown.sound.name marked, grown.grows.shape.outputSymbol]
  · have filled := grown.filled_of_empty schema own record marked
    have fields : (start.declarations.type own).fields = (d.type type).fields :=
      TypeDef.get_of_body TypeDef.fields (fun _ => rfl) body
    rwa [grown.grows.shape.attributesFirst, grown.grows.fields, fields,
      named.renamed.attributesFirst] at filled

/-- A type that is named like one top-level element and after another is the type of both. -/
theorem Named.sharer (named : Named d d.roots.toSorted start.declarations) (inRange : d.InRange)
    (rooted : d.Rooted) (found : d.roots.find? symbol = some id)
    (complex : d.isComplex type = true) (namesake : (d.type type).symbol = symbol)
    {after : Symbol} (override : (start.declarations.type type).overrideSymbol = some after) :
    ∃ other, d.roots.find? after = some other ∧ d.elementType other = some type ∧ other ≠ id ∧
      start.declarations.elementType other = some type := by
  obtain ⟨other, member, typed, -, differs, direct⟩ :=
    named.taker (Declarations.lt_size_of_isComplex complex) override
  have found' := SymbolTable.mem_toSorted.1 member
  refine ⟨other, found', typed, ?_, ?_⟩
  · rintro rfl
    exact differs (namesake.trans (rooted.injective found found'))
  · rw [named.renamed.elementType_root (inRange.roots found') (rooted.reference found'), direct]

/-- A type that is named like a top-level element is named after none exactly if no other element
shares it. -/
theorem Named.overrideSymbol_eq_none_iff (named : Named d d.roots.toSorted start.declarations)
    (inRange : d.InRange) (rooted : d.Rooted) (found : d.roots.find? symbol = some id)
    (complex : d.isComplex type = true) (namesake : (d.type type).symbol = symbol) :
    (start.declarations.type type).overrideSymbol = none ↔
      ∀ symbol' id', d.roots.find? symbol' = some id' → d.elementType id' = some type →
        id' = id := by
  constructor
  · intro unnamed symbol' id' found' typed'
    refine Classical.byContradiction fun ne => ?_
    have differs : (d.type type).symbol ≠ symbol' := by
      rintro rfl
      rw [namesake, found] at found'
      exact ne (Option.some.inj found').symm
    have taken := named.taken (SymbolTable.mem_toSorted.2 found') typed' complex differs
    rw [unnamed] at taken
    cases taken
  · intro unshared
    cases override : (start.declarations.type type).overrideSymbol with
    | none => rfl
    | some after =>
      obtain ⟨other, found', typed, ne, -⟩ :=
        named.sharer inRange rooted found complex namesake override
      exact absurd (unshared after other found' typed) ne

/-- The type that a top-level element has at last bears the element's name, unless it is named after
another. -/
theorem Named.outputSymbol_root (named : Named d d.roots.toSorted start.declarations)
    {own : TypeId} (complex : d.isComplex type = true)
    (other : (d.type type).symbol ≠ symbol →
      (start.declarations.type own).overrideSymbol = some symbol)
    (same : (d.type type).symbol = symbol → own = type)
    (unnamed : (d.type type).symbol = symbol →
      (start.declarations.type type).overrideSymbol = none) :
    (start.declarations.type own).outputSymbol = symbol := by
  by_cases namesake : (d.type type).symbol = symbol
  · obtain rfl := same namesake
    rw [TypeDef.outputSymbol, unnamed namesake, Option.getD_none,
      named.renamed.symbol (Declarations.lt_size_of_isComplex complex), namesake]
  · rw [TypeDef.outputSymbol, other namesake, Option.getD_some]

theorem Named.namesakesUnshared (named : Named d d.roots.toSorted start.declarations)
    (inRange : d.InRange) (rooted : d.Rooted) (grown : GrowsBelow start final)
    (schema : start.schema = {})
    (emitted : ∀ id ∈ d.roots.toSorted.map (·.2), ∀ own,
      start.declarations.elementType id = some own → start.declarations.isComplex own = true →
        Emitted final own)
    (records : RecordsOfRoots d final) : NamesakesUnshared d := by
  intro symbol id type root
  obtain ⟨own, typed, complex, body, other, same⟩ :=
    named.rootType inRange rooted root.found root.typed root.complex
  obtain ⟨record, ofElement, marked, -, name, -⟩ :=
    named.rootRecord grown schema emitted root.found typed complex body
  obtain ⟨record', ofElement', findable, -, alone⟩ := records symbol id type root
  rw [ofElement] at ofElement'
  obtain rfl := Option.some.inj ofElement'
  have bears := ((grown.sound.store.names.findRecordId?_eq_some_iff _ _).1 findable).2
  rw [name] at bears
  -- A name that the type was given makes another element share the record.
  have unnamed : (d.type type).symbol = symbol →
      (start.declarations.type type).overrideSymbol = none := by
    intro namesake
    cases override : (start.declarations.type type).overrideSymbol with
    | none => rfl
    | some after =>
      obtain rfl := same namesake
      obtain ⟨id', found', typed', ne, direct⟩ :=
        named.sharer inRange rooted root.found root.complex namesake override
      rw [TypeDef.outputSymbol, override] at bears
      obtain ⟨⟨nonempty, -, plain⟩, -⟩ := recordName?_eq_some_iff.1 bears
      have root' : ComplexRoot d after id' own := ⟨found', typed', root.complex, nonempty, plain⟩
      have ofOther : final.elementRecord? id' = some record := by
        rw [elementRecord?, grown.grows.shape.elementType, direct]
        exact marked
      exact absurd ofOther (alone after id' own root' ne)
  refine ⟨?_, fun namesake => (named.overrideSymbol_eq_none_iff inRange rooted root.found
    root.complex namesake).1 (unnamed namesake)⟩
  rw [named.outputSymbol_root root.complex other same unnamed] at bears
  exact (recordName?_eq_some_iff.1 bears).1.2.1

theorem Named.recordsOfRoots (named : Named d d.roots.toSorted start.declarations)
    (inRange : d.InRange) (rooted : d.Rooted) (grown : GrowsBelow start final)
    (schema : start.schema = {})
    (emitted : ∀ id ∈ d.roots.toSorted.map (·.2), ∀ own,
      start.declarations.elementType id = some own → start.declarations.isComplex own = true →
        Emitted final own)
    (unshared : NamesakesUnshared d) : RecordsOfRoots d final := by
  have ofRoot {symbol : Symbol} {id : ElementId} {type : TypeId}
      (root : ComplexRoot d symbol id type) :
      ∃ own record, final.elementRecord? id = some record ∧
        (final.declarations.type own).record = some record ∧
        (start.declarations.type own).outputSymbol = symbol ∧
        record.index < final.schema.records.size ∧
        (final.schema.record record).name = recordName? symbol ∧
        List.Forall₂ (FieldOf final) (d.attributesFirst (d.type type).fields)
          (final.schema.record record).fields := by
    obtain ⟨own, typed, complex, body, other, same⟩ :=
      named.rootType inRange rooted root.found root.typed root.complex
    obtain ⟨record, ofElement, marked, inside, name, fields⟩ :=
      named.rootRecord grown schema emitted root.found typed complex body
    have output := named.outputSymbol_root root.complex other same fun namesake =>
      (named.overrideSymbol_eq_none_iff inRange rooted root.found root.complex namesake).2
        ((unshared symbol id type root).2 namesake)
    rw [output] at name
    exact ⟨own, record, ofElement, marked, output, inside, name, fields⟩
  intro symbol id type root
  obtain ⟨own, record, ofElement, marked, output, inside, name, fields⟩ := ofRoot root
  refine ⟨record, ofElement, ?_, fields, fun symbol' id' type' root' ne ofOther => ne ?_⟩
  · rw [grown.sound.store.names.findRecordId?_eq_some_iff, name]
    exact ⟨inside, recordName?_eq_some_iff.2
      ⟨⟨root.nonempty, (unshared symbol id type root).1, root.plain⟩, rfl⟩⟩
  · obtain ⟨own', record', ofElement', marked', output', -⟩ := ofRoot root'
    rw [ofElement'] at ofOther
    obtain rfl := Option.some.inj ofOther
    obtain rfl := grown.sound.injective marked marked'
    obtain rfl := output.symm.trans output'
    exact Option.some.inj (root'.found.symm.trans root.found)

end Roots

/-- A generation that does not fail gives each top-level element of a complex type its own record
exactly if none shares a type of its own name. -/
theorem recordsOfRoots_iff {g : Generation} (pristine : g.declarations.Pristine)
    (inRange : g.declarations.InRange) (rooted : g.declarations.Rooted)
    (ok : (run g).hasFailed = false) :
    RecordsOfRoots g.declarations (run g) ↔ NamesakesUnshared g.declarations := by
  obtain ⟨start, named, schema, whole⟩ := run_named pristine inRange rooted ok
  rw [whole] at ok ⊢
  obtain ⟨grown, emitted⟩ := foldl_emitRoot_growsBelow _ (named.sound pristine schema) ok
  exact ⟨named.namesakesUnshared inRange rooted grown schema emitted,
    named.recordsOfRoots inRange rooted grown schema emitted⟩

end XsdRecords.Generation
