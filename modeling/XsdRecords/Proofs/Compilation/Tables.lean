import XsdRecords.Proofs.Compilation.WellFormed
import XsdRecords.Proofs.Generation.Passes
import XsdRecords.Proofs.Session.Documents
import XsdRecords.Proofs.Session.Intact
import XsdRecords.Proofs.Session.Kept
import XsdRecords.Proofs.Session.Visits
import XsdRecords.Proofs.Session.Resolution

/-! # The tables of a compile

A compile may be looked at between any two tags, and between any two changes of a generation: `Met`.
Whenever it is, the bases of its types close no cycle.

`Reaches` is where a compile may come to from a session, and stands at any of its tags and at any
change of its generation.  As long as the documents have no names in the namespace of made-up names,
its tables name every type once, refer to nothing that is not there, and find under a name what was
first found under it. -/

namespace XsdRecords

open XsdRecords.Declaration (ElementId Symbol TypeId madeUp)
open XsdRecords.Declaration.Declarations (Edits)
open XsdRecords.Markup (Lexeme Node Reader Scope Source StartTag)

theorem Declaration.Declarations.Edits.retains {d d' : Declarations} (edits : Edits d d') :
    d.Retains d' :=
  ⟨edits.size_elements_le, edits.size_types_le, edits.place?⟩

namespace Session

/-! ## The ancestors of types -/

/-- A session of a compile, whatever its documents are, at any of its tags and at any change of the
generation. -/
inductive Met : Session → Prop
  | start (location : String) (allowUnsupported : Bool) :
      Met (Session.start location allowUnsupported)
  | advance {s s' : Session} (met : Met s) (next : s.advance? = some s') : Met s'
  | note {s : Session} (met : Met s) (e : Event) : Met (s.note e)
  | report {s : Session} (met : Met s) (p : Problem) : Met (s.report p)
  | beginDocument {s : Session} (met : Met s) : Met s.beginDocument
  | withScope {s : Session} (met : Met s) (scope : Scope) : Met (s.withScope scope)
  | moveTo {s : Session} (met : Met s) (position : Position) : Met { s with position }
  | readStart {s : Session} (met : Met s) (tag : StartTag) (position : Position) :
      Met (s.readStart tag position)
  | readStop {s : Session} (met : Met s) (position : Position) : Met (s.readStop position)
  | generating {s : Session} (met : Met s) {g : Generation}
      (passes : Generation.Passes s.generation g) :
      Met { s with declarations := g.declarations, journal := g.journal, position := {} }

namespace Met

variable {s : Session}

/-! ## What a compile does is met -/

theorem kept : KeptByReading Met :=
  ⟨fun e met => met.note e, fun p met => met.report p, .beginDocument,
    fun _ _ met => met.withScope _, fun position met => met.moveTo position,
    fun tag position met => met.readStart tag position, fun position met => met.readStop position⟩

theorem readDocument (met : Met s) (source : Source) : Met (s.readDocument source) :=
  kept.readDocument met source

theorem generate (met : Met s) : Met s.generate.1 :=
  met.generating (Generation.run_passes s.generation)

/-! ## What is met has no cycle of bases -/

theorem wellBased (met : Met s) : s.declarations.WellBased := by
  induction met with
  | start => exact Declaration.Declarations.wellBased_initial
  | advance met next ih =>
    obtain ⟨worklist, -, rfl⟩ := Option.map_eq_some_iff.1 next
    exact ih
  | note | report | beginDocument | withScope | moveTo => assumption
  | readStart met tag position ih => exact ih.edits (readStart_edits ih.inRange tag position)
  | readStop met position ih => exact ih.edits (readStop_edits _ position)
  | generating met passes ih => exact Generation.Passes.wellBased passes ih

end Met

/-- The bases that a compile gives to types close no cycle, and a walk along them finds what the
ancestors of a type have. -/
theorem baseLinks_acyclic {s : Session} (met : s.Met) :
    s.declarations.Acyclic ∧ ∀ type, s.declarations.Lineage type :=
  ⟨met.wellBased.acyclic,
    met.wellBased.acyclic.lineage met.wellBased.inRange.bases met.wellBased.some_type⟩

/-- Types that are named before they are defined, and derive from each other. -/
def derivedTypes : Source :=
  .bytes (["<x:schema xmlns:x='http://www.w3.org/2001/XMLSchema'>",
    "<x:element name='E' type='C'/>", "<x:simpleType name='A'>", "<x:restriction base='x:string'/>",
    "</x:simpleType>", "<x:simpleType name='C'>", "<x:restriction base='B'/>", "</x:simpleType>",
    "<x:simpleType name='B'>", "<x:restriction base='A'/>", "</x:simpleType>",
    "</x:schema>"].flatMap Text.Utf8.encodeText)

set_option maxRecDepth 100000 in
theorem baseLinks_acyclic_derivedTypes : ∃ type,
    let d := ((start "" false).readDocument derivedTypes).generate.1.declarations
    (d.baseChain type).length = 4 ∧ d.Acyclic ∧ ∀ type, d.Lineage type := by
  refine ⟨⟨46⟩, by decide +kernel, ?_⟩
  exact baseLinks_acyclic (((Met.start "" false).readDocument derivedTypes).generate)

/-! ## Steps -/

/-- One step of a compile, whatever its documents are. -/
inductive Step (s : Session) : Session → Prop
  | advance {s' : Session} (next : s.advance? = some s') : Step s s'
  | note (e : Event) : Step s (s.note e)
  | report (p : Problem) : Step s (s.report p)
  | beginDocument : Step s s.beginDocument
  | deliver (r : Reader) (lexeme : Lexeme) :
      Step s (s.withScope (r.deliver s.scope lexeme).2.1)
  | moveTo (position : Position) : Step s { s with position }
  | readStart (tag : StartTag) (position : Position) : Step s (s.readStart tag position)
  | readStop (position : Position) : Step s (s.readStop position)
  | generating {g : Generation} (passes : Generation.Passes s.generation g) :
      Step s { s with declarations := g.declarations, journal := g.journal, position := {} }

/-- Steps one after another. -/
abbrev Reaches : Session → Session → Prop :=
  Relation.ReflTransGen Step

variable {s s' : Session}

/-! ## What a compile does is a sequence of steps -/

theorem reaches_kept (s : Session) : KeptByReading s.Reaches :=
  ⟨fun e reached => reached.tail (.note e), fun p reached => reached.tail (.report p),
    fun reached => reached.tail .beginDocument,
    fun r lexeme reached => reached.tail (.deliver r lexeme),
    fun position reached => reached.tail (.moveTo position),
    fun tag position reached => reached.tail (.readStart tag position),
    fun position reached => reached.tail (.readStop position)⟩

theorem reaches_readDocument (s : Session) (source : Source) : s.Reaches (s.readDocument source) :=
  (reaches_kept s).readDocument .refl source

theorem reaches_generate (s : Session) : s.Reaches s.generate.1 :=
  .single (.generating (Generation.run_passes s.generation))

/-! ## What a step keeps -/

theorem Read.grows {node : Node} (read : Read s node s') : s.registry.Grows s'.registry :=
  have alters : Alters (fun _ => True) s s' := read.alters trivial fun _ _ => trivial
  alters.grows

theorem Step.grows (step : Step s s') : s.registry.Grows s'.registry := by
  cases step with
  | advance next =>
    obtain ⟨worklist, -, rfl⟩ := Option.map_eq_some_iff.1 next
    exact .refl
  | note | report | beginDocument | moveTo | generating => exact .refl
  | deliver r lexeme => exact r.grows_deliver s.scope lexeme
  | readStart tag position => exact (readStart_read s tag position).grows
  | readStop position => exact (readStop_read s ⟨"", .none, ""⟩ position).grows

/-- Only the passes of a generation need room for made-up names. -/
theorem Step.intact (step : Step s s') (intact : Intact s) (room : s.registry.HasRoom) :
    Intact s' ∧ s.declarations.Retains s'.declarations := by
  cases step with
  | advance next =>
    obtain ⟨worklist, moved, rfl⟩ := Option.map_eq_some_iff.1 next
    unfold Worklist.advance? at moved
    split at moved
    · obtain rfl := Option.some.inj moved
      exact ⟨⟨intact.declarations, intact.elementStack, intact.typeStack, intact.known⟩, .refl _⟩
    · cases moved
  | note e => exact ⟨intact.note e, .refl _⟩
  | report p => exact ⟨intact.report p, .refl _⟩
  | beginDocument | moveTo =>
    exact ⟨⟨intact.declarations, intact.elementStack, intact.typeStack, intact.known⟩, .refl _⟩
  | deliver r lexeme => exact ⟨intact.deliver r lexeme, .refl _⟩
  | readStart tag position =>
    exact ⟨keptByActions_intact.readStart intact tag position,
      Edits.retains (readStart_edits intact.declarations.inRange tag position)⟩
  | readStop position =>
    exact ⟨keptByActions_intact.readStop intact position,
      Edits.retains (readStop_edits s position)⟩
  | generating passes =>
    obtain ⟨declarations, retains⟩ := passes.intact intact.declarations room
    have declared := intact.declare declarations retains.elements retains.types
    exact ⟨⟨declared.declarations, declared.elementStack, declared.typeStack, declared.known⟩,
      retains⟩

theorem Reaches.grows (reaches : s.Reaches s') : s.registry.Grows s'.registry := by
  induction reaches with
  | refl => exact .refl
  | tail _ step ih => exact ih.trans step.grows

theorem Reaches.intact (reaches : s.Reaches s') (intact : Intact s) (room : s'.registry.HasRoom) :
    Intact s' ∧ s.declarations.Retains s'.declarations := by
  induction reaches with
  | refl => exact ⟨intact, .refl _⟩
  | tail _ step ih =>
    have before := room.of_grows step.grows
    obtain ⟨here, retains⟩ := ih before
    obtain ⟨next, retains'⟩ := step.intact here before
    exact ⟨next, retains.trans retains'⟩

/-! ## The tables wherever a compile comes -/

/-- A session in which every element and every type is there that something refers to. -/
structure RefersWithin (s : Session) : Prop where
  elementStack : ∀ id ∈ s.elementStack, id.index < s.declarations.elements.size
  typeStack : ∀ id ∈ s.typeStack, id.index < s.declarations.types.size
  typeTable {symbol : Symbol} {id : TypeId} :
    s.declarations.typeTable.find? symbol = some id → id.index < s.declarations.types.size
  roots {symbol : Symbol} {id : ElementId} :
    s.declarations.roots.find? symbol = some id → id.index < s.declarations.elements.size
  rootAttributes {symbol : Symbol} {id : ElementId} :
    s.declarations.rootAttributes.find? symbol = some id →
      id.index < s.declarations.elements.size
  element (id : ElementId) :
    (s.declarations.element id).Within s.declarations.types.size s.declarations.elements.size
  type (id : TypeId) :
    (s.declarations.type id).Within s.declarations.types.size s.declarations.elements.size

theorem Intact.refersWithin (intact : Intact s) : s.RefersWithin :=
  ⟨intact.elementStack, intact.typeStack, fun found => (intact.declarations.found.1 found).1,
    intact.declarations.roots, intact.declarations.rootAttributes, intact.declarations.element,
    intact.declarations.type⟩

/-- Wherever a compile comes, every type is found under its own symbol and nothing else is found, no
two types share a symbol, made-up ones included, and all that is referred to is there.  What is
found under a symbol is what every later lookup of it finds.  For this there must be no more
namespaces than numbers below that of made-up names. -/
theorem tables_intact {location : String} {allowUnsupported : Bool} {s s' : Session}
    (reached : (start location allowUnsupported).Reaches s) (later : s.Reaches s')
    (room : s'.registry.HasRoom) :
    (∀ symbol id, s.declarations.typeTable.find? symbol = some id ↔
      id.index < s.declarations.types.size ∧ (s.declarations.type id).symbol = symbol) ∧
    (∀ a b : TypeId, a.index < s.declarations.types.size → b.index < s.declarations.types.size →
      (s.declarations.type a).symbol = (s.declarations.type b).symbol → a = b) ∧
    s.RefersWithin ∧
    (∀ symbol id, s.declarations.typeTable.find? symbol = some id →
      s'.declarations.findOrAddType symbol = (s'.declarations, id, false)) ∧
    (∀ symbol id, s.declarations.roots.find? symbol = some id →
      s'.declarations.findOrAddRoot symbol = (s'.declarations, id)) ∧
    ∀ symbol id, s.declarations.rootAttributes.find? symbol = some id →
      s'.declarations.findOrAddRootAttribute symbol = (s'.declarations, id) := by
  have before := room.of_grows later.grows
  have intact := (reached.intact (intact_start location allowUnsupported) before).1
  have retains := (later.intact intact room).2
  exact ⟨fun _ _ => intact.declarations.found,
    fun _ _ inRange inRange' same => intact.declarations.index_eq inRange inRange' same,
    intact.refersWithin, fun _ _ => retains.findOrAddType, fun _ _ => retains.findOrAddRoot,
    fun _ _ => retains.findOrAddRootAttribute⟩

/-- Two elements of one type, which is copied for the second, and a type without a name in it. -/
def sharedType : Source :=
  .bytes (["<x:schema xmlns:x='http://www.w3.org/2001/XMLSchema'>",
    "<x:element name='P' type='T'/>", "<x:element name='Q' type='T'/>",
    "<x:complexType name='T'>", "<x:sequence>", "<x:element name='a'>", "<x:complexType>",
    "<x:sequence>", "<x:element name='b' type='x:string'/>", "</x:sequence>",
    "</x:complexType>", "</x:element>", "</x:sequence>", "</x:complexType>",
    "</x:schema>"].flatMap Text.Utf8.encodeText)

set_option maxRecDepth 100000 in
theorem tables_intact_sharedType :
    let s := (start "" false).readDocument sharedType
    let d := s.generate.1.declarations
    s.declarations.types.size = 48 ∧ d.types.size = 49 ∧ s.RefersWithin ∧
      d.findOrAddType ⟨.none, "T"⟩ = (d, ⟨46⟩, false) ∧
      d.findOrAddType (madeUp 1) = (d, ⟨47⟩, false) := by
  have facts : let s := (start "" false).readDocument sharedType
      s.generate.1.registry.HasRoom ∧ s.declarations.types.size = 48 ∧
        s.generate.1.declarations.types.size = 49 ∧
        s.declarations.typeTable.find? ⟨.none, "T"⟩ = some ⟨46⟩ ∧
        s.declarations.typeTable.find? (madeUp 1) = some ⟨47⟩ := by decide +kernel
  obtain ⟨room, read, generated, named, unnamed⟩ := facts
  obtain ⟨-, -, within, types, -⟩ :=
    tables_intact (reaches_readDocument (start "" false) sharedType) (reaches_generate _) room
  exact ⟨read, generated, within, types _ _ named, types _ _ unnamed⟩

end Session

end XsdRecords
