import XsdRecords.Proofs.Session.Effects
import XsdRecords.Proofs.Session.Visits
import XsdRecords.Proofs.Worklist

/-! # References across documents

What a document defines is known from its end on, and a reference to it in a document that is read
later is not refused for want of a definition.  The top-level document is read before all others:
there, whatever is imported, only the names of its own target namespace and those of the built-in
types can be referred to. -/

namespace XsdRecords

open XsdRecords.Declaration (Declarations ElementId Reference)
open XsdRecords.Declaration.Declarations (Edits)
open XsdRecords.Markup (Node Reader Source)

/-! ## What is known stays known -/

namespace Declaration.Declarations

variable {d d' : Declarations} {r : Reference}

theorem Edit.place? (edit : Edit d d') {place : Nat} (found : d.place? r = some place) :
    d'.place? r = some place := by
  cases edit with
  | mint | addElement | refer | typed | form | complex | preserve | choose | derive | enumerate |
    addField => exact found
  | addType symbol new =>
    have adds := adds_findOrAddType d symbol
    rw [findOrAddType, new] at adds
    exact adds.keeps found
  | addRoot symbol new =>
    have adds := adds_findOrAddRoot d symbol
    rw [findOrAddRoot, new] at adds
    exact adds.keeps found
  | addRootAttribute symbol new =>
    have adds := adds_findOrAddRootAttribute d symbol
    rw [findOrAddRootAttribute, new] at adds
    exact adds.keeps found

theorem Edits.place? (edits : Edits d d') {place : Nat} (found : d.place? r = some place) :
    d'.place? r = some place := by
  induction edits with
  | refl => exact found
  | tail _ edit ih => exact edit.place? ih

theorem Edits.knows (edits : Edits d d') (known : d.Knows r) : d'.Knows r := by
  obtain ⟨place, found, isDefined⟩ := known
  exact ⟨place, edits.place? found, fun root => edits.isDefined_element (isDefined root)⟩

end Declaration.Declarations

namespace Session

variable {s s' : Session} {r : Reference}

/-! ## What a document defines -/

/-- A name stands for a type, or for a top-level element or attribute that is open or defined. -/
def HasDeclared (s : Session) (r : Reference) : Prop :=
  ∃ place, s.declarations.place? r = some place ∧ (r.referent ≠ .type →
    ⟨place⟩ ∈ s.elementStack ∨ (s.declarations.element ⟨place⟩).isDefined = true)

theorem HasDeclared.knows (declared : s.HasDeclared r) (closed : s.elementStack = []) :
    s.declarations.Knows r := by
  obtain ⟨place, found, settled⟩ := declared
  refine ⟨place, found, fun root => (settled root).resolve_left fun isOpen => ?_⟩
  rw [closed] at isOpen
  cases isOpen

theorem HasOpened.hasDeclared (opened : s.HasOpened r) : s.HasDeclared r := by
  obtain ⟨place, found, isOpen⟩ := opened
  exact ⟨place, found, fun root => .inl (isOpen root)⟩

/-- What is declared stays so while elements are opened and defined. -/
theorem HasDeclared.mono (declared : s.HasDeclared r)
    (edits : Edits s.declarations s'.declarations)
    (closes : ∀ {id}, id ∈ s.elementStack → id ∈ s'.elementStack ∨
      (s'.declarations.element id).isDefined = true) : s'.HasDeclared r := by
  obtain ⟨place, found, settled⟩ := declared
  refine ⟨place, edits.place? found, fun root => ?_⟩
  obtain isOpen | isDefined := settled root
  · exact closes isOpen
  · exact .inr (edits.isDefined_element isDefined)

theorem HasDeclared.untouched (declared : s.HasDeclared r) (same : Untouched s s') :
    s'.HasDeclared r := by
  refine declared.mono ?_ fun isOpen => .inl (same.sameStacks.elementStack ▸ isOpen)
  rw [same.declarations]

/-- A step that does not fail leaves no element that is open undefined. -/
theorem Read.closes {node : Node} (read : Read s node s') (listed : s.declarations.Listed)
    (edits : Edits s.declarations s'.declarations) (ok : s'.hasFailed = false) {id : ElementId}
    (isOpen : id ∈ s.elementStack) :
    id ∈ s'.elementStack ∨ (s'.declarations.element id).isDefined = true := by
  cases read with
  | starts start alike effect =>
    rw [← alike.elementStack] at isOpen
    cases effect with
    | acts acts => exact .inl (acts.declares.elementStack isOpen)
    | schema isSchema opens => exact .inl (opens.elementStack ▸ isOpen)
    | names naming names => exact .inl (names.elementStack ▸ isOpen)
  | passes idle shuts =>
    obtain still | isDefined | untagged := shuts.elementStack isOpen
    · exact .inl still
    · exact .inr (edits.isDefined_element isDefined)
    · exact .inr (edits.isDefined_element (listed.untagged untagged))
  | halts halts setting =>
    rw [halts.hasFailed setting] at ok
    cases ok

/-- A step that does not fail declares what its node defines. -/
theorem Read.defines {node : Node} (read : Read s node s') (ok : s'.hasFailed = false)
    (defines : defines? s node = some r) : s'.HasDeclared r := by
  cases read with
  | @starts tag m start alike effect =>
    simp only [defines?, start, Option.bind_some, ← alike.definition?] at defines
    cases effect with
    | acts acts => exact (acts.opens r defines).hasDeclared
    | schema isSchema opens => simp [definition?, isSchema] at defines
    | names naming names =>
      obtain action | action := (start_of_naming? naming).2 <;>
        simp [definition?, action] at defines
  | passes idle shuts => simp [defines?, idle] at defines
  | halts halts setting =>
    rw [halts.hasFailed setting] at ok
    cases ok

/-- A step that reports that a name is unknown refers to such a name. -/
theorem Read.reports {node : Node} (read : Read s node s')
    (known : ∀ r, refersTo? s node = some r → s.declarations.Knows r) {report : Report}
    (member : report ∈ s'.journal.reports) :
    report ∈ s.journal.reports ∨ report.problem.isUnknownName = false := by
  have same (reports : s'.journal.reports = s.journal.reports) :
      report ∈ s.journal.reports ∨ report.problem.isUnknownName = false :=
    .inl (reports ▸ member)
  cases read with
  | starts start alike effect =>
    have before := congrArg Setting.reports alike.setting
    cases effect with
    | acts acts => exact same ((congrArg Setting.reports acts.declares.setting).trans before)
    | schema isSchema opens => exact same (opens.reports.trans before)
    | names naming names => exact same (names.reports.trans before)
  | passes idle shuts => exact same (congrArg Setting.reports shuts.setting)
  | @halts p m halts setting =>
    have reports : s'.journal.reports = _ :: m.journal.reports := congrArg Setting.reports setting
    rw [reports, halts.reports] at member
    cases member with
    | head =>
      refine .inr (Bool.eq_false_iff.2 fun isUnknown => ?_)
      obtain ⟨r, refers, new⟩ := halts.unknown isUnknown
      exact new (known r refers)
    | tail _ old => exact .inl old

/-- An end tag that does not fail only closes what is open. -/
theorem Read.stop_shuts {name : Markup.TagName} (read : Read s (.stop name) s')
    (ok : s'.hasFailed = false) : Shuts s s' := by
  cases read with
  | starts start => cases start
  | passes idle shuts => exact shuts
  | halts halts setting =>
    rw [halts.hasFailed setting] at ok
    cases ok

/-- A node that does not fail declares what it defines, and leaves declared what was. -/
theorem hasDeclared_after {v : Visit} (inRange : v.session.declarations.InRange)
    (listed : v.session.declarations.Listed) (ok : v.after.hasFailed = false)
    (declared : v.session.HasDeclared r ∨ defines? v.session v.node = some r) :
    v.after.HasDeclared r := by
  have edits : Edited v.session v.after := readNode_edits inRange v.node v.position
  have one {m : Session} (read : Read v.session v.node m) (ok : m.hasFailed = false)
      (edits : Edited v.session m) : m.HasDeclared r := by
    obtain before | defines := declared
    · exact before.mono edits (read.closes listed edits ok)
    · exact read.defines ok defines
  obtain whole | ⟨m, name, started, going, stopped⟩ := readNode_read v.session v.node v.position
  · exact one whole ok edits
  · have shuts := stopped.stop_shuts ok
    have same : v.after.declarations = m.declarations := shuts.declarations
    have first : Edited v.session m := by
      rw [Edited, ← same]
      exact edits
    have second : Edited m v.after := by
      rw [Edited, same]
    exact (one started going first).mono second
      (stopped.closes (Declarations.Edits.listed first inRange listed) second ok)

/-! ## Documents that are read later -/

/-- The states that a compile may come to after another. -/
inductive Follows (s : Session) : Session → Prop
  | refl : Follows s s
  | readDocument {m : Session} (follows : Follows s m) (source : Source) :
      Follows s (m.readDocument source)
  | advance {m m' : Session} (follows : Follows s m) (next : m.advance? = some m') : Follows s m'
  | note {m : Session} (follows : Follows s m) (e : Event) : Follows s (m.note e)
  | report {m : Session} (follows : Follows s m) (p : Problem) : Follows s (m.report p)

theorem Follows.edits (inRange : s.declarations.InRange) (follows : Follows s s') :
    Edited s s' := by
  induction follows with
  | refl => exact .refl
  | readDocument follows source ih =>
    exact ih.trans (readDocument_edits (Declarations.Edits.inRange ih inRange) source)
  | advance follows next ih =>
    obtain ⟨worklist, -, rfl⟩ := Option.map_eq_some_iff.1 next
    exact ih
  | note follows e ih => exact ih
  | report follows p ih => exact ih

/-- What was declared before a document is declared where each of its nodes is read. -/
theorem edits_of_mem_visits (inRange : s.declarations.InRange) {source : Source} {v : Visit}
    (member : v ∈ s.visits source) : Edited s v.session := by
  cases source with
  | failing reason => cases member
  | bytes content =>
    have all := forall_mem_visitsOf (P := fun m => Edited s m) (fun _ _ edits => edits)
      (fun {v} _ edits => edits.trans (readNode_edits (Declarations.Edits.inRange edits inRange)
        v.node v.position))
      (Markup.Lexed.ofDocument content).lexemes (s := s.beginDocument)
      (r := Reader.ofDocument content) .refl
    exact (all v member).2

/-- A document that is read without a failure declares what its nodes define. -/
theorem Run.hasDeclared {visits : List Visit} (run : Run s visits s')
    (inRange : s.declarations.InRange) (listed : s.declarations.Listed) {v : Visit}
    (member : v ∈ visits) (defines : defines? v.session v.node = some r) : s'.HasDeclared r := by
  let Sound (m : Session) : Prop := m.declarations.InRange ∧ m.declarations.Listed
  have sound {v : Visit} (here : Sound v.session) : Sound v.after := by
    have edits : Edited v.session v.after := readNode_edits here.1 v.node v.position
    exact ⟨edits.inRange here.1, edits.listed here.1 here.2⟩
  have untouched {m m' : Session} (same : Untouched m m') (here : Sound m) : Sound m' := by
    simp only [Sound, same.declarations]
    exact here
  obtain ⟨before, after, rfl⟩ := List.append_of_mem member
  obtain ⟨m, first, second⟩ := run.split
  cases second with
  | cons same ok later =>
    have here := untouched same (first.inv (P := Sound) ⟨inRange, listed⟩ untouched
      fun _ _ _ => sound)
    have declared := hasDeclared_after here.1 here.2 ok (.inr defines)
    refine (later.inv (P := fun m => Sound m ∧ m.HasDeclared r) ⟨sound here, declared⟩ ?_ ?_).2
    · exact fun same here => ⟨untouched same here.1, here.2.untouched same⟩
    · exact fun w _ ok ⟨here, declared⟩ =>
        ⟨sound here, hasDeclared_after here.1 here.2 ok (.inl declared)⟩

/-! ## References in the top-level document -/

/-- A session in the top-level document, in which only built-in types and names of its own, or of
no namespace, stand for something. -/
structure TopLevel (s : Session) : Prop where
  current : s.worklist.current < s.worklist.documents.size
  names {r : Reference} {place : Nat} : s.declarations.place? r = some place →
    Declarations.initial.place? r ≠ none ∨ s.Owns r.symbol ∨ r.symbol.namespaceId = .none

theorem TopLevel.congr (topLevel : TopLevel s)
    (current : s'.worklist.current < s'.worklist.documents.size)
    (declarations : s'.declarations = s.declarations)
    (target : s'.target = s.target ∨ s.target = .none) : TopLevel s' where
  current := current
  names {r place} found := by
    rw [declarations] at found
    obtain builtin | (own | anonymous) | none := topLevel.names found
    · exact .inl builtin
    · obtain same | none := target
      · exact .inr (.inl (.inl (own.trans same.symm)))
      · exact .inr (.inr (own.trans none))
    · exact .inr (.inl (.inr anonymous))
    · exact .inr (.inr none)

theorem TopLevel.withScope (topLevel : TopLevel s) (scope : Markup.Scope) :
    TopLevel (s.withScope scope) := by
  refine topLevel.congr ?_ rfl (.inl ?_)
  · exact Nat.lt_of_lt_of_eq topLevel.current (Worklist.size_modifyCurrent _ _).symm
  · exact (congrArg DocumentEntry.target
      (Worklist.currentEntry_modifyCurrent topLevel.current _)).trans rfl

/-- A step that does not fail adds only names of the session's own. -/
theorem Read.topLevel {node : Node} (read : Read s node s') (ok : s'.hasFailed = false)
    (topLevel : TopLevel s) : TopLevel s' := by
  have settled {m m' : Session} (topLevel : TopLevel m) (setting : m'.setting = m.setting)
      (declarations : m'.declarations = m.declarations) : TopLevel m' := by
    refine topLevel.congr ?_ declarations (.inl (target_of_setting setting))
    rw [show m'.worklist = m.worklist from congrArg Setting.worklist setting]
    exact topLevel.current
  cases read with
  | @starts tag m start alike effect =>
    replace topLevel : TopLevel m := settled topLevel alike.setting alike.declarations
    cases effect with
    | acts acts =>
      have declares := acts.declares
      have worklist : s'.worklist = m.worklist := congrArg Setting.worklist declares.setting
      refine ⟨worklist ▸ topLevel.current, fun {r place} found => ?_⟩
      simp only [owns_of_setting declares.setting]
      exact (declares.adds found).elim topLevel.names fun own => .inr (.inl own)
    | schema isSchema opens =>
      obtain same | ⟨-, f, same, retargets⟩ := opens.worklist
      · exact topLevel.congr (same ▸ topLevel.current) opens.declarations
          (.inl (by rw [target, same, target]))
      · have entry := Worklist.currentEntry_modifyCurrent topLevel.current f
        refine topLevel.congr ?_ opens.declarations ?_
        · rw [same, Worklist.current_modifyCurrent, Worklist.size_modifyCurrent]
          exact topLevel.current
        · rw [target, same, entry, target]
          exact (retargets _).target.imp_right And.left
    | names naming names =>
      obtain ⟨-, kind, -, bindings, pushed⟩ | ⟨-, same⟩ := names.worklist
      · refine topLevel.congr ?_ names.declarations (.inl ?_)
        · rw [pushed, Worklist.current_push, Worklist.size_push]
          exact Nat.lt_succ_of_lt topLevel.current
        · rw [target, pushed, target, Worklist.currentEntry, Worklist.current_push,
            Worklist.entry_push _ topLevel.current]
          rfl
      · exact topLevel.congr (same ▸ topLevel.current) names.declarations
          (.inl (by rw [target, same, target]))
  | passes idle shuts => exact settled topLevel shuts.setting shuts.declarations
  | halts halts setting =>
    rw [halts.hasFailed setting] at ok
    cases ok

/-- In the top-level document a node fails that refers to a name of another namespace. -/
theorem Read.foreign {node : Node} (read : Read s node s') (topLevel : TopLevel s)
    (refers : refersTo? s node = some r) (unknown : Declarations.initial.place? r = none)
    (foreign : r.symbol.namespaceId ≠ s.target) (named : r.symbol.namespaceId ≠ .none)
    (given : r.symbol.namespaceId ≠ .anonymous) : s'.hasFailed = true := by
  have notOwned : ¬s.Owns r.symbol := fun owns => owns.elim foreign given
  cases read with
  | @starts tag m start alike effect =>
    simp only [refersTo?, start, Option.bind_some, ← alike.reference?] at refers
    cases effect with
    | acts acts =>
      exfalso
      obtain old | owns := acts.resolves r refers
      · rw [alike.declarations] at old
        obtain ⟨place, found⟩ := Option.ne_none_iff_exists'.1 old
        obtain builtin | owns | none := topLevel.names found
        · exact builtin unknown
        · exact notOwned owns
        · exact named none
      · exact notOwned ((owns_of_setting alike.setting).1 owns)
    | schema isSchema opens => simp [reference?, isSchema] at refers
    | names naming names =>
      obtain action | action := (start_of_naming? naming).2 <;>
        simp [reference?, action] at refers
  | passes idle shuts => simp [refersTo?, idle] at refers
  | halts halts setting => exact halts.hasFailed setting

theorem topLevel_start (location : String) (allowUnsupported : Bool) :
    TopLevel (start location allowUnsupported) where
  current := Nat.zero_lt_one
  names found := .inl fun none => by
    rw [start, none] at found
    cases found

/-- No node of a document fails that is read without a failure. -/
theorem Run.hasFailed {visits : List Visit} (run : Run s visits s') {v : Visit}
    (member : v ∈ visits) : v.after.hasFailed = false := by
  induction run with
  | nil => cases member
  | cons untouched ok later ih =>
    cases member with
    | head => exact ok
    | tail _ member => exact ih member

theorem hasFailed_of_foreign {location : String} {allowUnsupported : Bool} {source : Source}
    {v : Visit} (member : v ∈ (start location allowUnsupported).visits source)
    (refers : refersTo? v.session v.node = some r) (unknown : Declarations.initial.place? r = none)
    (foreign : r.symbol.namespaceId ≠ v.session.target) (named : r.symbol.namespaceId ≠ .none)
    (given : r.symbol.namespaceId ≠ .anonymous) :
    ((start location allowUnsupported).readDocument source).hasFailed = true := by
  have topLevel : TopLevel v.session := by
    cases source with
    | failing reason => cases member
    | bytes content =>
      have all := forall_mem_visitsOf (P := fun m => m.hasFailed = false → TopLevel m)
        (fun r lexeme here ok => (here ok).withScope _) ?_
        (Markup.Lexed.ofDocument content).lexemes
        (s := (start location allowUnsupported).beginDocument) (r := Reader.ofDocument content)
        fun _ => (topLevel_start location allowUnsupported).congr Nat.zero_lt_one rfl (.inl rfl)
      · exact (all v member).2 (all v member).1
      · intro v before here ok
        obtain whole | ⟨m, name, started, going, stopped⟩ :=
          readNode_read v.session v.node v.position
        · exact whole.topLevel ok (here before)
        · exact stopped.topLevel ok (started.topLevel going (here before))
  have failed : v.after.hasFailed = true := by
    obtain whole | ⟨m, name, started, going, stopped⟩ :=
      readNode_read v.session v.node v.position
    · exact whole.foreign topLevel refers unknown foreign named given
    · rw [started.foreign topLevel refers unknown foreign named given] at going
      cases going
  rw [← Bool.not_eq_false]
  intro ok
  rw [(run_readDocument ok).hasFailed member] at failed
  cases failed

/-! ## The reach of references -/

/-- A name that a document defines is known wherever a document is read later: no reference to it is
refused because nothing of it is known.  In the top-level document, which is read before those that
it imports, every reference to a name of another namespace fails, but for the built-in types. -/
theorem references_resolved (r : Reference) :
    (∀ {s later : Session} {source source' : Source} {v w : Visit},
      Reached s → (s.readDocument source).hasFailed = false →
      (s.readDocument source).elementStack = [] →
      v ∈ s.visits source → defines? v.session v.node = some r →
      Follows (s.readDocument source) later →
      w ∈ later.visits source' → refersTo? w.session w.node = some r →
      ∀ report ∈ w.after.journal.reports,
        report ∈ w.session.journal.reports ∨ report.problem.isUnknownName = false) ∧
    ∀ {location : String} {allowUnsupported : Bool} {source : Source} {v : Visit},
      v ∈ (start location allowUnsupported).visits source →
      refersTo? v.session v.node = some r → Declarations.initial.place? r = none →
      r.symbol.namespaceId ≠ v.session.target → r.symbol.namespaceId ≠ .none →
      r.symbol.namespaceId ≠ .anonymous →
      ((start location allowUnsupported).readDocument source).hasFailed = true := by
  refine ⟨?_, hasFailed_of_foreign⟩
  intro s later source source' v w reached ok closed defining defines follows referring refers
    report member
  have inRange := Declarations.Edits.inRange reached.edits Declarations.inRange_initial
  have listed := Declarations.Edits.listed reached.edits Declarations.inRange_initial
    Declarations.listed_initial
  have declared := (run_readDocument ok).hasDeclared inRange listed defining defines
  have known : w.session.declarations.Knows r := by
    have before := (readDocument_edits inRange source).inRange inRange
    have between := follows.edits before
    have inside := edits_of_mem_visits (between.inRange before) referring
    exact Declarations.Edits.knows (between.trans inside) (declared.knows closed)
  have knows (r' : Reference) (refers' : refersTo? w.session w.node = some r') :
      w.session.declarations.Knows r' := by
    rw [refers] at refers'
    exact Option.some.inj refers' ▸ known
  obtain whole | ⟨m, name, started, -, stopped⟩ := readNode_read w.session w.node w.position
  · exact whole.reports knows member
  · obtain before | familiar := stopped.reports (fun _ none => (by cases none)) member
    · exact started.reports knows before
    · exact .inr familiar

/-- A document that includes another and defines a type. -/
def includingDocument : Source :=
  .bytes (["<x:schema xmlns:x='http://www.w3.org/2001/XMLSchema' targetNamespace='t'>",
    "<x:include schemaLocation='d'/>", "<x:simpleType name='T'>",
    "<x:restriction base='x:string'/>", "</x:simpleType>",
    "</x:schema>"].flatMap Text.Utf8.encodeText)

/-- A document that is included and refers to the type. -/
def includedDocument : Source :=
  .bytes (["<x:schema xmlns:x='http://www.w3.org/2001/XMLSchema'>",
    "<x:element name='E' type='T'/>", "</x:schema>"].flatMap Text.Utf8.encodeText)

/-- A document that imports another and refers to a type of its namespace. -/
def importingDocument : Source :=
  .bytes (["<x:schema xmlns:x='http://www.w3.org/2001/XMLSchema' xmlns:b='b'>",
    "<x:import namespace='b' schemaLocation='d'/>", "<x:element name='E' type='b:T'/>",
    "</x:schema>"].flatMap Text.Utf8.encodeText)

set_option maxRecDepth 100000 in
theorem references_resolved_acrossDocuments :
    (∃ later w, w ∈ Session.visits later includedDocument ∧
      refersTo? w.session w.node = some ⟨.type, ⟨⟨0⟩, "T"⟩⟩ ∧
      ∀ report ∈ w.after.journal.reports,
        report ∈ w.session.journal.reports ∨ report.problem.isUnknownName = false) ∧
    ((start "" false).readDocument importingDocument).hasFailed = true := by
  constructor
  · have read : ((start "" false).readDocument includingDocument).hasFailed = false ∧
        ((start "" false).readDocument includingDocument).elementStack = [] ∧
        (((start "" false).visits includingDocument).any fun v =>
          defines? v.session v.node = some ⟨.type, ⟨⟨0⟩, "T"⟩⟩) = true ∧
        (((start "" false).readDocument includingDocument).advance?.any fun later =>
          (later.visits includedDocument).any fun w =>
            refersTo? w.session w.node = some ⟨.type, ⟨⟨0⟩, "T"⟩⟩) = true := by decide +kernel
    obtain ⟨ok, closed, defining, referring⟩ := read
    obtain ⟨v, defining, defines⟩ := List.any_eq_true.1 defining
    obtain ⟨later, next, referring⟩ := (Option.any_eq_true _ _).1 referring
    obtain ⟨w, referring, refers⟩ := List.any_eq_true.1 referring
    have refers := of_decide_eq_true refers
    exact ⟨later, w, referring, refers, (references_resolved _).1 (.start "" false) ok
      closed defining (of_decide_eq_true defines)
      (.advance .refl next) referring refers⟩
  · have refers : (((start "" false).visits importingDocument).any fun v =>
        refersTo? v.session v.node = some ⟨.type, ⟨⟨0⟩, "T"⟩⟩ && v.session.target = .none) =
          true := by decide +kernel
    have unknown : Declarations.initial.place? ⟨.type, ⟨⟨0⟩, "T"⟩⟩ = none := by decide +kernel
    obtain ⟨v, member, refers⟩ := List.any_eq_true.1 refers
    simp only [Bool.and_eq_true, decide_eq_true_eq] at refers
    exact (references_resolved _).2 member refers.1 unknown (by rw [refers.2]; decide) (by decide)
      (by decide)

end Session

end XsdRecords
