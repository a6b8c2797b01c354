import XsdRecords.Proofs.Namespace.Numbers
import XsdRecords.Proofs.Session.Namings

/-! # The list of the documents that were named

The worklist of a session lists what the tags read so far have named, in the order in which each was
named first, and each document that was named remembers where: `Listed`.  Unless reading has failed
nothing is missing from the list, and no document names one that it comes from: `Accounted`. -/

namespace XsdRecords.Session

open XsdRecords.Markup (Node Source)

variable {IsUri : String → Prop} {s s' : Session} {namings : List Naming}

/-! ## The list of what was named -/

/-- The documents of a session are those that were named, in the order in which each was named first;
`namings` lists all that tags named. -/
structure Listed (namings : List Naming) (s : Session) : Prop where
  queue : s.queue <+: (namings.map Naming.request).eraseDups
  first {index : Nat} (later : 0 < index) (inside : index < s.worklist.documents.size) :
    ∃ n, namings.find? (·.request = s.requestFor index) = some n ∧
      (s.worklist.entry index).parent = some n.place
  place {n : Naming} (member : n ∈ namings) : n.place ≤ s.worklist.current
  /-- Only the first document may have got its target namespace later. -/
  namer {n : Naming} (member : n ∈ namings) : n.namer = s.requestFor n.place ∨
    n.place = 0 ∧ n.namer = ⟨(s.worklist.entry 0).location, ""⟩
  top {index : Nat} (later : 0 < index) (inside : index < s.worklist.documents.size)
    (same : s.requestFor index = s.requestFor 0) :
    ∃ n ∈ namings, n.place = 0 ∧ n.namer ≠ s.requestFor 0

/-- Something else than a recursive inclusion has made the compile fail. -/
def FailedOtherwise (s : Session) : Prop :=
  ∃ report ∈ s.journal.reports,
    report.problem.severity.isFailure = true ∧ report.problem.isRecursion = false

/-- Whether reading has failed with what was named so far: unless it has, every document that was
named is listed, and is not on the way from the one that named it to the first. -/
structure Accounted (namings : List Naming) (s : Session) : Prop extends Listed namings s where
  all (ok : s.hasFailed = false) : (namings.map Naming.request).eraseDups = s.queue
  apart (ok : s.hasFailed = false) {n : Naming} (member : n ∈ namings) :
    ∃ index, 0 < index ∧ index < s.worklist.documents.size ∧ s.requestFor index = n.request ∧
      ¬s.worklist.Under n.place index
  recursive (failed : s.hasFailed = true) : s.FailedOtherwise ∨ ∃ n ∈ namings, ∃ index,
    s.worklist.Under n.place index ∧ s.requestFor index = n.request

theorem eraseDups_prefix_append {α : Type} [DecidableEq α] (l l' : List α) :
    l.eraseDups <+: (l ++ l').eraseDups := by
  rw [List.eraseDups_append]
  exact List.prefix_append _ _

section

variable {request : Request} (adds : Adds s request s')
  (all : (namings.map Naming.request).eraseDups = s.queue)

include adds all

theorem Adds.not_mem_requests : request ∉ namings.map Naming.request := by
  rw [← List.mem_eraseDups, all]
  exact adds.not_mem_queue

theorem Adds.eraseDups (inside : s.worklist.current < s.worklist.documents.size) {place : Nat}
    {namer : Request} :
    ((namings ++ [(⟨place, namer, request⟩ : Naming)]).map Naming.request).eraseDups =
      s'.queue := by
  rw [adds.queue inside, ← all, List.map_append, List.map_singleton, eraseDups_concat,
    if_neg (adds.not_mem_requests all)]

end

namespace Listed

variable (listed : Listed namings s)

include listed

/-- What the current document names on top changes nothing, as long as it adds no document. -/
theorem stays (ordered : s.worklist.Ordered) (stays : Stays s s') (extra : List Naming)
    (here : ∀ n ∈ extra, n.place = s.worklist.current ∧ n.namer = s.requestFor n.place) :
    Listed (namings ++ extra) s' where
  queue := by
    rw [stays.queue, List.map_append]
    exact listed.queue.trans (eraseDups_prefix_append _ _)
  first later inside := by
    rw [stays.size] at inside
    obtain ⟨n, found, parent⟩ := listed.first later inside
    refine ⟨n, ?_, (stays.parent _).trans parent⟩
    rw [stays.request inside, List.find?_append, found]
    rfl
  place {n} member := by
    refine Nat.le_trans ?_ stays.current
    obtain old | new := List.mem_append.1 member
    · exact listed.place old
    · exact Nat.le_of_eq (here n new).1
  namer {n} member := by
    obtain old | new := List.mem_append.1 member
    · rw [stays.request (Nat.lt_of_le_of_lt (listed.place old) ordered.current), stays.location]
      exact listed.namer old
    · obtain ⟨place, namer⟩ := here n new
      rw [stays.request (place ▸ ordered.current)]
      exact .inl namer
  top {index} later inside same := by
    rw [stays.size] at inside
    rw [stays.request inside, stays.request (Nat.zero_lt_of_lt inside)] at same
    obtain ⟨n, member, place, other⟩ := listed.top later inside same
    refine ⟨n, List.mem_append_left _ member, place, ?_⟩
    rwa [stays.request (Nat.zero_lt_of_lt inside)]

/-- All that was named before the first document got its target namespace, this document named. -/
theorem targets (targets : Targets s s') : Listed namings s' := by
  have early {n : Naming} (member : n ∈ namings) : n.place = 0 ∧ n.namer = s.requestFor 0 := by
    have place : n.place = 0 := Nat.eq_zero_of_le_zero (targets.first ▸ listed.place member)
    obtain own | ⟨-, own⟩ := listed.namer member
    · exact ⟨place, place ▸ own⟩
    · exact ⟨place, own.trans targets.before.symm⟩
  refine { queue := ?queue, first := ?first, place := ?place, namer := ?namer, top := ?top }
  case queue =>
    rw [queue_of_requestFor targets.size targets.request]
    exact listed.queue
  case first =>
    intro index later inside
    rw [targets.size] at inside
    rw [targets.request later inside, targets.parent]
    exact listed.first later inside
  case place =>
    exact fun member => Nat.le_trans (listed.place member) (Nat.le_of_eq targets.current.symm)
  case namer =>
    intro n member
    obtain ⟨place, namer⟩ := early member
    exact .inr ⟨place, by rw [namer, targets.before, targets.location]⟩
  case top =>
    intro index later inside _
    rw [targets.size] at inside
    obtain ⟨n, found, -⟩ := listed.first later inside
    obtain ⟨place, namer⟩ := early (List.mem_of_find?_eq_some found)
    exact ⟨n, List.mem_of_find?_eq_some found, place, fun own =>
      targets.other (own.symm.trans namer)⟩

/-- A document that no tag has named before is named. -/
theorem adds (ordered : s.worklist.Ordered) {request : Request} (adds : Adds s request s')
    (all : (namings.map Naming.request).eraseDups = s.queue) :
    Listed (namings ++ [⟨s.worklist.current, s.requestFor s.worklist.current, request⟩]) s' := by
  have isNew : request ∉ namings.map Naming.request := adds.not_mem_requests all
  have split {index : Nat} (inside : index < s'.worklist.documents.size) :
      index < s.worklist.documents.size ∨ index = s.worklist.documents.size := by
    rw [adds.size] at inside
    exact Nat.lt_succ_iff_lt_or_eq.1 inside
  have top : s'.requestFor 0 = s.requestFor 0 := adds.old (Nat.zero_lt_of_lt ordered.current)
  refine { queue := ?queue, first := ?first, place := ?place, namer := ?namer, top := ?top }
  case queue =>
    exact ⟨[], by rw [List.append_nil, adds.eraseDups all ordered.current]⟩
  case first =>
    intro index later inside
    obtain old | rfl := split inside
    · obtain ⟨n, found, parent⟩ := listed.first later old
      refine ⟨n, ?_, by rw [adds.entry old, parent]⟩
      rw [adds.old old, List.find?_append, found]
      rfl
    · refine ⟨⟨s.worklist.current, s.requestFor s.worklist.current, request⟩, ?_, adds.parent⟩
      have unnamed : namings.find? (·.request = request) = none := by
        rw [List.find?_eq_none]
        exact fun n member same => isNew (List.mem_map.2 ⟨n, member, of_decide_eq_true same⟩)
      rw [adds.last, List.find?_append, unnamed]
      simp
  case place =>
    intro n member
    rw [adds.current]
    obtain old | new := List.mem_append.1 member
    · exact listed.place old
    · obtain rfl := List.mem_singleton.1 new
      exact Nat.le_refl _
  case namer =>
    intro n member
    rw [adds.entry (Nat.zero_lt_of_lt ordered.current)]
    obtain old | new := List.mem_append.1 member
    · rw [adds.old (Nat.lt_of_le_of_lt (listed.place old) ordered.current)]
      exact listed.namer old
    · obtain rfl := List.mem_singleton.1 new
      exact .inl (adds.old ordered.current).symm
  case top =>
    intro index later inside same
    rw [top] at same ⊢
    obtain old | rfl := split inside
    · obtain ⟨n, member, place, other⟩ := listed.top later old (adds.old old ▸ same)
      exact ⟨n, List.mem_append_left _ member, place, other⟩
    · exact absurd (same.symm.trans adds.last) (adds.isNew (Nat.zero_lt_of_lt ordered.current))

end Listed

/-! ## Failures -/

namespace Accounted

variable (accounted : Accounted namings s) (ordered : s.worklist.Ordered)

include accounted ordered

theorem stays (stays : Stays s s') (failed : s'.hasFailed = s.hasFailed)
    (reports : s'.journal.reports = s.journal.reports) : Accounted namings s' where
  toListed := by
    simpa using accounted.toListed.stays ordered stays [] (by simp)
  all ok := by
    rw [stays.queue]
    exact accounted.all (failed ▸ ok)
  apart ok {n} member := by
    obtain ⟨index, later, inside, same, apart⟩ := accounted.apart (failed ▸ ok) member
    exact ⟨index, later, stays.size ▸ inside, (stays.request inside).trans same, stays.under ▸ apart⟩
  recursive fails := by
    obtain otherwise | ⟨n, member, index, under, same⟩ := accounted.recursive (failed ▸ fails)
    · refine .inl ?_
      rw [FailedOtherwise, reports]
      exact otherwise
    · have inside := Nat.lt_of_le_of_lt (accounted.place member) ordered.current
      have inside := Nat.lt_of_le_of_lt (ordered.le_of_under under inside) inside
      exact .inr ⟨n, member, index, stays.under ▸ under, (stays.request inside).trans same⟩

theorem fails (stays : Stays s s') (failed : s'.hasFailed = true) (extra : List Naming)
    (here : ∀ n ∈ extra, n.place = s.worklist.current ∧ n.namer = s.requestFor n.place)
    (cause : s'.FailedOtherwise ∨ ∃ n ∈ extra, ∃ index,
      s'.worklist.Under n.place index ∧ s'.requestFor index = n.request) :
    Accounted (namings ++ extra) s' where
  toListed := accounted.toListed.stays ordered stays extra here
  all ok := by
    rw [failed] at ok
    cases ok
  apart ok := by
    rw [failed] at ok
    cases ok
  recursive _ := cause.imp_right fun ⟨n, member, recursion⟩ =>
    ⟨n, List.mem_append_right _ member, recursion⟩

omit ordered in
theorem targets (targets : Targets s s') (failed : s'.hasFailed = false)
    (ok : s.hasFailed = false) : Accounted namings s' where
  toListed := accounted.toListed.targets targets
  all _ := by
    rw [queue_of_requestFor targets.size targets.request]
    exact accounted.all ok
  apart _ {n} member := by
    obtain ⟨index, later, inside, same, apart⟩ := accounted.apart ok member
    refine ⟨index, later, targets.size ▸ inside, (targets.request later inside).trans same, ?_⟩
    unfold Worklist.Under
    simpa only [targets.parent] using apart
  recursive fails := by
    rw [failed] at fails
    cases fails

theorem adds {request : Request} (adds : Adds s request s') (failed : s'.hasFailed = false)
    (ok : s.hasFailed = false) :
    Accounted (namings ++ [⟨s.worklist.current, s.requestFor s.worklist.current, request⟩]) s' where
  toListed := accounted.toListed.adds ordered adds (accounted.all ok)
  all _ := adds.eraseDups (accounted.all ok) ordered.current
  apart _ {n} member := by
    obtain old | new := List.mem_append.1 member
    · obtain ⟨index, later, inside, same, apart⟩ := accounted.apart ok old
      have within := Nat.lt_of_le_of_lt (accounted.place old) ordered.current
      exact ⟨index, later, adds.size ▸ Nat.lt_succ_of_lt inside, (adds.old inside).trans same,
        fun under => apart (adds.under ordered within under)⟩
    · obtain rfl := List.mem_singleton.1 new
      refine ⟨s.worklist.documents.size, Nat.zero_lt_of_lt ordered.current,
        adds.size ▸ Nat.lt_succ_self _, adds.last, fun under => ?_⟩
      have back := ordered.le_of_under (adds.under ordered ordered.current under) ordered.current
      exact Nat.not_lt.2 back ordered.current
  recursive fails := by
    rw [failed] at fails
    cases fails

theorem knows {request : Request} (stays : Stays s s') (failed : s'.hasFailed = false)
    (ok : s.hasFailed = false) (found : ∃ index, 0 < index ∧ index < s.worklist.documents.size ∧
      s.requestFor index = request ∧ ¬s.worklist.Under s.worklist.current index) :
    Accounted (namings ++ [⟨s.worklist.current, s.requestFor s.worklist.current, request⟩]) s' where
  toListed := accounted.toListed.stays ordered stays _ fun n member => by
    obtain rfl := List.mem_singleton.1 member
    exact ⟨rfl, rfl⟩
  all _ := by
    obtain ⟨index, later, inside, same, -⟩ := found
    have known : request ∈ namings.map Naming.request := by
      rw [← List.mem_eraseDups, accounted.all ok]
      exact mem_queue.2 ⟨index, later, inside, same⟩
    rw [stays.queue, ← accounted.all ok, List.map_append, List.map_singleton, eraseDups_concat,
      if_pos known]
  apart _ {n} member := by
    obtain ⟨index, later, inside, same, apart⟩ : ∃ index, 0 < index ∧
        index < s.worklist.documents.size ∧ s.requestFor index = n.request ∧
        ¬s.worklist.Under n.place index := by
      obtain old | new := List.mem_append.1 member
      · exact accounted.apart ok old
      · obtain rfl := List.mem_singleton.1 new
        exact found
    exact ⟨index, later, stays.size ▸ inside, (stays.request inside).trans same, stays.under ▸ apart⟩
  recursive fails := by
    rw [failed] at fails
    cases fails

end Accounted

/-! ## Reading a document -/

theorem naming_of_names?_eq_none {node : Node} (unnamed : names? s node = none) :
    s.naming node = [] := by
  rw [naming, unnamed]
  rfl

theorem failedOtherwise_report {p : Problem} (isFailure : p.severity.isFailure = true)
    (other : p.isRecursion = false) : (s.report p).FailedOtherwise :=
  ⟨_, List.mem_cons_self, isFailure, other⟩

/-- Where nothing is named and nothing fails all is as it was. -/
theorem Accounted.ofSetting (accounted : Accounted namings s) (filed : Filed IsUri s)
    (small : s'.registry.IsSmall) (setting : s'.setting = s.setting) : Accounted namings s' := by
  have registry : s'.registry = s.registry := congrArg Setting.registry setting
  have worklist : s'.worklist = s.worklist := congrArg Setting.worklist setting
  refine accounted.stays filed.ordered ?_ (hasFailed_of_setting setting)
    (congrArg Setting.reports setting)
  exact filed.stays small (registry ▸ .refl) (worklist ▸ .refl _)

/-- A node that halts names no further document. -/
theorem Accounted.halts (accounted : Accounted namings s) (filed : Filed IsUri s) {node : Node}
    {p : Problem} {m : Session} (halts : Halts s (refersTo? s node) (names? s node) p m)
    (setting : s'.setting = (m.report p).setting) (small : s'.registry.IsSmall) :
    Accounted (namings ++ s.naming node) s' := by
  have registry : s'.registry = m.registry := congrArg Setting.registry setting
  have worklist : s'.worklist = s.worklist :=
    (congrArg Setting.worklist setting :).trans halts.worklist
  refine accounted.fails filed.ordered ?_ (halts.hasFailed setting) _ ?_ ?_
  · exact filed.stays small (registry ▸ halts.registry) (worklist ▸ .refl _)
  · intro n member
    obtain ⟨request, -, rfl⟩ := List.mem_map.1 member
    exact ⟨rfl, rfl⟩
  · cases recursion : p.isRecursion with
    | false =>
      refine .inl ?_
      rw [FailedOtherwise, show s'.journal.reports = _ from congrArg Setting.reports setting]
      exact failedOtherwise_report halts.isFailure recursion
    | true =>
      obtain ⟨request, naming, recursive, registered⟩ := halts.recursion recursion
      obtain ⟨found, here, under⟩ := Worklist.under_of_classify_recursive recursive
      obtain ⟨-, location, target⟩ := Worklist.find?_eq_some here
      refine .inr ⟨⟨s.worklist.current, s.requestFor s.worklist.current, request⟩, ?_, found, ?_, ?_⟩
      · rw [Session.naming, naming]
        exact List.mem_singleton_self _
      · exact worklist ▸ under
      · have known := Registry.id?_register s.registry request.uri
        rw [← registered, ← registry] at known
        rw [requestFor, worklist, location, target, Registry.uri_of_id? small known]

theorem Accounted.read (accounted : Accounted namings s) (filed : Filed IsUri s) {node : Node}
    (read : Read s node s') (ok : s.hasFailed = false) (small : s'.registry.IsSmall) :
    Accounted (namings ++ s.naming node) s' := by
  cases read with
  | @starts tag m start alike effect =>
    have unchanged := hasFailed_of_setting alike.setting
    have names : names? s node = naming? s tag tag.kind := by rw [names?, start, Option.bind_some]
    cases effect with
    | acts acts unnamed =>
      rw [naming_of_names?_eq_none (names.trans (alike.naming? ▸ unnamed)), List.append_nil]
      exact accounted.ofSetting filed small (acts.declares.setting.trans alike.setting)
    | schema isSchema opens =>
      have opens := alike.opensSchema opens
      have unnamed : naming? s tag tag.kind = none := by
        simp [naming?, isSchema]
      rw [naming_of_names?_eq_none (names.trans unnamed), List.append_nil]
      have failed : s'.hasFailed = s.hasFailed :=
        congrArg Diagnostic.isFailure opens.diagnostic
      obtain stays | targets := filed.stays_or_targets small opens
      · exact accounted.stays filed.ordered stays failed opens.reports
      · exact accounted.targets targets (failed.trans ok) ok
    | @names request naming effect =>
      have effect := alike.names effect
      have failed : s'.hasFailed = false :=
        (congrArg Diagnostic.isFailure effect.diagnostic).trans ok
      rw [Session.naming, names, ← alike.naming?, naming]
      obtain ⟨stays, found⟩ | adds := filed.stays_or_adds small effect.registry effect.worklist
      · exact accounted.knows filed.ordered stays failed ok found
      · exact accounted.adds filed.ordered adds failed ok
  | passes idle shuts =>
    have unnamed : names? s node = none := by rw [names?, idle, Option.bind_none]
    rw [naming_of_names?_eq_none unnamed, List.append_nil]
    exact accounted.ofSetting filed small shuts.setting
  | halts halts setting => exact accounted.halts filed halts setting small

/-- Where a failure was reported, the compile has failed. -/
def Reported (s : Session) : Prop :=
  ∀ report ∈ s.journal.reports, report.problem.severity.isFailure = true → s.hasFailed = true

theorem Reported.congr (reported : s.Reported) (reports : s'.journal.reports = s.journal.reports)
    (failed : s'.hasFailed = s.hasFailed) : s'.Reported := by
  intro report member
  rw [failed]
  exact reported report (reports ▸ member)

theorem Read.reported {node : Node} (read : Read s node s') (reported : s.Reported) :
    s'.Reported := by
  cases read with
  | starts start alike effect =>
    have before := reported.congr (congrArg Setting.reports alike.setting)
      (hasFailed_of_setting alike.setting)
    cases effect with
    | acts acts =>
      exact before.congr (congrArg Setting.reports acts.declares.setting)
        (hasFailed_of_setting acts.declares.setting)
    | schema isSchema opens =>
      exact before.congr opens.reports (congrArg Diagnostic.isFailure opens.diagnostic)
    | names naming names =>
      exact before.congr names.reports (congrArg Diagnostic.isFailure names.diagnostic)
  | passes idle shuts =>
    exact reported.congr (congrArg Setting.reports shuts.setting)
      (hasFailed_of_setting shuts.setting)
  | halts halts setting => exact fun _ _ _ => halts.hasFailed setting

/-- A session that a document read from another session leads to: its documents are filed and include
those of the other, and as long as numbers are small those that were named are accounted for. -/
structure Tracked (IsUri : String → Prop) (s : Session) (namings : List Naming) (s' : Session) :
    Prop where
  filed : Filed IsUri s'
  grows : s.registry.Grows s'.registry
  extends_ : s.worklist.Extends s'.worklist
  reported : s'.Reported
  accounted (small : s'.registry.IsSmall) : Accounted namings s'

namespace Tracked

variable {m : Session} (tracked : Tracked IsUri s namings m)

include tracked

theorem fails (grows : m.registry.Grows s'.registry) (agrees : m.worklist.Agrees s'.worklist)
    (failed : s'.hasFailed = true) (otherwise : s'.FailedOtherwise) :
    Tracked IsUri s namings s' where
  filed := tracked.filed.keeps grows agrees
  grows := tracked.grows.trans grows
  extends_ := tracked.extends_.trans agrees.extends
  reported := fun _ _ _ => failed
  accounted small := by
    simpa using (tracked.accounted (grows.isSmall small)).fails tracked.filed.ordered
      (tracked.filed.stays small grows agrees) failed [] (by simp) (.inl otherwise)

theorem withScope (r : Markup.Reader) (lexeme : Markup.Lexeme) :
    Tracked IsUri s namings (m.withScope (r.deliver m.scope lexeme).2.1) := by
  have grows := r.grows_deliver m.scope lexeme
  have agrees := Worklist.agrees_modifyCurrent tracked.filed.ordered.current
    (r.deliver m.scope lexeme).2.1.bindings
  exact ⟨tracked.filed.keeps grows agrees, tracked.grows.trans grows,
    tracked.extends_.trans agrees.extends, tracked.reported, fun small =>
      (tracked.accounted (grows.isSmall small)).stays tracked.filed.ordered
        (tracked.filed.stays small grows agrees) rfl rfl⟩

theorem read (empty : IsUri "") {node : Node} (said : ∀ value ∈ node.values, IsUri value)
    (ok : m.hasFailed = false) (read : Read m node s') :
    Tracked IsUri s (namings ++ m.naming node) s' := by
  have alters := read.alters empty said
  exact ⟨tracked.filed.alters empty alters, tracked.grows.trans alters.grows,
    tracked.extends_.trans (tracked.filed.extends_of_alters alters), read.reported tracked.reported,
    fun small =>
      (tracked.accounted (alters.grows.isSmall small)).read tracked.filed read ok small⟩

end Tracked

theorem tracked_readDocument (empty : IsUri "") {source : Source}
    (said : ∀ v ∈ s.visits source, ∀ value ∈ v.node.values, IsUri value)
    (tracked : Tracked IsUri s namings s) :
    Tracked IsUri s (namings ++ s.namedIn source) (s.readDocument source) := by
  cases source with
  | failing reason =>
    have failed : Tracked IsUri s namings (s.readDocument (.failing reason)) :=
      tracked.fails .refl (.refl _) (hasFailed_report_of_fails _ rfl)
        (failedOtherwise_report rfl rfl)
    simpa [namedIn, visits] using failed
  | bytes content =>
    have begun : Tracked IsUri s namings s.beginDocument :=
      ⟨tracked.filed.keeps .refl (.refl _), .refl, tracked.extends_, tracked.reported, fun small =>
        (tracked.accounted small).ofSetting tracked.filed small rfl⟩
    -- What is said so far is a hypothesis of the invariant, since the visits grow along the way.
    refine readLexemes_inv (s := s.beginDocument) (P := fun visits m =>
      (∀ v ∈ visits, ∀ value ∈ v.node.values, IsUri value) →
        Tracked IsUri s (namings ++ visits.flatMap fun v => v.session.naming v.node) m)
      ?_ ?_ ?_ ?_ (Markup.Lexed.ofDocument content).lexemes [] ?_ said
    · exact fun r lexeme tracked said => (tracked said).withScope r lexeme
    · exact fun fault position tracked said => (tracked said).fails .refl (.refl _)
        (hasFailed_report_of_fails _ rfl) (failedOtherwise_report rfl rfl)
    · intro visits v s' ok tracked read said
      simpa using (tracked fun w member => said w (List.mem_append_left _ member)).read empty
        (said v (List.mem_append_right _ (List.mem_singleton_self v))) ok read
    · intro visits m name s' ok tracked read said
      have unnamed : m.naming (.stop name) = [] := rfl
      simpa [unnamed] using (tracked said).read empty (by simp [Node.values]) ok read
    · simpa using begun

end XsdRecords.Session
