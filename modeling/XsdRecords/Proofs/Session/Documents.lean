import XsdRecords.Proofs.Markup.Values
import XsdRecords.Proofs.Session.Effects
import XsdRecords.Proofs.Worklist

/-! # The documents of a session

A step of reading leaves the documents of the session as they are, gives the first its target
namespace, or adds one: `Alters`.  Each target namespace is that of a URI which some document says,
and no two documents that were named have both location and target namespace in common: `Filed`. -/

namespace XsdRecords.Session

open XsdRecords.Markup (Lexeme Node Reader Source StartTag)

variable {IsUri : String → Prop} {s s' : Session} {index : Nat}

/-! ## What a step does to the documents -/

/-- What a step does to the documents of a session, where `IsUri` tells the URIs that are said. -/
inductive Alters (IsUri : String → Prop) (s s' : Session) : Prop
  | keeps (grows : s.registry.Grows s'.registry) (agrees : s.worklist.Agrees s'.worklist)
  | opens {uri : String} (isUri : IsUri uri) (opens : OpensSchema s uri s')
  | adds {request : Request} (isUri : IsUri request.uri ∨ request.uri = s.registry.uri s.target)
      (registry : s'.registry = (s.registry.register request.uri).1)
      (queues : Queues s.worklist request.location (s.registry.register request.uri).2 s'.worklist)

theorem Alters.grows (alters : Alters IsUri s s') : s.registry.Grows s'.registry := by
  cases alters with
  | keeps grows => exact grows
  | opens isUri opens => exact opens.registry ▸ s.registry.grows_register _
  | adds isUri registry => exact registry ▸ s.registry.grows_register _

theorem Alters.ofSetting (setting : s'.setting = s.setting) : Alters IsUri s s' := by
  refine .keeps ?_ ?_
  · rw [show s'.registry = s.registry from congrArg Setting.registry setting]
  · rw [show s'.worklist = s.worklist from congrArg Setting.worklist setting]
    exact .refl _

theorem isUri_plain? {tag : StartTag} (empty : IsUri "")
    (said : ∀ value ∈ Node.values (.start tag), IsUri value) (name : String) :
    IsUri ((tag.plain? name).getD "") := by
  cases plain : tag.plain? name with
  | none => exact empty
  | some value =>
    obtain ⟨a, found, rfl⟩ := Option.map_eq_some_iff.1 plain
    exact said _ (List.mem_map_of_mem (List.mem_of_find?_eq_some found))

theorem Read.alters {node : Node} (read : Read s node s') (empty : IsUri "")
    (said : ∀ value ∈ node.values, IsUri value) : Alters IsUri s s' := by
  cases read with
  | @starts tag m start alike effect =>
    obtain ⟨rfl, -⟩ : node = .start tag ∧ s.skipDepth = 0 := by
      unfold tag? at start
      split at start
      · split at start
        · exact ⟨congrArg Node.start (Option.some.inj start), ‹_›⟩
        · cases start
      · cases start
    cases effect with
    | acts acts => exact .ofSetting (acts.declares.setting.trans alike.setting)
    | schema isSchema opens =>
      exact .opens (isUri_plain? empty said "targetNamespace") (alike.opensSchema opens)
    | @names request naming names =>
      have names := alike.names names
      refine .adds ?_ names.registry names.worklist
      rw [alike.naming?] at naming
      unfold naming? at naming
      dsimp only at naming
      split at naming
      · cases naming
      · split at naming
        · obtain rfl := Option.some.inj naming
          exact .inr rfl
        · obtain rfl := Option.some.inj naming
          exact .inl (isUri_plain? empty said "namespace")
        · cases naming
  | passes idle shuts => exact .ofSetting shuts.setting
  | @halts p m halts setting =>
    have registry : s'.registry = m.registry := congrArg Setting.registry setting
    have worklist : s'.worklist = m.worklist := congrArg Setting.worklist setting
    refine .keeps (registry ▸ halts.registry) ?_
    rw [worklist, halts.worklist]
    exact .refl _

/-! ## Attribute values -/

theorem values_of_mem_visitsOf (lexemes : List Lexeme) {s : Session} {r : Reader} :
    ∀ v ∈ visitsOf s r lexemes, v.node.values ⊆ lexemes.flatMap Lexeme.values := by
  generalize all : visitsOf s r lexemes = visits
  induction visits generalizing s r lexemes with
  | nil => simp
  | cons first rest ih =>
    obtain ⟨lexeme, later, r', scope, rfl, -, delivered, -, others⟩ := visitsOf_eq_cons all
    rw [List.flatMap_cons]
    refine List.forall_mem_cons.2 ⟨?_, fun v member => ?_⟩
    · exact List.subset_append_of_subset_left _ (Reader.values_deliver delivered)
    · exact List.subset_append_of_subset_right _ (ih later others v member)

/-- The values of the attributes of a document are all in its text. -/
theorem values_of_mem_visits {source : Source} {v : Visit} (member : v ∈ s.visits source) :
    v.node.values ⊆ source.values := by
  cases source with
  | failing reason => cases member
  | bytes content => exact values_of_mem_visitsOf _ _ member

/-! ## Target namespaces -/

/-- Each document of a session is filed under a namespace that is said, and no two under the same
location and namespace. -/
structure Filed (IsUri : String → Prop) (s : Session) : Prop where
  proper : s.registry.Proper
  ordered : s.worklist.Ordered
  target {index : Nat} (inside : index < s.worklist.documents.size) :
    ∃ uri, IsUri uri ∧ s.registry.id? uri = some (s.worklist.entry index).target

namespace Filed

variable (filed : Filed IsUri s)

include filed

theorem keeps (grows : s.registry.Grows s'.registry) (agrees : s.worklist.Agrees s'.worklist) :
    Filed IsUri s' where
  proper := grows.proper filed.proper
  ordered := filed.ordered.agrees agrees
  target {index} inside := by
    obtain ⟨uri, isUri, known⟩ := filed.target (agrees.size ▸ inside)
    exact ⟨uri, isUri, agrees.target index ▸ grows.id? known⟩

/-- Only the first document is a top-level one. -/
theorem current_of_kind (isTop : s.worklist.currentEntry.kind = .topLevel) :
    s.worklist.current = 0 :=
  Nat.eq_zero_of_not_pos fun later => filed.ordered.nested later filed.ordered.current isTop

theorem opens {uri : String} (isUri : IsUri uri) (opens : OpensSchema s uri s') :
    Filed IsUri s' := by
  have grows : s.registry.Grows s'.registry := opens.registry ▸ s.registry.grows_register uri
  obtain same | ⟨isTop, f, changed, retargets⟩ := opens.worklist
  · exact filed.keeps grows (same ▸ .refl _)
  · have first := filed.current_of_kind isTop
    refine ⟨grows.proper filed.proper, ?_, fun {index} inside => ?_⟩
    · exact changed ▸ filed.ordered.modifyCurrent first fun e => (retargets e).parent
    · rw [changed, Worklist.size_modifyCurrent] at inside
      obtain ⟨old, isOld, known⟩ := filed.target inside
      rw [changed]
      by_cases here : index = s.worklist.current
      · subst here
        have entry := Worklist.currentEntry_modifyCurrent filed.ordered.current f
        rw [Worklist.currentEntry, Worklist.current_modifyCurrent] at entry
        rw [entry]
        obtain still | ⟨-, declared⟩ := (retargets s.worklist.currentEntry).target
        · exact ⟨old, isOld, still ▸ grows.id? known⟩
        · exact ⟨uri, isUri, by rw [declared, opens.registry, Registry.id?_register]⟩
      · rw [Worklist.entry_modifyCurrent_of_ne here]
        exact ⟨old, isOld, grows.id? known⟩

theorem adds (empty : IsUri "") {request : Request}
    (isUri : IsUri request.uri ∨ request.uri = s.registry.uri s.target)
    (registry : s'.registry = (s.registry.register request.uri).1)
    (queues : Queues s.worklist request.location (s.registry.register request.uri).2 s'.worklist) :
    Filed IsUri s' := by
  have grows : s.registry.Grows s'.registry := registry ▸ s.registry.grows_register request.uri
  cases queues with
  | known diamond same => exact filed.keeps grows (same ▸ .refl _)
  | new isNew kind nested bindings pushed =>
    refine ⟨grows.proper filed.proper, ?_, fun {index} inside => ?_⟩
    · exact pushed ▸ filed.ordered.push (Worklist.classify_eq_new_iff.1 isNew) nested rfl
    · rw [pushed, Worklist.size_push] at inside
      rw [pushed]
      obtain old | rfl := Nat.lt_succ_iff_lt_or_eq.1 inside
      · obtain ⟨uri, isUri, known⟩ := filed.target old
        exact ⟨uri, isUri, Worklist.entry_push _ old ▸ grows.id? known⟩
      · rw [Worklist.entry_push_size]
        obtain said | shared := isUri
        · exact ⟨_, said, registry ▸ Registry.id?_register _ _⟩
        · obtain ⟨uri, isUri, known⟩ := filed.target filed.ordered.current
          rw [shared]
          obtain same | none := Registry.register_uri filed.proper known
          · exact ⟨uri, isUri, grows.id? (known.trans (congrArg some same.symm))⟩
          · exact ⟨"", empty, congrArg some none.symm⟩

theorem alters (empty : IsUri "") (alters : Alters IsUri s s') : Filed IsUri s' := by
  cases alters with
  | keeps grows agrees => exact filed.keeps grows agrees
  | opens isUri opens => exact filed.opens isUri opens
  | adds isUri registry queues => exact filed.adds empty isUri registry queues

theorem extends_of_alters (alters : Alters IsUri s s') : s.worklist.Extends s'.worklist := by
  cases alters with
  | keeps grows agrees => exact agrees.extends
  | opens isUri opens =>
    obtain same | ⟨isTop, f, changed, retargets⟩ := opens.worklist
    · exact same ▸ (Worklist.Agrees.refl _).extends
    · exact changed ▸ Worklist.extends_modifyCurrent (filed.current_of_kind isTop)
        fun e => (retargets e).location
  | adds isUri registry queues =>
    cases queues with
    | known diamond same => exact same ▸ (Worklist.Agrees.refl _).extends
    | new isNew kind nested bindings pushed => exact pushed ▸ Worklist.extends_push _ _

end Filed

end XsdRecords.Session
