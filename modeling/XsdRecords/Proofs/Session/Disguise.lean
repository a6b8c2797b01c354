import XsdRecords.Proofs.Session.Renaming
import XsdRecords.Proofs.Session.Steady
import XsdRecords.Proofs.Worklist

/-! # Actions in sessions with renamed prefixes

A session in disguise has the prefixes of its current document renamed; the journal's events, the
attributes of the schema tag and the place of the tag being read may be others.  Of all that actions
look at the prefixes alone, and resolve renamed names by them: an action on a tag and the same action
on the renamed tag mirror each other. -/

namespace XsdRecords

/-! ## Documents -/

namespace Worklist

variable {ρ : Renaming} {w w' : Worklist}

/-- A worklist whose current document has its prefixes renamed.  The documents to come have none but
the default namespace, so that their prefixes are renamed in any way. -/
structure Renamed (ρ : Renaming) (w w' : Worklist) : Prop where
  inside : w.current < w.documents.size
  agrees : w.Agrees w'
  here : w'.currentEntry.bindings = ρ.bindings w.currentEntry.bindings
  later {index : Nat} (after : w.current < index) (σ : Renaming) :
    (w'.entry index).bindings = σ.bindings (w.entry index).bindings

theorem renamed_ofTop (location : String) :
    (ofTop (.topLevel location)).Renamed ρ (ofTop (.topLevel location)) where
  inside := Nat.zero_lt_one
  agrees := .refl _
  here := (ρ.bindings_default .none).symm
  later {index} after σ := by
    cases index with
    | zero => cases after
    | succ index => exact (σ.bindings_default .none).symm

/-- The current document changes alike. -/
theorem Renamed.modifyCurrent (renamed : w.Renamed ρ w') {f f' : DocumentEntry → DocumentEntry}
    (bindings : ∀ e e', e'.bindings = ρ.bindings e.bindings →
      (f' e').bindings = ρ.bindings (f e).bindings)
    (others : ∀ e e' : DocumentEntry, { e' with bindings := {} } = { e with bindings := {} } →
      { f' e' with bindings := {} } = { f e with bindings := {} }) :
    (w.modifyCurrent f).Renamed ρ (w'.modifyCurrent f') := by
  have inside' : w'.current < w'.documents.size := by
    rw [renamed.agrees.current, renamed.agrees.size]
    exact renamed.inside
  have changed := currentEntry_modifyCurrent renamed.inside f
  have changed' := currentEntry_modifyCurrent inside' f'
  refine {
    inside := ?inside, agrees := ⟨renamed.agrees.current, ?size, fun index => ?entry⟩,
    here := ?here, later := ?later }
  case inside =>
    rw [size_modifyCurrent]
    exact renamed.inside
  case size => rw [size_modifyCurrent, size_modifyCurrent, renamed.agrees.size]
  case entry =>
    by_cases current : index = w.current
    · subst current
      have same := others _ _ (renamed.agrees.entry w.current)
      rw [currentEntry, current_modifyCurrent] at changed changed'
      rw [currentEntry, renamed.agrees.current] at changed'
      rw [changed, changed']
      exact same
    · rw [entry_modifyCurrent_of_ne current,
        entry_modifyCurrent_of_ne (renamed.agrees.current ▸ current)]
      exact renamed.agrees.entry index
  case here =>
    rw [changed, changed']
    exact bindings _ _ renamed.here
  case later =>
    intro index after σ
    have other : index ≠ w.current := Nat.ne_of_gt after
    rw [entry_modifyCurrent_of_ne other,
      entry_modifyCurrent_of_ne (renamed.agrees.current ▸ other)]
    exact renamed.later after σ

/-- A document that binds nothing but the default namespace is added to both. -/
theorem Renamed.push (renamed : w.Renamed ρ w') {e : DocumentEntry}
    (fresh : ∀ σ : Renaming, e.bindings = σ.bindings e.bindings) :
    (w.push e).Renamed ρ (w'.push e) := by
  have size := renamed.agrees.size
  have unlike : w.current ≠ w.documents.size := Nat.ne_of_lt renamed.inside
  refine {
    inside := ?inside, agrees := ⟨renamed.agrees.current, ?size, fun index => ?entry⟩,
    here := ?here, later := ?later }
  case inside =>
    rw [size_push]
    exact Nat.lt_succ_of_lt renamed.inside
  case size => rw [size_push, size_push, size]
  case entry =>
    rw [entry_push_eq, entry_push_eq, size]
    split
    · rfl
    · exact renamed.agrees.entry index
  case here =>
    have here := renamed.here
    rw [currentEntry, currentEntry, renamed.agrees.current] at here
    rw [currentEntry, currentEntry, current_push, current_push, entry_push_eq, entry_push_eq,
      renamed.agrees.current, size, if_neg unlike, if_neg unlike]
    exact here
  case later =>
    intro index after σ
    rw [entry_push_eq, entry_push_eq, size]
    split
    · exact fresh σ
    · exact renamed.later after σ

/-- The next document is fresh: its prefixes are renamed in any way. -/
theorem Renamed.advance (renamed : w.Renamed ρ w') (more : w.current + 1 < w.documents.size)
    (σ : Renaming) :
    Renamed σ { w with current := w.current + 1 } { w' with current := w'.current + 1 } where
  inside := more
  agrees := ⟨congrArg (· + 1) renamed.agrees.current, renamed.agrees.size, renamed.agrees.entry⟩
  here := by
    show (w'.entry (w'.current + 1)).bindings = σ.bindings (w.entry (w.current + 1)).bindings
    rw [renamed.agrees.current]
    exact renamed.later (Nat.lt_succ_self _) σ
  later after τ := renamed.later (Nat.lt_of_succ_lt after) τ

end Worklist

open XsdRecords.Declaration (Declarations ElementId TypeId Element TypeDef Symbol)
open XsdRecords.Markup (StartTag)
open XsdRecords.Vocabulary (Tag)

/-! ## Sessions -/

/-- What a session has besides its declarations and documents. -/
structure Trace where
  events : List Event
  attributes : List (String × String)
  position : Position

namespace Session

/-- A session with other documents, another trace and the same diagnostic. -/
def disguised (s : Session) (w : Worklist) (t : Trace) : Session :=
  { s with
    worklist := w
    attributes := t.attributes
    journal := { s.journal with events := t.events }
    position := t.position }

variable {ρ : Renaming} {s : Session} {w : Worklist} {t : Trace}

theorem target_disguised (renamed : s.worklist.Renamed ρ w) : (s.disguised w t).target = s.target := by
  unfold target Worklist.currentEntry disguised
  dsimp only
  rw [renamed.agrees.current]
  exact renamed.agrees.target _

theorem scope_disguised (renamed : s.worklist.Renamed ρ w) :
    (s.disguised w t).scope = ρ.scope s.scope := by
  unfold scope Renaming.scope disguised
  dsimp only
  rw [renamed.here]

theorem symbol?_of_ne {text : String} (nonempty : text ≠ "") (s : Session) :
    s.symbol? (some text) = some ⟨s.scope.bindings.resolve ((Markup.splitName text).1.getD ""),
      (Markup.splitName text).2⟩ := by
  unfold symbol?
  split
  · rename_i none
    cases none
  · rename_i empty
    exact absurd (Option.some.inj empty) nonempty
  · rename_i some
    obtain rfl := Option.some.inj some
    rfl

/-- A renamed name stands for the symbol that the name stands for. -/
theorem symbol?_disguised (renamed : s.worklist.Renamed ρ w) (text : Option String) :
    (s.disguised w t).symbol? (text.map ρ.name) = s.symbol? text := by
  cases text with
  | none => rfl
  | some text =>
    by_cases empty : text = ""
    · subst empty
      rfl
    · have nonempty : ρ.name text ≠ "" := mt ρ.name_eq_empty_iff.1 empty
      rw [Option.map_some, symbol?_of_ne empty, symbol?_of_ne nonempty, scope_disguised renamed,
        ρ.splitName_name, ρ.getD_label]
      simp only [Renaming.scope, Renaming.resolve_bindings]

end Session

namespace Action

open XsdRecords.Session

variable {α β : Type}

/-- Actions of which the second does in a disguised session what the first does in the session. -/
def Mirrors (ρ : Renaming) (action action' : Action α) : Prop :=
  ∀ s w t, s.worklist.Renamed ρ w → action.Ends s
    (fun answer m => ∃ w' t', m.worklist.Renamed ρ w' ∧
      (ExceptT.run action').run (s.disguised w t) = (.ok answer, m.disguised w' t'))
    fun problem m => ∃ w' t', m.worklist.Renamed ρ w' ∧
      (ExceptT.run action').run (s.disguised w t) = (.error problem, m.disguised w' t')

variable {ρ : Renaming}

theorem mirrors_pure (answer : α) : Mirrors ρ (pure answer) (pure answer) :=
  fun _ w t renamed => ⟨w, t, renamed, rfl⟩

theorem mirrors_throw (problem : Problem) : Mirrors ρ (throw problem : Action α) (throw problem) :=
  fun _ w t renamed => ⟨w, t, renamed, rfl⟩

theorem Mirrors.bind {action action' : Action β} {f f' : β → Action α}
    (first : Mirrors ρ action action') (later : ∀ answer, Mirrors ρ (f answer) (f' answer)) :
    Mirrors ρ (action >>= f) (action' >>= f') := by
  intro s w t renamed
  rw [ends_bind]
  refine (first s w t renamed).imp (fun answer m ⟨w', t', renamed', follows⟩ => ?_)
    fun problem m ⟨w', t', renamed', follows⟩ => ⟨w', t', renamed', ?_⟩
  · simp only [ExceptT.run_bind, StateT.run_bind, follows]
    exact later answer m w' t' renamed'
  · simp only [ExceptT.run_bind, StateT.run_bind, follows]
    rfl

theorem mirrors_ite {c : Prop} [Decidable c] {yes yes' no no' : Action α}
    (ifYes : Mirrors ρ yes yes') (ifNo : Mirrors ρ no no') :
    Mirrors ρ (if c then yes else no) (if c then yes' else no') := by
  split
  · exact ifYes
  · exact ifNo

/-- A check that throws before what follows it. -/
theorem mirrors_check {c : Prop} [Decidable c] {problem : Problem} {f f' : PUnit → Action α}
    (later : Mirrors ρ (f ⟨⟩) (f' ⟨⟩)) :
    Mirrors ρ (if c then (throw problem : Action PUnit) >>= f else f ⟨⟩)
      (if c then (throw problem : Action PUnit) >>= f' else f' ⟨⟩) := by
  split
  · exact mirrors_throw problem
  · exact later

theorem mirrors_ofExcept (result : Except Problem α) :
    Mirrors ρ (ofExcept result : Action α) (ofExcept result) := by
  cases result with
  | ok answer => exact mirrors_pure answer
  | error problem => exact mirrors_throw problem

/-- Reading a state. -/
theorem mirrors_get {f f' : Session → Action α}
    (later : ∀ s w t, s.worklist.Renamed ρ w → Mirrors ρ (f s) (f' (s.disguised w t))) :
    Mirrors ρ (get >>= f) (get >>= f') := by
  intro s w t renamed
  rw [ends_bind, ends_get]
  exact later s w t renamed s w t renamed

/-- Changing a state. -/
theorem mirrors_modify {c c' : Session → Session}
    (alike : ∀ s w t, s.worklist.Renamed ρ w →
      ∃ w' t', (c s).worklist.Renamed ρ w' ∧ c' (s.disguised w t) = (c s).disguised w' t') :
    Mirrors ρ (modify c) (modify c') := by
  intro s w t renamed
  obtain ⟨w', t', renamed', same⟩ := alike s w t renamed
  refine ⟨w', t', renamed', ?_⟩
  rw [← same]
  rfl

/-- Reading of a state what is the same in disguise. -/
theorem mirrors_read {f f' : Session → Action α}
    (same : ∀ s w t, f' (s.disguised w t) = f' s) (later : ∀ s, Mirrors ρ (f s) (f' s)) :
    Mirrors ρ (get >>= f) (get >>= f') :=
  mirrors_get fun s w t _ => by
    rw [same]
    exact later s

/-- Changing what is the same in disguise. -/
theorem mirrors_alike {c : Session → Session} (worklist : ∀ s, (c s).worklist = s.worklist)
    (same : ∀ s w t, c (s.disguised w t) = (c s).disguised w t) :
    Mirrors ρ (modify c) (modify c) :=
  mirrors_modify fun s w t renamed => ⟨w, t, (worklist s).symm ▸ renamed, same s w t⟩

/-- Reading a state and changing it before something else is done. -/
theorem mirrors_update {c : Session → Session} {f f' : Session → Action α}
    (worklist : ∀ s, (c s).worklist = s.worklist)
    (same : ∀ s w t, c (s.disguised w t) = (c s).disguised w t)
    (later : ∀ s w t, s.worklist.Renamed ρ w → Mirrors ρ (f s) (f' (s.disguised w t))) :
    Mirrors ρ (get >>= fun s => set (c s) >>= fun _ => f s)
      (get >>= fun s => set (c s) >>= fun _ => f' s) := by
  have eq (f : Session → Action α) : (get >>= fun s => set (c s) >>= fun _ => f s : Action α) =
      get >>= fun s => modify c >>= fun _ => f s := rfl
  rw [eq, eq]
  exact mirrors_get fun s w t renamed =>
    (mirrors_alike worklist same).bind fun _ => later s w t renamed

/-- Going over to a state and to its disguise. -/
theorem mirrors_set {m : Session} {w : Worklist} {t : Trace} (renamed : m.worklist.Renamed ρ w) :
    Mirrors ρ (set m) (set (m.disguised w t)) :=
  fun _ _ _ _ => ⟨w, t, renamed, rfl⟩

theorem mirrors_note (e : Event) : Mirrors ρ (note e) (note e) :=
  mirrors_modify fun _ w t renamed => ⟨w, { t with events := e :: t.events }, renamed, rfl⟩

theorem mirrors_declarations : Mirrors ρ declarations declarations :=
  mirrors_read (fun _ _ _ => rfl) fun _ => mirrors_pure _

theorem mirrors_setDeclarations (d : Declarations) :
    Mirrors ρ (setDeclarations d) (setDeclarations d) :=
  mirrors_alike (fun _ => rfl) fun _ _ _ => rfl

theorem mirrors_modifyElement (id : ElementId) (f : Element → Element) :
    Mirrors ρ (modifyElement id f) (modifyElement id f) :=
  mirrors_alike (fun _ => rfl) fun _ _ _ => rfl

theorem mirrors_modifyType (id : TypeId) (f : TypeDef → TypeDef) :
    Mirrors ρ (modifyType id f) (modifyType id f) :=
  mirrors_alike (fun _ => rfl) fun _ _ _ => rfl

theorem mirrors_declare (c : Declarations → Declarations × α) :
    Mirrors ρ (declare c) (declare c) :=
  mirrors_declarations.bind fun _ => (mirrors_setDeclarations _).bind fun _ => mirrors_pure _

theorem mirrors_pushElement (id : ElementId) : Mirrors ρ (pushElement id) (pushElement id) :=
  mirrors_alike (fun _ => rfl) fun _ _ _ => rfl

theorem mirrors_pushType (id : TypeId) : Mirrors ρ (pushType id) (pushType id) :=
  mirrors_alike (fun _ => rfl) fun _ _ _ => rfl

theorem mirrors_skipContent : Mirrors ρ skipContent skipContent :=
  mirrors_alike (fun _ => rfl) fun _ _ _ => rfl

theorem mirrors_findType (symbol : Symbol) : Mirrors ρ (findType symbol) (findType symbol) := by
  unfold findType
  refine (mirrors_declare _).bind fun found => mirrors_get fun s w t renamed => ?_
  rw [target_disguised renamed]
  refine mirrors_check (mirrors_declarations.bind fun d => ?_)
  dsimp only
  split
  · exact mirrors_check (mirrors_pure _)
  · exact mirrors_pure _

end Action

namespace Session

open XsdRecords.Action

variable {ρ : Renaming} {tag tag' : StartTag}

/-! ## Elements and attributes -/

theorem mirrors_findRoot (symbol : Symbol) (isAttribute : Bool) :
    Mirrors ρ (findRoot symbol isAttribute) (findRoot symbol isAttribute) := by
  unfold findRoot
  exact mirrors_ite (mirrors_declare _) (mirrors_declare _)

theorem mirrors_openElement (isTopLevel isAttribute : Bool) (name : String) :
    Mirrors ρ (openElement isTopLevel isAttribute name) (openElement isTopLevel isAttribute name) := by
  unfold openElement
  refine mirrors_ite (mirrors_get fun s w t renamed => ?_) ?_
  · rw [target_disguised renamed]
    refine (mirrors_findRoot _ _).bind fun id => mirrors_declarations.bind fun d => ?_
    exact mirrors_check ((mirrors_pushElement id).bind fun _ => mirrors_pure id)
  · exact (mirrors_declare _).bind fun id => (mirrors_pushElement id).bind fun _ => mirrors_pure id

theorem mirrors_referTo (id : ElementId) (symbol : Symbol) (isTopLevel isAttribute : Bool) :
    Mirrors ρ (referTo id symbol isTopLevel isAttribute)
      (referTo id symbol isTopLevel isAttribute) := by
  unfold referTo
  refine mirrors_check ((mirrors_findRoot _ _).bind fun referenced => ?_)
  refine mirrors_declarations.bind fun d => mirrors_get fun s w t renamed => ?_
  rw [target_disguised renamed]
  exact mirrors_check ((mirrors_modifyElement _ _).bind fun _ => mirrors_pure _)

/-- What the renamed tag refers to in disguise is what the tag refers to. -/
theorem symbol?_of_renamed (same : tag.Renamed ρ tag') {s : Session} {w : Worklist} {t : Trace}
    (renamed : s.worklist.Renamed ρ w) {l : String} (refers : l ∈ referring) :
    (s.disguised w t).symbol? (tag'.plain? l) = s.symbol? (tag.plain? l) := by
  rw [same.reference refers, symbol?_disguised renamed]

theorem mirrors_resolveElement (same : tag.Renamed ρ tag') (id : ElementId) (name : String)
    (isTopLevel isAttribute : Bool) :
    Mirrors ρ (resolveElement id tag name isTopLevel isAttribute)
      (resolveElement id tag' name isTopLevel isAttribute) := by
  unfold resolveElement
  refine mirrors_get fun s w t renamed => ?_
  rw [symbol?_of_renamed same renamed (by decide), symbol?_of_renamed same renamed (by decide)]
  split
  · exact mirrors_referTo _ _ _ _
  · dsimp only
    split
    · exact (mirrors_findType _).bind fun type =>
        (mirrors_modifyElement _ _).bind fun _ => mirrors_pure name
    · exact mirrors_pure name

theorem mirrors_addToType (id : ElementId) (name : String) (isAttribute : Bool) :
    Mirrors ρ (addToType id name isAttribute) (addToType id name isAttribute) := by
  unfold addToType
  refine mirrors_read (fun _ _ _ => rfl) fun s => ?_
  split
  · exact mirrors_pure _
  · exact mirrors_check (mirrors_setDeclarations _)

theorem read_of_renamed (same : tag.Renamed ρ tag') (isAttribute : Bool) :
    ElementForm.read tag' isAttribute = ElementForm.read tag isAttribute := by
  have plain {l : String} (unreferring : l ∉ referring) : tag'.plain? l = tag.plain? l :=
    same.plain unreferring
  simp only [ElementForm.read, minOccurs?, maxOccurs?, annotatedId?,
    same.annotated (l := "id") (by decide),
    plain (l := "minOccurs") (by decide), plain (l := "maxOccurs") (by decide),
    plain (l := "nillable") (by decide), plain (l := "default") (by decide),
    plain (l := "fixed") (by decide), plain (l := "use") (by decide)]

theorem mirrors_startElement (same : tag.Renamed ρ tag') (isAttribute : Bool) :
    Mirrors ρ (startElement tag isAttribute) (startElement tag' isAttribute) := by
  unfold startElement
  rw [same.plain (l := "name") (by decide), read_of_renamed same]
  refine mirrors_read (fun _ _ _ => rfl) fun s => ?_
  refine (mirrors_openElement _ _ _).bind fun id => (mirrors_note _).bind fun _ => ?_
  refine (mirrors_resolveElement same _ _ _ _).bind fun name => mirrors_check ?_
  refine (mirrors_ofExcept _).bind fun form => ?_
  refine (mirrors_modifyElement _ _).bind fun _ => mirrors_check ?_
  exact mirrors_ite (mirrors_addToType _ _ _) (mirrors_pure _)

theorem mirrors_endElement : Mirrors ρ endElement endElement := by
  unfold endElement
  refine mirrors_get fun s w t renamed => ?_
  rw [show (s.disguised w t).elementStack = s.elementStack from rfl]
  cases s.elementStack with
  | nil => exact mirrors_pure _
  | cons id rest => exact mirrors_check (mirrors_set renamed)

/-! ## Types, groups and derivations -/

theorem mirrors_openType (name : String) : Mirrors ρ (openType name) (openType name) := by
  unfold openType
  refine mirrors_get fun s w t renamed => ?_
  rw [show (s.disguised w t).elementStack = s.elementStack from rfl, target_disguised renamed]
  cases s.elementStack with
  | nil =>
    refine mirrors_check ((mirrors_findType _).bind fun id => mirrors_declarations.bind fun d => ?_)
    exact mirrors_check (mirrors_pure id)
  | cons element rest =>
    refine mirrors_check ((mirrors_declare _).bind fun symbol => ?_)
    refine (mirrors_findType _).bind fun id => ?_
    exact (mirrors_modifyElement _ _).bind fun _ => mirrors_pure id

theorem mirrors_startType (same : tag.Renamed ρ tag') (kind : Tag) :
    Mirrors ρ (startType tag kind) (startType tag' kind) := by
  unfold startType
  rw [same.plain (l := "name") (by decide), same.annotated (l := "preserveEnumOrder") (by decide)]
  refine mirrors_read (fun _ _ _ => rfl) fun s => ?_
  refine (mirrors_openType _).bind fun id => (mirrors_note _).bind fun _ => ?_
  have pushed := mirrors_pushType (ρ := ρ) id
  refine mirrors_ite ((mirrors_modifyType _ _).bind fun _ => pushed) ?_
  exact mirrors_ite ((mirrors_modifyType _ _).bind fun _ => pushed) pushed

theorem mirrors_endType : Mirrors ρ endType endType :=
  mirrors_alike (fun _ => rfl) fun _ _ _ => rfl

theorem mirrors_openUntagged (parent : TypeId) :
    Mirrors ρ (openUntagged parent) (openUntagged parent) := by
  unfold openUntagged
  refine (mirrors_declare _).bind fun symbol => (mirrors_declare _).bind fun found => ?_
  refine (mirrors_modifyType _ _).bind fun _ => (mirrors_pushType _).bind fun _ => ?_
  refine (mirrors_declare _).bind fun element => (mirrors_modifyElement _ _).bind fun _ => ?_
  refine mirrors_declarations.bind fun d => (mirrors_setDeclarations _).bind fun _ => ?_
  exact (mirrors_pushElement _).bind fun _ => mirrors_pure _

theorem mirrors_openGroup (kind : Tag) (minOccurs maxOccurs : Int) :
    Mirrors ρ (openGroup kind minOccurs maxOccurs) (openGroup kind minOccurs maxOccurs) := by
  unfold openGroup
  refine mirrors_read (fun _ _ _ => rfl) fun s => ?_
  split
  · refine mirrors_check ?_
    exact mirrors_ite ((mirrors_openUntagged _).bind fun _ => mirrors_pure _) (mirrors_pure _)
  · exact (mirrors_openUntagged _).bind fun _ => mirrors_pure _
  · exact (mirrors_openUntagged _).bind fun _ => mirrors_pure _
  · exact mirrors_throw _

theorem mirrors_startGroup (same : tag.Renamed ρ tag') (kind : Tag) :
    Mirrors ρ (startGroup tag kind) (startGroup tag' kind) := by
  have plain {l : String} (unreferring : l ∉ referring) : tag'.plain? l = tag.plain? l :=
    same.plain unreferring
  unfold startGroup minOccurs? maxOccurs?
  rw [plain (l := "name") (by decide), plain (l := "minOccurs") (by decide),
    plain (l := "maxOccurs") (by decide)]
  refine mirrors_check ((mirrors_ofExcept _).bind fun _ => (mirrors_ofExcept _).bind fun _ => ?_)
  refine (mirrors_openGroup _ _ _).bind fun opened => (mirrors_note _).bind fun _ => ?_
  refine (mirrors_modifyType _ _).bind fun _ => ?_
  split
  · exact mirrors_modifyElement _ _
  · exact mirrors_pure _

theorem mirrors_endGroup : Mirrors ρ endGroup endGroup := by
  refine mirrors_alike (fun s => ?_) fun s w t => ?_
  · split
    · split <;> rfl
    · rfl
  · dsimp only [disguised]
    split
    · split <;> rfl
    · rfl

theorem mirrors_startDerivation (same : tag.Renamed ρ tag') (isList : Bool) :
    Mirrors ρ (startDerivation tag isList) (startDerivation tag' isList) := by
  have refers : (if isList then "itemType" else "base") ∈ referring := by
    cases isList <;> decide
  unfold startDerivation
  refine mirrors_get fun s w t renamed => ?_
  rw [symbol?_of_renamed same renamed refers,
    show (s.disguised w t).typeStack = s.typeStack from rfl]
  cases s.typeStack with
  | nil => exact mirrors_throw _
  | cons type rest =>
    dsimp only
    split
    · refine (mirrors_findType _).bind fun base => mirrors_declarations.bind fun d => ?_
      refine mirrors_check ((mirrors_note _).bind fun _ => ?_)
      exact mirrors_modifyType _ _
    · exact mirrors_throw _

theorem mirrors_startEnumerator (same : tag.Renamed ρ tag') :
    Mirrors ρ (startEnumerator tag) (startEnumerator tag') := by
  unfold startEnumerator annotatedId?
  rw [same.plain (l := "value") (by decide), same.annotated (l := "id") (by decide)]
  refine mirrors_read (fun _ _ _ => rfl) fun s => ?_
  split
  · exact mirrors_throw _
  · refine mirrors_ite ((mirrors_ofExcept _).bind fun id => ?_) (mirrors_pure _)
    exact (mirrors_note _).bind fun _ => mirrors_modifyType _ _

/-! ## Documents -/

/-- The attributes that are kept of a tag are all that becomes of them. -/
theorem exists_setAttributes (attributes : List Markup.Attribute) (s : Session) :
    ∃ kept, attributes.foldl (fun s a => s.setAttribute a.qualifiedName a.value) s =
      { s with attributes := kept } := by
  induction attributes generalizing s with
  | nil => exact ⟨s.attributes, rfl⟩
  | cons a rest ih => exact ih (s.setAttribute a.qualifiedName a.value)

theorem keepTopLevel_disguised {s : Session} {w : Worklist} (renamed : s.worklist.Renamed ρ w)
    (t : Trace) (declared : NamespaceId) : ∃ w' t',
      (keepTopLevel s tag declared).worklist.Renamed ρ w' ∧
      keepTopLevel (s.disguised w t) tag' declared = (keepTopLevel s tag declared).disguised w' t' := by
  -- The attributes that are kept do differ in their names, but only the trace has them.
  obtain ⟨kept, here⟩ := exists_setAttributes tag.attributes s
  obtain ⟨kept', there⟩ := exists_setAttributes tag'.attributes (s.disguised w t)
  unfold keepTopLevel
  dsimp only
  rw [here, there]
  split
  · exact ⟨w, { t with attributes := kept' }, renamed, rfl⟩
  · refine ⟨_, { t with attributes := kept' }, renamed.modifyCurrent ?_ ?_, rfl⟩
    · intro e e' bindings
      simp only [DocumentEntry.setTarget?]
      split <;> split <;> exact bindings
    · intro e e' others
      obtain ⟨kind, parent, location, target, bindings⟩ := e
      obtain ⟨kind', parent', location', target', bindings'⟩ := e'
      obtain ⟨rfl, rfl, rfl, rfl⟩ : kind' = kind ∧ parent' = parent ∧ location' = location ∧
          target' = target := by simpa using others
      simp only [DocumentEntry.setTarget?]
      split <;> rfl

/-- What the start of a schema does in a document, once its URI is registered. -/
def openSchema (tag : StartTag) (uri : String) (entry : DocumentEntry)
    (registered : Registry × NamespaceId) : Action Unit := do
  Action.note (.schemaOpened entry.location uri)
  if entry.kind = .topLevel then modify (keepTopLevel · tag registered.2)
  else if !entry.accepts registered.2 then
    throw (.badTargetNamespace uri (registered.1.uri entry.target) entry.location)

theorem mirrors_openSchema (uri : String) {entry entry' : DocumentEntry}
    (agrees : { entry' with bindings := {} } = { entry with bindings := {} })
    (registered : Registry × NamespaceId) :
    Mirrors ρ (openSchema tag uri entry registered) (openSchema tag' uri entry' registered) := by
  obtain ⟨kind, parent, location, target, bindings⟩ := entry
  obtain ⟨kind', parent', location', target', bindings'⟩ := entry'
  obtain ⟨rfl, rfl, rfl, rfl⟩ : kind' = kind ∧ parent' = parent ∧ location' = location ∧
      target' = target := by simpa using agrees
  unfold openSchema
  refine (mirrors_note _).bind fun _ => ?_
  refine mirrors_ite ?_ (mirrors_ite (mirrors_throw _) (mirrors_pure _))
  exact mirrors_modify fun s w t renamed => keepTopLevel_disguised renamed t _

theorem mirrors_startSchema (same : tag.Renamed ρ tag') :
    Mirrors ρ (startSchema tag) (startSchema tag') := by
  have starts (tag : StartTag) (uri : String) (called : (tag.plain? "targetNamespace").getD "" = uri) :
      startSchema tag = get >>= fun s =>
        set { s with registry := (s.registry.register uri).1 } >>= fun _ =>
          openSchema tag uri s.worklist.currentEntry (s.registry.register uri) := by
    rw [← called]
    rfl
  rw [starts tag _ rfl, starts tag' _ (by rw [same.plain (l := "targetNamespace") (by decide)])]
  refine mirrors_update (fun _ => rfl) (fun _ _ _ => rfl) fun s w t renamed => ?_
  exact mirrors_openSchema _ renamed.agrees.currentEntry _

theorem mirrors_ensureUnderSchema (kind : Tag) :
    Mirrors ρ (ensureUnderSchema kind) (ensureUnderSchema kind) := by
  unfold ensureUnderSchema
  exact mirrors_read (fun _ _ _ => rfl) fun s => mirrors_ite (mirrors_throw _) (mirrors_pure _)

/-- What becomes of a document that is named, once its URI is registered. -/
def fileDocument (kind : DocumentKind) (location : String) (nested : DocumentEntry × Registry)
    (inclusion : Inclusion) : Action Unit :=
  match inclusion with
  | .new => do
    Action.note (.queuedDocument location (nested.2.uri nested.1.target) kind)
    modify fun s => { s with worklist := s.worklist.push nested.1 }
  | .diamond => Action.note (.knownDocument location)
  | .recursive => throw (.recursiveInclusion location)

theorem mirrors_fileDocument (kind : DocumentKind) (location : String)
    {nested : DocumentEntry × Registry}
    (fresh : ∀ σ : Renaming, nested.1.bindings = σ.bindings nested.1.bindings)
    (inclusion : Inclusion) : Mirrors ρ (fileDocument kind location nested inclusion)
      (fileDocument kind location nested inclusion) := by
  cases inclusion with
  | new =>
    refine (mirrors_note _).bind fun _ => mirrors_modify fun s w t renamed => ?_
    exact ⟨w.push nested.1, t, renamed.push fresh, rfl⟩
  | diamond => exact mirrors_note _
  | recursive => exact mirrors_throw _

theorem mirrors_nameDocument (kind : DocumentKind) (location uri : String) :
    Mirrors ρ (nameDocument kind location uri) (nameDocument kind location uri) := by
  let nested (s : Session) := DocumentEntry.nested kind s.worklist.current location uri s.registry
  have names : nameDocument kind location uri = get >>= fun s =>
      set { s with registry := (nested s).2 } >>= fun _ => fileDocument kind location (nested s)
        (s.worklist.classify (nested s).1.location (nested s).1.target) := by
    rfl
  rw [names]
  refine mirrors_update (fun _ => rfl) (fun _ _ _ => rfl) fun s w t renamed => ?_
  have same : nested (s.disguised w t) = nested s :=
    congrArg (DocumentEntry.nested kind · location uri s.registry) renamed.agrees.current
  rw [same, show (s.disguised w t).worklist = w from rfl, renamed.agrees.classify]
  exact mirrors_fileDocument kind location (fun σ => (σ.bindings_default _).symm) _

theorem mirrors_startInclude (same : tag.Renamed ρ tag') :
    Mirrors ρ (startInclude tag) (startInclude tag') := by
  unfold startInclude
  rw [same.plain (l := "schemaLocation") (by decide)]
  refine (mirrors_ensureUnderSchema _).bind fun _ => mirrors_check ?_
  refine mirrors_get fun s w t renamed => ?_
  rw [target_disguised renamed]
  exact mirrors_nameDocument _ _ _

theorem mirrors_startImport (same : tag.Renamed ρ tag') :
    Mirrors ρ (startImport tag) (startImport tag') := by
  unfold startImport
  rw [same.plain (l := "schemaLocation") (by decide), same.plain (l := "namespace") (by decide)]
  refine (mirrors_ensureUnderSchema _).bind fun _ => mirrors_get fun s w t renamed => ?_
  rw [target_disguised renamed]
  refine mirrors_check (mirrors_check ?_)
  exact mirrors_ite (mirrors_note _) (mirrors_nameDocument _ _ _)

/-! ## Start and end tags -/

theorem mirrors_reject (kind : Tag) : Mirrors ρ (reject kind) (reject kind) :=
  mirrors_skipContent.bind fun _ => mirrors_throw _

theorem mirrors_startAction (same : tag.Renamed ρ tag') (kind : Tag) :
    Mirrors ρ (startAction kind tag) (startAction kind tag') := by
  unfold startAction
  split
  · exact mirrors_reject kind
  · exact mirrors_note _
  · exact (mirrors_note _).bind fun _ => mirrors_skipContent
  · exact mirrors_startElement same true
  · exact mirrors_startElement same false
  · exact mirrors_startGroup same kind
  · exact mirrors_startType same kind
  · exact mirrors_startEnumerator same
  · exact mirrors_read (fun _ _ _ => rfl) fun s =>
      mirrors_ite (mirrors_startDerivation same false) (mirrors_reject kind)
  · exact mirrors_skipContent.bind fun _ => mirrors_throw _
  · exact mirrors_startImport same
  · exact mirrors_startInclude same
  · exact mirrors_startDerivation same true
  · exact mirrors_startDerivation same false
  · exact mirrors_startSchema same

theorem mirrors_endAction (kind : Tag) : Mirrors ρ (endAction kind) (endAction kind) := by
  unfold endAction
  split
  · exact mirrors_endElement
  · exact mirrors_endElement
  · exact mirrors_endType
  · exact mirrors_endGroup
  · exact mirrors_pure _
  · exact mirrors_pure _

end Session

end XsdRecords
