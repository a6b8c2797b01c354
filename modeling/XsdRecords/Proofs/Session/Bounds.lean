import XsdRecords.Proofs.Session.DefaultValues

/-! # Where the occurrences of elements come from

An element may occur once at first.  The tag that declares it sets the least number of occurrences
and may raise the largest; it never lowers the largest.  A sequence or choice that lays out the type
of an element, or is a field of its own, widens both.  What is checked later is what all these tags
made of the occurrences together. -/

namespace XsdRecords

open XsdRecords.Declaration (Declarations Element ElementId Occurs)
open XsdRecords.Markup (StartTag)

namespace Session

/-! ## The numbers that tags give -/

/-- The least number of occurrences that an element or attribute tag gives: none for one with a
value, and that of its use for an attribute. -/
def leastGiven? (tag : StartTag) (isAttribute : Bool) : Option Int :=
  if (givenValue? tag).isSome then some 0
  else if isAttribute then (readUse (tag.plain? "use")).toOption
  else (minOccurs? tag).toOption.join

/-- The largest number of occurrences that a tag gives. -/
def largestGiven? (tag : StartTag) : Option Int :=
  (maxOccurs? tag).toOption.join

theorem getD_leastGiven? {tag : StartTag} (noValue : givenValue? tag = none) :
    (leastGiven? tag false).getD 1 = tag.least := by
  rw [leastGiven?, noValue, StartTag.least]
  cases minOccurs? tag with
  | error problem => rfl
  | ok n => cases n <;> rfl

theorem getD_largestGiven? (tag : StartTag) : (largestGiven? tag).getD 1 = tag.largest := by
  rw [largestGiven?, StartTag.largest]
  cases maxOccurs? tag with
  | error problem => rfl
  | ok n => cases n <;> rfl

end Session

namespace Declaration.Occurs

open XsdRecords.Session (leastGiven? largestGiven?)

/-- What an element or attribute tag makes of the occurrences of its element. -/
def declared (o : Occurs) (tag : StartTag) (isAttribute : Bool) : Occurs where
  least := (leastGiven? tag isAttribute).getD o.least
  largest := max o.largest ((largestGiven? tag).getD o.largest)

/-- What a group makes of the occurrences of the element that it lays out. -/
def widened (o : Occurs) (tag : StartTag) : Occurs where
  least := min o.least tag.least
  largest := max o.largest tag.largest

end Declaration.Occurs

namespace Session

theorem ElementForm.occurs_of_read {tag : StartTag} {isAttribute : Bool} {form : ElementForm}
    (reads : ElementForm.read tag isAttribute = .ok form) :
    form.minOccurs = (if isAttribute then (readUse (tag.plain? "use")).toOption
        else (minOccurs? tag).toOption.join) ∧
      form.maxOccurs = largestGiven? tag := by
  simp only [ElementForm.read, exceptBind_eq_ok_iff] at reads
  obtain ⟨least, readsLeast, largest, readsLargest, reads⟩ := reads
  rw [largestGiven?, readsLeast, readsLargest]
  split at reads
  · cases reads
  · simp only [exceptBind_eq_ok_iff] at reads
    obtain ⟨_, -, reads⟩ := reads
    split at reads
    · rename_i isAttribute
      simp only [exceptBind_eq_ok_iff] at reads
      obtain ⟨used, readsUse, reads⟩ := reads
      obtain rfl := Except.ok.inj reads
      rw [readsUse, if_pos isAttribute]
      exact ⟨rfl, rfl⟩
    · rename_i isElement
      obtain rfl := Except.ok.inj reads
      rw [if_neg isElement]
      exact ⟨rfl, rfl⟩

theorem ElementForm.occurs_apply {tag : StartTag} {isAttribute : Bool} {form : ElementForm}
    (reads : ElementForm.read tag isAttribute = .ok form) (e : Element) :
    (form.apply e).occurs = e.occurs.declared tag isAttribute := by
  obtain ⟨least, largest⟩ := ElementForm.occurs_of_read reads
  have value := ElementForm.value_of_read reads
  have applied : (form.apply e).occurs =
      ⟨if form.value.isSome then 0 else form.minOccurs.getD e.minOccurs,
        max e.maxOccurs (form.maxOccurs.getD e.maxOccurs)⟩ := rfl
  rw [applied, Occurs.declared, leastGiven?, ← value, ← least, ← largest]
  cases form.value <;> rfl

variable {s s' : Session}

/-! ## Nodes -/

/-- Whether a node is a group whose occurrences are those of an element, too. -/
def Visit.lays (v : Visit) (id : ElementId) : Bool :=
  match v.node with
  | .start tag =>
    (tag.kind = .choice || tag.kind = .sequence) && v.session.skipDepth = 0 &&
      (readStart v.session tag v.position).elementStack.head? = some id
  | .stop _ => false

/-- What a node makes of the occurrences of an element. -/
def Visit.occurs (v : Visit) (id : ElementId) (o : Occurs) : Occurs :=
  match v.node with
  | .start tag =>
    if v.declares id then o.declared tag (tag.kind = .attributeTag)
    else if v.lays id then o.widened tag
    else o
  | .stop _ => o

/-- A node that neither declares nor lays out an element leaves its occurrences alone. -/
theorem Visit.occurs_eq {v : Visit} {id : ElementId} (declares : v.declares id = false)
    (lays : v.lays id = false) (o : Occurs) : v.occurs id o = o := by
  unfold Visit.occurs
  cases v.node with
  | start tag => simp only [declares, lays, Bool.false_eq_true, if_false]
  | stop name => rfl

theorem lays_eq_false {tag : StartTag} {position : Position} (noChoice : tag.kind ≠ .choice)
    (noSequence : tag.kind ≠ .sequence) (id : ElementId) :
    (Visit.mk s (.start tag) position).lays id = false := by
  simp [Visit.lays, noChoice, noSequence]

theorem lays_eq {tag : StartTag} {position : Position}
    (isGroup : tag.kind = .choice ∨ tag.kind = .sequence) (reading : s.skipDepth = 0)
    (id : ElementId) :
    (Visit.mk s (.start tag) position).lays id =
      decide ((readStart s tag position).elementStack.head? = some id) := by
  obtain h | h := isGroup <;> simp [Visit.lays, h, reading]

/-- Only the tags of elements and groups say how often an element may occur. -/
theorem Visit.occurs_of_silent {tag : StartTag} {position : Position}
    (silent : tag.kind ∉ [.element, .attributeTag, .choice, .sequence]) (id : ElementId)
    (o : Occurs) : (Visit.mk s (.start tag) position).occurs id o = o := by
  simp only [List.mem_cons, List.not_mem_nil, or_false, not_or] at silent
  obtain ⟨noElement, noAttribute, noChoice, noSequence⟩ := silent
  exact Visit.occurs_eq (declares_eq_false noElement noAttribute id)
    (lays_eq_false noChoice noSequence id) o

theorem occurs_occurAs (least largest : Int) (e : Element) :
    (occurAs least largest e).occurs = ⟨min e.minOccurs least, max e.maxOccurs largest⟩ :=
  rfl

/-- A start tag outside skipped content makes of the occurrences of an element what it says. -/
theorem Lawful.occurs_readStart (lawful : Lawful s) {tag : StartTag} {position : Position}
    (reading : s.skipDepth = 0) (ok : (readStart s tag position).hasFailed = false)
    (id : ElementId) :
    ((readStart s tag position).declarations.element id).occurs =
      (Visit.mk s (.start tag) position).occurs id (s.declarations.element id).occurs := by
  have gives := lawful.gives_readStart reading ok
  cases gives with
  | element isElement own d form head before bound reads after =>
    have lays : (Visit.mk s (.start tag) position).lays id = false :=
      lays_eq_false (by obtain h | h := isElement <;> simp [h])
        (by obtain h | h := isElement <;> simp [h]) id
    rw [Visit.occurs, lays, declares_eq isElement reading head, after.occurs, ← before.occurs]
    by_cases same : own = id
    · subst same
      rw [Declarations.element_modifyElement bound, ElementForm.occurs_apply reads]
      simp
    · rw [Declarations.element_modifyElement_of_ne same]
      simp [same]
  | type isType own d head before bound after =>
    rw [Visit.occurs_of_silent (by obtain h | h := isType <;> simp [h]), after.occurs]
    exact before.occurs id
  | group isGroup d before widens =>
    have declares : (Visit.mk s (.start tag) position).declares id = false :=
      declares_eq_false (by obtain h | h := isGroup <;> simp [h])
        (by obtain h | h := isGroup <;> simp [h]) id
    rw [Visit.occurs, declares, lays_eq isGroup reading, ← before.occurs]
    split at widens
    · rename_i own head
      rw [widens.2, head]
      by_cases same : own = id
      · subst same
        rw [Declarations.element_modifyElement widens.1, occurs_occurAs]
        simp [Element.occurs, Occurs.widened]
      · rw [Declarations.element_modifyElement_of_ne same]
        simp [same]
    · rename_i none
      rw [widens, none]
      simp
  | enumerator isEnumeration elements types =>
    rw [Visit.occurs_of_silent (by simp [isEnumeration]), elements]
  | nothing other kept =>
    have silent : [.element, .attributeTag, .choice, .sequence] ⊆ givingTags := by decide
    rw [Visit.occurs_of_silent (mt (@silent _) other)]
    exact kept.occurs id

/-- A node makes of the occurrences of an element what it says. -/
theorem Visit.occurs_after {v : Visit} (lawful : Lawful v.session) (ok : v.after.hasFailed = false)
    (id : ElementId) :
    (v.after.declarations.element id).occurs =
      v.occurs id (v.session.declarations.element id).occurs := by
  have makes := v.makes ok
  generalize v.after.declarations = d at makes ⊢
  cases makes with
  | stop s name position => rfl
  | skipped s tag position skipping =>
    rw [Visit.occurs_eq (by simp [Visit.declares, skipping]) (by simp [Visit.lays, skipping])]
  | start s tag position reading started => exact lawful.occurs_readStart reading started id

/-! ## Runs -/

/-- How often an element may occur by what some nodes say. -/
def occursOf (visits : List Visit) (id : ElementId) : Occurs :=
  visits.foldl (fun o v => v.occurs id o) ⟨1, 1⟩

/-- A session in which every element occurs as the nodes say. -/
def HasOccurs (s : Session) (visits : List Visit) : Prop :=
  ∀ id, (s.declarations.element id).occurs = occursOf visits id

theorem HasOccurs.untouched {visits : List Visit} (has : HasOccurs s visits)
    (same : s'.declarations = s.declarations) : HasOccurs s' visits := fun id => by
  rw [same]
  exact has id

theorem HasOccurs.after {visits : List Visit} {v : Visit} (has : HasOccurs v.session visits)
    (lawful : Lawful v.session) (ok : v.after.hasFailed = false) :
    HasOccurs v.after (visits ++ [v]) := fun id => by
  rw [v.occurs_after lawful ok, has id, occursOf, occursOf, List.foldl_append]
  rfl

theorem carried_hasOccurs : Carried HasOccurs :=
  ⟨.untouched, .after⟩

/-! ## Elements that are declared once -/

/-- The least number of occurrences that a node gives, one unless it gives another. -/
def Visit.least (v : Visit) : Int :=
  match v.node with
  | .start tag => tag.least
  | .stop _ => 1

/-- The largest number of occurrences that a node gives, one unless it gives another. -/
def Visit.largest (v : Visit) : Int :=
  match v.node with
  | .start tag => tag.largest
  | .stop _ => 1

/-- Whether a node declares an element, or lays it out. -/
def Visit.bears (v : Visit) (id : ElementId) : Bool :=
  v.declares id || v.lays id

/-- Whether a node is an element tag, and not that of an attribute. -/
def Visit.isElement (v : Visit) : Bool :=
  match v.node with
  | .start tag => tag.kind = .element
  | .stop _ => false

theorem foldl_occurs_filter (visits : List Visit) (id : ElementId) (o : Occurs) :
    visits.foldl (fun o v => v.occurs id o) o =
      (visits.filter (·.bears id)).foldl (fun o v => v.occurs id o) o := by
  induction visits generalizing o with
  | nil => rfl
  | cons v rest ih =>
    rw [List.foldl_cons, ih, List.filter_cons]
    split
    · rfl
    · rename_i silent
      rw [Visit.bears, Bool.or_eq_true, not_or, Bool.not_eq_true, Bool.not_eq_true] at silent
      rw [Visit.occurs_eq silent.1 silent.2]

/-- Groups widen the occurrences of what they lay out. -/
theorem foldl_occurs_groups {groups : List Visit} {id : ElementId}
    (lays : ∀ g ∈ groups, g.lays id = true) (declares : ∀ g ∈ groups, g.declares id = false)
    (o : Occurs) :
    groups.foldl (fun o v => v.occurs id o) o =
      ⟨(groups.map Visit.least).foldl min o.least,
        (groups.map Visit.largest).foldl max o.largest⟩ := by
  induction groups generalizing o with
  | nil => rfl
  | cons g rest ih =>
    have widens : g.occurs id o = ⟨min o.least g.least, max o.largest g.largest⟩ := by
      have first := lays g List.mem_cons_self
      unfold Visit.occurs Visit.least Visit.largest
      cases node : g.node with
      | start tag =>
        simp only [declares g List.mem_cons_self, first, Bool.false_eq_true, if_false, if_true]
        rfl
      | stop name => simp [Visit.lays, node] at first
    rw [List.foldl_cons, ih (fun g member => lays g (List.mem_cons_of_mem _ member))
      (fun g member => declares g (List.mem_cons_of_mem _ member)), widens]
    rfl

/-- An element without a value that one tag declares occurs as this tag and the groups say that lay
it out, but the largest number is one at the least. -/
theorem occursOf_of_declared {visits groups : List Visit} {v : Visit} {id : ElementId}
    (bearing : visits.filter (·.bears id) = v :: groups) (declares : v.declares id = true)
    (isElement : v.isElement = true) (noValue : v.value? = none)
    (once : ∀ g ∈ groups, g.declares id = false) :
    occursOf visits id =
      ⟨(groups.map Visit.least).foldl min v.least,
        (groups.map Visit.largest).foldl max (max 1 v.largest)⟩ := by
  have lays (g : Visit) (member : g ∈ groups) : g.lays id = true := by
    have bears := (List.mem_filter.1 (bearing ▸ List.mem_cons_of_mem v member :
      g ∈ visits.filter (·.bears id))).2
    rwa [Visit.bears, once g member, Bool.false_or] at bears
  have first : v.occurs id ⟨1, 1⟩ = ⟨v.least, max 1 v.largest⟩ := by
    unfold Visit.isElement at isElement
    unfold Visit.value? at noValue
    unfold Visit.occurs Visit.least Visit.largest
    cases node : v.node with
    | start tag =>
      simp only [node, decide_eq_true_eq] at isElement noValue
      simp only [declares, if_true, isElement]
      rw [decide_eq_false (by decide), Occurs.declared, getD_leastGiven? noValue,
        getD_largestGiven?]
    | stop name => simp [node] at isElement
  rw [occursOf, foldl_occurs_filter, bearing, List.foldl_cons, foldl_occurs_groups lays once, first]

end Session

end XsdRecords
