import XsdRecords.Proofs.Session.Steady

/-! # Reading in variants of a session

What a tag does is what its actions do, so that it either goes on or ends with a failure:
`Responds`. A session that goes on goes on in the same way with more allowed and at any other
place; one that fails does so with the same problem at any other place. -/

namespace XsdRecords.Session

open XsdRecords.Markup (Lexeme Node Reader ReaderFault Scope StartTag)
open XsdRecords.Vocabulary (Tag)

variable {s s' m : Session}

@[simp] theorem variant_variant (s : Session) (allowed allowed' : Bool) (p q : Position) :
    (s.variant allowed p).variant allowed' q = s.variant allowed' q := rfl

@[simp] theorem variant_self (s : Session) : s.variant s.allowUnsupported s.position = s := rfl

@[simp] theorem hasFailed_variant (s : Session) (allowed : Bool) (position : Position) :
    (s.variant allowed position).hasFailed = s.hasFailed := rfl

/-- What is left alone does not tell a variant from the session. -/
theorem Quiet.variant_self (quiet : Quiet s s') :
    s'.variant s.allowUnsupported s.position = s' := by
  rw [← quiet.allowUnsupported, ← quiet.position]
  rfl

/-! ## Going on and failing -/

/-- A step goes on from a session, and alike from its variants that allow as much. -/
def GoesOn (f : Session → Session) (s : Session) : Prop :=
  Quiet s (f s) ∧ ∀ allowed position, (s.allowUnsupported = true → allowed = true) →
    f (s.variant allowed position) = (f s).variant allowed position

/-- A step fails with a problem, and with the same one at all places. -/
def Breaks (f : Session → Session) (s : Session) : Prop :=
  ∃ problem m, problem.severity.isFailure = true ∧ Quiet s m ∧
    ∀ position, f (s.variant s.allowUnsupported position) =
      (m.variant s.allowUnsupported position).report problem

/-- A step goes on or fails. -/
def Responds (f : Session → Session) (s : Session) : Prop :=
  GoesOn f s ∨ Breaks f s

variable {f g : Session → Session}

theorem Breaks.report (breaks : Breaks f s) :
    ∃ problem m, problem.severity.isFailure = true ∧ Quiet s m ∧ f s = m.report problem := by
  obtain ⟨problem, m, isFailure, quiet, fails⟩ := breaks
  have here := fails s.position
  rw [quiet.variant_self] at here
  exact ⟨problem, m, isFailure, quiet, here⟩

theorem Breaks.hasFailed (breaks : Breaks f s) : (f s).hasFailed = true := by
  obtain ⟨problem, m, isFailure, -, fails⟩ := breaks.report
  rw [fails]
  exact Journal.hasFailed_report_of_isFailure _ isFailure

/-- A step that has not failed goes on. -/
theorem Responds.goesOn (responds : Responds f s) (ok : (f s).hasFailed = false) :
    GoesOn f s := by
  refine responds.resolve_right fun breaks => ?_
  rw [breaks.hasFailed] at ok
  cases ok

/-- Steps that do the same in the variants that matter respond alike. -/
theorem Responds.congr (same : ∀ allowed position, (s.allowUnsupported = true → allowed = true) →
    f (s.variant allowed position) = g (s.variant allowed position))
    (responds : Responds g s) : Responds f s := by
  have here : f s = g s := same s.allowUnsupported s.position id
  obtain ⟨quiet, alike⟩ | ⟨problem, m, isFailure, quiet, fails⟩ := responds
  · rw [← here] at quiet
    refine .inl ⟨quiet, fun allowed position allows => ?_⟩
    rw [same allowed position allows, here, alike allowed position allows]
  · refine .inr ⟨problem, m, isFailure, quiet, fun position => ?_⟩
    rw [same _ position id, fails position]

theorem responds_report {problem : Problem} (isFailure : problem.severity.isFailure = true)
    (fails : ∀ position, f (s.variant s.allowUnsupported position) =
      (s.variant s.allowUnsupported position).report problem) : Responds f s :=
  .inr ⟨problem, s, isFailure, .refl s, fails⟩

/-- An action that is performed. -/
theorem responds_perform {action : Action Unit} (steady : action.Steady) (s : Session) :
    Responds (·.perform action) s := by
  have ends := steady s
  unfold Action.Ends at ends
  split at ends
  · rename_i answer s' done
    obtain ⟨quiet, follows⟩ := ends
    have performed : s.perform action = s' := by rw [perform, done]
    rw [← performed] at quiet
    refine .inl ⟨quiet, fun allowed position allows => ?_⟩
    dsimp only
    rw [performed, perform, follows allowed position allows]
  · rename_i problem m done
    obtain ⟨isFailure, quiet, follows⟩ := ends
    refine .inr ⟨problem, m, isFailure, quiet, fun position => ?_⟩
    dsimp only
    rw [perform, follows position]

/-- A step after a change that goes on. -/
theorem Responds.after {c : Session → Session} (goesOn : GoesOn c s)
    (responds : Responds f (c s)) : Responds (fun s => f (c s)) s := by
  obtain ⟨quiet, alike⟩ := goesOn
  obtain ⟨quiet', alike'⟩ | ⟨problem, m, isFailure, quiet', fails⟩ := responds
  · refine .inl ⟨quiet.trans quiet', fun allowed position allows => ?_⟩
    dsimp only
    rw [alike allowed position allows, alike' allowed position (quiet.allowUnsupported ▸ allows)]
  · refine .inr ⟨problem, m, isFailure, quiet.trans quiet', fun position => ?_⟩
    dsimp only
    rw [alike _ position id]
    rw [quiet.allowUnsupported] at fails
    exact fails position

/-- A step before another that is only taken if there was no failure. -/
theorem Responds.unlessFailed (first : Responds f s) (later : ∀ s, Responds g s) :
    Responds (fun s => if (f s).hasFailed then f s else g (f s)) s := by
  obtain goesOn | ⟨problem, m, isFailure, quiet, fails⟩ := first
  · -- Going on, the first step has failed in all variants or in none.
    by_cases failed : (f s).hasFailed = true
    · refine Responds.congr (fun allowed position allows => if_pos ?_) (.inl goesOn)
      rw [goesOn.2 allowed position allows]
      exact failed
    · refine Responds.congr (fun allowed position allows => if_neg ?_)
        (Responds.after goesOn (later (f s)))
      rw [goesOn.2 allowed position allows]
      exact failed
  · refine .inr ⟨problem, m, isFailure, quiet, fun position => ?_⟩
    dsimp only
    rw [fails position]
    exact if_pos (Journal.hasFailed_report_of_isFailure _ isFailure)

/-- A step after which the innermost tag is open no more. -/
theorem Responds.popTag (responds : Responds f s) :
    Responds (fun s => { f s with tagStack := (f s).tagStack.tail }) s := by
  obtain ⟨quiet, alike⟩ | ⟨problem, m, isFailure, quiet, fails⟩ := responds
  · refine .inl ⟨quiet.trans (.ofWorklist rfl rfl rfl rfl rfl), fun allowed position allows => ?_⟩
    dsimp only
    rw [alike allowed position allows]
    rfl
  · refine .inr ⟨problem, { m with tagStack := m.tagStack.tail }, isFailure,
      quiet.trans (.ofWorklist rfl rfl rfl rfl rfl), fun position => ?_⟩
    dsimp only
    rw [fails position]
    rfl

/-- A step leaves the place. -/
theorem Responds.position (responds : Responds f s) : (f s).position = s.position := by
  obtain ⟨quiet, -⟩ | breaks := responds
  · exact quiet.position
  · obtain ⟨problem, m, -, quiet, fails⟩ := breaks.report
    rw [fails]
    exact quiet.position

/-! ## Tags -/

theorem isFailure_of_findTag {tag : StartTag} {problem : Problem}
    (h : findTag s tag = .error problem) : problem.severity.isFailure = true := by
  unfold findTag at h
  dsimp only at h
  split at h
  · cases h
    rfl
  · split at h
    · split at h
      · cases h
      · cases h
        rfl
    · cases h

theorem isFailure_of_checkContent {name : String} {kind : Tag} {problem : Problem}
    (h : checkContent s name kind = .error problem) : problem.severity.isFailure = true := by
  unfold checkContent at h
  split at h
  · cases h
  · split at h
    · cases h
      rfl
    · cases h
      rfl

/-- The option is only looked at to tell what would have been allowed. -/
theorem checkContent_variant {name : String} {kind : Tag} (allowed : Bool) (position : Position)
    (h : checkContent s name kind = .ok ()) :
    checkContent (s.variant allowed position) name kind = .ok () := by
  unfold checkContent at h ⊢
  split at h
  · rename_i allows
    exact if_pos allows
  · split at h <;> cases h

/-- Noting attributes adds events and nothing else. -/
theorem exists_noteAttributes (kind : Tag) (tag : StartTag) (s : Session) :
    ∃ events, noteAttributes s kind tag = { s with journal := { s.journal with events := events } } := by
  unfold noteAttributes
  generalize tag.attributes = attributes
  induction attributes generalizing s with
  | nil => exact ⟨s.journal.events, rfl⟩
  | cons a rest ih => exact ih (s.note (.attributeSeen kind.name a.qualifiedName a.value))

theorem goesOn_noteAttributes (kind : Tag) (tag : StartTag) (s : Session) :
    GoesOn (noteAttributes · kind tag) s := by
  unfold noteAttributes
  generalize tag.attributes = attributes
  induction attributes generalizing s with
  | nil => exact ⟨.refl s, fun _ _ _ => rfl⟩
  | cons a rest ih =>
    obtain ⟨quiet, alike⟩ := ih (s.note (.attributeSeen kind.name a.qualifiedName a.value))
    have noted : Quiet s (s.note (.attributeSeen kind.name a.qualifiedName a.value)) :=
      .ofWorklist rfl rfl rfl rfl rfl
    exact ⟨noted.trans quiet, alike⟩

/-- What a start tag does at the place of the session. -/
def startTag (tag : StartTag) (s : Session) : Session :=
  readStart s tag s.position

/-- What an end tag does at the place of the session. -/
def stopTag (s : Session) : Session :=
  readStop s s.position

/-- What a node does at the place of the session. -/
def nodeHere (node : Node) (s : Session) : Session :=
  readNode s node s.position

theorem readNode_eq (s : Session) (node : Node) (position : Position) :
    readNode s node position = nodeHere node (s.variant s.allowUnsupported position) := by
  cases node <;> rfl

/-- What a start tag does that stands where it may. -/
def enterTag (kind : Tag) (tag : StartTag) (s : Session) : Session :=
  let s := { s with tagStack := kind :: s.tagStack }
  if 0 < s.skipDepth then { s with skipDepth := s.skipDepth + 1 }
  else (noteAttributes s kind tag).perform (startAction kind tag)

theorem responds_enterTag (kind : Tag) (tag : StartTag) (s : Session) :
    Responds (enterTag kind tag) s := by
  by_cases skipping : 0 < s.skipDepth
  · refine Responds.congr (g := fun s =>
      { s with tagStack := kind :: s.tagStack, skipDepth := s.skipDepth + 1 })
      (fun _ _ _ => if_pos skipping) (.inl ⟨?_, fun _ _ _ => rfl⟩)
    exact .ofWorklist rfl rfl rfl rfl rfl
  · refine Responds.congr (g := fun s =>
      (noteAttributes { s with tagStack := kind :: s.tagStack } kind tag).perform
        (startAction kind tag)) (fun _ _ _ => if_neg skipping) ?_
    refine Responds.after (c := fun s => { s with tagStack := kind :: s.tagStack })
      (f := fun s => (noteAttributes s kind tag).perform (startAction kind tag))
      ⟨.ofWorklist rfl rfl rfl rfl rfl, fun _ _ _ => rfl⟩ ?_
    exact Responds.after (goesOn_noteAttributes kind tag _)
      (responds_perform (steady_startAction kind tag) _)

theorem startTag_of_unknown {tag : StartTag} {problem : Problem}
    (found : findTag s tag = .error problem) : startTag tag s = s.report problem := by
  simp only [startTag, readStart, found]

theorem startTag_of_refused {tag : StartTag} {kind : Tag} {problem : Problem}
    (found : findTag s tag = .ok kind)
    (checked : checkContent s tag.name.localName kind = .error problem) :
    startTag tag s = s.report problem := by
  simp only [startTag, readStart, found, checked]

theorem startTag_of_allowed {tag : StartTag} {kind : Tag} (found : findTag s tag = .ok kind)
    (checked : checkContent s tag.name.localName kind = .ok ()) :
    startTag tag s = enterTag kind tag s := by
  simp only [startTag, readStart, found, checked]
  rfl

theorem responds_startTag (tag : StartTag) (s : Session) : Responds (startTag tag) s := by
  cases found : findTag s tag with
  | error problem =>
    exact responds_report (isFailure_of_findTag found) fun _ => startTag_of_unknown found
  | ok kind =>
    cases checked : checkContent s tag.name.localName kind with
    | error problem =>
      exact responds_report (isFailure_of_checkContent checked) fun _ =>
        startTag_of_refused found checked
    | ok =>
      refine Responds.congr (fun allowed position _ => ?_) (responds_enterTag kind tag s)
      exact startTag_of_allowed found (checkContent_variant allowed position checked)

/-- What an end tag does where a tag is open. -/
def leaveTag (kind : Tag) (s : Session) : Session :=
  if 0 < s.skipDepth then { s with skipDepth := s.skipDepth - 1 }
  else s.perform (endAction kind)

theorem responds_leaveTag (kind : Tag) (s : Session) : Responds (leaveTag kind) s := by
  by_cases skipping : 0 < s.skipDepth
  · refine Responds.congr (g := fun s => { s with skipDepth := s.skipDepth - 1 })
      (fun _ _ _ => if_pos skipping) (.inl ⟨?_, fun _ _ _ => rfl⟩)
    exact .ofWorklist rfl rfl rfl rfl rfl
  · exact Responds.congr (g := (·.perform (endAction kind))) (fun _ _ _ => if_neg skipping)
      (responds_perform (steady_endAction kind) s)

theorem stopTag_of_nil (tags : s.tagStack = []) : stopTag s = s := by
  unfold stopTag readStop
  dsimp only
  split
  · rfl
  · rename_i open_
    rw [tags] at open_
    cases open_

theorem stopTag_of_cons {kind : Tag} {rest : List Tag} (tags : s.tagStack = kind :: rest) :
    stopTag s = { leaveTag kind s with tagStack := (leaveTag kind s).tagStack.tail } := by
  unfold stopTag readStop
  dsimp only
  split
  · rename_i none
    rw [tags] at none
    cases none
  · rename_i open_
    obtain ⟨rfl, -⟩ := List.cons.inj (tags.symm.trans open_)
    rfl

theorem responds_stopTag (s : Session) : Responds stopTag s := by
  cases tags : s.tagStack with
  | nil =>
    exact Responds.congr (g := id) (fun _ _ _ => stopTag_of_nil tags)
      (.inl ⟨.refl s, fun _ _ _ => rfl⟩)
  | cons kind rest =>
    refine Responds.congr (fun allowed position _ => ?_) (responds_leaveTag kind s).popTag
    exact stopTag_of_cons (s := s.variant allowed position) tags

theorem nodeHere_start (tag : StartTag) (s : Session) : nodeHere (.start tag) s =
    if tag.isEmpty then
      if (startTag tag s).hasFailed then startTag tag s else stopTag (startTag tag s)
    else startTag tag s := by
  have here : (startTag tag s).position = s.position := (responds_startTag tag s).position
  have read : readStart s tag s.position = startTag tag s := rfl
  simp only [nodeHere, readNode, read, stopTag, here]
  cases tag.isEmpty <;> cases (startTag tag s).hasFailed <;> rfl

theorem responds_nodeHere (node : Node) (s : Session) : Responds (nodeHere node) s := by
  cases node with
  | stop name => exact responds_stopTag s
  | start tag =>
    cases isEmpty : tag.isEmpty with
    | false =>
      refine Responds.congr (fun _ _ _ => ?_) (responds_startTag tag s)
      rw [nodeHere_start, isEmpty]
      rfl
    | true =>
      refine Responds.congr (fun _ _ _ => ?_)
        ((responds_startTag tag s).unlessFailed responds_stopTag)
      rw [nodeHere_start, if_pos isEmpty]

/-! ## Lexemes -/

/-- Reading ends with a fault. -/
theorem readLexemes_of_fault (ok : s.hasFailed = false) {r r' : Reader} {scope : Scope}
    {lexeme : Lexeme} {fault : ReaderFault}
    (delivered : r.deliver s.scope lexeme = (r', scope, .error fault)) (rest : List Lexeme) :
    readLexemes s r (lexeme :: rest) =
      ((s.withScope scope).variant s.allowUnsupported r'.position).report
        (.markup fault.message) := by
  rw [readLexemes, if_neg (by rw [ok]; exact Bool.false_ne_true)]
  simp only [delivered]
  rfl

/-- Reading ends with the document. -/
theorem readLexemes_of_finish (ok : s.hasFailed = false) {r r' : Reader} {scope : Scope}
    {lexeme : Lexeme} (delivered : r.deliver s.scope lexeme = (r', scope, .ok none))
    (rest : List Lexeme) : readLexemes s r (lexeme :: rest) = s.withScope scope := by
  rw [readLexemes, if_neg (by rw [ok]; exact Bool.false_ne_true)]
  simp only [delivered]

end XsdRecords.Session
