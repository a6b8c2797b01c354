import XsdRecords.Proofs.Session.Visits

/-! # Skipped content

Reading the content of a tag that is skipped does nothing but move the reader on and keep up with
the prefixes in scope, provided that every tag in it stands in one that allows it.  Otherwise reading
fails. -/

namespace XsdRecords

open XsdRecords.Markup (Lexed Lexeme Node Reader Scope StartTag TagName)
open XsdRecords.Vocabulary (Tag)

/-! ## Scopes -/

namespace Worklist

theorem modifyCurrent_modifyCurrent (w : Worklist) (f g : DocumentEntry → DocumentEntry) :
    (w.modifyCurrent f).modifyCurrent g = w.modifyCurrent (g ∘ f) := by
  simp only [modifyCurrent, Worklist.mk.injEq, and_true]
  refine Array.ext (by simp) fun i h h' => ?_
  simp only [Array.getElem_modify]
  split <;> rfl

theorem modifyCurrent_eq_self {w : Worklist} {f : DocumentEntry → DocumentEntry}
    (same : f w.currentEntry = w.currentEntry) : w.modifyCurrent f = w := by
  obtain ⟨documents, current⟩ := w
  simp only [modifyCurrent, Worklist.mk.injEq, and_true]
  refine Array.ext (by simp) fun i h h' => ?_
  rw [Array.getElem_modify]
  split
  · rename_i here
    subst here
    simpa [currentEntry, entry, Array.getD_eq_getD_getElem?, h'] using same
  · rfl

end Worklist

namespace Session

theorem withScope_withScope (s : Session) (first second : Scope) :
    (s.withScope first).withScope second = s.withScope second := by
  simp only [withScope, Worklist.modifyCurrent_modifyCurrent]
  rfl

theorem withScope_scope (s : Session) : s.withScope s.scope = s := by
  have same : s.worklist.modifyCurrent (fun e => { e with bindings := s.scope.bindings }) =
      s.worklist := Worklist.modifyCurrent_eq_self rfl
  simp only [withScope, same]
  rfl

theorem scope_withScope {s : Session} (h : s.worklist.current < s.worklist.documents.size)
    (scope : Scope) : (s.withScope scope).scope = scope := by
  simp only [Session.scope, withScope, Worklist.currentEntry_modifyCurrent h]

/-- A session in which the reader has moved on. -/
def moved (s : Session) (scope : Scope) (position : Position) : Session :=
  { s.withScope scope with position }

/-- A session in which the reader has moved on to a tag inside skipped content. -/
def deeper (s : Session) (scope : Scope) (position : Position) (kind : Tag) : Session :=
  { s.moved scope position with tagStack := kind :: s.tagStack, skipDepth := s.skipDepth + 1 }

theorem moved_self (s : Session) : s.moved s.scope s.position = s := by
  rw [moved, withScope_scope]

theorem moved_moved (s : Session) (first second : Scope) (p q : Position) :
    (s.moved first p).moved second q = s.moved second q := by
  unfold moved
  rw [← withScope_withScope s first second]
  rfl

theorem scope_moved {s : Session} (current : s.worklist.current < s.worklist.documents.size)
    (scope : Scope) (position : Position) : (s.moved scope position).scope = scope :=
  scope_withScope current scope

theorem current_moved {s : Session} (current : s.worklist.current < s.worklist.documents.size)
    (scope : Scope) (position : Position) :
    (s.moved scope position).worklist.current <
      (s.moved scope position).worklist.documents.size := by
  simpa [moved, withScope] using current

/-! ## Tags in skipped content -/

/-- Whether every tag stands in one that allows it, those outside standing in `parent`. -/
def Forest.AllowedIn (parent : Tag) : Forest → Bool
  | .nil => true
  | .cons tag content rest =>
    parent.allows tag.kind && content.AllowedIn tag.kind && rest.AllowedIn parent

/-- In skipped content every name will do. -/
theorem findTag_of_skipping {s : Session} (skipping : 0 < s.skipDepth) (tag : StartTag) :
    findTag s tag = .ok tag.kind := by
  have reads : ¬s.skipDepth = 0 := Nat.ne_of_gt skipping
  simp only [findTag, StartTag.kind, reads, skipping, decide_false, Bool.false_and, if_true,
    Bool.false_eq_true, if_false]
  cases Tag.ofName? tag.name.localName with
  | none => rfl
  | some kind => rfl

/-- A start tag in skipped content is only counted. -/
theorem readStart_of_skipping {s : Session} (skipping : 0 < s.skipDepth) {tag : StartTag}
    (allowed : (parentTag s).allows tag.kind = true) (scope : Scope) (position : Position) :
    readStart (s.withScope scope) tag position = s.deeper scope position tag.kind := by
  have found := findTag_of_skipping (s := { s.withScope scope with position }) skipping tag
  have checked : checkContent { s.withScope scope with position } tag.name.localName tag.kind =
      .ok () := if_pos allowed
  simp only [readStart, found, checked]
  exact if_pos skipping

/-- Its end leaves the session as it was before, but for the scope. -/
theorem readStop_deeper (s : Session) (kind : Tag) (scope : Scope) (p q : Position) :
    readStop (s.deeper scope p kind) q = s.moved scope q := by
  rw [readStop_of_skipping rfl rfl]
  rfl

theorem deeper_withScope (s : Session) (kind : Tag) (first second : Scope) (p : Position) :
    (s.deeper first p kind).withScope second = s.deeper second p kind := by
  unfold deeper moved
  rw [← withScope_withScope s first second]
  rfl

theorem hasFailed_readStart_of_refused {s : Session} {tag : StartTag}
    (refused : (parentTag s).allows tag.kind = false) (position : Position) :
    (readStart s tag position).hasFailed = true := by
  cases failed : (readStart s tag position).hasFailed with
  | true => rfl
  | false =>
    have allowed := (readStart_eq_of_ok failed).1
    rw [refused] at allowed
    cases allowed

/-! ## What lexemes deliver -/

/-- The nodes that a reader delivers from lexemes, one from each, and the reader and the scope after
them. -/
def deliverAll (r : Reader) (scope : Scope) : List Lexeme → Option (List Node × Reader × Scope)
  | [] => some ([], r, scope)
  | lexeme :: rest =>
    match r.deliver scope lexeme with
    | (r', scope', .ok (some node)) =>
      (deliverAll r' scope' rest).map fun (nodes, after) => (node :: nodes, after)
    | _ => none

theorem deliverAll_nil {r : Reader} {scope : Scope} {lexemes : List Lexeme}
    {after : Reader × Scope} (h : deliverAll r scope lexemes = some ([], after)) :
    lexemes = [] ∧ after = (r, scope) := by
  cases lexemes with
  | nil =>
    cases h
    exact ⟨rfl, rfl⟩
  | cons lexeme rest =>
    unfold deliverAll at h
    split at h
    · obtain ⟨_, -, same⟩ := Option.map_eq_some_iff.1 h
      cases same
    · cases h

theorem deliverAll_cons {r : Reader} {scope : Scope} {lexemes : List Lexeme} {node : Node}
    {nodes : List Node} {after : Reader × Scope}
    (h : deliverAll r scope lexemes = some (node :: nodes, after)) :
    ∃ lexeme rest r' scope', lexemes = lexeme :: rest ∧
      r.deliver scope lexeme = (r', scope', .ok (some node)) ∧
      deliverAll r' scope' rest = some (nodes, after) := by
  cases lexemes with
  | nil => cases h
  | cons lexeme rest =>
    unfold deliverAll at h
    split at h
    · rename_i r' scope' _ delivered
      obtain ⟨_, later, same⟩ := Option.map_eq_some_iff.1 h
      cases same
      exact ⟨lexeme, rest, r', scope', rfl, delivered, later⟩
    · cases h

theorem deliverAll_append {r : Reader} {scope : Scope} {lexemes : List Lexeme}
    {first second : List Node} {after : Reader × Scope}
    (h : deliverAll r scope lexemes = some (first ++ second, after)) :
    ∃ earlier later r' scope', lexemes = earlier ++ later ∧
      deliverAll r scope earlier = some (first, r', scope') ∧
      deliverAll r' scope' later = some (second, after) := by
  induction first generalizing r scope lexemes with
  | nil => exact ⟨[], lexemes, r, scope, rfl, rfl, h⟩
  | cons node nodes ih =>
    obtain ⟨lexeme, rest, r', scope', rfl, delivered, h⟩ := deliverAll_cons h
    obtain ⟨earlier, later, r'', scope'', rfl, own, others⟩ := ih h
    refine ⟨lexeme :: earlier, later, r'', scope'', rfl, ?_, others⟩
    simp only [deliverAll, delivered, own]
    rfl

/-- A tag and what follows it, as they are delivered. -/
theorem deliverAll_tag {r : Reader} {scope : Scope} {lexemes : List Lexeme} {nodes : List Node}
    {tag : StartTag} {content rest : Forest} {final : Reader × Scope}
    (spells : (Forest.cons tag content rest).Spells nodes)
    (h : deliverAll r scope lexemes = some (nodes, final)) :
    ∃ lexeme later r₁ scope₁, lexemes = lexeme :: later ∧
      r.deliver scope lexeme = (r₁, scope₁, .ok (some (.start tag))) ∧
      if tag.isEmpty then
        content = .nil ∧ ∃ after, rest.Spells after ∧ deliverAll r₁ scope₁ later = some (after, final)
      else
        ∃ inside name after inner stop others r₂ scope₂ r₃ scope₃, later = inner ++ stop :: others ∧
          content.Spells inside ∧ deliverAll r₁ scope₁ inner = some (inside, r₂, scope₂) ∧
          r₂.deliver scope₂ stop = (r₃, scope₃, .ok (some (.stop name))) ∧
          rest.Spells after ∧ deliverAll r₃ scope₃ others = some (after, final) := by
  unfold Forest.Spells at spells
  split at spells
  · rename_i isEmpty
    obtain ⟨none, after, rfl, spellsRest⟩ := spells
    obtain ⟨lexeme, later, r₁, scope₁, rfl, first, h⟩ := deliverAll_cons h
    refine ⟨lexeme, later, r₁, scope₁, rfl, first, ?_⟩
    rw [if_pos isEmpty]
    exact ⟨none, after, spellsRest, h⟩
  · rename_i nonEmpty
    obtain ⟨inside, name, after, rfl, spellsContent, spellsRest⟩ := spells
    obtain ⟨lexeme, later, r₁, scope₁, rfl, first, h⟩ := deliverAll_cons h
    obtain ⟨inner, ending, r₂, scope₂, rfl, filled, h⟩ := deliverAll_append h
    obtain ⟨stop, others, r₃, scope₃, rfl, ended, h⟩ := deliverAll_cons h
    refine ⟨lexeme, _, r₁, scope₁, rfl, first, ?_⟩
    rw [if_neg nonEmpty]
    exact ⟨inside, name, after, inner, stop, others, r₂, scope₂, r₃, scope₃, rfl, spellsContent,
      filled, ended, spellsRest, h⟩

/-- Reading goes on with the next lexeme unless it has failed. -/
theorem readLexemes_cons {s : Session} (ok : s.hasFailed = false) {r r' : Reader} {scope : Scope}
    {lexeme : Lexeme} {node : Node}
    (delivered : r.deliver s.scope lexeme = (r', scope, .ok (some node))) (rest : List Lexeme) :
    readLexemes s r (lexeme :: rest) =
      readLexemes (readNode (s.withScope scope) node r'.position) r' rest := by
  rw [readLexemes, if_neg (by rw [ok]; exact Bool.false_ne_true)]
  simp only [delivered]

/-- A start tag in skipped content. -/
theorem readLexemes_start {s : Session} (ok : s.hasFailed = false) (skipping : 0 < s.skipDepth)
    {r r' : Reader} {scope : Scope} {lexeme : Lexeme} {tag : StartTag}
    (allowed : (parentTag s).allows tag.kind = true)
    (delivered : r.deliver s.scope lexeme = (r', scope, .ok (some (.start tag))))
    (rest : List Lexeme) :
    readLexemes s r (lexeme :: rest) =
      readLexemes (if tag.isEmpty then s.moved scope r'.position
        else s.deeper scope r'.position tag.kind) r' rest := by
  have opened := readStart_of_skipping skipping allowed scope r'.position
  have still : (readStart (s.withScope scope) tag r'.position).hasFailed = false := by
    rw [opened]
    exact ok
  rw [readLexemes_cons ok delivered, readNode]
  simp only [still, Bool.not_false, Bool.and_true]
  split
  · rw [opened, readStop_deeper]
  · rw [opened]

/-- An end tag in skipped content. -/
theorem readLexemes_stop {s : Session} (current : s.worklist.current < s.worklist.documents.size)
    (ok : s.hasFailed = false) {r r' : Reader} {first before scope : Scope} {p q : Position}
    {kind : Tag} {stop : Lexeme} {name : TagName}
    (delivered : r.deliver before stop = (r', scope, .ok (some (.stop name))))
    (rest : List Lexeme) :
    readLexemes ((s.deeper first p kind).moved before q) r (stop :: rest) =
      readLexemes (s.moved scope r'.position) r' rest := by
  have inside : (s.deeper first p kind).moved before q = s.deeper before q kind := by
    unfold moved
    rw [deeper_withScope]
    rfl
  rw [← scope_moved current before q] at delivered
  rw [inside, readLexemes_cons (s := s.deeper before q kind) ok delivered, deeper_withScope,
    readNode, readStop_deeper]

/-- A start tag that its parent does not allow. -/
theorem hasFailed_readLexemes_of_refused {s : Session} (ok : s.hasFailed = false)
    {r r' : Reader} {scope : Scope} {lexeme : Lexeme} {tag : StartTag}
    (refused : (parentTag s).allows tag.kind = false)
    (delivered : r.deliver s.scope lexeme = (r', scope, .ok (some (.start tag))))
    (rest : List Lexeme) : (readLexemes s r (lexeme :: rest)).hasFailed = true := by
  have failed := hasFailed_readStart_of_refused (s := s.withScope scope) refused r'.position
  have node : readNode (s.withScope scope) (.start tag) r'.position =
      readStart (s.withScope scope) tag r'.position := by
    rw [readNode, failed]
    simp
  rw [readLexemes_cons ok delivered, node, readLexemes_of_hasFailed failed]
  exact failed

/-! ## The content of a tag -/

section Content

variable {s : Session} {r r' : Reader} {scope : Scope} {inside : List Lexeme} {nodes : List Node}

/-- Reading content only moves the reader on, if all tags in it stand in ones that allow them. -/
theorem readLexemes_allowed (content : Forest)
    (current : s.worklist.current < s.worklist.documents.size) (ok : s.hasFailed = false)
    (skipping : 0 < s.skipDepth) (delivers : deliverAll r s.scope inside = some (nodes, r', scope))
    (spells : content.Spells nodes) (allowed : content.AllowedIn (parentTag s) = true)
    (rest : List Lexeme) :
    ∃ position, readLexemes s r (inside ++ rest) = readLexemes (s.moved scope position) r' rest := by
  -- Neither the session nor the lexemes after the content are fixed: the tags in a tag are read from
  -- the deeper session, with its end tag after them.
  induction content generalizing s r r' scope inside nodes rest with
  | nil =>
    obtain rfl : nodes = [] := spells
    obtain ⟨rfl, same⟩ := deliverAll_nil delivers
    cases same
    exact ⟨s.position, by rw [moved_self]; rfl⟩
  | cons tag content others ihContent ihOthers =>
    simp only [Forest.AllowedIn, Bool.and_eq_true] at allowed
    obtain ⟨⟨here, inner⟩, outer⟩ := allowed
    have next (scope' : Scope) (position : Position) {r'' : Reader} {lexemes : List Lexeme}
        {later : List Node} (delivers : deliverAll r'' scope' lexemes = some (later, r', scope))
        (spells : others.Spells later) : ∃ position',
          readLexemes (s.moved scope' position) r'' (lexemes ++ rest) =
            readLexemes (s.moved scope position') r' rest := by
      have read := ihOthers (current_moved current scope' position) ok skipping
        (by rw [scope_moved current]; exact delivers) spells outer rest
      simp only [moved_moved] at read
      exact read
    obtain ⟨lexeme, later, r₁, scope₁, rfl, first, tagged⟩ := deliverAll_tag spells delivers
    rw [List.cons_append, readLexemes_start ok skipping here first]
    split at tagged
    · rename_i isEmpty
      obtain ⟨-, after, spellsOthers, delivers⟩ := tagged
      rw [if_pos isEmpty]
      exact next _ _ delivers spellsOthers
    · rename_i nonEmpty
      obtain ⟨inside, name, after, within, stop, lexemes, r₂, scope₂, r₃, scope₃, rfl, spellsContent,
        delivers, ended, spellsOthers, delivers'⟩ := tagged
      rw [← scope_moved current scope₁ r₁.position] at delivers
      obtain ⟨position, filled⟩ := ihContent (s := s.deeper scope₁ r₁.position tag.kind)
        (current_moved current scope₁ r₁.position) ok (Nat.succ_pos _) delivers spellsContent inner
        (stop :: (lexemes ++ rest))
      rw [if_neg nonEmpty, List.append_assoc, List.cons_append, filled,
        readLexemes_stop current ok ended]
      exact next _ _ delivers' spellsOthers

/-- Reading content fails if a tag in it stands in one that does not allow it. -/
theorem hasFailed_readLexemes_of_content (content : Forest)
    (current : s.worklist.current < s.worklist.documents.size) (ok : s.hasFailed = false)
    (skipping : 0 < s.skipDepth) (delivers : deliverAll r s.scope inside = some (nodes, r', scope))
    (spells : content.Spells nodes) (refused : content.AllowedIn (parentTag s) = false)
    (rest : List Lexeme) : (readLexemes s r (inside ++ rest)).hasFailed = true := by
  induction content generalizing s r r' scope inside nodes rest with
  | nil => cases refused
  | cons tag content others ihContent ihOthers =>
    have next (outer : others.AllowedIn (parentTag s) = false) (scope' : Scope)
        (position : Position) {r'' : Reader} {lexemes : List Lexeme} {later : List Node}
        (delivers : deliverAll r'' scope' lexemes = some (later, r', scope))
        (spells : others.Spells later) :
        (readLexemes (s.moved scope' position) r'' (lexemes ++ rest)).hasFailed = true :=
      ihOthers (current_moved current scope' position) ok skipping
        (by rw [scope_moved current]; exact delivers) spells outer rest
    obtain ⟨lexeme, later, r₁, scope₁, rfl, first, tagged⟩ := deliverAll_tag spells delivers
    rw [List.cons_append]
    cases here : (parentTag s).allows tag.kind with
    | false => exact hasFailed_readLexemes_of_refused ok here first _
    | true =>
      rw [readLexemes_start ok skipping here first]
      rw [Forest.AllowedIn, here, Bool.true_and] at refused
      split at tagged
      · rename_i isEmpty
        obtain ⟨rfl, after, spellsOthers, delivers⟩ := tagged
        rw [if_pos isEmpty]
        exact next refused _ _ delivers spellsOthers
      · rename_i nonEmpty
        obtain ⟨inside, name, after, within, stop, lexemes, r₂, scope₂, r₃, scope₃, rfl,
          spellsContent, delivers, ended, spellsOthers, delivers'⟩ := tagged
        rw [← scope_moved current scope₁ r₁.position] at delivers
        rw [if_neg nonEmpty, List.append_assoc, List.cons_append]
        cases inner : content.AllowedIn tag.kind with
        | false =>
          -- What fails inside the tag is not undone by what follows it.
          exact ihContent (s := s.deeper scope₁ r₁.position tag.kind)
            (current_moved current scope₁ r₁.position) ok (Nat.succ_pos _) delivers spellsContent inner
            (stop :: (lexemes ++ rest))
        | true =>
          obtain ⟨position, filled⟩ := readLexemes_allowed content
            (s := s.deeper scope₁ r₁.position tag.kind) (current_moved current scope₁ r₁.position) ok
            (Nat.succ_pos _) delivers spellsContent inner (stop :: (lexemes ++ rest))
          rw [inner, Bool.true_and] at refused
          rw [filled, readLexemes_stop current ok ended]
          exact next refused _ _ delivers' spellsOthers

end Content

/-- Reading the content of a tag that is skipped only moves the reader on, with the prefixes that are
in scope and the namespaces that are known after it, if all tags in it stand in ones that allow them;
otherwise it fails. -/
theorem readLexemes_skippedContent (content : Forest) {s : Session} {r r' : Reader}
    {scope : Scope} {inside : List Lexeme} {nodes : List Node}
    (current : s.worklist.current < s.worklist.documents.size) (ok : s.hasFailed = false)
    (skipping : 0 < s.skipDepth) (delivers : deliverAll r s.scope inside = some (nodes, r', scope))
    (spells : content.Spells nodes) (rest : List Lexeme) :
    if content.AllowedIn (parentTag s) then
      ∃ position, readLexemes s r (inside ++ rest) = readLexemes (s.moved scope position) r' rest
    else (readLexemes s r (inside ++ rest)).hasFailed = true := by
  split
  · rename_i allowed
    exact readLexemes_allowed content current ok skipping delivers spells allowed rest
  · rename_i refused
    exact hasFailed_readLexemes_of_content content current ok skipping delivers spells
      (Bool.eq_false_iff.2 refused) rest

/-- A session in the documentation of an annotation. -/
def inDocumentation : Session :=
  { start "" false with tagStack := [.documentation, .annotationTag, .schema], skipDepth := 2 }

/-- A paragraph with a word in it, in no namespace that a schema knows. -/
def paragraph : List UInt8 :=
  Text.Utf8.encodeText "<p><b/></p>"

set_option maxRecDepth 100000 in
theorem readLexemes_skippedContent_paragraph : ∃ r' scope position,
    readLexemes inDocumentation (Reader.ofDocument paragraph)
        ((Lexed.ofDocument paragraph).lexemes.take 3 ++ []) =
      readLexemes (inDocumentation.moved scope position) r' [] := by
  have delivered : (deliverAll (Reader.ofDocument paragraph) inDocumentation.scope
      ((Lexed.ofDocument paragraph).lexemes.take 3)).map (·.1) =
        some [.start ⟨⟨"p", .none, ""⟩, [], false⟩, .start ⟨⟨"b", .none, ""⟩, [], true⟩,
          .stop ⟨"p", .none, ""⟩] := by decide +kernel
  obtain ⟨⟨nodes, r', scope⟩, delivers, same⟩ := Option.map_eq_some_iff.1 delivered
  obtain rfl : nodes = _ := same
  have spells := Forest.spells_tag ⟨⟨"p", .none, ""⟩, [], false⟩ ⟨"p", .none, ""⟩ rfl
    (Forest.spells_empty ⟨⟨"b", .none, ""⟩, [], true⟩ rfl Forest.spells_nil) Forest.spells_nil
  have skipped := readLexemes_skippedContent _ (by decide) rfl (by decide) delivers spells []
  rw [if_pos (by decide +kernel)] at skipped
  exact ⟨r', scope, skipped⟩

end Session

end XsdRecords
