import XsdRecords.Markup.Reader
import XsdRecords.Proofs.Markup.Locality
import XsdRecords.Proofs.Markup.Nesting

/-! # The attribute values of a document

A document has no more attributes than bytes: the tags take different bytes, and so do the attributes
of a tag.  Whatever namespaces are known while it is read, the values of its attributes are those in
its text. -/

namespace XsdRecords.Markup

/-! ## Attributes of a tag -/

theorem length_readAttributesFrom_le (total : Nat) (seen : List RawAttribute) (bytes : List UInt8) :
    (readAttributesFrom total seen bytes).1.length ≤ bytes.length := by
  induction seen, bytes using readAttributesFrom.induct total with
  | case1 seen bytes finished =>
    rw [readAttributesFrom.eq_def]
    split <;> simp_all
  | case2 seen bytes fault scanned =>
    rw [readAttributesFrom.eq_def]
    split <;> simp_all
  | case3 seen bytes raw rest scanned fault read =>
    rw [readAttributesFrom.eq_def]
    split <;> simp_all
  | case4 seen bytes raw rest scanned pair read more fault read' ih =>
    have less := length_of_scanAttribute scanned
    rw [readAttributesFrom.eq_def]
    split <;> simp_all
    omega

theorem length_readAttributes_le (text : List UInt8) :
    (readAttributes text).1.length ≤ text.length :=
  Nat.le_trans (length_readAttributesFrom_le _ _ _)
    (List.dropWhile_sublist (!Byte.isBlank ·)).length_le

/-! ## Tags of a document -/

/-- The bytes of a start tag. -/
def Token.text : Token → List UInt8
  | .start text _ => text
  | _ => []

/-- Whether what stands after a `<` is a tag. -/
def Construct.IsTag : Construct → Prop
  | .start _ | .stop _ => True
  | .other | .unnamedDoctype | .fault _ => False

theorem Construct.isTag_of_start {construct : Construct} {text : List UInt8}
    (start : construct = .start text) : construct.IsTag :=
  start ▸ trivial

namespace Lexer

variable {l : Lexer} {bytes rest : List UInt8}

theorem length_of_scanTag {text : List UInt8} (h : (scanTag bytes).construct = .start text) :
    text.length ≤ (scanTag bytes).used ∧ text.length ≤ bytes.length := by
  unfold scanTag at h ⊢
  split
  · rename_i fault failed
    rw [failed] at h
    cases h
  · rename_i n found
    rw [found] at h
    have taken := List.length_take_le n bytes
    have taken' := List.length_take_le' n bytes
    dsimp only at h ⊢
    split <;> rename_i same <;> simp only [same] at h taken taken'
    · obtain rfl := Construct.start.inj h
      simp
    · split at h
      · cases h
      · obtain rfl := Construct.start.inj h
        exact ⟨Nat.le_succ_of_le taken, taken'⟩

theorem not_isTag_scanComment (bytes : List UInt8) : ¬(scanComment bytes).construct.IsTag := by
  unfold scanComment
  split
  · dsimp only
    split <;> exact id
  · exact id

theorem not_isTag_scanCData (bytes : List UInt8) : ¬(scanCData bytes).construct.IsTag := by
  unfold scanCData
  split
  · dsimp only
    split <;> exact id
  · exact id

theorem not_isTag_scanDoctype (bytes : List UInt8) : ¬(scanDoctype bytes).construct.IsTag := by
  unfold scanDoctype
  split
  · dsimp only
    split
    · split <;> exact id
    · exact id
  · exact id

theorem not_isTag_scanInstruction (bytes : List UInt8) :
    ¬(scanInstruction bytes).construct.IsTag := by
  unfold scanInstruction
  split
  · dsimp only
    split <;> exact id
  · exact id

/-- The first byte of a tag. -/
theorem head_of_isTag {b : UInt8} (isTag : (scanMarkup (b :: rest)).construct.IsTag) :
    b ≠ Byte.bang ∧ b ≠ Byte.question := by
  constructor
  · rintro rfl
    cases head : rest.head? with
    | none =>
      cases List.head?_eq_none_iff.1 head
      exact isTag
    | some kind =>
      rw [scanMarkup_bang head] at isTag
      split at isTag
      · exact not_isTag_scanComment _ isTag
      · split at isTag
        · exact not_isTag_scanCData _ isTag
        · split at isTag
          · exact not_isTag_scanDoctype _ isTag
          · exact isTag
  · rintro rfl
    exact not_isTag_scanInstruction _ isTag

/-- Only a tag is read as one. -/
theorem scanMarkup_eq_scanTag (isTag : (scanMarkup bytes).construct.IsTag) :
    scanMarkup bytes = scanTag bytes := by
  cases bytes with
  | nil => exact isTag.elim
  | cons b rest =>
    obtain ⟨bang, question⟩ := head_of_isTag isTag
    rw [scanMarkup, if_neg bang, if_neg question]

theorem text_of_matchEnd (opened : List (List UInt8)) (place here : Nat) (name : List UInt8) :
    (matchEnd opened place here name).1.token.text = [] := by
  unfold matchEnd
  split
  · rfl
  · split <;> rfl

/-- A step that finds a start tag passes its bytes. -/
theorem length_of_stepMarkup {blanks extra : Nat} {lexeme : Lexeme} {opened : List (List UInt8)}
    (h : l.stepMarkup blanks rest = .next (some lexeme) extra opened) :
    lexeme.token.text.length ≤ extra ∧ lexeme.token.text.length ≤ rest.length := by
  unfold stepMarkup at h
  dsimp only at h
  split at h
  · rename_i text start
    have same := scanMarkup_eq_scanTag (Construct.isTag_of_start start)
    rw [same] at start h
    obtain ⟨used, length⟩ := length_of_scanTag start
    have shorter : text.dropLast.length ≤ text.length := by simp
    split at h <;> cases h <;> simp only [Token.text] <;> omega
  · cases h
    simp [text_of_matchEnd]
  · cases h
  · cases h
    simp [Token.text]
  · cases h

theorem text_of_isFault {token : Token} (isFault : token.IsFault) : token.text = [] := by
  cases token with
  | fault => rfl
  | start | stop | finish => cases isFault

theorem length_of_step {lexeme : Lexeme} {extra : Nat} {opened : List (List UInt8)}
    (h : l.step = .next (some lexeme) extra opened) :
    lexeme.token.text.length ≤ extra ∧ lexeme.token.text.length ≤ l.unread.length := by
  obtain isFault | ⟨blanks, rest, unread, -, markup⟩ := step_some h
  · simp [text_of_isFault isFault]
  · obtain ⟨used, inside⟩ := length_of_stepMarkup markup
    have length := congrArg List.length unread
    simp only [List.length_append, List.length_cons] at length
    exact ⟨used, by omega⟩

theorem text_of_step {lexeme : Lexeme} {used : Nat} (h : l.step = .last lexeme used) :
    lexeme.token.text = [] := by
  obtain isFinish | isFault := step_last h
  · rw [isFinish]
    rfl
  · exact text_of_isFault isFault

theorem length_text_run_le (l : Lexer) :
    (l.run.lexemes.flatMap fun lexeme => lexeme.token.text).length ≤ l.unread.length := by
  induction l using Lexer.run.induct with
  | case1 l lexeme used last =>
    rw [run, last]
    simp only [List.flatMap_cons, text_of_step last, List.flatMap_nil, List.append_nil,
      List.length_nil, Nat.zero_le]
  | case2 l lexeme extra opened next isEmpty =>
    rw [run, next]
    cases lexeme with
    | none =>
      simp only [isEmpty, if_true, Option.toList_none, List.flatMap_nil, List.length_nil,
        Nat.zero_le]
    | some lexeme =>
      have length := (length_of_step next).2
      simpa only [isEmpty, if_true, Option.toList_some, List.flatMap_singleton] using length
  | case3 l lexeme extra opened next more ih =>
    have shorter : (l.advance (extra + 1)).unread.length = l.unread.length - (extra + 1) :=
      List.length_drop
    dsimp only at ih
    rw [shorter] at ih
    rw [run, next]
    cases lexeme with
    | none =>
      simp only [more, if_false, Option.toList_none, List.nil_append]
      omega
    | some lexeme =>
      have length := length_of_step next
      simp only [more, if_false, Option.toList_some, List.singleton_append, List.flatMap_cons,
        List.length_append]
      omega

end Lexer

/-! ## Values -/

/-- The values of the attributes of a start tag up to the first fault. -/
def Lexeme.values (lexeme : Lexeme) : List String :=
  (readAttributes lexeme.token.text).1.map (·.2)

/-- The values of the attributes of a document. -/
def Source.values : Source → List String
  | .bytes content => (Lexed.ofDocument content).lexemes.flatMap Lexeme.values
  | .failing _ => []

/-- The values of the attributes of a node. -/
def Node.values : Node → List String
  | .start tag => tag.attributes.map (·.value)
  | .stop _ => []

theorem length_values_le (source : Source) : source.values.length ≤ source.size := by
  cases source with
  | failing reason => exact Nat.le_refl 0
  | bytes content =>
    have texts := (Lexer.ofDocument content).length_text_run_le
    have unread : (Lexer.ofDocument content).unread.length ≤ content.length := by
      unfold Lexer.ofDocument
      dsimp only
      split <;> simp
    have values (lexemes : List Lexeme) : (lexemes.flatMap Lexeme.values).length ≤
        (lexemes.flatMap fun lexeme => lexeme.token.text).length := by
      induction lexemes with
      | nil => exact Nat.le_refl 0
      | cons lexeme rest ih =>
        have here := length_readAttributes_le lexeme.token.text
        rw [List.flatMap_cons, List.length_append, Lexeme.values, List.length_map,
          List.flatMap_cons, List.length_append]
        omega
    exact Nat.le_trans (values _) (Nat.le_trans texts unread)

theorem Reader.values_deliver {r r' : Reader} {s s' : Scope} {lexeme : Lexeme} {node : Node}
    (delivered : r.deliver s lexeme = (r', s', .ok (some node))) : node.values ⊆ lexeme.values := by
  unfold deliver at delivered
  dsimp only at delivered
  split at delivered
  · simp at delivered
  · simp at delivered
  · rename_i text isEmpty token
    split at delivered
    · simp at delivered
    · rename_i tag read
      simp only [Prod.mk.injEq, Except.ok.injEq, Option.some.injEq] at delivered
      obtain ⟨-, -, rfl⟩ := delivered
      unfold Scope.readStart at read
      dsimp only at read
      split at read
      · cases read
      · split at read
        · cases read
        · obtain rfl := Except.ok.inj read
          simp only [Node.values, Lexeme.values, token, Token.text, List.map_map]
          exact List.Subset.refl _
  · split at delivered
    · simp at delivered
    · simp only [Prod.mk.injEq, Except.ok.injEq, Option.some.injEq] at delivered
      obtain ⟨-, -, rfl⟩ := delivered
      exact List.nil_subset _

end XsdRecords.Markup
