import XsdRecords.Proofs.Session.Traced
import XsdRecords.Proofs.Session.Typings

/-! # Which types hold records

A type holds records as soon as a node completes it: a tag of a complex type, or what becomes a
field of the type.  A type that no node completes is built in, or has values that its bases give
it. -/

namespace XsdRecords.Session

open XsdRecords.Declaration
open XsdRecords.Markup (StartTag)
open XsdRecords.Vocabulary (Builtin)

variable {s s' : Session}

/-! ## Nodes -/

/-- The types that a start tag completes: the complex type that it opens, and the innermost open type
if it adds a field to it. -/
def completed (s : Session) (tag : StartTag) (position : Position) : List TypeId :=
  match tag.kind with
  | .element | .attributeTag => s.typeStack.head?.toList
  | .complexType => (readStart s tag position).typeStack.head?.toList
  | .choice | .sequence =>
    if isWrapped (parentTag s) (!s.elementStack.isEmpty) tag then
      (readStart s tag position).typeStack.head?.toList ++ s.typeStack.head?.toList
    else []
  | _ => []

/-- Whether a node completes a type. -/
def Visit.completes (v : Visit) (type : TypeId) : Bool :=
  match v.node with
  | .start tag => v.session.skipDepth = 0 && (completed v.session tag v.position).contains type
  | .stop _ => false

theorem completed_of_other {tag : StartTag} (other : tag.kind ∉ typingTags)
    (position : Position) : completed s tag position = [] := by
  unfold completed
  split
  all_goals first | rfl | (rename_i kind; exact absurd (by rw [kind]; decide) other)

/-- A start tag outside skipped content gives the types that it completes the built-in type of
records, and leaves the others as they are. -/
theorem Lawful.builtin_readStart (lawful : Lawful s) {tag : StartTag} {position : Position}
    (reading : s.skipDepth = 0) (ok : (readStart s tag position).hasFailed = false)
    (type : TypeId) :
    ((readStart s tag position).declarations.type type).builtin =
      if type ∈ completed s tag position then some Builtin.complexType
      else (s.declarations.type type).builtin := by
  have tells {n : Nature} : ((readStart s tag position).declarations.type type).nature = n →
      ((readStart s tag position).declarations.type type).builtin = n.builtin :=
    congrArg Nature.builtin
  have by_completed {c : Prop} (completes : type ∈ completed s tag position ↔ c)
      (isRecord : c → ((readStart s tag position).declarations.type type).builtin =
        some Builtin.complexType)
      (same : ¬c → ((readStart s tag position).declarations.type type).builtin =
        (s.declarations.type type).builtin) :
      ((readStart s tag position).declarations.type type).builtin =
        if type ∈ completed s tag position then some Builtin.complexType
        else (s.declarations.type type).builtin := by
    split
    · exact isRecord (completes.1 ‹_›)
    · exact same (mt completes.2 ‹_›)
  cases lawful.typed_readStart reading ok with
  | element isElement own head blank typing known nature =>
    refine by_completed ?_ (fun h => tells ((nature type).trans (if_pos h)))
      fun h => tells ((nature type).trans (if_neg h))
    obtain h | h := isElement <;> simp [completed, h]
  | type isType own typeStack typing nature =>
    refine by_completed ?_ (fun h => tells ((nature type).trans (if_pos h)))
      fun h => tells ((nature type).trans (if_neg h))
    obtain h | h := isType <;> simp [completed, h, typeStack, eq_comm (a := type)]
  | group isGroup typed =>
    cases typed with
    | layout unwrapped isOuter own before head typing nature =>
      refine by_completed (c := False) ?_ False.elim fun _ => (tells (nature type)).trans ?_
      · obtain h | h := isGroup <;> simp [completed, h, unwrapped]
      · split <;> rfl
    | field wrapped parent own element before head elements blank typing nature =>
      refine by_completed (c := type = own ∨ type = parent) ?_ (fun h => (tells (nature type)).trans ?_)
        fun h => (tells (nature type)).trans ?_
      · obtain h | h := isGroup <;> simp [completed, h, wrapped, head, before]
      · obtain rfl | rfl := h
        · rw [if_pos rfl]
        · rw [if_pos rfl]
          split <;> rfl
      · rw [not_or] at h
        rw [if_neg (Ne.symm h.1), if_neg (Ne.symm h.2)]
        rfl
  | nothing other kept =>
    refine by_completed (c := False) ?_ False.elim fun _ => tells (kept.nature type)
    simp [completed_of_other other]

theorem Visit.builtin_after {v : Visit} (lawful : Lawful v.session)
    (ok : v.after.hasFailed = false) (type : TypeId) :
    (v.after.declarations.type type).builtin =
      if v.completes type then some Builtin.complexType
      else (v.session.declarations.type type).builtin := by
  have makes := v.makes ok
  generalize v.after.declarations = d at makes ⊢
  cases makes with
  | stop s name position => rfl
  | skipped s tag position skipping => simp [completes, skipping]
  | start s tag position reading started =>
    simp only [completes, reading, decide_true, Bool.true_and, List.contains_eq_mem,
      decide_eq_true_eq]
    exact lawful.builtin_readStart reading started type

/-! ## Runs -/

/-- The built-in type of a type by what some nodes say of it, its bases aside. -/
def builtinBy (visits : List Visit) (type : TypeId) : Option Builtin :=
  if visits.any (·.completes type) then some Builtin.complexType
  else (Declarations.initial.type type).builtin

theorem builtinBy_append (visits : List Visit) (v : Visit) (type : TypeId) :
    builtinBy (visits ++ [v]) type =
      if v.completes type then some Builtin.complexType else builtinBy visits type := by
  by_cases completes : v.completes type = true <;> simp [builtinBy, completes]

/-- A session in which the types hold records that a node has completed. -/
def HasBuiltins (s : Session) (visits : List Visit) : Prop :=
  ∀ type, (s.declarations.type type).builtin = builtinBy visits type

theorem carried_hasBuiltins : Carried HasBuiltins where
  untouched has same type := by
    rw [same]
    exact has type
  after has lawful ok type := by
    rw [Visit.builtin_after lawful ok, builtinBy_append, has]

/-- Every type of a traced session has the built-in type that the nodes before say. -/
theorem Traced.hasBuiltins {visits : List Visit} (traced : Traced s visits) :
    HasBuiltins s visits :=
  carried_hasBuiltins.traced (fun _ _ _ => rfl) traced

end XsdRecords.Session
