/-! # Severities and the diagnostic of a compile

A compile keeps one diagnostic: the last one reported among those of the greatest severity. -/

namespace XsdRecords

/-- How bad a problem is, from harmless to fatal. -/
inductive Severity where
  /-- Nothing was reported. -/
  | noError
  /-- The compile goes on and succeeds. -/
  | warning
  /-- The compile fails. -/
  | error
  /-- A document cannot be read at all. -/
  | fatal
  deriving DecidableEq, Repr, Inhabited

namespace Severity

/-- The place of a severity in the order. -/
def rank : Severity → Nat
  | noError => 0
  | warning => 1
  | error => 2
  | fatal => 3

instance : LE Severity := ⟨fun a b => a.rank ≤ b.rank⟩
instance : LT Severity := ⟨fun a b => a.rank < b.rank⟩
instance (a b : Severity) : Decidable (a ≤ b) := inferInstanceAs (Decidable (a.rank ≤ b.rank))
instance (a b : Severity) : Decidable (a < b) := inferInstanceAs (Decidable (a.rank < b.rank))

def name : Severity → String
  | noError => "NO_ERROR"
  | warning => "WARNING"
  | error => "ERROR"
  | fatal => "FATAL"

/-- Whether a compile with a problem of this severity fails. -/
def isFailure (s : Severity) : Bool :=
  warning < s

end Severity

/-- A line and a column, both counted from one; zero where there is none. -/
structure Position where
  line : Nat := 0
  column : Nat := 0
  deriving DecidableEq, Repr, Inhabited

structure Diagnostic where
  severity : Severity := .noError
  position : Position := {}
  source : String := ""
  message : String := ""
  deriving DecidableEq, Repr, Inhabited

namespace Diagnostic

/-- Replaces a diagnostic by a new one unless the new one is less severe. -/
def replace (old new : Diagnostic) : Diagnostic :=
  if new.severity < old.severity then old else new

/-- A diagnostic never becomes less severe. -/
theorem severity_le_replace (old new : Diagnostic) :
    old.severity ≤ (old.replace new).severity := by
  unfold replace
  split
  · exact Nat.le_refl _
  · rename_i h
    exact Nat.le_of_not_lt h

/-- A new problem counts for at least its severity. -/
theorem le_severity_replace (old new : Diagnostic) :
    new.severity ≤ (old.replace new).severity := by
  unfold replace
  split
  · rename_i h
    exact Nat.le_of_lt h
  · exact Nat.le_refl _

theorem replace_of_le {old new : Diagnostic} (h : old.severity ≤ new.severity) :
    old.replace new = new :=
  if_neg (Nat.not_lt.2 h)

def isFailure (d : Diagnostic) : Bool :=
  d.severity.isFailure

def render (d : Diagnostic) : String :=
  s!"{d.source}:{d.position.line}:{d.position.column}: " ++ d.severity.name ++ ": " ++ d.message

end Diagnostic

end XsdRecords
