import XsdRecords.Diagnostic.Problem
import XsdRecords.Worklist

/-! # The journal of a compile

Everything that happens in a compile is an event, reports of problems among them.  The journal keeps
all events and the diagnostic that the reports make. -/

namespace XsdRecords

inductive Event where
  | readingDocument (location : String)
  | unreadableDocument (location reason : String)
  | attributeSeen (tag name value : String)
  | passedThrough (tag : String)
  | skipping (tag : String)
  | queuedDocument (location uri : String) (kind : DocumentKind)
  | knownDocument (location : String)
  | schemaOpened (location uri : String)
  | elementDefined (name : String) (isTopLevel isAttribute : Bool)
  | enumeratorAdded (value : String) (id : Option Int)
  | typeDefined (tag name : String) (isTopLevel : Bool)
  | recordDefined (tag : String) (minOccurs maxOccurs : Int)
  | derived (base : String) (isList : Bool)
  | importWithoutLocation (uri : String)
  | requestedDocument (location uri : String)
  | clonedType (element : String)
  | typeSeen (text : String)
  | enumerationEmitted (name : String)
  | recordEmitted (name : String) (kind : Layout.RecordKind)
  | compiled (records enumerations : Nat)
  | reported (report : Report)
  deriving DecidableEq, Repr

/-- The name of a kind of document in print. -/
def DocumentKind.name : DocumentKind → String
  | topLevel => "TopLevel"
  | included => "Include"
  | imported => "Import"

inductive EventLevel where
  | trace
  | debug
  | warn
  deriving DecidableEq, Repr

def EventLevel.name : EventLevel → String
  | trace => "TRACE"
  | debug => "DEBUG"
  | warn => "WARN"

/-- An event in print: its level, its message and its named values. -/
structure EventText where
  level : EventLevel
  message : String
  fields : List (String × String)
  deriving DecidableEq, Repr

namespace Event

def flag (b : Bool) : String :=
  if b then "true" else "false"

/-- A report in print; the severity of a warning is its level. -/
def renderReport (r : Report) : EventText :=
  let place := [("source", r.source), ("line", toString r.position.line),
    ("column", toString r.position.column)]
  let severity := r.problem.severity
  if severity = .warning then ⟨.warn, r.problem.message, place⟩
  else ⟨.debug, r.problem.message, place ++ [("severity", severity.name)]⟩

def render : Event → EventText
  | readingDocument location => ⟨.debug, "parsing schema document", [("location", location)]⟩
  | unreadableDocument location reason =>
    ⟨.debug, "cannot read schema document", [("location", location), ("error", reason)]⟩
  | attributeSeen tag name value =>
    ⟨.trace, "attribute", [("tag", tag), ("name", name), ("value", value)]⟩
  | passedThrough tag => ⟨.debug, "transparent", [("tag", tag)]⟩
  | skipping tag => ⟨.debug, "skipping", [("tag", tag)]⟩
  | queuedDocument location uri kind =>
    ⟨.debug, "queued external schema",
      [("location", location), ("namespace", uri), ("kind", kind.name)]⟩
  | knownDocument location => ⟨.debug, "schema already included", [("location", location)]⟩
  | schemaOpened location uri =>
    ⟨.debug, "schema", [("location", location), ("namespace", uri)]⟩
  | elementDefined name isTopLevel isAttribute =>
    ⟨.debug, "element definition",
      [("name", name), ("top_level", flag isTopLevel), ("is_attribute", flag isAttribute)]⟩
  | enumeratorAdded value id =>
    let id := match id with
      | some id => s!"Some({id})"
      | none => "None"
    ⟨.debug, "enumerator", [("value", value), ("id", id)]⟩
  | typeDefined tag name isTopLevel =>
    ⟨.debug, "type definition", [("tag", tag), ("name", name), ("top_level", flag isTopLevel)]⟩
  | recordDefined tag minOccurs maxOccurs =>
    ⟨.debug, "record definition",
      [("tag", tag), ("min_occurs", toString minOccurs), ("max_occurs", toString maxOccurs)]⟩
  | derived base isList => ⟨.debug, "derivation", [("base", base), ("list", flag isList)]⟩
  | importWithoutLocation uri =>
    ⟨.debug, "import without schemaLocation", [("namespace", uri)]⟩
  | requestedDocument location uri =>
    ⟨.debug, "resolving external schema", [("location", location), ("namespace", uri)]⟩
  | clonedType element => ⟨.debug, "cloned shared type", [("element", element)]⟩
  | typeSeen text => ⟨.trace, "Type " ++ text, []⟩
  | enumerationEmitted name => ⟨.debug, "generated enumeration", [("name", name)]⟩
  | recordEmitted name kind =>
    ⟨.debug, "generated record", [("name", name), ("kind", kind.name)]⟩
  | compiled records enumerations =>
    ⟨.debug, "schema compiled",
      [("records", toString records), ("enumerations", toString enumerations)]⟩
  | reported report => renderReport report

end Event

/-- The events so far, the last first, and the diagnostic. -/
structure Journal where
  diagnostic : Diagnostic := {}
  events : List Event := []
  deriving DecidableEq, Repr, Inhabited

namespace Journal

def note (j : Journal) (e : Event) : Journal :=
  { j with events := e :: j.events }

def report (j : Journal) (r : Report) : Journal :=
  { diagnostic := j.diagnostic.record r, events := .reported r :: j.events }

def hasFailed (j : Journal) : Bool :=
  j.diagnostic.isFailure

/-- The reports so far, the last first. -/
def reports (j : Journal) : List Report :=
  j.events.filterMap fun
    | .reported r => some r
    | _ => none

@[simp] theorem hasFailed_note (j : Journal) (e : Event) : (j.note e).hasFailed = j.hasFailed :=
  rfl

@[simp] theorem reports_report (j : Journal) (r : Report) :
    (j.report r).reports = r :: j.reports := rfl

theorem hasFailed_report {j : Journal} (h : j.hasFailed = true) (r : Report) :
    (j.report r).hasFailed = true := by
  have before : Severity.warning < j.diagnostic.severity := of_decide_eq_true h
  exact decide_eq_true (Nat.lt_of_lt_of_le before (Diagnostic.severity_le_replace _ _))

/-- A problem that is no warning fails the compile. -/
theorem hasFailed_report_of_isFailure (j : Journal) {r : Report}
    (h : r.problem.severity.isFailure = true) : (j.report r).hasFailed = true := by
  have severe : Severity.warning < r.diagnostic.severity := of_decide_eq_true h
  exact decide_eq_true (Nat.lt_of_lt_of_le severe (Diagnostic.le_severity_replace _ _))

end Journal

end XsdRecords
