import XsdRecords.Compilation
import XsdRecords.FileTree
import XsdRecords.Layout.Printer

/-! # The command line

The command compiles the schema in a file and prints the record schema.  Documents that it names are
files found from the directory of the first.  `CommandLine.run` is the whole command over a tree of
files in memory. -/

namespace XsdRecords.CommandLine

open XsdRecords.Markup (Source)

structure Options where
  allowUnsupported : Bool := false
  printAttributes : Bool := false
  path : Option String := none
  deriving DecidableEq, Repr

inductive Invocation where
  | compile (path : String) (options : Options)
  | help
  | version
  | misuse
  deriving DecidableEq, Repr

/-- Reads flags of one letter that share a dash; the result is what they ask for, if it is not to go
on. -/
def readLetters : List Char → Option Invocation
  | [] => none
  | 'v' :: rest => readLetters rest
  | 'h' :: _ => some .help
  | 'V' :: _ => some .version
  | _ :: _ => some .misuse

/-- Takes the path of the schema; there is only one, and it is not empty. -/
def Options.takePath (o : Options) (path : String) : Option Options :=
  if o.path.isSome || path = "" then none else some { o with path := some path }

/-- Reads arguments.  After `--` every argument is a path. -/
def readArguments (o : Options) (onlyPaths : Bool) : List String → Invocation
  | [] =>
    match o.path with
    | some path => .compile path o
    | none => .misuse
  | argument :: rest =>
    if onlyPaths || argument = "-" || !argument.startsWith "-" then
      match o.takePath argument with
      | some o => readArguments o onlyPaths rest
      | none => .misuse
    else if argument = "--" then readArguments o true rest
    else if argument = "--verbose" then readArguments o onlyPaths rest
    else if argument = "--help" then .help
    else if argument = "--version" then .version
    else if argument = "--allow-unsupported" && !o.allowUnsupported then
      readArguments { o with allowUnsupported := true } onlyPaths rest
    else if argument = "--print-attributes" && !o.printAttributes then
      readArguments { o with printAttributes := true } onlyPaths rest
    else if argument.startsWith "--" then .misuse
    else
      match readLetters (argument.toList.drop 1) with
      | some invocation => invocation
      | none => readArguments o onlyPaths rest

def Invocation.ofArguments (arguments : List String) : Invocation :=
  readArguments {} false arguments

/-- What a command prints, and its exit code. -/
structure Output where
  code : Nat
  stdout : String := ""
  stderr : String := ""
  deriving DecidableEq, Repr

def usage : String :=
  "Compile an XML Schema into record and enumeration definitions\n\n"
    ++ "Usage: xsdc [OPTIONS] <SCHEMA>\n\n"
    ++ "Arguments:\n"
    ++ "  <SCHEMA>  Schema file (.xsd)\n\n"
    ++ "Options:\n"
    ++ "  -v, --verbose...         Raise log verbosity\n"
    ++ "      --allow-unsupported  Accept <extension> and attributes on choice or "
    ++ "simple-content types\n"
    ++ "      --print-attributes   Print the attributes of the top-level <schema> tag\n"
    ++ "  -h, --help               Print help\n"
    ++ "  -V, --version            Print version\n"

/-- The output of a command whose schema cannot be opened. -/
def cannotOpen (path : String) (fault : OpenFault) : Output :=
  { code := 1, stderr := "error: cannot open " ++ path ++ ": " ++ fault.message ++ "\n" }

def Output.ofOutcome (o : Options) (outcome : Outcome) : Output :=
  match outcome.result with
  | .error d => { code := 1, stderr := d.render ++ "\n" }
  | .ok c =>
    let attributes := c.attributes.map fun (name, value) => name ++ "=\"" ++ value ++ "\"\n"
    let warning := if c.diagnostic.severity = .warning then c.diagnostic.render ++ "\n" else ""
    { code := 0
      stdout := "targetNamespace: " ++ c.targetNamespace ++ "\n"
        ++ (if o.printAttributes then String.join attributes else "") ++ c.schema.render
      stderr := warning }

/-- The output of a command line that compiles nothing. -/
def Invocation.staticOutput : Invocation → Output
  | .version => { code := 0, stdout := "xsdc 0.1.0\n" }
  | .help => { code := 0, stdout := usage }
  | _ => { code := 2, stderr := usage }

/-- The documents of a tree seen from a directory.  What cannot be opened is no document. -/
def resolver (tree : FileTree) (directory : String) : Resolver :=
  fun request => (tree.openPath (joinPath directory request.location)).toOption

/-- A bound on the documents that a compilation reads from a tree after the first: every location
and every target namespace but one is the value of an attribute in some file, and no location is
read twice for one target namespace. -/
def limit (tree : FileTree) : Nat :=
  let size := tree.files.foldl (fun size (_, content) => size + content.length) 2
  size * size

/-- Runs the command over a tree of files. -/
def run (tree : FileTree) (arguments : List String) : Output :=
  match Invocation.ofArguments arguments with
  | .compile path options =>
    match tree.openPath path with
    | .error fault => cannotOpen path fault
    | .ok source =>
      let compilation := Compilation.start options.allowUnsupported source path
      .ofOutcome options
        (compilation.run (resolver tree (directoryOf path)) (limit tree)).finish
  | invocation => invocation.staticOutput

end XsdRecords.CommandLine
