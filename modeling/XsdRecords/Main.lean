import XsdRecords.CommandLine

/-! # The command

Reads the files that a compilation asks for and prints what it makes of them. -/

namespace XsdRecords.CommandLine

open XsdRecords.Markup (Source)

/-- The reason of a failure of the system. -/
def reasonOf : IO.Error → String
  | .noFileOrDirectory _ code details => s!"{details} (os error {code})"
  | error => toString error

/-- Reads an open file.  One that cannot be read is a failing source. -/
def readHandle (handle : IO.FS.Handle) : IO Source :=
  try
    return .bytes (← handle.readBinToEnd).toList
  catch error =>
    return .failing (reasonOf error)

def openFile (path : String) : IO (Except OpenFault Source) :=
  try
    return .ok (← readHandle (← IO.FS.Handle.mk path .read))
  catch error =>
    return .error (.other (reasonOf error))

/-- Reads all documents that a compilation asks for. -/
partial def readAll (directory : String) (c : Compilation) : IO Compilation := do
  match c.request? with
  | none => return c
  | some (c, request) =>
    let source ← openFile (joinPath directory request.location)
    readAll directory (c.supply source.toOption)

def perform : Invocation → IO Output
  | .compile path options => do
    match ← openFile path with
    | .error fault => return cannotOpen path fault
    | .ok source =>
      let c ← readAll (directoryOf path) (Compilation.start options.allowUnsupported source path)
      return .ofOutcome options c.finish
  | invocation => return invocation.staticOutput

end XsdRecords.CommandLine

open XsdRecords.CommandLine in
/-- Compiles the schema named on the command line. -/
def main (arguments : List String) : IO UInt32 := do
  let output ← perform (Invocation.ofArguments arguments)
  IO.print output.stdout
  IO.eprint output.stderr
  return output.code.toUInt32
