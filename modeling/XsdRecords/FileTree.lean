import XsdRecords.Markup.Reader

/-! # Files by path

A tree of files in memory, and what opening a path in it gives.  A directory can be opened but not
read. -/

namespace XsdRecords

open XsdRecords.Markup (Source)

inductive OpenFault where
  | missing
  /-- Something on the way is a file. -/
  | notDirectory
  | other (reason : String)
  deriving DecidableEq, Repr

def OpenFault.message : OpenFault → String
  | missing => "No such file or directory (os error 2)"
  | notDirectory => "Not a directory (os error 20)"
  | other reason => reason

def directorySource : Source :=
  .failing "Is a directory (os error 21)"

def pathNames (path : String) : List String :=
  path.splitOn "/"

/-- The directory of the file at a path, as a path. -/
def directoryOf (path : String) : String :=
  match (pathNames path).dropLast with
  | [] => ""
  | [""] => "/"
  | names => String.intercalate "/" names

def joinPath (directory path : String) : String :=
  if path.startsWith "/" || directory = "" then path
  else if directory.endsWith "/" then directory ++ path
  else directory ++ "/" ++ path

/-- Whether a name on a path stays where it is. -/
def staysPut (name : String) : Bool :=
  name = "" || name = "."

/-- Files by the names on their paths. -/
structure FileTree where
  files : List (List String × List UInt8)

namespace FileTree

/-- The tree of files written one after another; of two at one path the later stays. -/
def ofPaths (files : List (String × List UInt8)) : FileTree :=
  ⟨files.reverse.map fun (path, content) =>
    ((pathNames path).filter (!staysPut ·), content)⟩

/-- Whether names lead to a directory: the top, or what some file is in. -/
def isDirectory (t : FileTree) (names : List String) : Bool :=
  names.isEmpty
    || t.files.any fun (path, _) => names.isPrefixOf path && names.length < path.length

/-- The content of the file that names lead to. -/
def content? (t : FileTree) (names : List String) : Option (List UInt8) :=
  t.files.lookup names

/-- Follows names from a place in the tree.  Nothing is known of what is above the top. -/
def follow (t : FileTree) (place : List String) : List String → Except OpenFault Source
  | [] =>
    if t.isDirectory place then .ok directorySource
    else
      match t.content? place with
      | some content => .ok (.bytes content)
      | none => .error .missing
  | name :: rest =>
    if t.isDirectory place then
      if staysPut name then follow t place rest
      else if name = ".." then
        if place.isEmpty then
          if rest.all staysPut then .ok directorySource else .error .missing
        else follow t place.dropLast rest
      else follow t (place ++ [name]) rest
    else if (t.content? place).isSome then .error .notDirectory
    else .error .missing

def openPath (t : FileTree) (path : String) : Except OpenFault Source :=
  if path = "" then .error .missing
  else if path.startsWith "/" then
    if (pathNames path).all (fun name => staysPut name || name = "..") then .ok directorySource
    else .error .missing
  else t.follow [] (pathNames path)

end FileTree

end XsdRecords
