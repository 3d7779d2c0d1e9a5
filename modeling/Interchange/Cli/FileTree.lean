import Interchange.Cli.Host
import Interchange.Http.Invoke
import Interchange.Text.FileName
/-!
# Files in memory

A tree of files is a table of texts by their paths.  Every directory on the way to a file is there
because the file is.  Paths that do not begin at the root are taken from a working directory.

* `FileTree.look`, `FileTree.save` — reading and writing.
* `FileTree.host` — a host whose files are in memory.
-/

namespace Interchange.Cli

/-- Files by the names that lead to them. -/
structure FileTree where
  /-- The names that lead to the working directory. -/
  home : List String
  files : List (List String × String)
deriving DecidableEq, Repr

namespace FileTree

/-- The names that lead to a path; two dots lead back. -/
def resolve (t : FileTree) (path : String) : List String :=
  let start := if FileName.isAbsolute path then [] else t.home
  (FileName.parts path).foldl
    (fun names part => if part = ".." then names.dropLast else names ++ [part]) start

/-- The text of a file. -/
def text? (t : FileTree) (names : List String) : Option String :=
  (t.files.find? fun f => f.1 = names).map Prod.snd

/-- Whether there is a directory. -/
def hasDirectory (t : FileTree) (names : List String) : Bool :=
  names.isPrefixOf t.home || t.files.any fun f => names.isPrefixOf f.1 && names ≠ f.1

/-- What is said of a directory that is used as a file. -/
def isDirectoryMessage : String := "Is a directory (os error 21)"

/-- What is said of a file that is used as a directory. -/
def notDirectoryMessage : String := "Not a directory (os error 20)"

/-- What is said of a file where a directory is to be made. -/
def existsMessage : String := "File exists (os error 17)"

/-- What is found at a path. -/
def look (t : FileTree) (path : String) : Entry :=
  let names := t.resolve path
  match t.text? names with
  | some s => if Text.endsWith path "/" then .absent else .text s
  | none => if t.hasDirectory names then .unreadable isDirectoryMessage else .absent

/-- Why the directory of a file cannot be made: a file stands in its place, or in the place of a
directory above it. -/
def directoryFault? (t : FileTree) (directory : List String) : Option String :=
  if (t.text? directory).isSome then some existsMessage
  else if (List.range directory.length).any fun n => (t.text? (directory.take n)).isSome then
    some notDirectoryMessage
  else none

/-- Writes a text to a path. -/
def save (path content : String) (t : FileTree) : Except SaveFault Unit × FileTree :=
  let names := t.resolve path
  match t.directoryFault? names.dropLast with
  | some message => (.error (.directory message), t)
  | none =>
    if t.hasDirectory names || Text.endsWith path "/" then
      (.error (.file isDirectoryMessage), t)
    else (.ok (), { t with files := t.files.filter (fun f => f.1 ≠ names) ++ [(names, content)] })

/-- A host whose files are in memory. -/
def host (environment : Environment) : Host (StateM FileTree) where
  look path := return (← get).look path
  variableNamed name := return environment name
  save path content := fun t => t.save path content

end FileTree

end Interchange.Cli
