import Interchange.Text.Pieces
/-!
# File names

A path is a text in which slashes part the names of directories and, last, of a file.  Empty parts
and single dots inside of it stand for nothing.

* `FileName.parts`, `FileName.isAbsolute` — the names of a path.
* `FileName.extension?` — what follows the last dot of the file name.
* `FileName.parent?` — the path of the directory that holds the file.
-/

namespace Interchange.FileName

/-- Whether a path begins at the root. -/
def isAbsolute (path : String) : Bool := Text.startsWith path "/"

/-- The names of a path. -/
def parts (path : String) : List String :=
  (Text.split '/' path).filter fun part => part ≠ "" && part ≠ "."

/-- The name of the file. -/
def name? (path : String) : Option String := (parts path).getLast?.filter (· ≠ "..")

/-- What follows the last dot of the file name; a dot at its very beginning does not count. -/
def extension? (path : String) : Option String :=
  match name? path with
  | none => none
  | some name =>
    match (Text.split '.' name).reverse with
    | extension :: before => if before.all (· = "") && before.length ≤ 1 then none else some extension
    | [] => none

/-- The path of the directory that holds the file, if the path names one. -/
def parent? (path : String) : Option String :=
  match (parts path).dropLast with
  | [] => none
  | names => some ((if isAbsolute path then "/" else "") ++ Text.join "/" names)

/-- A path inside a directory. -/
def within (directory path : String) : String :=
  if Text.endsWith directory "/" then directory ++ path else directory ++ "/" ++ path

end Interchange.FileName
