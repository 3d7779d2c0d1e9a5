import Interchange.Cli.Failure
/-!
# The surroundings of the program

The program reads files and variables, writes files, and prints on two channels.  What it reads and
writes it asks of a `Host`, which may be the system it runs on or a tree of files in memory; what it
prints is gathered in a `Transcript`.

* `Host` — the questions and wishes of the program.
* `Job` — something that prints and may fail.
-/

namespace Interchange.Cli

/-- What is found at a path. -/
inductive Entry
  | absent
  /-- There is something that cannot be read as a text. -/
  | unreadable (message : String)
  | text (content : String)
deriving DecidableEq, Repr

/-- Why a text could not be written. -/
inductive SaveFault
  /-- The directory for the file could not be made. -/
  | directory (message : String)
  | file (message : String)
deriving DecidableEq, Repr

/-- The surroundings of the program. -/
structure Host (m : Type → Type) where
  /-- What is found at a path. -/
  look : String → m Entry
  /-- The value of a variable. -/
  variableNamed : String → m (Option String)
  /-- Writes a text to a path, making the directories on the way. -/
  save : (path content : String) → m (Except SaveFault Unit)

/-- What was printed. -/
structure Transcript where
  out : String
  err : String
deriving DecidableEq, Repr

/-- Something that prints and may fail. -/
abbrev Job (m : Type → Type) := ExceptT Failure (StateT Transcript m)

variable {m : Type → Type} [Monad m]

/-- Prints on the channel for results. -/
def print (s : String) : Job m Unit := modify fun t => { t with out := t.out ++ s }

/-- Prints a line on the channel for results. -/
def printLine (s : String) : Job m Unit := print (s ++ "\n")

/-- Prints a line on the channel for messages. -/
def noteLine (s : String) : Job m Unit := modify fun t => { t with err := t.err ++ s ++ "\n" }

/-- Asks the host for something. -/
def ask {α : Type} (question : m α) : Job m α := ExceptT.lift (StateT.lift question)

namespace Host

/-- Whether there is anything at a path. -/
def has (host : Host m) (path : String) : Job m Bool := do
  return (← ask (host.look path)) != .absent

/-- The text of a file that has to be there; `unreadable` tells what it means if it cannot be
read. -/
def content (host : Host m) (path : String) (unreadable : String → Failure) : Job m String := do
  match ← ask (host.look path) with
  | .absent => throw (.missingFile path)
  | .unreadable message => throw (unreadable message)
  | .text s => return s

end Host

end Interchange.Cli
