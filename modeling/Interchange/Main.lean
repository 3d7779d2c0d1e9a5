import Interchange.Cli.Program
/-!
# The program on the system

The files and variables of the system as a host, and the program on it.
-/

namespace Interchange.Cli

/-- The number of a system error, which some parts of the system give with a minus sign. -/
def errorNumber (code : UInt32) : Nat :=
  if code.toNat < 0x80000000 then code.toNat else 0x100000000 - code.toNat

/-- The number and the wording of what the system says of a file that could not be used. -/
def describeSystemError (e : IO.Error) : Nat × String :=
  let worded (code : UInt32) (details : String) : Nat × String :=
    let n := errorNumber code
    let message :=
      match n with
      | 2 => "No such file or directory"
      | 13 => "Permission denied"
      | 17 => "File exists"
      | 20 => "Not a directory"
      | 21 => "Is a directory"
      | _ => details
    (n, s!"{message} (os error {n})")
  match e with
  | .noFileOrDirectory _ code details | .alreadyExists _ code details
  | .permissionDenied _ code details | .inappropriateType _ code details
  | .otherError code details => worded code details
  | e => (0, toString e)

/-- The number with which the system says that a file stands in the place of a directory. -/
def notDirectoryNumber : Nat := 20

/-- The numbers with which the system says that there is nothing at a path. -/
def absentNumbers : List Nat := [2, notDirectoryNumber]

/-- What is found at a path of the system. -/
def lookOnSystem (path : String) : IO Entry := do
  try
    match String.fromUTF8? (← IO.FS.readBinFile path) with
    | some s => return .text s
    | none => return .unreadable "stream did not contain valid UTF-8"
  catch e =>
    let (number, message) := describeSystemError e
    return if absentNumbers.contains number then .absent else .unreadable message

/-- Does something with a file; gives the number and the wording of what the system says if that
cannot be done. -/
def attempt (act : IO Unit) : IO (Except (Nat × String) Unit) := do
  try
    act
    return .ok ()
  catch e => return .error (describeSystemError e)

/-- Makes a directory and those above it, unless it is there. -/
def makeDirectory (path : String) : IO (Except (Nat × String) Unit) := do
  match ← attempt (IO.FS.createDir path) with
  | .ok () => return .ok ()
  | .error fault =>
    if fault.1 = notDirectoryNumber then return .error fault
    else attempt (IO.FS.createDirAll path)

/-- Writes a text to a path of the system. -/
def saveOnSystem (path content : String) : IO (Except SaveFault Unit) := do
  let made ←
    match FileName.parent? path with
    | some directory => makeDirectory directory
    | none => pure (.ok ())
  match made with
  | .error fault => return .error (.directory fault.2)
  | .ok () => return (← attempt (IO.FS.writeFile path content)).mapError fun fault => .file fault.2

/-- The system as a host. -/
def systemHost : Host IO := ⟨lookOnSystem, fun name => IO.getEnv name, saveOnSystem⟩

end Interchange.Cli

/-- Runs the program and prints what it printed. -/
def main (args : List String) : IO UInt32 := do
  let ending ← Interchange.Cli.program Interchange.Cli.systemHost args
  (← IO.getStdout).putStr ending.printed.out
  (← IO.getStderr).putStr ending.printed.err
  return ending.exitCode.toUInt32
