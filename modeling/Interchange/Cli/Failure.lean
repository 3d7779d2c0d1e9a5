import Interchange.Error
/-!
# How the program ends

Every reason for which the program does not do what it was asked to has an exit code of its own, so
that a script can tell a missing file from a failed run.

* `Failure.message`, `Failure.label` — what is printed.
* `Failure.exitCode` — the exit code.
-/

namespace Interchange.Cli

/-- Why the program did not do what it was asked to. -/
inductive Failure
  /-- A file could not be read or written. -/
  | file (message : String)
  | core (e : Error)
  | missingFile (path : String)
  /-- An input is not in the format that its name says. -/
  | badInput (path expected reason : String)
  | badSetting (message : String)
  /-- No bundle was named. -/
  | noBundle
  | unknownMapping (id : String) (available : List String)
  | failedRun (pipelineId message : String)
  /-- A bundle has diagnostics that were not to be there. -/
  | diagnostics (count : Nat)
  | badJson (reason : String)
  | badYaml (reason : String)
  | badToml (reason : String)
  /-- Something failed while something else was done. -/
  | during (activity : String) (cause : Failure)
  /-- The program panicked; this is no failure that it tells of itself. -/
  | panicked (p : Panic)

namespace Failure

/-- The wording of a failure. -/
def message : Failure → String
  | file m => s!"IO error: {m}"
  | core e => e.message
  | missingFile path => s!"File not found: {path}"
  | badInput path expected reason =>
    s!"Invalid file format for {path}: expected {expected} ({reason})"
  | badSetting m => s!"Configuration error: {m}"
  | noBundle =>
    "No configuration bundle given. Pass --bundle, set RATEBRIDGE_BUNDLE or add \x60bundle:\x60 " ++
      "to ratebridge.yaml"
  | unknownMapping id available =>
    s!"Mapping '{id}' not found (available: " ++ Text.join ", " available ++ ")"
  | failedRun id m => s!"Pipeline '{id}' failed: {m}"
  | diagnostics n => s!"Bundle has {n} diagnostic(s)"
  | badJson reason => s!"JSON error: {reason}"
  | badYaml reason => s!"YAML error: {reason}"
  | badToml reason => s!"TOML error: {reason}"
  | during activity cause => s!"{activity}: {cause.message}"
  | panicked p => p.message

/-- What stands before the wording. -/
def label : Failure → String
  | core e => s!"Error [{e.family.name}]:"
  | panicked _ => "thread 'main' panicked:"
  | _ => "Error:"

def exitCode : Failure → Nat
  | file _ => 1
  | core _ => 2
  | missingFile _ => 3
  | badInput .. => 4
  | badSetting _ => 5
  | noBundle => 7
  | unknownMapping .. => 8
  | failedRun .. => 9
  | diagnostics _ => 10
  | badJson _ => 12
  | badYaml _ => 13
  | badToml _ => 14
  | during .. => 99
  | panicked _ => 101

/-- Whether the reader is told where to find help. -/
def asksForHelp : Failure → Bool
  | noBundle => true
  | _ => false

/-- All that is printed about a failure. -/
def report (f : Failure) : String :=
  s!"{f.label} {f.message}\n" ++
    if f.asksForHelp then "\nFor more information, try '--help'\n" else ""

end Failure

end Interchange.Cli
