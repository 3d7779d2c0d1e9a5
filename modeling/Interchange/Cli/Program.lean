import Interchange.Cli.Commands
/-!
# The program

The program reads its command line, loads its settings, does what the command says, and ends with an
exit code.  It does all of this by asking a host, so that it is the same program on the system and
in memory.

* `program` — the program.
-/

namespace Interchange.Cli

/-- How the program ended. -/
structure Ending where
  exitCode : Nat
  printed : Transcript
deriving DecidableEq, Repr

/-- The name and version of the program, or of one of its commands. -/
def versionLine (command : Option String) : String :=
  "ratebridge" ++ (command.elim "" fun c => s!"-{c}") ++ " 0.1.0\n"

/-- How the program is used. -/
def usageText : String :=
  "Usage: ratebridge [OPTIONS] <COMMAND>\n\n" ++
    "Commands:\n" ++
    "  run INPUT (--pipeline ID | --product-line LINE --source-system SYSTEM)\n" ++
    "      [--transaction-type TYPE] [--steps] [--save-to FILE]\n" ++
    "  route --product-line LINE --source-system SYSTEM [--transaction-type TYPE] [--all]\n" ++
    "  transform INPUT --mapping ID [--continue-on-missing] [--fields] [--save-to FILE]\n" ++
    "  validate [--strict]\n" ++
    "  completions SHELL\n\n" ++
    "Options:\n" ++
    "  -v, --verbose   -q, --quiet   -c, --config FILE   -b, --bundle FILE\n" ++
    "  -o, --output human|json|yaml|json-pretty   --no-color   --show-secrets\n" ++
    "  -h, --help   -V, --version\n"

/-- The ending of a program that is not run. -/
def Stop.ending (command : Option String) : Stop → Ending
  | .usage => ⟨2, ⟨"", "error: the command line is not understood\n\n" ++ usageText⟩⟩
  | .help => ⟨0, ⟨usageText, ""⟩⟩
  | .version => ⟨0, ⟨versionLine command, ""⟩⟩

/-- The settings with the bundle that the command line names. -/
def Settings.withBundle (s : Settings) (bundle : Option String) : Settings :=
  { s with bundle := bundle.or s.bundle }

variable {m : Type → Type} [Monad m]

/-- Loads the settings, chooses the format of logs, and does what the command says.  Settings that
could not be loaded are reported after the logs were set up. -/
def runCommand (host : Host m) (c : CommandLine) : Job m Unit := do
  let settings : Except Failure Settings ←
    tryCatch (return .ok (← Settings.load host c.settings)) fun failure => return .error failure
  let logWish :=
    match settings with
    | .ok s => s.log.format
    | .error _ => none
  let _ ← LogFormat.choose c.verbosity logWish (← ask (host.variableNamed "RATEBRIDGE_LOG_FORMAT"))
  match settings with
  | .error failure => throw failure
  | .ok s => perform host (.ofCommandLine c) (s.withBundle c.bundle) c.command

/-- The ending of something that printed and may have failed. -/
def endingOf : Except Failure Unit × Transcript → Ending
  | (.ok (), t) => ⟨0, t⟩
  | (.error failure, t) => ⟨failure.exitCode, { t with err := t.err ++ failure.report }⟩

/-- The program. -/
def program (host : Host m) (args : List String) : m Ending := do
  match CommandLine.parse (← host.variableNamed "RATEBRIDGE_CONFIG") args with
  | .error (stop, command) => return stop.ending command
  | .ok c => return endingOf (← (runCommand host c).run.run ⟨"", ""⟩)

end Interchange.Cli
