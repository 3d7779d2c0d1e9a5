import Interchange.Cli.Options
/-!
# The command line

The commands of the program and their options.  Some options may stand before the command or after
it; what is given after it counts.  The path of the settings may also be given by a variable of the
environment, which counts less than both.

* `Command`, `CommandLine` — what there is to do.
* `CommandLine.parse` — reads the arguments of the program.
-/

namespace Interchange.Cli

/-- How results are printed. -/
inductive OutputFormat
  | human
  | json
  | yaml
  | jsonPretty
deriving DecidableEq, Repr

namespace OutputFormat

def ofName? : String → Option OutputFormat
  | "human" => some human
  | "json" => some json
  | "yaml" => some yaml
  | "json-pretty" => some jsonPretty
  | _ => none

end OutputFormat

/-- The shells for which completions can be written. -/
def shells : List String := ["bash", "zsh", "fish", "power-shell", "elvish"]

/-- Which pipeline is run. -/
inductive Target
  | pipeline (id : String)
  /-- The one that fits best. -/
  | routed (productLine sourceSystem : String) (transactionType : Option String)
deriving DecidableEq, Repr

/-- Runs a pipeline on an input. -/
structure RunCommand where
  input : String
  target : Target
  /-- Whether every step is shown. -/
  steps : Bool
  /-- The file for the output. -/
  saveTo : Option String
deriving DecidableEq, Repr

/-- Shows to which pipeline a request would go. -/
structure RouteCommand where
  productLine : String
  sourceSystem : String
  transactionType : Option String
  /-- Whether the scores of all routes are shown. -/
  all : Bool
deriving DecidableEq, Repr

/-- Runs one mapping on an input. -/
structure TransformCommand where
  mapping : String
  input : String
  /-- Whether a required field without a value is reported like any other error. -/
  continueOnMissing : Bool
  /-- Whether every field is shown. -/
  fields : Bool
  saveTo : Option String
deriving DecidableEq, Repr

/-- What the program is to do. -/
inductive Command
  | run (c : RunCommand)
  | route (c : RouteCommand)
  | transform (c : TransformCommand)
  /-- Shows what a bundle holds; with `strict` its diagnostics are an error. -/
  | validate (strict : Bool)
  | completions (shell : String)
deriving DecidableEq, Repr

/-- A whole command line. -/
structure CommandLine where
  /-- How much is told beside the results. -/
  verbosity : Nat
  quiet : Bool
  settings : Option String
  bundle : Option String
  format : OutputFormat
  showSecrets : Bool
  command : Command
deriving DecidableEq, Repr

/-- Any text. -/
def anyText (_ : String) : Bool := true

/-- A path, which is not empty. -/
def isPath (s : String) : Bool := !s.isEmpty

/-- An option with any text as its value. -/
def textOption (name : String) (letter : Option Char := none) : OptionRule :=
  ⟨name, letter, .setting anyText⟩

/-- An option with a path as its value. -/
def pathOption (name : String) (letter : Option Char := none) : OptionRule :=
  ⟨name, letter, .setting isPath⟩

/-- An option without a value. -/
def switch (name : String) (letter : Option Char := none) : OptionRule := ⟨name, letter, .switch⟩

/-- The options of every level. -/
def commonOptions : List OptionRule :=
  [⟨"verbose", some 'v', .repeatable⟩, switch "quiet" 'q', pathOption "config" 'c',
   pathOption "bundle" 'b',
   ⟨"output", some 'o', .setting fun s => (OutputFormat.ofName? s).isSome⟩,
   switch "no-color", switch "show-secrets"]

/-- The options and operands of a command. -/
def commandRules? (command : String) : Option LevelRules :=
  let rules (options : List OptionRule) (operands : List (String → Bool)) : Option LevelRules :=
    some ⟨commonOptions ++ options, operands, false⟩
  match command with
  | "run" =>
    rules
      [textOption "pipeline" 'p', textOption "product-line", textOption "source-system",
       textOption "transaction-type", switch "steps", pathOption "save-to"]
      [isPath]
  | "route" =>
    rules
      [textOption "product-line", textOption "source-system", textOption "transaction-type",
       switch "all"]
      []
  | "transform" =>
    rules
      [textOption "mapping" 'm', switch "continue-on-missing", switch "fields",
       pathOption "save-to"]
      [isPath]
  | "validate" => rules [switch "strict"] []
  | "completions" => rules [] [shells.contains]
  | _ => none

/-- The pipeline that a command line names or asks for. -/
def target? (l : Level) : Option Target :=
  match l.value? "pipeline", l.value? "product-line" with
  | some _, some _ => none
  | some id, none => some (.pipeline id)
  | none, some product =>
    (l.value? "source-system").map fun source => .routed product source (l.value? "transaction-type")
  | none, none => none

/-- The command of a level, if nothing is missing that it needs. -/
def command? (name : String) (l : Level) : Option Command :=
  match name with
  | "run" => do
    let input ← l.operands.head?
    let target ← target? l
    return .run ⟨input, target, l.has "steps", l.value? "save-to"⟩
  | "route" => do
    let product ← l.value? "product-line"
    let source ← l.value? "source-system"
    return .route ⟨product, source, l.value? "transaction-type", l.has "all"⟩
  | "transform" => do
    let mapping ← l.value? "mapping"
    let input ← l.operands.head?
    return .transform
      ⟨mapping, input, l.has "continue-on-missing", l.has "fields", l.value? "save-to"⟩
  | "validate" => some (.validate (l.has "strict"))
  | "completions" => l.operands.head?.map .completions
  | _ => none

/-- Whether the common options of a level go together. -/
def isConsistent (l : Level) (settingsVariable : Option String) : Bool :=
  !(l.has "quiet" && l.has "verbose") &&
    (l.has "config" || settingsVariable.all isPath)

namespace CommandLine

/-- A command line of two levels. -/
def ofLevels (outer inner : Level) (settingsVariable : Option String) (command : Command) :
    CommandLine :=
  let quiet := outer.has "quiet" || inner.has "quiet"
  let times := if inner.has "verbose" then inner.count "verbose" else outer.count "verbose"
  let value (name : String) := (inner.value? name).or (outer.value? name)
  { verbosity := if quiet then 0 else times
    quiet := quiet
    settings := (value "config").or settingsVariable
    bundle := value "bundle"
    format := ((value "output").bind OutputFormat.ofName?).getD .human
    showSecrets := outer.has "show-secrets" || inner.has "show-secrets"
    command := command }

/-- What the command `help` comes to: it explains the program or one of its commands. -/
def helpOn : List String → Stop
  | [] => .help
  | [name] => if name = "help" || (commandRules? name).isSome then .help else .usage
  | _ => .usage

/-- Reads the arguments of the program.  With a reason to stop comes the command that was asked
about, if there is one. -/
def parse (settingsVariable : Option String) (args : List String) :
    Except (Stop × Option String) CommandLine :=
  match readLevel ⟨commonOptions, [], true⟩ args with
  | .error stop => .error (stop, none)
  | .ok outer =>
    match outer.command with
    | none => .error (.usage, none)
    | some ("help", about) => .error (helpOn about, none)
    | some (name, args) =>
      match commandRules? name with
      | none => .error (.usage, none)
      | some rules =>
        match readLevel rules args with
        | .error stop => .error (stop, some name)
        | .ok inner =>
          match command? name inner with
          | none => .error (.usage, some name)
          | some command =>
            if isConsistent outer settingsVariable && isConsistent inner settingsVariable then
              .ok (ofLevels outer inner settingsVariable command)
            else .error (.usage, some name)

end CommandLine

end Interchange.Cli
