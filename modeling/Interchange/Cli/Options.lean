/-!
# Options on a command line

Options have a long name, perhaps a letter, and perhaps a value.  A value stands in the same
argument, after a sign of equality, or in the next one; letters without values may share an
argument. After two dashes alone everything is an operand.

* `OptionRule`, `LevelRules` — what a level of a command line knows.
* `Level` — what was given on one level: its options and operands, and the command where it ends.
* `readLevel` — reads the arguments of a level.
-/

namespace Interchange.Cli

/-- What may be done with an option. -/
inductive OptionKind
  /-- It may be given once and has no value. -/
  | switch
  /-- It may be given any number of times and has no value. -/
  | repeatable
  /-- It may be given once and has a value that passes a test. -/
  | setting (accepts : String → Bool)

/-- An option that a level knows. -/
structure OptionRule where
  name : String
  letter : Option Char
  kind : OptionKind

/-- Why a command line is not run. -/
inductive Stop
  /-- It is not well-formed. -/
  | usage
  | help
  | version
deriving DecidableEq, Repr

/-- What was given on one level. -/
structure Level where
  /-- The options with their values, in order. -/
  options : List (String × Option String)
  operands : List String
  /-- The word that ends the level, with the arguments after it. -/
  command : Option (String × List String)
deriving DecidableEq, Repr

namespace Level

/-- Nothing was given. -/
def empty : Level := ⟨[], [], none⟩

/-- Whether an option was given. -/
def has (l : Level) (name : String) : Bool := l.options.any fun o => o.1 = name

/-- How often an option was given. -/
def count (l : Level) (name : String) : Nat := (l.options.filter fun o => o.1 = name).length

/-- The value of an option. -/
def value? (l : Level) (name : String) : Option String :=
  (l.options.find? fun o => o.1 = name).bind Prod.snd

/-- Adds an option. -/
def add (l : Level) (name : String) (value : Option String) : Level :=
  { l with options := l.options ++ [(name, value)] }

/-- Adds an option that has no value, if it may be given again. -/
def addSwitch (l : Level) (r : OptionRule) : Except Stop Level :=
  match r.kind with
  | .setting _ => .error .usage
  | .repeatable => .ok (l.add r.name none)
  | .switch => if l.has r.name then .error .usage else .ok (l.add r.name none)

/-- Adds an option with its value, if it may be given again and the value passes. -/
def addValue (l : Level) (r : OptionRule) (value : String) : Except Stop Level :=
  match r.kind with
  | .setting accepts =>
    if l.has r.name || !accepts value then .error .usage else .ok (l.add r.name (some value))
  | _ => .error .usage

end Level

/-- Whether an option has a value. -/
def OptionRule.hasValue (r : OptionRule) : Bool :=
  match r.kind with
  | .setting _ => true
  | _ => false

/-- Whether an argument can be the value of the option before it. -/
def canBeValue (arg : String) : Bool := arg = "-" || arg.toList.head? ≠ some '-'

/-- What an argument did: the level after it, and the option that still waits for its value. -/
abbrev Step := Level × Option OptionRule

/-- Reads an argument that begins with two dashes; `text` is what follows them. -/
def readLong (rules : List OptionRule) (l : Level) (text : List Char) : Except Stop Step :=
  let name := String.ofList (text.takeWhile (· ≠ '='))
  let value : Option String :=
    match text.dropWhile (· ≠ '=') with
    | _ :: v => some (String.ofList v)
    | [] => none
  match rules.find? fun r => r.name = name, value with
  | some r, some v => (l.addValue r v).map fun l => (l, none)
  | some r, none =>
    if r.hasValue then .ok (l, some r) else (l.addSwitch r).map fun l => (l, none)
  | none, some _ => .error .usage
  | none, none =>
    if name = "help" then .error .help
    else if name = "version" then .error .version
    else .error .usage

/-- Reads the letters of an argument that begins with one dash.  The first that stands for an option
with a value takes what follows it. -/
def readLetters (rules : List OptionRule) (l : Level) : List Char → Except Stop Step
  | [] => .ok (l, none)
  | c :: cs =>
    match rules.find? fun r => r.letter = some c with
    | some r =>
      if r.hasValue then
        match cs with
        | [] => .ok (l, some r)
        | '=' :: v => (l.addValue r (String.ofList v)).map fun l => (l, none)
        | v => (l.addValue r (String.ofList v)).map fun l => (l, none)
      else
        match l.addSwitch r with
        | .ok l => readLetters rules l cs
        | .error stop => .error stop
    | none =>
      if c = 'h' then .error .help else if c = 'V' then .error .version else .error .usage

/-- What a level knows. -/
structure LevelRules where
  options : List OptionRule
  /-- The tests that its operands have to pass, one for each that there may be. -/
  operands : List (String → Bool)
  /-- Whether the first operand is a command, which ends the level. -/
  hasCommands : Bool

/-- Adds an operand, if there may be another and it passes its test. -/
def Level.addOperand (l : Level) (rules : LevelRules) (arg : String) : Except Stop Level :=
  match rules.operands[l.operands.length]? with
  | some accepts =>
    if accepts arg then .ok { l with operands := l.operands ++ [arg] } else .error .usage
  | none => .error .usage

/-- Reads the arguments of a level after others; `waiting` is an option without its value, and
`closed` is set behind two dashes. -/
def readArguments (rules : LevelRules) :
    Level → (waiting : Option OptionRule) → (closed : Bool) → List String → Except Stop Level
  | _, some _, _, [] => .error .usage
  | l, none, _, [] => .ok l
  | l, some r, closed, arg :: args =>
    if canBeValue arg then
      match l.addValue r arg with
      | .ok l => readArguments rules l none closed args
      | .error stop => .error stop
    else .error .usage
  | l, none, true, arg :: args =>
    match l.addOperand rules arg with
    | .ok l => readArguments rules l none true args
    | .error stop => .error stop
  | l, none, false, arg :: args =>
    match arg.toList with
    | ['-', '-'] => readArguments rules l none true args
    | '-' :: '-' :: text =>
      match readLong rules.options l text with
      | .ok (l, waiting) => readArguments rules l waiting false args
      | .error stop => .error stop
    | '-' :: c :: cs =>
      match readLetters rules.options l (c :: cs) with
      | .ok (l, waiting) => readArguments rules l waiting false args
      | .error stop => .error stop
    | _ =>
      if rules.hasCommands then .ok { l with command := some (arg, args) }
      else
        match l.addOperand rules arg with
        | .ok l => readArguments rules l none false args
        | .error stop => .error stop

/-- Reads the arguments of a level. -/
def readLevel (rules : LevelRules) (args : List String) : Except Stop Level :=
  readArguments rules .empty none false args

end Interchange.Cli
