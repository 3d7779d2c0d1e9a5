import Interchange.Expr.Token
/-!
# The safety gate

An expression is looked over before it is read.  Its characters must be among those that its mode
permits, and its names must be bound.  In arithmetic a name must be bound to a number, so that an
expression is digits, signs and parentheses once the numbers stand for the names.  A condition may
compare and combine, quote texts, and use the literals `true`, `false` and `null`.

* `Gate.check` — why an expression is refused, if it is.
-/

namespace Interchange.Expr

/-- What an expression is meant for. -/
inductive Mode
  | arithmetic
  | condition
deriving DecidableEq

/-- Why an expression was refused. -/
inductive Refusal
  | empty
  | unterminatedText
  | character (c : Char)
  | notNumeric (name : String)
  | unknown (name : String)
deriving DecidableEq

namespace Gate

/-- The signs and blanks of arithmetic. -/
def isArithmetic (c : Char) : Bool := "0123456789.+-*/%() \t\r\n".toList.contains c

/-- The further signs of conditions. -/
def isConditional (c : Char) : Bool := "<>=!&|\"'".toList.contains c

/-- The names that are literals. -/
def literals : List String := ["true", "false", "null"]

/-- Looks at a name. -/
def checkName (b : Bindings) (mode : Mode) (name : String) : Except Refusal Unit :=
  match b.get? name, mode with
  | some (.number _), _ => .ok ()
  | some _, .condition => .ok ()
  | some _, .arithmetic => .error (.notNumeric name)
  | none, .condition => if literals.contains name then .ok () else .error (.unknown name)
  | none, .arithmetic => .error (.unknown name)

/-- Looks at what begins with a character; the answer is how many of the characters after it belong
to it. -/
def step (b : Bindings) (mode : Mode) (c : Char) (cs : List Char) : Except Refusal Nat :=
  if Token.beginsName c then
    let tail := cs.takeWhile Token.isNameChar
    (checkName b mode (String.ofList (c :: tail))).map fun _ => tail.length
  else if mode = .condition && Token.isQuote c then
    let inner := cs.takeWhile (· ≠ c)
    if inner.length < cs.length then .ok (inner.length + 1) else .error .unterminatedText
  else if isArithmetic c || (mode = .condition && isConditional c) then .ok 0
  else .error (.character c)

/-- Looks at all characters. -/
def checkFrom (b : Bindings) (mode : Mode) : List Char → Except Refusal Unit
  | [] => .ok ()
  | c :: cs => do
    let more ← step b mode c cs
    checkFrom b mode (cs.drop more)
  termination_by cs => cs.length
  decreasing_by simp only [List.length_drop, List.length_cons]; omega

/-- Looks an expression over. -/
def check (b : Bindings) (mode : Mode) (expression : String) : Except Refusal Unit :=
  if Text.isBlankText expression then .error .empty else checkFrom b mode expression.toList

end Gate

end Interchange.Expr
