import Interchange.Expr.Eval
import Interchange.Expr.Gate
/-!
# Expressions

An expression is a text such as `value * 1.05 + fee` or `premium > 1000 && state == "CA"`.  It is
looked over, split into tokens, parsed and evaluated, in this order.

* `evaluate` — the scalar of an expression.
* `number` — the finite number of an arithmetic expression.
* `holds` — whether a condition is truthy.
-/

namespace Interchange.Expr

/-- Why an expression has no value. -/
inductive Error
  | refused (expression : String) (why : Refusal)
  | failed (expression : String) (why : Fault)
deriving DecidableEq

/-- The wording of a refusal. -/
def Refusal.message : Refusal → String
  | .empty => "expression is empty"
  | .unterminatedText => "unterminated string literal"
  | .character c => s!"character '{c}' is not permitted"
  | .notNumeric name => s!"variable '{name}' is not numeric"
  | .unknown name => s!"unknown identifier '{name}'"

/-- The wording of a fault. -/
def Fault.message : Fault → String
  | .invalidNumber literal => s!"invalid number '{literal}'"
  | .unterminatedText => "unterminated string literal"
  | .unexpectedCharacter c position => s!"unexpected character '{c}' at position {position}"
  | .unexpectedToken t => s!"unexpected token {t.describe}"
  | .unclosedParenthesis => "missing closing parenthesis"
  | .unexpectedEnd => "unexpected end of expression"
  | .unbound name => s!"unbound variable '{name}'"
  | .notANumber s => s!"'{s.display}' is not a number"
  | .divisionByZero => "division by zero"
  | .notFinite x => s!"result is not finite ({FloatLayout.plain.render x})"
  | .notNumeric s => s!"expected a numeric result, got {s.display}"

/-- The wording of an error. -/
def Error.message : Error → String
  | .refused e why => s!"Unsafe expression '{e}': {why.message}"
  | .failed e why => s!"Expression evaluation failed for '{e}': {why.message}"

/-- Looks an expression over. -/
def checkSafety (expression : String) (b : Bindings) (mode : Mode) : Except Error Unit :=
  (Gate.check b mode expression).mapError (.refused expression)

/-- The tokens of an expression. -/
def tokenize (expression : String) : Except Error (List Token) :=
  (Token.scan 0 expression.toList).mapError (.failed expression)

/-- The tree of an expression. -/
def parse (expression : String) : Except Error Tree := do
  let ts ← tokenize expression
  (Tree.parse ts).mapError (.failed expression)

/-- The scalar of an expression. -/
def evaluate (expression : String) (b : Bindings) (mode : Mode) : Except Error Scalar := do
  checkSafety expression b mode
  let t ← parse expression
  (t.eval b).mapError (.failed expression)

/-- The finite number of an arithmetic expression. -/
def number (expression : String) (b : Bindings) : Except Error Float := do
  match ← evaluate expression b .arithmetic with
  | .number x => if x.isFinite then return x else .error (.failed expression (.notFinite x))
  | s => .error (.failed expression (.notNumeric s))

/-- Whether a condition is truthy. -/
def holds (expression : String) (b : Bindings) : Except Error Bool :=
  (evaluate expression b .condition).map Scalar.truthy

end Interchange.Expr
