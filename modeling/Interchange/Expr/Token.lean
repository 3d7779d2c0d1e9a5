import Interchange.Expr.Scalar
import Interchange.Text.Quoted
/-!
# Tokens of expressions

Numbers, quoted texts, names, and the signs of operators and parentheses, separated by blanks where
needed.  A number is a run of digits and points; a name begins with an ASCII letter or an
underscore; a text stands between two equal quotes and knows no escape.  Equality and inequality
may be written with a second `=`.

* `Token.read` — the token at the beginning of a text.
* `Token.scan` — all tokens of a text.
-/

namespace Interchange.Expr

/-- A token of an expression. -/
inductive Token
  | number (x : Float)
  | text (s : String)
  | name (s : String)
  | plus | minus | star | slash | percent
  | openParen | closeParen
  | less | lessEqual | greater | greaterEqual
  | equal | notEqual
  | and | or | not
deriving DecidableEq

/-- Why an expression that passed the gate has no value. -/
inductive Fault
  | invalidNumber (literal : String)
  | unterminatedText
  | unexpectedCharacter (c : Char) (position : Nat)
  | unexpectedToken (t : Token)
  | unclosedParenthesis
  | unexpectedEnd
  | unbound (name : String)
  | notANumber (s : Scalar)
  | divisionByZero
  | notFinite (x : Float)
  | notNumeric (s : Scalar)
deriving DecidableEq

namespace Token

/-- The name of a token in messages, with its content. -/
def describe : Token → String
  | number x => s!"Number({FloatLayout.token.render x})"
  | text s => s!"Str({Text.quoted s})"
  | name s => s!"Ident({Text.quoted s})"
  | plus => "Plus"
  | minus => "Minus"
  | star => "Star"
  | slash => "Slash"
  | percent => "Percent"
  | openParen => "LParen"
  | closeParen => "RParen"
  | less => "Lt"
  | lessEqual => "Le"
  | greater => "Gt"
  | greaterEqual => "Ge"
  | equal => "Eq"
  | notEqual => "Ne"
  | and => "And"
  | or => "Or"
  | not => "Not"

/-- The characters of numbers. -/
def isNumeral (c : Char) : Bool := c.isDigit || c = '.'

/-- The characters that begin a name. -/
def beginsName (c : Char) : Bool := c.isAlpha || c = '_'

/-- The characters of names. -/
def isNameChar (c : Char) : Bool := c.isAlphanum || c = '_'

/-- Whether a number begins with this character and these. -/
def beginsNumber (c : Char) (cs : List Char) : Bool :=
  c.isDigit || (c = '.' && cs.head?.any Char.isDigit)

/-- Whether a character begins a quoted text. -/
def isQuote (c : Char) : Bool := c = '"' || c = '\''

/-- The sign that begins with a character, and how many more characters belong to it. -/
def sign? (c : Char) (cs : List Char) : Option (Token × Nat) :=
  match c, cs with
  | '+', _ => some (plus, 0)
  | '-', _ => some (minus, 0)
  | '*', _ => some (star, 0)
  | '/', _ => some (slash, 0)
  | '%', _ => some (percent, 0)
  | '(', _ => some (openParen, 0)
  | ')', _ => some (closeParen, 0)
  | '<', '=' :: _ => some (lessEqual, 1)
  | '<', _ => some (less, 0)
  | '>', '=' :: _ => some (greaterEqual, 1)
  | '>', _ => some (greater, 0)
  | '=', '=' :: '=' :: _ => some (equal, 2)
  | '=', '=' :: _ => some (equal, 1)
  | '!', '=' :: '=' :: _ => some (notEqual, 2)
  | '!', '=' :: _ => some (notEqual, 1)
  | '!', _ => some (not, 0)
  | '&', '&' :: _ => some (and, 1)
  | '|', '|' :: _ => some (or, 1)
  | _, _ => none

/-- Reads what begins with a character that stands at a position: a token, or nothing for a blank,
and how many of the characters after it belong to it. -/
def read (position : Nat) (c : Char) (cs : List Char) : Except Fault (Option Token × Nat) :=
  if Text.isBlank c then .ok (none, 0)
  else if beginsNumber c cs then
    let tail := cs.takeWhile isNumeral
    let literal := String.ofList (c :: tail)
    match Numeral.float? literal with
    | some x => .ok (some (number x), tail.length)
    | none => .error (.invalidNumber literal)
  else if beginsName c then
    let tail := cs.takeWhile isNameChar
    .ok (some (name (String.ofList (c :: tail))), tail.length)
  else if isQuote c then
    let inner := cs.takeWhile (· ≠ c)
    if inner.length < cs.length then .ok (some (text (String.ofList inner)), inner.length + 1)
    else .error .unterminatedText
  else
    match sign? c cs with
    | some (t, more) => .ok (some t, more)
    | none => .error (.unexpectedCharacter c position)

/-- The tokens of a text that begins at a position. -/
def scan (position : Nat) : List Char → Except Fault (List Token)
  | [] => .ok []
  | c :: cs => do
    let (token?, more) ← read position c cs
    let rest ← scan (position + 1 + more) (cs.drop more)
    return token?.toList ++ rest
  termination_by cs => cs.length
  decreasing_by simp only [List.length_drop, List.length_cons]; omega

end Token

end Interchange.Expr
