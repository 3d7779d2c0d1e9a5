import Interchange.Number.Layout
import Interchange.Value.Basic
/-!
# JSON text of values

The compact form, in which messages are sent and values are quoted in messages, and the indented
form of reports.  Both write members in their order, characters beyond ASCII as they are, and the
control characters as the two-character escapes of JSON where there is one, else as `\u00xx`.

* `Value.render` — the compact form.
* `Value.pretty` — the form with one member or item a line, indented by two blanks.
-/

namespace Interchange

namespace Json

/-- A hexadecimal digit in lower case. -/
def hexDigit (n : Nat) : Char := Nat.digitChar n

/-- One character inside a JSON string. -/
def escapeChar (c : Char) : List Char :=
  if c = '"' then ['\\', '"']
  else if c = '\\' then ['\\', '\\']
  else if c.toNat = 8 then ['\\', 'b']
  else if c.toNat = 9 then ['\\', 't']
  else if c.toNat = 10 then ['\\', 'n']
  else if c.toNat = 12 then ['\\', 'f']
  else if c.toNat = 13 then ['\\', 'r']
  else if c.toNat < 32 then
    ['\\', 'u', '0', '0', hexDigit (c.toNat / 16), hexDigit (c.toNat % 16)]
  else [c]

/-- A string with its quotes. -/
def quote (s : String) : String :=
  String.ofList ('"' :: (s.toList.flatMap escapeChar ++ ['"']))

end Json

/-- The text of a number. -/
def Number.render : Number → String
  | .int n _ => toString n
  | .float x _ => FloatLayout.json.render x

namespace Value

mutual

/-- The compact JSON text. -/
def render : Value → String
  | null => "null"
  | bool true => "true"
  | bool false => "false"
  | num n => n.render
  | str s => Json.quote s
  | list items => "[" ++ String.intercalate "," (renderItems items) ++ "]"
  | obj members => "\x7b" ++ String.intercalate "," (renderMembers members) ++ "\x7d"

/-- The texts of the items of a list. -/
def renderItems : List Value → List String
  | [] => []
  | v :: vs => render v :: renderItems vs

/-- The texts of the members of an object. -/
def renderMembers : List (String × Value) → List String
  | [] => []
  | (k, v) :: ms => (Json.quote k ++ ":" ++ render v) :: renderMembers ms

end

/-- The line break and indentation before an entry at some depth. -/
def newline (depth : Nat) : String :=
  String.ofList ('\n' :: List.replicate (2 * depth) ' ')

mutual

/-- The indented JSON text of a value that stands at some depth. -/
def prettyAt (depth : Nat) : Value → String
  | list [] => "[]"
  | obj [] => "\x7b\x7d"
  | list items =>
    "[" ++ String.intercalate "," (prettyItems (depth + 1) items) ++ newline depth ++ "]"
  | obj members =>
    "\x7b" ++ String.intercalate "," (prettyMembers (depth + 1) members) ++ newline depth ++ "\x7d"
  | v => render v

/-- The lines of the items of a list. -/
def prettyItems (depth : Nat) : List Value → List String
  | [] => []
  | v :: vs => (newline depth ++ prettyAt depth v) :: prettyItems depth vs

/-- The lines of the members of an object. -/
def prettyMembers (depth : Nat) : List (String × Value) → List String
  | [] => []
  | (k, v) :: ms =>
    (newline depth ++ Json.quote k ++ ": " ++ prettyAt depth v) :: prettyMembers depth ms

end

/-- The indented JSON text. -/
def pretty (v : Value) : String := prettyAt 0 v

end Value

end Interchange
