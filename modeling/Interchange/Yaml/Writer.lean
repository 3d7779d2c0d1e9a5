import Interchange.Number.Layout
import Interchange.Value.Basic
import Interchange.Yaml.Cursor
import Interchange.Yaml.Plain
/-!
# YAML text of values

Values are written in block style.  The entries of a list stand in the column of the key that the
list belongs to, everything else is indented by two columns, and a container inside of a list begins
on the line of its entry.  Empty containers are written in brackets.

A text is written without quotes where it would be read back as that text, else in single quotes, or
in double quotes where a character has to be escaped.  A text of several lines is written as a
literal block.  A key that does not fit on one line, or is too long, has a mark of its own.

* `TextStyle.of` — how a text is written.
* `Value.yaml` — the text of a value.
-/

namespace Interchange

namespace Yaml

/-- Whether a character can be written as it is. -/
def isPrintable (c : Char) : Bool :=
  let n := c.toNat
  n = 10 || (0x20 ≤ n && n ≤ 0x7E) || (0xA0 ≤ n && n ≤ 0xFFFD && n ≠ 0xFEFF) || 0x10000 ≤ n

/-- The characters that end a line. -/
def isBreak (c : Char) : Bool :=
  let n := c.toNat
  n = 10 || n = 13 || n = 0x85 || n = 0x2028 || n = 0x2029

/-- The characters that give a text a meaning when it begins with them. -/
def isLeadingMark (c : Char) : Bool := "#,[]\x7b\x7d&*!|>'\"%@\x60".toList.contains c

/-- Whether the beginning of a text would be read as structure. -/
def beginsWithMark (cs : List Char) : Bool :=
  Text.beginsWith ['-', '-', '-'] cs || Text.beginsWith ['.', '.', '.'] cs ||
    match cs with
    | [] => false
    | c :: cs => isLeadingMark c || ((c = '?' || c = ':' || c = '-') && blankOrEnd cs)

/-- Whether the inside of a text would be read as structure: a colon before a blank, or a comment
mark after one. -/
def holdsMark : (afterBlank : Bool) → List Char → Bool
  | _, [] => false
  | afterBlank, c :: cs =>
    (c = ':' && blankOrEnd cs) || (c = '#' && afterBlank) || holdsMark (blankOrEnd [c]) cs

/-- Whether two characters stand side by side somewhere. -/
def holdsPair (a b : Char) (cs : List Char) : Bool := Text.occursIn [a, b] cs

/-- Whether there is a blank or a line break at one of the ends of a text. -/
def hasLooseEnd (cs : List Char) : Bool :=
  let loose (c? : Option Char) := c?.any fun c => c = ' ' || isBreak c
  loose cs.head? || loose cs.getLast?

end Yaml

open Yaml

/-- How a text is written. -/
inductive TextStyle
  | plain
  | single
  | double
  | literal
deriving DecidableEq, Repr

/-- How a text is written. -/
def TextStyle.of (s : String) : TextStyle :=
  let cs := s.toList
  let special := cs.any fun c => !isPrintable c
  let ragged := holdsPair ' ' '\n' cs
  if cs.contains '\n' then
    if special || ragged || cs.getLast? = some ' ' then .double else .literal
  else if special then .double
  else if !Plain.isText s || hasLooseEnd cs || cs.any isBreak || beginsWithMark cs ||
      holdsMark (cs.head?.any isBlank) (cs.drop 1) then .single
  else .plain

namespace Yaml

/-- The character as a digit of base sixteen, in capitals. -/
def hexCapital (n : Nat) : Char := (Nat.digitChar n).toUpper

/-- Digits of base sixteen, padded to a width. -/
def hexDigits (width n : Nat) : List Char :=
  ((List.range width).map fun i => hexCapital (n / Nat.pow 16 i % 16)).reverse

/-- One character inside double quotes. -/
def escapeChar (c : Char) : List Char :=
  let n := c.toNat
  if c = '"' then ['\\', '"']
  else if c = '\\' then ['\\', '\\']
  else if isPrintable c && !isBreak c then [c]
  else if n = 0 then ['\\', '0']
  else if n = 7 then ['\\', 'a']
  else if n = 8 then ['\\', 'b']
  else if n = 9 then ['\\', 't']
  else if n = 10 then ['\\', 'n']
  else if n = 11 then ['\\', 'v']
  else if n = 12 then ['\\', 'f']
  else if n = 13 then ['\\', 'r']
  else if n = 27 then ['\\', 'e']
  else if n = 0x85 then ['\\', 'N']
  else if n = 0x2028 then ['\\', 'L']
  else if n = 0x2029 then ['\\', 'P']
  else if n ≤ 0xFF then '\\' :: 'x' :: hexDigits 2 n
  else if n ≤ 0xFFFF then '\\' :: 'u' :: hexDigits 4 n
  else '\\' :: 'U' :: hexDigits 8 n

/-- A text in single quotes; a quote is written twice. -/
def singleQuoted (s : String) : String :=
  String.ofList ('\'' :: (s.toList.flatMap fun c => if c = '\'' then [c, c] else [c]) ++ ['\''])

/-- A text in double quotes. -/
def doubleQuoted (s : String) : String :=
  String.ofList ('"' :: s.toList.flatMap escapeChar ++ ['"'])

/-- Blanks up to a column. -/
def pad (column : Nat) : String := String.ofList (List.replicate column ' ')

/-- The first line of a literal block: its indentation if the text begins with a blank, and what
happens to the line breaks at its end. -/
def literalHeader (s : String) : String :=
  let cs := s.toList
  let hint := if cs.head?.any fun c => c = ' ' || isBreak c then "2" else ""
  let chomp :=
    match cs.reverse with
    | '\n' :: rest => if rest.isEmpty || rest.head?.any isBreak then "+" else ""
    | _ => "-"
  "|" ++ hint ++ chomp

/-- The lines of a literal block.  The line break after the last line is left to what follows. -/
def literalLines (column : Nat) (s : String) : String :=
  let cs := s.toList
  let cs := if cs.getLast? = some '\n' then cs.dropLast else cs
  Text.join "\n" ((Text.splitAt '\n' cs).map fun line =>
    if line.isEmpty then "" else pad column ++ String.ofList line)

/-- A text; the lines of a block stand in some column. -/
def renderText (column : Nat) (s : String) : String :=
  match TextStyle.of s with
  | .plain => s
  | .single => singleQuoted s
  | .double => doubleQuoted s
  | .literal => literalHeader s ++ "\n" ++ literalLines column s

/-- Whether a key can be written without a mark of its own. -/
def isSimpleKey (s : String) : Bool := !s.toList.any isBreak && s.utf8ByteSize ≤ 128

/-- A value that is no container with something in it. -/
def renderLeaf (column : Nat) : Value → String
  | .null => "null"
  | .bool true => "true"
  | .bool false => "false"
  | .num (.int n _) => toString n
  | .num (.float x _) => FloatLayout.yaml.render x
  | .str s => renderText column s
  | .list _ => "[]"
  | .obj _ => "\x7b\x7d"

mutual

/-- A value behind the mark of an entry that stands in some column. -/
def renderEntry (column : Nat) : Value → String
  | .list items => if items.isEmpty then "[]" else renderItems (column + 2) items
  | .obj members => if members.isEmpty then "\x7b\x7d" else renderMembers (column + 2) members
  | v => renderLeaf (column + 2) v

/-- A value behind the colon of a key that stands in some column. -/
def renderMember (column : Nat) : Value → String
  | .list items =>
    if items.isEmpty then " []" else "\n" ++ pad column ++ renderItems column items
  | .obj members =>
    if members.isEmpty then " \x7b\x7d"
    else "\n" ++ pad (column + 2) ++ renderMembers (column + 2) members
  | v => " " ++ renderLeaf (column + 2) v

/-- The entries of a list that stand in some column. -/
def renderItems (column : Nat) : List Value → String
  | [] => ""
  | v :: vs =>
    "- " ++ renderEntry column v ++
      if vs.isEmpty then "" else "\n" ++ pad column ++ renderItems column vs

/-- The members of an object whose keys stand in some column. -/
def renderMembers (column : Nat) : List (String × Value) → String
  | [] => ""
  | (k, v) :: ms =>
    (if isSimpleKey k then renderText (column + 2) k ++ ":" ++ renderMember column v
      else "? " ++ renderText (column + 2) k ++ "\n" ++ pad column ++ ": " ++
        renderEntry column v) ++
      if ms.isEmpty then "" else "\n" ++ pad column ++ renderMembers column ms

end

end Yaml

/-- The YAML text of a value. -/
def Value.yaml (v : Value) : String :=
  (match v with
    | .list items => if items.isEmpty then "[]" else Yaml.renderItems 0 items
    | .obj members => if members.isEmpty then "\x7b\x7d" else Yaml.renderMembers 0 members
    | v => Yaml.renderLeaf 2 v) ++ "\n"

end Interchange
