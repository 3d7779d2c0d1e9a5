import Interchange.Number.Numeral
import Interchange.Shape
import Interchange.Text.Pieces
/-!
# Reading TOML scalars

Strings in four ways of writing, integers in four bases, floats, truth values and dates.  A date, an
infinity and NaN are well-formed but no value can hold them.

* `Toml.text?` — a string.
* `Toml.word?` — everything else that stands without quotes.
-/

namespace Interchange.Toml

/-- A reader of a part of a text, which gives what it read and what follows. -/
abbrev Scan (α : Type) := List Char → Option (α × List Char)

/-- The characters that may stand in a comment or a string. -/
def isPermitted (c : Char) : Bool := c = '\t' || (0x20 ≤ c.toNat && c.toNat ≠ 0x7F)

/-! ### Strings -/

/-- The value of a digit of base sixteen. -/
def hexDigit? (c : Char) : Option Nat :=
  if c.isDigit then some (c.toNat - '0'.toNat)
  else if 'a' ≤ c && c ≤ 'f' then some (c.toNat - 'a'.toNat + 10)
  else if 'A' ≤ c && c ≤ 'F' then some (c.toNat - 'A'.toNat + 10)
  else none

/-- The character whose number some digits of base sixteen give. -/
def charOf? (ds : List Char) : Option Char :=
  (ds.foldl (fun n? d => n?.bind fun n => (hexDigit? d).map (16 * n + ·)) (some 0)).bind fun n =>
    if n.isValidChar then some (Char.ofNat n) else none

/-- The character of a short escape. -/
def shortEscape? (c : Char) : Option Char :=
  match c with
  | 'b' => some (Char.ofNat 8)
  | 't' => some '\t'
  | 'n' => some '\n'
  | 'f' => some (Char.ofNat 12)
  | 'r' => some '\r'
  | '"' => some '"'
  | '\\' => some '\\'
  | _ => none

/-- How many digits follow the letter of an escape. -/
def escapeDigits? (c : Char) : Option Nat :=
  match c with
  | 'u' => some 4
  | 'U' => some 8
  | _ => none

/-- Reads a string of one line behind its opening quote; `seen` holds its characters, last first,
and `passing` counts the characters of an escape that are still to be passed over. -/
def lineTail? (quote : Char) (seen : List Char) : (passing : Nat) → Scan String
  | _, [] => none
  | passing + 1, _ :: cs => lineTail? quote seen passing cs
  | 0, c :: cs =>
    if c = quote then some (String.ofList seen.reverse, cs)
    else if c = '\\' && quote = '"' then
      match cs with
      | [] => none
      | d :: ds =>
        match shortEscape? d, escapeDigits? d with
        | some e, _ => lineTail? quote (e :: seen) 1 (d :: ds)
        | none, some k =>
          match (if ds.length < k then none else charOf? (ds.take k)) with
          | some e => lineTail? quote (e :: seen) (k + 1) (d :: ds)
          | none => none
        | none, none => none
    else if isPermitted c then lineTail? quote (c :: seen) 0 cs
    else none

/-- The blanks and line breaks that a backslash at the end of a line takes away. -/
def joinedBlanks (cs : List Char) : List Char :=
  cs.takeWhile fun c => c = ' ' || c = '\t' || c = '\n'

/-- Whether a line ends with nothing but blanks before it does. -/
def endsLine (cs : List Char) : Bool :=
  (cs.dropWhile fun c => c = ' ' || c = '\t').head? = some '\n'

/-- Reads a string of several lines behind its opening quotes.  Up to two quotes may stand right
before the three that close it. -/
def blockTail? (quote : Char) (seen : List Char) : (passing : Nat) → Scan String
  | _, [] => none
  | passing + 1, _ :: cs => blockTail? quote seen passing cs
  | 0, c :: cs =>
    if Text.beginsWith [quote, quote, quote] (c :: cs) then
      let extra := min 2 ((c :: cs).takeWhile (· = quote) |>.drop 3).length
      some (String.ofList (List.replicate extra quote ++ seen).reverse, cs.drop (2 + extra))
    else if c = '\\' && quote = '"' then
      if endsLine cs then blockTail? quote seen (joinedBlanks cs).length cs
      else
        match cs with
        | [] => none
        | d :: ds =>
          match shortEscape? d, escapeDigits? d with
          | some e, _ => blockTail? quote (e :: seen) 1 (d :: ds)
          | none, some k =>
            match (if ds.length < k then none else charOf? (ds.take k)) with
            | some e => blockTail? quote (e :: seen) (k + 1) (d :: ds)
            | none => none
          | none, none => none
    else if isPermitted c || c = '\n' then blockTail? quote (c :: seen) 0 cs
    else none

/-- Reads a string of one line. -/
def line? : Scan String
  | quote :: cs => if quote = '"' || quote = '\'' then lineTail? quote [] 0 cs else none
  | [] => none

/-- Reads a string. -/
def text? : Scan String := fun cs =>
  match cs with
  | a :: b :: c :: rest =>
    if (a = '"' || a = '\'') && b = a && c = a then
      blockTail? a [] 0 (if rest.head? = some '\n' then rest.drop 1 else rest)
    else line? cs
  | cs => line? cs

/-! ### Numbers, truth values and dates -/

/-- Digits with single underscores between them. -/
def digits? (isDigit : Char → Bool) : (between : Bool) → List Char → Option (List Char)
  | between, [] => if between then some [] else none
  | between, c :: cs =>
    if isDigit c then (digits? isDigit true cs).map (c :: ·)
    else if c = '_' && between then digits? isDigit false cs
    else none

/-- The value of digits in a base. -/
def ofDigits (base : Nat) (ds : List Char) : Nat :=
  ds.foldl (fun n d => base * n + (hexDigit? d).getD 0) 0

/-- The digits of a decimal number, which begin with a zero only if there is just one. -/
def decimal? (cs : List Char) : Option (List Char) :=
  (digits? Char.isDigit false cs).filter fun ds => ds.head? ≠ some '0' || ds.length = 1

/-- An integer in a base other than ten. -/
def based? (cs : List Char) : Option Nat :=
  match cs with
  | '0' :: 'x' :: ds => (digits? (fun c => (hexDigit? c).isSome) false ds).map (ofDigits 16)
  | '0' :: 'o' :: ds => (digits? (fun c => '0' ≤ c && c ≤ '7') false ds).map (ofDigits 8)
  | '0' :: 'b' :: ds => (digits? (fun c => c = '0' || c = '1') false ds).map (ofDigits 2)
  | _ => none

/-- An integer of 64 bits. -/
def integer? (cs : List Char) : Option Int :=
  let (negative, ds) := Numeral.sign cs
  let n? : Option Int :=
    match based? cs with
    | some n => some n
    | none =>
      (decimal? ds).map fun ds => if negative then -(ofDigits 10 ds : Int) else ofDigits 10 ds
  n?.filter fun n => -0x8000000000000000 ≤ n && n < 0x8000000000000000

/-- Whether the characters are an exponent: a sign, if there is one, and digits. -/
def isExponent (cs : List Char) : Bool := (digits? Char.isDigit false (Numeral.sign cs).2).isSome

/-- A float, which has a fraction or an exponent. -/
def float? (cs : List Char) : Option Float :=
  let unsigned := (Numeral.sign cs).2
  let (mantissa, exponent) := unsigned.span fun c => c ≠ 'e' && c ≠ 'E'
  let (whole, fraction) := mantissa.span (· ≠ '.')
  let fits :=
    (decimal? whole).isSome &&
      (fraction.isEmpty || (digits? Char.isDigit false (fraction.drop 1)).isSome) &&
      (exponent.isEmpty || isExponent (exponent.drop 1)) &&
      !(fraction.isEmpty && exponent.isEmpty)
  if fits then Numeral.float? (String.ofList (cs.filter (· ≠ '_'))) else none

/-- Whether the characters have the form of a date or a time. -/
def isDate (cs : List Char) : Bool :=
  match cs with
  | a :: b :: c :: d :: '-' :: _ => [a, b, c, d].all Char.isDigit
  | a :: b :: ':' :: _ => a.isDigit && b.isDigit
  | _ => false

/-- The characters of numbers, truth values and dates. -/
def isWordChar (c : Char) : Bool :=
  c.isAlphanum || c = '_' || c = '+' || c = '-' || c = '.' || c = ':'

/-- What a word without quotes stands for. -/
def wordShape? (cs : List Char) : Option Shape :=
  if cs = "true".toList then some (.bool true)
  else if cs = "false".toList then some (.bool false)
  else if (Numeral.sign cs).2 = "inf".toList || (Numeral.sign cs).2 = "nan".toList then
    some .unreadable
  else
    match integer? cs with
    | some n => (Number.ofInt? n).map .num
    | none =>
      match float? cs with
      | some x => some (((Number.ofFloat? x).map .num).getD .unreadable)
      | none => if isDate cs then some .unreadable else none

/-- Reads a word without quotes; the time of a date may stand behind a blank. -/
def word? : Scan Shape := fun cs =>
  let word := cs.takeWhile isWordChar
  let rest := cs.dropWhile isWordChar
  let rest :=
    match rest with
    | ' ' :: more =>
      if isDate word && isDate more && word.length = 10 then more.dropWhile isWordChar else rest
    | rest => rest
  (wordShape? word).map fun n => (n, rest)

end Interchange.Toml
