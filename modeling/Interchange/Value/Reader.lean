import Interchange.Shape
/-!
# Reading JSON text

The JSON grammar of RFC 8259 on lists of characters, with nesting limited to 127 containers.

An integer that fits a 64-bit word is read exactly.  Any other number is read as a float: its
leading digits, as many as an unsigned 64-bit word holds, are scaled by one power of ten.  So the
result is the nearest float for numerals of up to fifteen digits and moderate exponents, and may
be a neighbour of it for longer ones.  A number beyond the largest float is refused.

* `Json.shape` — the shape of a text, which may be broken.
-/

namespace Interchange.Json

/-- The blanks of the JSON grammar. -/
def isBlank (c : Char) : Bool := c = ' ' || c = '\n' || c = '\t' || c = '\r'

/-- What follows the blanks. -/
def skip (cs : List Char) : List Char := cs.dropWhile isBlank

/-- How many containers may stand inside one another. -/
def depthLimit : Nat := 127

/-! ### Numbers -/

/-- The digits that an unsigned 64-bit word can take up after `significand`, and how many are left
over. -/
def takeUp (significand : Nat) : List Char → Nat × Nat
  | [] => (significand, 0)
  | d :: ds =>
    let next := 10 * significand + (d.toNat - '0'.toNat)
    if next < 0x10000000000000000 then takeUp next ds else (significand, ds.length + 1)

/-- A power of ten as a float. -/
def tenTo (k : Nat) : Float := Float.ofScientific 1 false k

/-- The scaled significand; nothing when it is beyond the largest float.  An exponent below the
least power of ten is taken off in steps. -/
def scale (significand : Float) (exponent : Int) : (steps : Nat) → Option Float
  | 0 => some significand
  | steps + 1 =>
    if exponent.natAbs ≤ 308 then
      if exponent ≥ 0 then
        let x := significand * tenTo exponent.natAbs
        if x.isInf then none else some x
      else some (significand / tenTo exponent.natAbs)
    else if significand == 0.0 then some significand
    else if exponent ≥ 0 then none
    else scale (significand / tenTo 308) (exponent + 308) steps

/-- The shape of a number with a fraction or an exponent, or with more digits than a word holds. -/
def floatShape (negative : Bool) (whole fraction : List Char) (exponent : Int) : Shape :=
  let (significand, dropped) := takeUp 0 whole
  let (significand', left) := takeUp significand fraction
  let exponent' := (dropped : Int) - ((fraction.length - left : Nat) : Int) + exponent
  match scale (Float.ofNat significand') exponent' 4 with
  | none => .unreadable
  | some x => ((Number.ofFloat? (if negative then -x else x)).map Shape.num).getD .unreadable

/-- The shape of a number without fraction and exponent. -/
def wholeShape (negative : Bool) (whole : List Char) : Shape :=
  let (n, dropped) := takeUp 0 whole
  if dropped ≠ 0 || (negative && n = 0) then floatShape negative whole [] 0
  else
    let signed : Int := if negative then -n else n
    match Number.ofInt? signed with
    | some k => .num k
    | none => floatShape negative whole [] 0

/-- A part of the text as read, with what follows it; nothing follows where the text is broken. -/
abbrev Read (α : Type) := α × Option (List Char)

/-- The text is malformed here. -/
def malformed : Read Shape := (.broken, none)

/-- Reads the exponent of a numeral, if there is one. -/
def exponentPart? : List Char → Option (Option Int × List Char)
  | c :: cs =>
    if c = 'e' || c = 'E' then
      let (negative, cs) : Bool × List Char :=
        match cs with
        | '-' :: cs => (true, cs)
        | '+' :: cs => (false, cs)
        | cs => (false, cs)
      let ds := cs.takeWhile Char.isDigit
      if ds.isEmpty then none
      else
        let e : Int := ds.foldl (fun n d => 10 * n + (d.toNat - '0'.toNat : Nat)) 0
        some (some (if negative then -e else e), cs.dropWhile Char.isDigit)
    else some (none, c :: cs)
  | [] => some (none, [])

/-- Reads a number. -/
def number (cs : List Char) : Read Shape :=
  let (negative, cs) : Bool × List Char :=
    match cs with
    | '-' :: cs => (true, cs)
    | cs => (false, cs)
  let whole := cs.takeWhile Char.isDigit
  let rest := cs.dropWhile Char.isDigit
  if whole.isEmpty || (whole.head? = some '0' && whole.length > 1) then malformed
  else
    let fraction? : Option (Option (List Char) × List Char) :=
      match rest with
      | '.' :: rest =>
        let ds := rest.takeWhile Char.isDigit
        if ds.isEmpty then none else some (some ds, rest.dropWhile Char.isDigit)
      | rest => some (none, rest)
    match fraction? with
    | none => malformed
    | some (fraction, rest) =>
      match exponentPart? rest with
      | none => malformed
      | some (none, rest) =>
        match fraction with
        | none => (wholeShape negative whole, some rest)
        | some ds => (floatShape negative whole ds 0, some rest)
      | some (some e, rest) => (floatShape negative whole (fraction.getD []) e, some rest)

/-! ### Strings -/

/-- The value of a hexadecimal digit. -/
def hexValue? (c : Char) : Option Nat :=
  if c.isDigit then some (c.toNat - '0'.toNat)
  else if 'a' ≤ c && c ≤ 'f' then some (c.toNat - 'a'.toNat + 10)
  else if 'A' ≤ c && c ≤ 'F' then some (c.toNat - 'A'.toNat + 10)
  else none

/-- The value of four hexadecimal digits. -/
def hex4? (a b c d : Char) : Option Nat :=
  match hexValue? a, hexValue? b, hexValue? c, hexValue? d with
  | some a, some b, some c, some d => some (((a * 16 + b) * 16 + c) * 16 + d)
  | _, _, _, _ => none

/-- The character of a one-letter escape. -/
def shortEscape? (c : Char) : Option Char :=
  match c with
  | '"' => some '"'
  | '\\' => some '\\'
  | '/' => some '/'
  | 'b' => some (Char.ofNat 8)
  | 'f' => some (Char.ofNat 12)
  | 'n' => some '\n'
  | 'r' => some '\r'
  | 't' => some '\t'
  | _ => none

/-- Reads a string whose opening quote has been read; `seen` holds its characters, last first.
Half of a surrogate pair must stand beside its other half. -/
def stringTail (seen : List Char) : List Char → Option (String × List Char)
  | [] => none
  | '"' :: cs => some (String.ofList seen.reverse, cs)
  | '\\' :: 'u' :: a :: b :: c :: d :: cs =>
    match hex4? a b c d with
    | none => none
    | some high =>
      if 0xDC00 ≤ high && high ≤ 0xDFFF then none
      else if 0xD800 ≤ high && high ≤ 0xDBFF then
        match cs with
        | '\\' :: 'u' :: e :: f :: g :: h :: cs =>
          match hex4? e f g h with
          | none => none
          | some low =>
            if 0xDC00 ≤ low && low ≤ 0xDFFF then
              stringTail
                (Char.ofNat (0x10000 + (high - 0xD800) * 0x400 + (low - 0xDC00)) :: seen) cs
            else none
        | _ => none
      else stringTail (Char.ofNat high :: seen) cs
  | '\\' :: c :: cs =>
    match shortEscape? c with
    | none => none
    | some e => stringTail (e :: seen) cs
  | c :: cs => if c.toNat < 32 || c = '\\' then none else stringTail (c :: seen) cs

/-! ### Values -/

/-- A container is readable down to the depth limit. -/
def within (depth : Nat) (n : Shape) : Shape :=
  if depth = 0 && !n.isBroken then .unreadable else n

mutual

/-- Reads one value; `depth` more containers may be opened and `fuel` bounds the recursion. -/
def element : (fuel depth : Nat) → List Char → Read Shape
  | 0, _, _ => malformed
  | fuel + 1, depth, cs =>
    match skip cs with
    | 'n' :: 'u' :: 'l' :: 'l' :: cs => (.null, some cs)
    | 't' :: 'r' :: 'u' :: 'e' :: cs => (.bool true, some cs)
    | 'f' :: 'a' :: 'l' :: 's' :: 'e' :: cs => (.bool false, some cs)
    | '"' :: cs =>
      match stringTail [] cs with
      | some (s, cs) => (.str s, some cs)
      | none => malformed
    | '[' :: cs =>
      match skip cs with
      | ']' :: cs => (within depth (.list []), some cs)
      | cs =>
        let (items, rest) := elements fuel (depth - 1) cs
        (within depth (.list items), rest)
    | '\x7b' :: cs =>
      match skip cs with
      | '\x7d' :: cs => (within depth (.map []), some cs)
      | cs =>
        let (members, rest) := members fuel (depth - 1) cs
        (within depth (.map members), rest)
    | cs => number cs

/-- Reads the items of a list up to its closing bracket. -/
def elements : (fuel depth : Nat) → List Char → Read (List Shape)
  | 0, _, _ => ([.broken], none)
  | fuel + 1, depth, cs =>
    match element fuel depth cs with
    | (n, none) => ([n], none)
    | (n, some cs) =>
      match skip cs with
      | ']' :: cs => ([n], some cs)
      | ',' :: cs =>
        let (ns, rest) := elements fuel depth cs
        (n :: ns, rest)
      | _ => ([n, .broken], none)

/-- Reads the members of an object up to its closing brace. -/
def members : (fuel depth : Nat) → List Char → Read (List (String × Shape))
  | 0, _, _ => ([("", .broken)], none)
  | fuel + 1, depth, cs =>
    match skip cs with
    | '"' :: cs =>
      match stringTail [] cs with
      | none => ([("", .broken)], none)
      | some (key, cs) =>
        match skip cs with
        | ':' :: cs =>
          match element fuel depth cs with
          | (n, none) => ([(key, n)], none)
          | (n, some cs) =>
            match skip cs with
            | '\x7d' :: cs => ([(key, n)], some cs)
            | ',' :: cs =>
              let (ms, rest) := members fuel depth cs
              ((key, n) :: ms, rest)
            | _ => ([(key, n), ("", .broken)], none)
        | _ => ([(key, .broken)], none)
    | _ => ([("", .broken)], none)

end

/-- The shape of a JSON text, and whether only blanks follow it. -/
def shape (text : String) : Shape × Bool :=
  let cs := text.toList
  let (n, rest) := element (2 * cs.length + 4) depthLimit cs
  (n, rest.any fun cs => (skip cs).isEmpty)

end Interchange.Json
