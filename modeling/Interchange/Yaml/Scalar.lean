import Interchange.Yaml.Cursor
/-!
# Reading YAML scalars

A scalar is written without quotes, in quotes of two kinds, or as a block of lines.  In the first
two ways it may go on over several lines; then a single line break stands for a blank, and of
several the first is dropped (`fold`).

* `plain?` — a scalar without quotes.
* `quoted?` — a scalar in quotes.
* `block?` — a literal or folded block.
-/

namespace Interchange.Yaml

/-- What blanks and line breaks between two words of a scalar stand for. -/
def fold (run : List Char) : List Char :=
  match run.count '\n' with
  | 0 => run
  | 1 => [' ']
  | n + 2 => List.replicate (n + 1) '\n'

/-- The characters that end a word inside brackets. -/
def isFlowMark (c : Char) : Bool := c = ',' || c = '[' || c = ']' || c = '\x7b' || c = '\x7d'

/-! ### Without quotes -/

/-- Whether a scalar without quotes may begin with these characters. -/
def beginsPlain (inFlow : Bool) : List Char → Bool
  | [] => false
  | c :: cs =>
    if c = '-' then !(cs.head?.any isBlank)
    else if c = '?' || c = ':' then !inFlow && !blankOrEnd cs
    else !(isBlank c || c = '\n' || isFlowMark c || "#&*!|>'\"%@\x60".toList.contains c)

/-- The characters up to the end of a word; inside brackets a colon may not touch a bracket. -/
def word? (inFlow : Bool) : List Char → Option (List Char)
  | [] => some []
  | c :: cs =>
    if isBlank c || c = '\n' then some []
    else if c = ':' && blankOrEnd cs then some []
    else if inFlow && c = ':' && cs.head?.any (fun d => isFlowMark d || d = '?') then none
    else if inFlow && isFlowMark c then some []
    else (word? inFlow cs).map (c :: ·)

/-- Whether a tab stands where a line has to be indented. -/
def tabIndents (least : Nat) (run : List Char) : Bool :=
  ((Text.splitAt '\n' run).drop 1).any fun line => (line.take least).contains '\t'

/-- Reads the words of a scalar without quotes; `run` stands before the next word. -/
def plainWords? (inFlow : Bool) (least : Nat) :
    (fuel : Nat) → (run : List Char) → Cursor → Option (List Char × Cursor)
  | 0, _, _ => none
  | fuel + 1, run, c =>
    let broken := run.contains '\n'
    let stop : Option (List Char × Cursor) := some ([], if broken then c.setFresh true else c)
    if c.isMarker || c.isAt '#' || (!inFlow && !run.isEmpty && c.column < least) then stop
    else
      match word? inFlow c.rest with
      | none => none
      | some [] => stop
      | some word =>
        let c := (c.advance word.length).setFresh false
        let next := c.rest.takeWhile fun x => isBlank x || x = '\n'
        if tabIndents least next then none
        else
          (plainWords? inFlow least fuel next (c.advance next.length)).map fun (more, c) =>
            (fold run ++ word ++ more, c)

/-- Reads a scalar without quotes; in block style its lines are indented by at least `least`. -/
def plain? (inFlow : Bool) (least : Nat) (c : Cursor) : Option (String × Cursor) :=
  if beginsPlain inFlow c.rest then
    (plainWords? inFlow least (c.rest.length + 1) [] c).map fun (cs, c) => (String.ofList cs, c)
  else none

/-! ### In quotes -/

/-- The value of hexadecimal digits. -/
def hexNumber? (ds : List Char) : Option Nat :=
  ds.foldl (fun n? d => n?.bind fun n => (hexDigit? d).map (16 * n + ·)) (some 0)
where
  hexDigit? (c : Char) : Option Nat :=
    if c.isDigit then some (c.toNat - '0'.toNat)
    else if 'a' ≤ c && c ≤ 'f' then some (c.toNat - 'a'.toNat + 10)
    else if 'A' ≤ c && c ≤ 'F' then some (c.toNat - 'A'.toNat + 10)
    else none

/-- The character with a number, if there is one. -/
def charOf? (n : Nat) : Option Char := if n.isValidChar then some (Char.ofNat n) else none

/-- The character of a short escape. -/
def shortEscape? (c : Char) : Option Char :=
  match c with
  | '0' => some (Char.ofNat 0)
  | 'a' => some (Char.ofNat 7)
  | 'b' => some (Char.ofNat 8)
  | 't' | '\t' => some '\t'
  | 'n' => some '\n'
  | 'v' => some (Char.ofNat 11)
  | 'f' => some (Char.ofNat 12)
  | 'r' => some '\r'
  | 'e' => some (Char.ofNat 27)
  | ' ' => some ' '
  | '"' => some '"'
  | '/' => some '/'
  | '\\' => some '\\'
  | 'N' => some (Char.ofNat 0x85)
  | '_' => some (Char.ofNat 0xA0)
  | 'L' => some (Char.ofNat 0x2028)
  | 'P' => some (Char.ofNat 0x2029)
  | _ => none

/-- How many hexadecimal digits follow the letter of an escape. -/
def escapeDigits? (c : Char) : Option Nat :=
  match c with
  | 'x' => some 2
  | 'u' => some 4
  | 'U' => some 8
  | _ => none

/-- What was read of a quoted scalar. -/
structure QuotedSoFar where
  /-- Its characters, last first. -/
  seen : List Char
  /-- The blanks and line breaks after them, last first. -/
  run : List Char
  /-- Whether a backslash took away a line break before the run. -/
  joined : Bool
  /-- How many characters of an escape are still to be passed over. -/
  passing : Nat

namespace QuotedSoFar

/-- The characters with the run made part of them, last first. -/
def flush (q : QuotedSoFar) : List Char :=
  if q.joined then List.replicate (q.run.count '\n') '\n' ++ q.seen
  else (fold q.run.reverse).reverse ++ q.seen

/-- Adds a character. -/
def push (q : QuotedSoFar) (c : Char) : QuotedSoFar := ⟨c :: q.flush, [], false, 0⟩

/-- Whether the next character is the first of its line. -/
def atLineStart (q : QuotedSoFar) : Bool := q.run.head? = some '\n'

end QuotedSoFar

/-- Reads a quoted scalar behind its opening quote, up to its closing quote. -/
def quotedTail? (quote : Char) (q : QuotedSoFar) : List Char → Option (String × List Char)
  | [] => none
  | c :: cs =>
    if q.passing > 0 then quotedTail? quote { q with passing := q.passing - 1 } cs
    else if isBlank c || c = '\n' then
      quotedTail? quote { q with run := if q.joined && c ≠ '\n' then q.run else c :: q.run } cs
    else if q.atLineStart && (Cursor.start (c :: cs)).isMarker then none
    else if c = quote then
      if quote = '\'' && cs.head? = some '\'' then
        quotedTail? quote { q.push '\'' with passing := 1 } cs
      else some (String.ofList q.flush.reverse, cs)
    else if c = '\\' && quote = '"' then
      match cs with
      | [] => none
      | d :: ds =>
        if d = '\n' then quotedTail? quote ⟨q.flush, [], true, 1⟩ (d :: ds)
        else
          match shortEscape? d, escapeDigits? d with
          | some e, _ => quotedTail? quote { q.push e with passing := 1 } (d :: ds)
          | none, some k =>
            match (if ds.length < k then none else (hexNumber? (ds.take k)).bind charOf?) with
            | some e => quotedTail? quote { q.push e with passing := k + 1 } (d :: ds)
            | none => none
          | none, none => none
    else quotedTail? quote (q.push c) cs

/-- Reads a scalar in quotes. -/
def quoted? (c : Cursor) : Option (String × Cursor) :=
  match c.rest with
  | quote :: cs =>
    if quote = '\'' || quote = '"' then
      (quotedTail? quote ⟨[], [], false, 0⟩ cs).map fun (s, rest) =>
        (s, (c.advance (c.rest.length - rest.length)).setFresh false)
    else none
  | [] => none

/-! ### Blocks -/

/-- What happens to the line breaks at the end of a block. -/
inductive Chomp
  /-- All are dropped. -/
  | strip
  /-- One is kept. -/
  | clip
  /-- All are kept. -/
  | keep
deriving DecidableEq, Repr

/-- The first line of a block. -/
structure BlockHeader where
  folded : Bool
  chomp : Chomp
  /-- By how much the lines are indented, where the header gives it. -/
  indent : Option Nat

/-- The mark for the end of a block. -/
def chomp? (c : Char) : Option Chomp :=
  if c = '-' then some .strip else if c = '+' then some .keep else none

/-- The digit for the indentation of a block. -/
def indentDigit? (c : Char) : Option Nat :=
  if c.isDigit && c ≠ '0' then some (c.toNat - '0'.toNat) else none

/-- Reads the first line of a block. -/
def blockHeader? (line : List Char) : Option BlockHeader :=
  match line with
  | [] => none
  | kind :: cs =>
    let (chomp, indent, cs) : Option Chomp × Option Nat × List Char :=
      match cs with
      | [] => (none, none, [])
      | a :: cs =>
        match chomp? a, indentDigit? a with
        | some m, _ =>
          match cs with
          | b :: ds =>
            match indentDigit? b with
            | some k => (some m, some k, ds)
            | none => (some m, none, cs)
          | [] => (some m, none, [])
        | none, some k =>
          match cs with
          | b :: ds =>
            match chomp? b with
            | some m => (some m, some k, ds)
            | none => (none, some k, cs)
          | [] => (none, some k, [])
        | none, none => (none, none, a :: cs)
    let rest := cs.dropWhile isBlank
    if rest.isEmpty || rest.head? = some '#' then
      some ⟨kind = '>', chomp.getD .clip, indent⟩
    else none

/-- The indentation of the lines of a block, found from its first line that is not empty; nothing
when a tab stands there. -/
def findIndent? (most : Nat) : List (List Char) → Option Nat
  | [] => some most
  | line :: lines =>
    let spaces := (line.takeWhile (· = ' ')).length
    let most := max most spaces
    match line.drop spaces with
    | [] => findIndent? most lines
    | c :: _ => if c = '\t' then none else some most

/-- What was read of a block. -/
structure BlockSoFar where
  /-- Its characters, last first. -/
  seen : List Char
  /-- Whether a line break ended the last line that is not empty. -/
  broke : Bool
  /-- How many empty lines follow it. -/
  empties : Nat
  /-- Whether that line began with a blank. -/
  indented : Bool

namespace BlockSoFar

/-- Adds a line that is not empty; folding joins two lines neither of which begins with a blank. -/
def push (b : BlockSoFar) (folded ended : Bool) (line : List Char) : BlockSoFar :=
  let blank := line.head?.any isBlank
  let between :=
    if folded && b.broke && !b.indented && !blank then
      if b.empties = 0 then [' '] else List.replicate b.empties '\n'
    else List.replicate ((if b.broke then 1 else 0) + b.empties) '\n'
  ⟨line.reverse ++ between ++ b.seen, ended, 0, blank⟩

/-- The text of a whole block. -/
def finish (b : BlockSoFar) (chomp : Chomp) : String :=
  let last := if b.broke then 1 else 0
  let breaks :=
    match chomp with
    | .strip => 0
    | .clip => last
    | .keep => last + b.empties
  String.ofList (List.replicate breaks '\n' ++ b.seen).reverse

end BlockSoFar

/-- Reads the lines of a block; gives also the lines after it.  The last line of a text is not
ended by a line break. -/
def blockLines? (folded : Bool) (indent : Nat) (b : BlockSoFar) :
    List (List Char) → Option (BlockSoFar × List (List Char))
  | [] => some (b, [])
  | line :: lines =>
    let spaces := ((line.take indent).takeWhile (· = ' ')).length
    let ended := !lines.isEmpty
    match line.drop spaces with
    | [] =>
      if ended then blockLines? folded indent { b with empties := b.empties + 1 } lines
      else some (b, [])
    | c :: cs =>
      if spaces = indent then blockLines? folded indent (b.push folded ended (c :: cs)) lines
      else if c = '\t' then none
      else some (b, line :: lines)

/-- Reads a block whose lines are indented by at least `least`. -/
def block? (least : Nat) (c : Cursor) : Option (String × Cursor) :=
  match Text.splitAt '\n' c.rest with
  | [] => none
  | first :: lines => do
    let header ← blockHeader? first
    let indent ←
      match header.indent with
      | some k => some (least - 1 + k)
      | none => (findIndent? 0 lines).map fun k => max (max k least) 1
    let (b, rest) ← blockLines? header.folded indent ⟨[], false, 0, false⟩ lines
    return (b.finish header.chomp,
      { c with
        rest := List.intercalate ['\n'] rest
        line := c.line + 1 + (lines.length - rest.length)
        column := 0
        fresh := true })

end Interchange.Yaml
