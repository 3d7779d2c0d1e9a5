import Interchange.Toml.Scalar
/-!
# Reading TOML

A text is a sequence of lines that set keys, each in the table whose heading stands before it.  No
key is set twice and no table is opened twice: a table that came into being because something
inside of it was named may be opened once, one that came into being through a dotted key may only be
added to by dotted keys of the same table.

* `Item` — the tables while a text is read.
* `Item.put?`, `Item.openTable?`, `Item.openRow?` — what a line does.
* `Toml.shape?` — the shape of a text, if it is well-formed.
-/

namespace Interchange.Toml

/-- How a table came into being. -/
inductive Origin
  /-- It has a heading. -/
  | heading
  /-- A heading names something inside of it. -/
  | inner
  /-- A dotted key names something inside of it. -/
  | dotted
deriving DecidableEq, Repr

/-- What stands under a key while a text is read. -/
inductive Item
  /-- A value, to which nothing can be added. -/
  | value (n : Shape)
  | table (origin : Origin) (members : List (String × Item))
  /-- Tables in a list; only the last can be added to. -/
  | rows (done : List Shape) (last : List (String × Item))

/-- The members of a table. -/
abbrev Members := List (String × Item)

namespace Item

mutual

/-- The shape of an item. -/
def shape : Item → Shape
  | .value n => n
  | .table _ members => .map (shapes members)
  | .rows done last => .list (done ++ [.map (shapes last)])

/-- The shapes of the members of a table. -/
def shapes : List (String × Item) → List (String × Shape)
  | [] => []
  | (k, n) :: ms => (k, shape n) :: shapes ms

end

/-- What stands under a key. -/
def find? (key : String) (ms : Members) : Option Item :=
  (ms.find? fun m => m.1 = key).map Prod.snd

/-- The members with something else under a key that is there. -/
def replace (key : String) (n : Item) (ms : Members) : Members :=
  ms.map fun m => if m.1 = key then (key, n) else m

/-- Changes the table at a path, making the tables on the way; `act` is also told how the table came
into being. -/
def within? (byDots : Bool) (act : Origin → Members → Option Members) :
    (path : List String) → (origin : Origin) → Members → Option Members
  | [], origin, ms => act origin ms
  | key :: path, _, ms =>
    match find? key ms with
    | none =>
      let origin := if byDots then Origin.dotted else Origin.inner
      (within? byDots act path origin []).map fun new => ms ++ [(key, .table origin new)]
    | some (.value _) => none
    | some (.rows done last) =>
      (within? byDots act path .heading last).map fun new => replace key (.rows done new) ms
    | some (.table origin members) =>
      if byDots && origin = .heading then none
      else (within? byDots act path origin members).map fun new =>
        replace key (.table origin new) ms

/-- Sets a key in a table, under which nothing stands so far.  A key without dots may not be set in
a table that dotted keys made, nor the other way round. -/
def put? (keys : List String) (n : Item) (ms : Members) : Option Members :=
  match keys.reverse with
  | [] => none
  | key :: path =>
    within? true (fun origin ms =>
        if (origin == .dotted) == path.isEmpty || (find? key ms).isSome then none
        else some (ms ++ [(key, n)]))
      path.reverse .heading ms

/-- Opens the table with a heading. -/
def openTable? (keys : List String) (ms : Members) : Option Members :=
  match keys.reverse with
  | [] => none
  | key :: path =>
    within? false (fun _ ms =>
        match find? key ms with
        | none => some (ms ++ [(key, .table .heading [])])
        | some (.table .inner members) => some (replace key (.table .heading members) ms)
        | some _ => none)
      path.reverse .heading ms

/-- Opens another table in a list of tables. -/
def openRow? (keys : List String) (ms : Members) : Option Members :=
  match keys.reverse with
  | [] => none
  | key :: path =>
    within? false (fun _ ms =>
        match find? key ms with
        | none => some (ms ++ [(key, .rows [] [])])
        | some (.rows done last) =>
          some (replace key (.rows (done ++ [.map (shapes last)]) []) ms)
        | some _ => none)
      path.reverse .heading ms

end Item

/-! ### Keys and values -/

/-- Drops the blanks inside a line. -/
def skip (cs : List Char) : List Char := cs.dropWhile fun c => c = ' ' || c = '\t'

/-- The characters of a key without quotes. -/
def isKeyChar (c : Char) : Bool := c.isAlphanum || c = '_' || c = '-'

/-- Reads a key without dots. -/
def simpleKey? : Scan String := fun cs =>
  let word := cs.takeWhile isKeyChar
  if word.isEmpty then line? cs else some (String.ofList word, cs.dropWhile isKeyChar)

/-- Reads a key; the blanks around it are dropped. -/
def key? : (fuel : Nat) → Scan (List String)
  | 0, _ => none
  | fuel + 1, cs => do
    let (first, cs) ← simpleKey? (skip cs)
    match skip cs with
    | '.' :: cs =>
      let (more, cs) ← key? fuel cs
      return (first :: more, cs)
    | cs => return ([first], cs)

/-- What follows a comment, if there is one. -/
def comment? (cs : List Char) : Option (List Char) :=
  match cs with
  | '#' :: cs =>
    let line := cs.takeWhile (· ≠ '\n')
    if line.all isPermitted then some (cs.dropWhile (· ≠ '\n')) else none
  | cs => some cs

/-- Passes over blanks, comments and line breaks. -/
def skipLines? : (fuel : Nat) → List Char → Option (List Char)
  | 0, cs => some cs
  | fuel + 1, cs =>
    match skip cs with
    | '\n' :: cs => skipLines? fuel cs
    | '#' :: cs => (comment? ('#' :: cs)).bind (skipLines? fuel)
    | cs => some cs

mutual

/-- Reads a value. -/
def value? : (fuel : Nat) → Scan Shape
  | 0, _ => none
  | fuel + 1, cs =>
    match cs with
    | '[' :: cs => (items? fuel cs).map fun (ns, cs) => (.list ns, cs)
    | '\x7b' :: cs =>
      match skip cs with
      | '\x7d' :: cs => some (.map [], cs)
      | cs => (inlineMembers? fuel [] cs).map fun (ms, cs) => (.map (Item.shapes ms), cs)
    | c :: cs =>
      if c = '"' || c = '\'' then (text? (c :: cs)).map fun (s, cs) => (.str s, cs)
      else word? (c :: cs)
    | [] => none

/-- Reads the items of a list up to its closing bracket. -/
def items? : (fuel : Nat) → Scan (List Shape)
  | 0, _ => none
  | fuel + 1, cs => do
    match ← skipLines? cs.length cs with
    | ']' :: cs => return ([], cs)
    | cs =>
      let (n, cs) ← value? fuel cs
      match ← skipLines? cs.length cs with
      | ',' :: cs =>
        let (ns, cs) ← items? fuel cs
        return (n :: ns, cs)
      | ']' :: cs => return ([n], cs)
      | _ => none

/-- Reads the members of a table in braces, which stand on one line, after some were read. -/
def inlineMembers? : (fuel : Nat) → Members → Scan Members
  | 0, _, _ => none
  | fuel + 1, ms, cs => do
    let (keys, cs) ← key? cs.length cs
    match cs with
    | '=' :: cs =>
      let (n, cs) ← value? fuel (skip cs)
      let ms ← Item.put? keys (.value n) ms
      match skip cs with
      | ',' :: cs => inlineMembers? fuel ms cs
      | '\x7d' :: cs => return (ms, cs)
      | _ => none
    | _ => none

end

/-! ### Lines -/

/-- The tables of the lines read so far, and the heading of the last. -/
structure Progress where
  root : Members
  heading : List String

/-- Sets a key in the table of the last heading. -/
def Progress.put? (p : Progress) (keys : List String) (n : Shape) : Option Progress :=
  (Item.within? false (fun _ ms => Item.put? keys (.value n) ms) p.heading .heading p.root).map
    fun root => { p with root := root }

/-- Reads what stands on a line, without a comment at its end. -/
def statement? (p : Progress) (cs : List Char) : Option (Progress × List Char) :=
  match cs with
  | '[' :: '[' :: cs => do
    let (keys, cs) ← key? cs.length cs
    let cs ← Text.stripLead [']', ']'] cs
    let root ← Item.openRow? keys p.root
    return (⟨root, keys⟩, cs)
  | '[' :: cs => do
    let (keys, cs) ← key? cs.length cs
    let cs ← Text.stripLead [']'] cs
    let root ← Item.openTable? keys p.root
    return (⟨root, keys⟩, cs)
  | cs => do
    let (keys, cs) ← key? cs.length cs
    let cs ← Text.stripLead ['='] cs
    let (n, cs) ← value? (cs.length + 1) (skip cs)
    return (← p.put? keys n, cs)

/-- Reads lines after others. -/
def lines? : (fuel : Nat) → Progress → List Char → Option Progress
  | 0, _, _ => none
  | fuel + 1, p, cs =>
    match skip cs with
    | [] => some p
    | '\n' :: cs => lines? fuel p cs
    | '#' :: cs => (comment? ('#' :: cs)).bind (lines? fuel p)
    | cs => do
      let (p, cs) ← statement? p cs
      match ← comment? (skip cs) with
      | [] => return p
      | '\n' :: cs => lines? fuel p cs
      | _ => none

/-- The characters of a text with every line break written as a line feed. -/
def unifyBreaks : List Char → List Char
  | [] => []
  | '\r' :: '\n' :: cs => '\n' :: unifyBreaks cs
  | c :: cs => c :: unifyBreaks cs

/-- The shape of a text. -/
def shape? (text : String) : Option Shape :=
  let cs := unifyBreaks text.toList
  let cs := if cs.head?.any fun c => c.toNat = 0xFEFF then cs.drop 1 else cs
  (lines? (cs.length + 1) ⟨[], []⟩ cs).map fun p => .map (Item.shapes p.root)

end Interchange.Toml
