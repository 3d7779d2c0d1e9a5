import Interchange.Yaml.Scalar
/-!
# Reading YAML

A reader of YAML 1.1 texts that hold one document.  It gives the shape of the document or nothing:
a text that is malformed anywhere has no shape.  A scalar without quotes keeps its spelling, since
its type depends on what is wanted of it; keys are scalars.

In block style a node belongs to what encloses it as long as it is indented by at least `least`
columns; the entries of a list may stand in the column of the key they belong to.

* `Yaml.node`, `members`, `entries` — nodes in block style.
* `Yaml.flowNode`, `flowItems`, `flowMembers` — nodes in brackets.
* `Yaml.shape?` — the shape of a text.
-/

namespace Interchange.Yaml

/-- A reader of a part of a text, from a place to the place after it. -/
abbrev Read (α : Type) := Cursor → Option (α × Cursor)

/-- The node that is not written. -/
def absent : Shape := .plain ""

/-! ### Names and tags -/

/-- What is written before a node. -/
structure Properties where
  anchor : Option String
  tag : Option String

/-- The characters of the name of a node. -/
def isNameChar (c : Char) : Bool := c.isAlphanum || c = '-' || c = '_'

/-- The characters of a tag. -/
def isTagChar (c : Char) : Bool :=
  c.isAlphanum || "-_;/?:@&=+$.!~*'()%<>".toList.contains c

/-- Reads the name of a node behind its mark. -/
def name? : Read String := fun c =>
  let name := c.rest.takeWhile isNameChar
  let c := (c.advance name.length).setFresh false
  if !name.isEmpty && (blankOrEnd c.rest || c.rest.head?.any "?:,]\x7d%@\x60".toList.contains) then
    some (String.ofList name, c)
  else none

/-- Reads a tag with its mark. -/
def tag? : Read String := fun c =>
  let tag := c.rest.takeWhile isTagChar
  let c := (c.advance tag.length).setFresh false
  if blankOrEnd c.rest || c.isAt ',' then some (String.ofList tag, c) else none

/-- Reads the properties of a node, each at most once, and passes on to the node. -/
def properties? (inFlow : Bool) : (fuel : Nat) → Properties → Read Properties
  | 0, _, _ => none
  | fuel + 1, p, c =>
    match c.rest with
    | '&' :: _ =>
      if p.anchor.isSome then none
      else do
        let (name, c) ← name? c.next
        properties? inFlow fuel { p with anchor := some name } (c.toToken inFlow)
    | '!' :: _ =>
      if p.tag.isSome then none
      else do
        let (tag, c) ← tag? c
        properties? inFlow fuel { p with tag := some tag } (c.toToken inFlow)
    | _ => some (p, c)

/-- The tags that say no more of a node than its form does. -/
def standardTags : List String :=
  ["!!map", "!!seq", "!!int", "!!float", "!!bool", "!!null"]

/-- The node with its tag taken into account; a tag that is not standard makes it unreadable. -/
def tagged (tag? : Option String) (n : Shape) : Shape :=
  match tag? with
  | none => n
  | some "!!str" =>
    match n with
    | .plain s => .str s
    | n => n
  | some tag =>
    if standardTags.contains tag then
      match n with
      | .str s => .plain s
      | n => n
    else .unreadable

/-- The node with its properties, which from now on has a name if they give one. -/
def Properties.apply (p : Properties) (n : Shape) (c : Cursor) : Shape × Cursor :=
  let n := tagged p.tag n
  (n, c.bindName p.anchor n)

/-! ### Scalars -/

/-- Reads a scalar in one of the ways that a key may be written, or a node by its name. -/
def scalar? (inFlow : Bool) (least : Nat) : Read Shape := fun c =>
  match c.rest with
  | '*' :: _ => do
    let (name, c) ← name? c.next
    return (← c.named? name, c)
  | quote :: _ =>
    if quote = '\'' || quote = '"' then (quoted? c).map fun (s, c) => (.str s, c)
    else (plain? inFlow least c).map fun (s, c) => (.plain s, c)
  | [] => none

/-- The text of a scalar that stands as a key. -/
def keyText? : Shape → Option String
  | .plain s | .str s => some s
  | _ => none

/-- How far a key may reach. -/
def keyLimit : Nat := 1024

/-- The colon after a key that began at a place and ended at another; a key and its colon stand on
one line. -/
def colonAfter? (inFlow : Bool) (first last : Cursor) : Option Cursor :=
  let c := last.toToken inFlow
  if c.line = first.line && c.column - first.column ≤ keyLimit && c.isAt ':' &&
      (inFlow || c.isColon) then some c
  else none

/-- Reads a key in block style up to its colon. -/
def blockKey? (least : Nat) : Read String := fun first => do
  let (p, c) ← properties? false 3 ⟨none, none⟩ first
  let (n, last) ← scalar? false least c
  let colon ← colonAfter? false first last
  let key ← keyText? n
  return (key, (p.apply n colon).2)

/-! ### Inside brackets -/

/-- Whether an entry inside brackets ends here. -/
def endsEntry (c : Cursor) : Bool := c.isAt ',' || c.isAt ']' || c.isAt '\x7d'

mutual

/-- Reads a node inside brackets. -/
def flowNode : (fuel : Nat) → Read Shape
  | 0, _ => none
  | fuel + 1, c => do
    let first := c.toToken true
    let (p, c) ← properties? true 3 ⟨none, none⟩ first
    if c.isDone || c.isEntry then none
    else if (p.anchor.isSome || p.tag.isSome) && (endsEntry c || c.isAt ':') then
      return p.apply absent c
    else if c.isAt '[' || c.isAt '\x7b' then
      let (n, c) ← flow fuel c
      return p.apply n c
    else
      let (n, c) ← scalar? true 0 c
      return p.apply n c

/-- Reads a list or a map in brackets. -/
def flow : (fuel : Nat) → Read Shape
  | 0, _ => none
  | fuel + 1, c =>
    if c.isAt '[' then do
      let (items, c) ← flowItems fuel c.next
      return (.list items, c.setFresh false)
    else if c.isAt '\x7b' then do
      let (members, c) ← flowMembers fuel c.next
      return (.map members, c.setFresh false)
    else none

/-- Reads what follows the colon of a key inside brackets. -/
def flowValue : (fuel : Nat) → Read Shape
  | 0, _ => none
  | fuel + 1, colon =>
    let c := colon.next.toToken true
    if endsEntry c then some (absent, c) else flowNode fuel c

/-- Reads a key inside brackets that has a mark of its own, and its value. -/
def flowPair : (fuel : Nat) → Read (String × Shape)
  | 0, _ => none
  | fuel + 1, c => do
    let c := c.next.toToken true
    let (n, c) ← if endsEntry c || c.isAt ':' then some (absent, c) else flowNode fuel c
    let c := c.toToken true
    let (v, c) ← if c.isAt ':' then flowValue fuel c else some (absent, c)
    return ((← keyText? n, v), c)

/-- Reads one item of a list; a key with its value is a map of one. -/
def flowItem : (fuel : Nat) → Read Shape
  | 0, _ => none
  | fuel + 1, first =>
    if first.isAt '?' then (flowPair fuel first).map fun (m, c) => (.map [m], c)
    else do
      let (n, c) ← flowNode fuel first
      match colonAfter? true first c with
      | none => return (n, c)
      | some colon =>
        let key ← keyText? n
        let (v, c) ← flowValue fuel colon
        return (.map [(key, v)], c)

/-- Reads the items of a list up to its closing bracket. -/
def flowItems : (fuel : Nat) → Read (List Shape)
  | 0, _ => none
  | fuel + 1, c => do
    let first := c.toToken true
    if first.isAt ']' then return ([], first.next)
    let (n, c) ← flowItem fuel first
    let c := c.toToken true
    if c.isAt ',' then
      let (ns, c) ← flowItems fuel c.next
      return (n :: ns, c)
    else if c.isAt ']' then return ([n], c.next)
    else none

/-- Reads one member of a map; a key without a colon has no value. -/
def flowMember : (fuel : Nat) → Read (String × Shape)
  | 0, _ => none
  | fuel + 1, first =>
    if first.isAt '?' then flowPair fuel first
    else do
      let (n, c) ← flowNode fuel first
      let key ← keyText? n
      match colonAfter? true first c with
      | none => return ((key, absent), c)
      | some colon =>
        let (v, c) ← flowValue fuel colon
        return ((key, v), c)

/-- Reads the members of a map up to its closing brace. -/
def flowMembers : (fuel : Nat) → Read (List (String × Shape))
  | 0, _ => none
  | fuel + 1, c => do
    let first := c.toToken true
    if first.isAt '\x7d' then return ([], first.next)
    let (m, c) ← flowMember fuel first
    let c := c.toToken true
    if c.isAt ',' then
      let (ms, c) ← flowMembers fuel c.next
      return (m :: ms, c)
    else if c.isAt '\x7d' then return ([m], c.next)
    else none

end

/-! ### In block style -/

mutual

/-- Reads a node that is indented by at least `least` columns; the entries of a list may stand one
column before if `beside` is set. -/
def node : (fuel least : Nat) → (beside : Bool) → Read Shape
  | 0, _, _, _ => none
  | fuel + 1, least, beside, c => do
    let first := c.toToken
    let isBeside := beside && first.column + 1 = least && first.isEntry
    if first.isDone || (first.column < least && !isBeside) then return (absent, first)
    else if isBeside then
      let (items, c) ← entries fuel first.column true first
      return (.list items, c)
    else
      let (p, c) ← properties? false 3 ⟨none, none⟩ first
      if c.line ≠ first.line then
        let (n, c) ← node fuel least beside c
        return p.apply n c
      else
        match (if first.fresh then blockKey? least first else none) with
        | some (key, colon) =>
          let (m, c) ← member fuel first.column key colon
          let (ms, c) ← members fuel first.column c
          return (.map (m :: ms), c)
        | none =>
          let (n, c) ← content fuel least c
          return p.apply n c

/-- Reads a node without properties that is not begun by a plain key. -/
def content : (fuel least : Nat) → Read Shape
  | 0, _, _ => none
  | fuel + 1, least, c =>
    if c.isDone then some (absent, c)
    else if c.isEntry then do
      let (items, c) ← entries fuel c.column false c
      return (.list items, c)
    else if c.isComplexKey || c.isColon then do
      let (ms, c) ← members fuel c.column c
      return (.map ms, c)
    else if c.isAt '[' || c.isAt '\x7b' then flow fuel c
    else if c.isAt '|' || c.isAt '>' then (block? least c).map fun (s, c) => (.str s, c)
    else scalar? false least c

/-- Reads the value of a key in some column, from its colon on. -/
def member : (fuel column : Nat) → (key : String) → Read (String × Shape)
  | 0, _, _, _ => none
  | fuel + 1, column, key, colon =>
    (node fuel (column + 1) true (colon.next.setFresh false)).map fun (v, c) => ((key, v), c)

/-- Reads a key that has a mark of its own, and its value if there is one. -/
def complexMember : (fuel column : Nat) → Read (String × Shape)
  | 0, _, _ => none
  | fuel + 1, column, c => do
    let (n, c) ← node fuel (column + 1) true (c.next.setFresh true)
    let key ← keyText? n
    let c := c.toToken
    if c.column = column && c.isColon then
      let (v, c) ← node fuel (column + 1) true (c.next.setFresh true)
      return ((key, v), c)
    else return ((key, absent), c)

/-- Reads a key in some column and its value; the key may be missing before the colon. -/
def anyMember : (fuel column : Nat) → Read (String × Shape)
  | 0, _, _ => none
  | fuel + 1, column, c =>
    if c.isComplexKey then complexMember fuel column c
    else if c.isColon then member fuel column "" c
    else do
      let (key, colon) ← blockKey? (column + 1) c
      member fuel column key colon

/-- Reads the members of a map whose keys stand in some column. -/
def members : (fuel column : Nat) → Read (List (String × Shape))
  | 0, _, _ => none
  | fuel + 1, column, c => do
    let c := c.toToken
    if c.isDone || c.column < column then return ([], c)
    if column < c.column || !c.fresh then none
    let (m, c) ← anyMember fuel column c
    let (ms, c) ← members fuel column c
    return (m :: ms, c)

/-- Reads the entries of a list that stand in some column; `beside` tells a list in the column of
its key, which the next key ends. -/
def entries : (fuel column : Nat) → (beside : Bool) → Read (List Shape)
  | 0, _, _, _ => none
  | fuel + 1, column, beside, c => do
    let c := c.toToken
    if c.isDone || c.column < column then return ([], c)
    else if column < c.column then none
    else if c.isEntry then
      if c.fresh then
        let (n, c) ← node fuel (column + 1) false (c.next.setFresh true)
        let (ns, c) ← entries fuel column beside c
        return (n :: ns, c)
      else none
    else if beside then return ([], c)
    else none

end

/-! ### Documents -/

/-- How many containers may stand inside one another. -/
def depthLimit : Nat := 128

mutual

/-- A shape whose containers beyond a depth cannot be read. -/
def limited : (depth : Nat) → Shape → Shape
  | 0, .list _ => .unreadable
  | 0, .map _ => .unreadable
  | depth + 1, .list items => .list (limitedItems depth items)
  | depth + 1, .map members => .map (limitedMembers depth members)
  | _, n => n

/-- The items of a list, each limited. -/
def limitedItems (depth : Nat) : List Shape → List Shape
  | [] => []
  | n :: ns => limited depth n :: limitedItems depth ns

/-- The members of a map, each limited. -/
def limitedMembers (depth : Nat) : List (String × Shape) → List (String × Shape)
  | [] => []
  | (k, n) :: ms => (k, limited depth n) :: limitedMembers depth ms

end

/-- Whether a line before a document names a version that is understood. -/
def isVersion (line : List Char) : Bool :=
  match Text.wordsWhere isBlank [] line with
  | lead :: version :: rest =>
    lead = "%YAML".toList && (version = "1.1".toList || version = "1.2".toList) &&
      (rest.isEmpty || rest.any fun w => w.head? = some '#')
  | _ => false

/-- The place where a document begins.  After an opening line nothing may begin on that line
itself; a line that names a version needs an opening line. -/
def opening? : (fuel : Nat) → (versioned : Bool) → Cursor → Option Cursor
  | 0, _, _ => none
  | fuel + 1, versioned, c =>
    let c := c.toToken
    if c.column = 0 && c.isAt '%' then
      let line := c.rest.takeWhile (· ≠ '\n')
      if !versioned && isVersion line then opening? fuel true (c.advance line.length) else none
    else if c.isLineOf '-' then some ((c.advance 3).setFresh false)
    else if versioned || c.isLineOf '.' then none
    else some c

/-- Whether only closing lines follow a document. -/
def closes : (fuel : Nat) → Cursor → Bool
  | 0, _ => false
  | fuel + 1, c =>
    let c := c.toToken
    c.atEnd || (c.isLineOf '.' && closes fuel (c.advance 3))

/-- The shape of a text that holds one document or none. -/
def shape? (text : String) : Option Shape := do
  let cs ← source? text
  let fuel := 8 * cs.length + 16
  let c ← opening? 3 false (Cursor.start cs)
  let (n, c) ← node fuel 0 false c
  if closes fuel c then some (limited depthLimit n) else none

end Interchange.Yaml
