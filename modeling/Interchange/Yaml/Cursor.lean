import Interchange.Shape
import Interchange.Text.Pieces
/-!
# Places in a YAML text

Structure in YAML depends on columns, so a place in a text is more than what follows it: its line,
its column, and whether a key or an entry may begin there.  A key or an entry may begin at the
start of a line and after the mark of another entry; nowhere else in block style.

* `Cursor` — a place, with the nodes that were given a name before it.
* `Cursor.toToken` — the place of the next thing that is neither blank nor comment.
* `Cursor.isEntry`, `isComplexKey`, `isColon`, `isMarker` — what stands at a place.
* `source?` — the characters of a text, line breaks made alike.
-/

namespace Interchange.Yaml

/-- A place in a text. -/
structure Cursor where
  rest : List Char
  line : Nat
  column : Nat
  /-- Whether a key or an entry of a list may begin here. -/
  fresh : Bool
  /-- The nodes that were given a name so far, the latest first. -/
  anchors : List (String × Shape)

/-- The characters that a text may hold. -/
def isPermitted (c : Char) : Bool :=
  let n := c.toNat
  n = 9 || n = 10 || n = 13 || (0x20 ≤ n && n ≤ 0x7E) || n = 0x85 ||
    (0xA0 ≤ n && n ≤ 0xFFFD && n ≠ 0xFEFF) || 0x10000 ≤ n

/-- The characters of a text with every line break written as a line feed. -/
def unifyBreaks : List Char → List Char
  | [] => []
  | '\r' :: '\n' :: cs => '\n' :: unifyBreaks cs
  | c :: cs => (if c = '\r' || c.toNat = 0x85 then '\n' else c) :: unifyBreaks cs

/-- The characters of a text without a byte order mark, provided that all of them are permitted. -/
def source? (text : String) : Option (List Char) :=
  let cs :=
    match text.toList with
    | c :: cs => if c.toNat = 0xFEFF then cs else c :: cs
    | [] => []
  if cs.all isPermitted then some (unifyBreaks cs) else none

/-- The blanks inside a line. -/
def isBlank (c : Char) : Bool := c = ' ' || c = '\t'

/-- Whether a blank, a line break or the end comes first. -/
def blankOrEnd : List Char → Bool
  | [] => true
  | c :: _ => isBlank c || c = '\n'

namespace Cursor

/-- The beginning of a text. -/
def start (cs : List Char) : Cursor := ⟨cs, 0, 0, true, []⟩

/-- The place after one character. -/
def next (c : Cursor) : Cursor :=
  match c.rest with
  | [] => c
  | '\n' :: cs => { c with rest := cs, line := c.line + 1, column := 0 }
  | _ :: cs => { c with rest := cs, column := c.column + 1 }

/-- The place after some characters. -/
def advance : Nat → Cursor → Cursor
  | 0, c => c
  | k + 1, c => advance k c.next

/-- The same place, where a key or an entry may begin or may not. -/
def setFresh (fresh : Bool) (c : Cursor) : Cursor := { c with fresh := fresh }

/-- Passes over blanks, comments and line breaks; a tab is no indentation. -/
def passBlanks (inFlow inComment : Bool) (anchors : List (String × Shape)) (line column : Nat)
    (fresh : Bool) : List Char → Cursor
  | [] => ⟨[], line, column, fresh, anchors⟩
  | c :: cs =>
    if c = '\n' then passBlanks inFlow false anchors (line + 1) 0 (fresh || !inFlow) cs
    else if inComment || c = ' ' || (c = '\t' && (inFlow || !fresh)) then
      passBlanks inFlow inComment anchors line (column + 1) fresh cs
    else if c = '#' then passBlanks inFlow true anchors line (column + 1) fresh cs
    else ⟨c :: cs, line, column, fresh, anchors⟩

/-- The place of the next thing that is neither blank nor comment. -/
def toToken (c : Cursor) (inFlow : Bool := false) : Cursor :=
  passBlanks inFlow false c.anchors c.line c.column c.fresh c.rest

def atEnd (c : Cursor) : Bool := c.rest.isEmpty

/-- Whether a character stands here with a blank after it. -/
def isMark (mark : Char) (c : Cursor) : Bool :=
  match c.rest with
  | x :: cs => x = mark && blankOrEnd cs
  | [] => false

/-- Whether an entry of a list begins here. -/
def isEntry (c : Cursor) : Bool := c.isMark '-'

/-- Whether a key with a mark of its own begins here. -/
def isComplexKey (c : Cursor) : Bool := c.isMark '?'

/-- Whether the value of a key begins here, in block style. -/
def isColon (c : Cursor) : Bool := c.isMark ':'

/-- Whether one character stands here. -/
def isAt (x : Char) (c : Cursor) : Bool := c.rest.head? = some x

/-- Whether a line of three marks begins here. -/
def isLineOf (mark : Char) (c : Cursor) : Bool :=
  c.column = 0 &&
    match c.rest with
    | x :: y :: z :: cs => x = mark && y = mark && z = mark && blankOrEnd cs
    | _ => false

/-- Whether a document begins or ends here. -/
def isMarker (c : Cursor) : Bool := c.isLineOf '-' || c.isLineOf '.'

/-- Whether nothing that belongs to a document is left. -/
def isDone (c : Cursor) : Bool := c.atEnd || c.isMarker

/-- Gives a name to a node. -/
def bindName (name? : Option String) (n : Shape) (c : Cursor) : Cursor :=
  match name? with
  | some name => { c with anchors := (name, n) :: c.anchors }
  | none => c

/-- The node with a name. -/
def named? (name : String) (c : Cursor) : Option Shape :=
  (c.anchors.find? fun p => p.1 = name).map Prod.snd

end Cursor

end Interchange.Yaml
