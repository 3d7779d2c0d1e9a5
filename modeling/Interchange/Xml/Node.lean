import Interchange.Text.Blank
import Interchange.Text.Pieces
import Interchange.Text.Ascii
/-!
# XML trees

The part of XML that messages use: elements with names, and text.  Attributes, comments and
processing instructions carry no data and are not part of the tree.

* `Xml.Node.render` — the text of a tree, which is well-formed XML if the names are element names.
* `Xml.elementName` — an element name made from any text.
* `Xml.escape`, `Xml.unescape` — character data and its entities.
-/

namespace Interchange.Xml

/-- A node of an XML tree. -/
inductive Node
  | element (name : String) (children : List Node)
  | text (s : String)

instance : Inhabited Node := ⟨.text ""⟩

/-- A character in character data. -/
def escapeChar (c : Char) : List Char :=
  if c = '&' then ['&', 'a', 'm', 'p', ';']
  else if c = '<' then ['&', 'l', 't', ';']
  else if c = '>' then ['&', 'g', 't', ';']
  else [c]

/-- A text as character data. -/
def escape (s : String) : String := String.ofList (s.toList.flatMap escapeChar)

/-- The entities of XML with what they stand for, in the order in which they are resolved.  The
ampersand comes last, so that no entity arises from the resolution of another. -/
def entities : List (String × String) :=
  [("&lt;", "<"), ("&gt;", ">"), ("&quot;", "\""), ("&apos;", "'"), ("&amp;", "&")]

/-- Resolves the named entities of a text, one after the other. -/
def unescape (s : String) : String :=
  entities.foldl (fun s e => Text.replace e.1 e.2 s) s

/-- The characters that an element name made from a text may have. -/
def isPlainNameChar (c : Char) : Bool := c.isAlphanum || c = '_' || c = '-' || c = '.'

/-- An element name made from characters: those that do not fit become underscores, and an
underscore is put in front of a name that would begin otherwise than with a letter or one. -/
def nameOf (cs : List Char) : List Char :=
  let cs := cs.map fun c => if isPlainNameChar c then c else '_'
  match cs with
  | c :: _ => if c.isAlpha || c = '_' then cs else '_' :: cs
  | [] => ['_']

/-- An element name made from a text. -/
def elementName (s : String) : String := String.ofList (nameOf s.toList)

mutual

/-- The text of a node.  An element without content is written as one tag. -/
def Node.render : Node → String
  | .text s => escape s
  | .element name [] => "<" ++ name ++ "/>"
  | .element name children => "<" ++ name ++ ">" ++ renderAll children ++ "</" ++ name ++ ">"

/-- The text of nodes, one after the other. -/
def renderAll : List Node → String
  | [] => ""
  | n :: ns => n.render ++ renderAll ns

end

namespace Node

/-- The elements among nodes, with their names and contents. -/
def elements : List Node → List (String × List Node)
  | [] => []
  | .element name children :: ns => (name, children) :: elements ns
  | .text _ :: ns => elements ns

/-- The text among nodes, without that of their elements. -/
def texts : List Node → String
  | [] => ""
  | .element .. :: ns => texts ns
  | .text s :: ns => s ++ texts ns

end Node

/-- Puts a blank in the place of every tag.  A tag begins with `<` and ends with the next `>`; a
`<` without one stands for itself.  The fuel bounds the number of characters. -/
def blankTags : (fuel : Nat) → List Char → List Char
  | 0, cs => cs
  | _, [] => []
  | fuel + 1, c :: cs =>
    if c = '<' then
      match cs.dropWhile (· ≠ '>') with
      | _ :: rest => ' ' :: blankTags fuel rest
      | [] => c :: blankTags fuel cs
    else c :: blankTags fuel cs

/-- The text without its tags, its words separated by single blanks and its entities resolved. -/
def stripTags (s : String) : String :=
  let words := Text.wordsWhere Text.isBlank [] (blankTags s.length s.toList)
  unescape (Text.join " " (words.map String.ofList))

end Interchange.Xml
