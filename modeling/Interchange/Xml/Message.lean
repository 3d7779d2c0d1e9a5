import Interchange.Mapping.DataType
import Interchange.Xml.Reader
/-!
# Values as XML

A value becomes an element: an object becomes the elements of its members, a list repeats the
element of its place, null becomes an empty element, and a scalar becomes text.  Keys are made into
element names.  On the way back an element with child elements is an object, of whose members those
that occur several times are lists, and one without is a scalar: text that is the JSON text of a
number or a truth value is read as such.

XML carries no types, so the way there and back keeps a value only if it avoids the shapes that
have no form of their own: lists of fewer than two items, lists in lists, empty objects and
strings, and strings that read as numbers or truth values.

* `Xml.ofValue`, `Xml.toValue` — between values and trees.
* `Xml.encode`, `Xml.decode` — between values and documents; a document that cannot be read counts
  as its text without tags.
-/

namespace Interchange.Xml

/-- What documents begin with. -/
def declarationText : String := "<?xml version=\"1.0\" encoding=\"UTF-8\"?>"

mutual

/-- The elements of a value in a place with a name. -/
def nodesOf (name : String) : Value → List Node
  | .null => [.element (elementName name) []]
  | .list items => itemNodes (elementName name) items
  | .obj members => [.element (elementName name) (.text "" :: memberNodes members)]
  | .str s => [.element (elementName name) [.text s]]
  | v => [.element (elementName name) [.text v.render]]

/-- The elements of items, all with one name. -/
def itemNodes (name : String) : List Value → List Node
  | [] => []
  | v :: vs => nodesOf name v ++ itemNodes name vs

/-- The elements of members. -/
def memberNodes : List (String × Value) → List Node
  | [] => []
  | (k, v) :: ms => nodesOf k v ++ memberNodes ms

end

/-- The root element of a value.  The items of a list are called `item`. -/
def ofValue (root : String) : Value → Node
  | .list items => .element (elementName root) (.text "" :: itemNodes "item" items)
  | .null => .element (elementName root) []
  | .obj members => .element (elementName root) (.text "" :: memberNodes members)
  | .str s => .element (elementName root) [.text s]
  | v => .element (elementName root) [.text v.render]

/-- The scalar of trimmed text. -/
def scalarOf (s : String) : Value :=
  if s.isEmpty then .null
  else if s = "true" then .bool true
  else if s = "false" then .bool false
  else
    match Value.parse? s with
    | some (.num n) => if n.render = s then .num n else .str s
    | _ => .str s

/-- Adds a member; one whose key is there already makes a list. -/
def addMember (key : String) (v : Value) (ms : List (String × Value)) : List (String × Value) :=
  match Table.get? key ms with
  | some (.list items) => Table.put key (.list (items ++ [v])) ms
  | some first => Table.put key (.list [first, v]) ms
  | none => Table.put key v ms

/-- The members that values under names make, repeated names being collected into lists. -/
def collect (pairs : List (String × Value)) : List (String × Value) :=
  pairs.foldl (fun ms p => addMember p.1 p.2 ms) []

/-- The value of an element whose child elements have these values and whose text is this. -/
def contentOf (pairs : List (String × Value)) (text : String) : Value :=
  match pairs with
  | [] => scalarOf (Text.trim text)
  | pairs => .obj (collect pairs)

/-- The values of the child elements, with their names. -/
def childValues : List Node → List (String × Value)
  | [] => []
  | .element name children :: ns =>
    (name, contentOf (childValues children) (Node.texts children)) :: childValues ns
  | .text _ :: ns => childValues ns

/-- The value of the content of an element. -/
def contentValue (children : List Node) : Value :=
  contentOf (childValues children) (Node.texts children)

/-- The value of an element. -/
def toValue : Node → Value
  | .element _ children => contentValue children
  | .text s => scalarOf (Text.trim s)

/-- The document of a value. -/
def encode (v : Value) (root : String) : String := declarationText ++ (ofValue root v).render

/-- The value of a document. -/
def decode (s : String) : Value :=
  match read? s with
  | some root => toValue root
  | none => .str (stripTags s)

end Interchange.Xml
