import Interchange.Number.Layout
import Interchange.Shape
import Interchange.Text.Pieces
import Interchange.Text.Quoted
/-!
# Faults of a record

Why a record could not be read off a document.  The wording names what was found and what was
expected; it does not name a position.

A record may be read off a value that is already there or off a text.  Some faults of a value are
faults of syntax when they are met in a text, since the reader of a text looks only for a fitting
first character there; `inText` makes the difference.
-/

namespace Interchange

/-- What stands in a document, as a fault names it. -/
inductive Found
  | null
  | bool (b : Bool)
  | integer (n : Int)
  | float (x : Float)
  | text (s : String)
  | sequence
  | map

/-- Why a record could not be read. -/
inductive RecordFault
  /-- The text is malformed. -/
  | malformed
  | wrongType (found : Found) (expected : String)
  | wrongValue (found : Found) (expected : String)
  /-- A list in the place of a record ends too early. -/
  | tooShort (length : Nat) (expected : String)
  /-- A list in the place of a record goes on after its last field. -/
  | tooLong (length : Nat)
  | missing (field : String)
  | repeated (field : String)
  | unknownName (name : String) (known : List String)
  /-- A name was expected and neither a text nor an object was found. -/
  | noName (found : Found)
  /-- A name was expected and an object with several members or none was found. -/
  | noSingleName
  /-- The record was read, but it does not describe anything. -/
  | rejected (message : String)

namespace Found

def describe : Found → String
  | .null => "null"
  | .bool b => s!"boolean `{b}`"
  | .integer n => s!"integer `{n}`"
  | .float x => s!"floating point `{FloatLayout.json.render x}`"
  | .text s => "string " ++ Text.quoted s
  | .sequence => "sequence"
  | .map => "map"

/-- What a part of a document is, as a fault names it. -/
def ofShape : Shape → Found
  | .null => .null
  | .bool b => .bool b
  | .num (.int n _) => .integer n
  | .num (.float x _) => .float x
  | .str s => .text s
  | .plain s => .text s
  | .list _ => .sequence
  | .map _ => .map
  | .unreadable => .null
  | .broken => .null

end Found

namespace RecordFault

/-- The names that were possible, as a fault lists them. -/
def listNames : List String → String
  | [] => "there are no variants"
  | [a] => s!"expected `{a}`"
  | [a, b] => s!"expected `{a}` or `{b}`"
  | names => "expected one of " ++ Text.join ", " (names.map fun n => s!"`{n}`")

/-- The wording of a fault. -/
def message : RecordFault → String
  | malformed => "malformed text"
  | wrongType found expected => s!"invalid type: {found.describe}, expected {expected}"
  | wrongValue found expected => s!"invalid value: {found.describe}, expected {expected}"
  | tooShort n expected => s!"invalid length {n}, expected {expected}"
  | tooLong n => s!"invalid length {n}, expected fewer elements in array"
  | missing field => s!"missing field `{field}`"
  | repeated field => s!"duplicate field `{field}`"
  | unknownName name known => s!"unknown variant `{name}`, {listNames known}"
  | noName found => s!"invalid type: {found.describe}, expected string or map"
  | noSingleName => "invalid value: map, expected map with a single key"
  | rejected m => m

/-- The same fault met in a text. -/
def inText : RecordFault → RecordFault
  | tooLong _ | noName _ | noSingleName => malformed
  | fault => fault

end RecordFault

end Interchange
