import Interchange.Record.Reader
import Interchange.Value.Reader
import Interchange.Yaml.Reader
/-!
# Reading records off texts

A record is read off a whole text: off JSON, where a fault before the place at which the text stops
making sense is reported before that, or off YAML, where a malformed text has nothing to read.

* `Reader.ofJson`, `Reader.ofYaml` — a record off a text.
-/

namespace Interchange.Reader

/-- Reads a whole JSON text. -/
def ofJson {α : Type} (r : Reader α) (text : String) : Except RecordFault α :=
  match Json.shape text with
  | (n, clean) =>
    match r n with
    | .error fault => .error fault.inText
    | .ok x => if clean then .ok x else .error .malformed

/-- Reads a whole YAML text. -/
def ofYaml {α : Type} (r : Reader α) (text : String) : Except RecordFault α :=
  match Yaml.shape? text with
  | some n => r n
  | none => .error .malformed

end Interchange.Reader
