import Interchange.Calendar.Reader
import Interchange.Expr.Evaluate
import Interchange.Record.Reader
import Interchange.Value.Reader
/-!
# Data types

The declared type of a field or a fixed value, and the coercion of values to it.  A type name that
is not known stands for any type, to which every value belongs.

* `TransformError` — why a value could not be transformed.
* `DataType.coerce` — a value as a value of a type.
-/

namespace Interchange

/-- What is wrong with the configuration of a transformation. -/
inductive ConfigFault
  | requires (kind key : String)
  | notNumeric (key : String) (value : Value)
  | fieldsNotAList
  | unknownDateFormat (name : String)
  | badDataType (fault : RecordFault)

/-- The wording of a fault. -/
def ConfigFault.message : ConfigFault → String
  | .requires kind key => s!"'{kind}' transformation requires '{key}'"
  | .notNumeric key value => s!"'{key}' must be numeric, got {value.render}"
  | .fieldsNotAList => "concat fields must be an array"
  | .unknownDateFormat name => s!"unsupported date outputFormat '{name}'"
  | .badDataType fault => fault.message

/-- Why a transformation could not be built or has no result. -/
inductive TransformError
  | conversion (target : String) (value : Value)
  | invalidDate (value : Value)
  | divisionByZero (operation : String)
  | configuration (fault : ConfigFault)
  | expression (error : Expr.Error)
  /-- The resolver of lookup tables failed, for the reason in the message. -/
  | lookup (table message : String)

/-- The wording of an error. -/
def TransformError.message : TransformError → String
  | .conversion target value =>
      s!"Type conversion failed: cannot convert {value.render} to {target}"
  | .invalidDate value => s!"Invalid date: {value.toText}"
  | .divisionByZero operation => s!"Division by zero in {operation}"
  | .configuration fault => s!"Invalid transformation configuration: {fault.message}"
  | .expression error => error.message
  | .lookup table message => s!"Lookup in table '{table}' failed: {message}"

/-- The value that a JSON text denotes, if it is one. -/
def Value.parse? (text : String) : Option Value :=
  match Json.shape text with
  | (n, true) => (Reader.value n).toOption
  | (_, false) => none

/-- The instant that a value denotes: a text in one of the forms of dates, or a number of
milliseconds since 1970, fractions cut off. -/
def Value.toInstant? : Value → Option Calendar.Instant
  | .num n => (Binary64.toInt? (Binary64.truncate n.toFloat)).bind Calendar.Instant.ofMillis?
  | .str s => Calendar.Instant.parse? s
  | _ => none

/-- The instant that a value has to denote. -/
def Value.toInstant (v : Value) : Except TransformError Calendar.Instant :=
  match v.toInstant? with
  | some i => .ok i
  | none => .error (.invalidDate v)

/-- The declared type of a value. -/
inductive DataType
  | string | number | integer | boolean | date | object | array | any
deriving DecidableEq

namespace DataType

/-- The name of a type. -/
def name : DataType → String
  | string => "string"
  | number => "number"
  | integer => "integer"
  | boolean => "boolean"
  | date => "date"
  | object => "object"
  | array => "array"
  | any => "any"

/-- The type of a name. -/
def ofName (s : String) : DataType :=
  match s with
  | "string" => string
  | "number" | "float" | "decimal" => number
  | "integer" | "int" => integer
  | "boolean" | "bool" => boolean
  | "date" | "datetime" => date
  | "object" => object
  | "array" => array
  | _ => any

/-- Reads a type by its name. -/
def read : Reader DataType := Reader.oneOf [] fun s => some (ofName s)

/-- The container that a JSON text denotes. -/
def container? (s : String) : Option Value := (Value.parse? s).filter Value.isContainer

/-- A value as a value of a type. -/
def coerce (t : DataType) (v : Value) : Except TransformError Value :=
  match t with
  | string => .ok (.str v.toText)
  | number =>
    match v.toNumber?.bind Value.ofNumber? with
    | some w => .ok w
    | none => .error (.conversion "number" v)
  | integer =>
    match v.toNumber?.bind fun x => Value.ofNumber? (Binary64.truncate x) with
    | some w => .ok w
    | none => .error (.conversion "integer" v)
  | boolean => .ok (.bool v.toBool)
  | date => v.toInstant.map fun i => .str (Calendar.DateFormat.timestamp.render i)
  | object =>
    match v with
    | .obj ms => .ok (.obj ms)
    | .null => .ok .empty
    | .str s =>
      match container? s with
      | some (.obj ms) => .ok (.obj ms)
      | _ => .error (.conversion "object" v)
    | v => .error (.conversion "object" v)
  | array =>
    match v with
    | .list items => .ok (.list items)
    | .null => .ok (.list [])
    | .str s =>
      match container? s with
      | some (.list items) => .ok (.list items)
      | _ => .ok (.list [v])
    | v => .ok (.list [v])
  | any => .ok v

end DataType

end Interchange
