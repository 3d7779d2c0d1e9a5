import Interchange.Lookup
import Interchange.Mapping.DataType
import Interchange.Text.Case
/-!
# Transformations

What a field mapping does to the value it reads.  A transformation is written as the name of its
kind with an object of parameters; it is built once, so that a missing parameter is found before
any value is.  Names of kinds are compared without regard to case, `-` stands for `_`, and an
unknown kind changes nothing.

* `Transformation.ofConfig` — builds a transformation from its written form.
* `Transformation.apply` — the result of a transformation.  `context` is the document in which the
  kinds that read other fields look them up.
-/

namespace Interchange

/-- What is done to the value of a field. -/
inductive Transformation
  | direct
  | uppercase
  | lowercase
  | trim
  /-- The piece at an index; without an index no piece is meant. -/
  | split (delimiter : String) (index : Option Nat)
  | number
  | boolean
  | string
  | static (value : Value) (dataType : Option DataType)
  | date (format : Calendar.DateFormat)
  | concat (fields : List String) (separator : String)
  | expression (expression : String)
  | conditional (condition : String) (whenTrue whenFalse : Option Value)
  | lookup (table : String) (notFound : Option Value)
  | multiply (factor : Float)
  | divide (divisor : Float)
  | round (decimals : Nat)
  | perUnit (unitSize : Float)

namespace Transformation

/-- The name of the kind. -/
def kind : Transformation → String
  | direct => "direct"
  | uppercase => "uppercase"
  | lowercase => "lowercase"
  | trim => "trim"
  | split .. => "split"
  | number => "number"
  | boolean => "boolean"
  | string => "string"
  | static .. => "static"
  | date .. => "date"
  | concat .. => "concat"
  | expression .. => "expression"
  | conditional .. => "conditional"
  | lookup .. => "lookup"
  | multiply .. => "multiply"
  | divide .. => "divide"
  | round .. => "round"
  | perUnit .. => "per_unit"

/-- A text parameter. -/
def textParam? (config : Value) (key : String) : Option String :=
  (config.member? key).bind Value.text?

/-- A text parameter that must be there and hold more than blanks. -/
def requiredText (config : Value) (key kind : String) : Except ConfigFault String :=
  match textParam? config key with
  | some s => if Text.isBlankText s then .error (.requires kind key) else .ok s
  | none => .error (.requires kind key)

/-- A numeric parameter; null stands for none. -/
def numberParam (config : Value) (key : String) : Except ConfigFault (Option Float) :=
  match config.member? key with
  | none | some .null => .ok none
  | some v =>
    match v.toNumber? with
    | some x => .ok (some x)
    | none => .error (.notNumeric key v)

/-- The form that a name of a date format stands for. -/
def dateFormat (name : String) : Except ConfigFault Calendar.DateFormat :=
  match Text.trim name with
  | "YYYY-MM-DD" => .ok .iso
  | "MM/DD/YYYY" => .ok .us
  | "DD/MM/YYYY" => .ok .eu
  | "timestamp" | "iso" => .ok .timestamp
  | "epoch" => .ok .epoch
  | other => .error (.unknownDateFormat other)

/-- The form of dates that the parameters ask for. -/
def dateParam (config : Value) : Except ConfigFault Calendar.DateFormat :=
  match (textParam? config "outputFormat").or (textParam? config "format") with
  | some name => dateFormat name
  | none => .ok .iso

/-- The index that the parameters ask for.  A negative one means no piece. -/
def indexParam (config : Value) : Except ConfigFault (Option Nat) :=
  (numberParam config "index").map fun
    | some x => if x < 0.0 then none else some x.toUInt64.toNat
    | none => some 0

/-- The number of decimals that the parameters ask for, from 0 to 15. -/
def decimalsParam (config : Value) : Except ConfigFault Nat :=
  (numberParam config "decimals").map fun
    | some x => if x < 0.0 then 0 else if 15.0 < x then 15 else x.toUInt64.toNat
    | none => 2

/-- The paths that the parameters list, as items or separated by commas. -/
def fieldsParam (config : Value) : Except ConfigFault (List String) :=
  match config.member? "fields" with
  | some (.list items) => .ok (items.map Value.toText)
  | some (.str s) => .ok ((Text.split ',' s).map Text.trim)
  | none | some .null => .ok []
  | some _ => .error .fieldsNotAList

/-- The data type that the parameters name. -/
def dataTypeParam (config : Value) : Except ConfigFault (Option DataType) :=
  match config.member? "dataType" with
  | none | some .null => .ok none
  | some v => ((DataType.read (.ofValue v)).mapError .badDataType).map some

/-- The written name of a kind in its common spelling. -/
def normalizeKind (kind : String) : String :=
  Text.replace "-" "_" (Text.asciiLower (Text.trim kind))

/-- Builds a transformation from the name of its kind and its parameters. -/
def ofConfig (kind : String) (config : Value) : Except ConfigFault Transformation :=
  let kind := normalizeKind kind
  match kind with
  | "uppercase" => .ok uppercase
  | "lowercase" => .ok lowercase
  | "trim" => .ok trim
  | "split" => do
    return split ((textParam? config "delimiter").getD ",") (← indexParam config)
  | "number" => .ok number
  | "boolean" => .ok boolean
  | "string" => .ok string
  | "static" => do
    return static (.ofOption (config.member? "value")) (← dataTypeParam config)
  | "date" => do return date (← dateParam config)
  | "concat" => do
    return concat (← fieldsParam config) ((textParam? config "separator").getD " ")
  | "expression" | "custom" | "formula" => do
    return expression (← requiredText config "expression" kind)
  | "conditional" => do
    return conditional (← requiredText config "condition" kind)
      (config.member? "trueValue") (config.member? "falseValue")
  | "lookup" => do
    return lookup (← requiredText config "tableKey" kind)
      ((config.member? "notFoundValue").filter fun v => !v.isNull)
  | "multiply" => do return multiply ((← numberParam config "factor").getD 1.0)
  | "divide" => do return divide ((← numberParam config "divisor").getD 1.0)
  | "round" => do return round (← decimalsParam config)
  | "per_unit" | "perunit" => do return perUnit ((← numberParam config "unitSize").getD 100.0)
  | _ => .ok direct

/-- The number of a value that has to be one. -/
def numeric (v : Value) (operation : String) : Except TransformError Float :=
  match v.toNumber? with
  | some x => .ok x
  | none => .error (.conversion s!"number ({operation})" v)

/-- A result as a value; `v` is the value that it came from. -/
def finite (x : Float) (v : Value) : Except TransformError Value :=
  match Value.ofNumber? x with
  | some w => .ok w
  | none => .error (.conversion "finite number" v)

/-- Divides the number of a value by one that must not be zero. -/
def quotient (v : Value) (divisor : Float) (operation : String) : Except TransformError Value := do
  if divisor == 0.0 then .error (.divisionByZero operation)
  else finite ((← numeric v operation) / divisor) v

/-- Rounds to a number of decimals, halves away from zero. -/
def roundTo (decimals : Nat) (x : Float) : Float :=
  let scale := Binary64.power 10.0 decimals
  Binary64.round (x * scale) / scale

/-- The result of a transformation that needs no lookup. -/
def applyPure (t : Transformation) (v context : Value) : Except TransformError Value :=
  match t with
  | direct | lookup .. => .ok v
  | uppercase => .ok (.str (Text.upper v.toText))
  | lowercase => .ok (.str (Text.lower v.toText))
  | trim => .ok (.str (Text.trim v.toText))
  | split delimiter index =>
    match index.bind fun i => (Text.splitOnText delimiter v.toText)[i]? with
    | some piece => .ok (.str (Text.trim piece))
    | none => .ok v
  | number => do finite (← numeric v "number") v
  | boolean => .ok (.bool v.toBool)
  | string => .ok (.str v.toText)
  | static value dataType =>
    match dataType with
    | some t => t.coerce value
    | none => .ok value
  | date format => do return .str (format.render (← v.toInstant))
  | concat fields separator =>
    .ok (.str (Text.join separator
      (fields.map fun path => ((context.at? path).map Value.toText).getD "")))
  | expression e =>
    match Expr.number e (.ofSource v context) with
    | .ok x => finite x v
    | .error e => .error (.expression e)
  | conditional condition whenTrue whenFalse =>
    match Expr.holds condition (.ofSource v context) with
    | .ok b => .ok ((if b then whenTrue else whenFalse).getD v)
    | .error e => .error (.expression e)
  | multiply factor => do finite ((← numeric v "multiply") * factor) v
  | divide divisor => quotient v divisor "divide"
  | round decimals => do finite (roundTo decimals (← numeric v "round")) v
  | perUnit unitSize => quotient v unitSize "per_unit"

/-- The result of a transformation. -/
def apply {σ : Type} (r : Resolver σ) (t : Transformation) (v context : Value) :
    StateM σ (Except TransformError Value) := do
  match t with
  | lookup table notFound =>
    match ← r table v.toText with
    | .ok (some found) => return .ok found
    | .ok none => return .ok (notFound.getD v)
    | .error fault => return .error (.lookup table fault.message)
  | t => return t.applyPure v context

end Transformation

end Interchange
