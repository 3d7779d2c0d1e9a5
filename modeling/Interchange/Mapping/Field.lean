import Interchange.Mapping.Transformation
/-!
# Field mappings

A field mapping reads the value at one path, transforms it, and names the path where the result is
to be written.  A field that is marked to be skipped reads nothing; one whose value is missing or
could not be transformed falls back on its default.

* `FieldMapping.read`, `Mapping.read` — the records.
* `FieldMapping.run` — the report on one field.
-/

namespace Interchange

/-- What a skipped field contributes. -/
inductive SkipBehavior
  | exclude
  | useDefault
deriving DecidableEq

namespace SkipBehavior

def ofName? : String → Option SkipBehavior
  | "exclude" => some exclude
  | "use_default" => some useDefault
  | _ => none

def read : Reader SkipBehavior := Reader.oneOf ["exclude", "use_default"] ofName?

end SkipBehavior

/-- One directive of a mapping. -/
structure FieldMapping where
  id : Option String
  sourcePath : String
  targetPath : String
  /-- The kind of the transformation as it was written. -/
  kind : String
  transformation : Transformation
  isRequired : Bool
  defaultValue : Option Value
  dataType : Option DataType
  skip : Bool
  skipBehavior : SkipBehavior

namespace FieldMapping

/-- A directive without extras. -/
def ofPaths (source target : String) (t : Transformation) : FieldMapping :=
  ⟨none, source, target, t.kind, t, false, none, none, false, .exclude⟩

/-- The fields of the record. -/
def fields : List Field :=
  [.default "id" (Reader.option Reader.text) none,
   .required "sourcePath" Reader.text,
   .required "targetPath" Reader.text,
   .default "transformationType" Reader.text "direct" ["type"],
   .default "transformationConfig" Reader.value .null,
   .default "isRequired" Reader.bool false,
   .default "defaultValue" (Reader.option Reader.value) none,
   .default "dataType" (Reader.option DataType.read) none,
   .default "skipMapping" Reader.bool false,
   .default "skipBehavior" SkipBehavior.read .exclude]

/-- How the fault of a transformation is reported with its directive. -/
def configMessage (source target : String) (fault : ConfigFault) : String :=
  s!"Invalid transformation configuration: field mapping {source} -> {target}: {fault.message}"

/-- Reads a directive and builds its transformation. -/
def read : Reader FieldMapping :=
  Reader.record "RawFieldMapping" fields
    fun (id, source, target, kind, config, required, default, dataType, skip, behavior, ()) =>
      match Transformation.ofConfig kind config with
      | .ok t => .ok ⟨id, source, target, kind, t, required, default, dataType, skip, behavior⟩
      | .error fault => .error (.rejected (configMessage source target fault))

/-- The default as a value of the declared type; one that cannot be coerced stands as written. -/
def coercedDefault (f : FieldMapping) : Option Value :=
  f.defaultValue.map fun d =>
    match f.dataType with
    | some t =>
      match t.coerce d with
      | .ok v => v
      | .error _ => d
    | none => d

end FieldMapping

/-- Which side of an exchange a mapping is for. -/
inductive Direction
  | request
  | response
deriving DecidableEq

namespace Direction

def name : Direction → String
  | request => "request"
  | response => "response"

def ofName? : String → Option Direction
  | "request" => some request
  | "response" => some response
  | _ => none

def read : Reader Direction := Reader.oneOf ["request", "response"] ofName?

end Direction

/-- Directives that are run in order. -/
structure Mapping where
  id : String
  name : String
  direction : Direction
  isActive : Bool
  fields : List FieldMapping

/-- Reads a mapping. -/
def Mapping.read : Reader Mapping :=
  Reader.record "Mapping"
    [.default "id" Reader.text "",
     .default "name" Reader.text "",
     .default "direction" Direction.read .request,
     .default "isActive" Reader.bool true,
     .default "fieldMappings" (Reader.list FieldMapping.read) []]
    fun (id, name, direction, active, fields, ()) => .ok ⟨id, name, direction, active, fields⟩

/-- How a field ended. -/
inductive FieldStatus
  | success
  /-- Nothing is written for the field. -/
  | skipped
  | error
  /-- The default is written. -/
  | default
deriving DecidableEq

def FieldStatus.name : FieldStatus → String
  | .success => "success"
  | .skipped => "skipped"
  | .error => "error"
  | .default => "default"

/-- The report on one field. -/
structure FieldReport where
  sourcePath : String
  targetPath : String
  status : FieldStatus
  kind : String
  source : Option Value
  output : Option Value
  error : Option String
  /-- A required field had neither a value nor a default. -/
  fatal : Bool

namespace FieldReport

/-- Whether the field has something to write. -/
def producedOutput (r : FieldReport) : Bool :=
  (r.status = .success || r.status = .default) && r.output.isSome

/-- A member that is there if its value is. -/
def optionalMember (key : String) (v : Option Value) : List (String × Value) :=
  (v.map fun x => (key, x)).toList

/-- The report as a record. -/
def toValue (r : FieldReport) : Value :=
  .obj <|
    [("sourcePath", .str r.sourcePath), ("targetPath", .str r.targetPath),
     ("status", .str r.status.name), ("transformation", .str r.kind)] ++
    optionalMember "sourceValue" r.source ++ optionalMember "outputValue" r.output ++
    optionalMember "error" (r.error.map .str) ++
    [("fatal", .bool r.fatal), ("durationUs", .count 0)]

end FieldReport

/-- The wording for a required field without a value. -/
def requiredMessage (path : String) : String := s!"Required field missing: {path}"

namespace FieldMapping

/-- The report before the field was looked at. -/
def blankReport (f : FieldMapping) : FieldReport :=
  ⟨f.sourcePath, f.targetPath, .skipped, f.kind, none, none, none, false⟩

/-- Ends a report with the default, or as it is without one. -/
def orDefault (f : FieldMapping) (r : FieldReport) : FieldReport :=
  match f.coercedDefault with
  | some d => { r with status := .default, output := some d }
  | none => r

/-- The report on a field without a value. -/
def whenMissing (f : FieldMapping) : FieldReport :=
  if f.defaultValue.isNone && f.isRequired then
    { f.blankReport with
      status := .error
      error := some (requiredMessage f.sourcePath)
      fatal := true }
  else f.orDefault f.blankReport

/-- Runs a field: `source` is where its value is, `context` where other fields are. -/
def run {σ : Type} (resolver : Resolver σ) (f : FieldMapping) (source context : Value) :
    StateM σ FieldReport := do
  if f.skip then
    return if f.skipBehavior = .useDefault then f.orDefault f.blankReport else f.blankReport
  else
    match source.present? f.sourcePath with
    | none => return f.whenMissing
    | some v =>
      let report := { f.blankReport with source := some v }
      match ← f.transformation.apply resolver v context with
      | .ok w => return { report with status := .success, output := some w }
      | .error e => return f.orDefault { report with status := .error, error := some e.message }

end FieldMapping

end Interchange
