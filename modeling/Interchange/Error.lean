import Interchange.Http.Failure
import Interchange.Http.System
import Interchange.Http.Url
import Interchange.Mapping.Run
import Interchange.Pipeline.Route
/-!
# Errors of runs

Everything for which a bundle is refused or a run stops.  Errors fall into families by who can mend
them: the author of the configuration, the sender of the data, or the other system.

* `Error.message` — the wording.
* `Error.family` — the family.
-/

namespace Interchange

/-- What is wrong with a configuration. -/
inductive SetupFault
  | unreadableBundle (fault : RecordFault)
  | duplicatePipeline (id : String)
  | duplicateSystem (code : String)
  | unknownBundleFormat (extension path : String)
  | unsetVariable (name : String)
  | badUrl (url : String) (fault : Url.Fault)
  | badScheme (scheme url : String)
  | badSettings (fault : SettingsFault)
  | unknownStepType (stepType : String)

/-- The wording of a fault. -/
def SetupFault.message : SetupFault → String
  | .unreadableBundle fault => s!"Invalid bundle: {fault.message}"
  | .duplicatePipeline id => s!"Duplicate pipeline id '{id}'"
  | .duplicateSystem code => s!"Duplicate system code '{code}'"
  | .unknownBundleFormat extension path =>
    s!"Unsupported bundle format '{extension}' for {path}; expected .json, .yaml or .yml"
  | .unsetVariable name => s!"Environment variable not found: {name}"
  | .badUrl url fault => s!"Invalid system URL '{url}': {fault.message}"
  | .badScheme scheme url => s!"Unsupported URL scheme '{scheme}' in '{url}'"
  | .badSettings fault => fault.message
  | .unknownStepType stepType => s!"Unsupported step type '{stepType}'"

/-- Why a bundle was refused or a run stopped. -/
inductive Error
  | setup (fault : SetupFault)
  | unknownPipeline (id : String)
  | inactivePipeline (id : String)
  /-- No route of an active pipeline fits the request. -/
  | unrouted (request : RouteRequest)
  | unknownSystem (code : String)
  | inactiveSystem (code : String)
  | lookup (fault : LookupFault)
  /-- A required field has neither a value nor a default. -/
  | requiredField (path : String)
  | transformation (error : TransformError)
  | expression (error : Expr.Error)
  /-- A reply could not be read in its format. -/
  | unreadableReply (format : WireFormat)
  | http (failure : HttpFailure)
  /-- A file could not be read or written. -/
  | file (message : String)

/-- The families of errors. -/
inductive ErrorFamily
  | configuration | data | transport | internal
deriving DecidableEq

def ErrorFamily.name : ErrorFamily → String
  | .configuration => "configuration"
  | .data => "data"
  | .transport => "transport"
  | .internal => "internal"

namespace Error

/-- The family of an error. -/
def family : Error → ErrorFamily
  | setup _ | unknownPipeline _ | inactivePipeline _ | unrouted _ | unknownSystem _
  | inactiveSystem _ | lookup (.unknownTable _) => .configuration
  | requiredField _ | transformation _ | expression _ => .data
  | unreadableReply _ | http _ => .transport
  | lookup (.unavailable _) | file _ => .internal

/-- A criterion as an error shows it. -/
def quotedCriterion : Option String → String
  | some s => s!"Some({Text.quoted s})"
  | none => "None"

/-- The wording of an error. -/
def message : Error → String
  | setup fault => s!"Configuration error: {fault.message}"
  | unknownPipeline id => s!"Pipeline not found: {id}"
  | inactivePipeline id => s!"Pipeline is inactive: {id}"
  | unrouted q =>
    s!"No pipeline routes product line {quotedCriterion q.productLine}, " ++
      s!"source system {quotedCriterion q.sourceSystem}, " ++
      s!"transaction type {quotedCriterion q.transactionType}"
  | unknownSystem code => s!"External system not found: {code}"
  | inactiveSystem code => s!"External system is inactive: {code}"
  | lookup fault => fault.message
  | requiredField path => requiredMessage path
  | transformation error => s!"Transformation failed: {error.message}"
  | expression error => s!"Expression error: {error.message}"
  | unreadableReply format => s!"{format.name} format error: "
  | http failure => s!"HTTP error: {failure.display}"
  | file message => s!"IO error: {message}"

end Error

end Interchange
