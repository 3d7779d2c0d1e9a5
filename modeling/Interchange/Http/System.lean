import Interchange.WireFormat
/-!
# Systems and calls

A system that is called from pipelines has a code, an address and a format; a call adds what one
step wants of it.  The settings of all calls are the times they may take and the name under which
they are made.

* `ExternalSystem.read`, `CallConfig.read`, `CallSettings.read` — the records, with their written
  forms beside them.
* `CallSettings.validate` — why settings are of no use.
-/

namespace Interchange

/-- Another system. -/
structure ExternalSystem where
  code : String
  name : Option String
  baseUrl : String
  format : WireFormat
  /-- Headers of every call.  A value may refer to variables of the environment. -/
  headers : List (String × String)
  isActive : Bool
  /-- The milliseconds that a call may take, unless the call says otherwise. -/
  timeout : Option Nat
deriving DecidableEq

/-- What one step wants of a system. -/
structure CallConfig where
  system : String
  path : Option String
  method : String
  /-- The SOAP operation or the root element of XML. -/
  operation : String
  timeout : Option Nat
  headers : List (String × String)
  /-- The part of the context that is sent; all of it without one. -/
  payloadPath : Option String
deriving DecidableEq

/-- The settings of all calls.  Times are in seconds. -/
structure CallSettings where
  requestTimeout : Nat
  connectTimeout : Nat
  userAgent : String
deriving DecidableEq

/-- A text, or null for none. -/
def Value.ofText (s : Option String) : Value := .ofOption (s.map .str)

/-- A count, or null for none. -/
def Value.ofCount (n : Option Nat) : Value := .ofOption (n.map .count)

/-- Texts under names. -/
def Value.ofTexts (t : List (String × String)) : Value :=
  .ofMembers (t.map fun p => (p.1, .str p.2))

namespace ExternalSystem

/-- A system with nothing but an address. -/
def ofUrl (code baseUrl : String) (format : WireFormat) : ExternalSystem :=
  ⟨code, none, baseUrl, format, [], true, none⟩

def read : Reader ExternalSystem :=
  Reader.record "ExternalSystem"
    [.required "code" Reader.text,
     .default "name" (Reader.option Reader.text) none,
     .required "baseUrl" Reader.text,
     .default "format" WireFormat.read .json,
     .default "headers" (Reader.table Reader.text) [],
     .default "isActive" Reader.bool true,
     .default "timeoutMs" (Reader.option (Reader.natural 64 "u64")) none]
    fun (code, name, url, format, headers, active, timeout, ()) =>
      .ok ⟨code, name, url, format, headers, active, timeout⟩

/-- The system as a record. -/
def toValue (s : ExternalSystem) : Value :=
  .obj
    [("code", .str s.code), ("name", .ofText s.name), ("baseUrl", .str s.baseUrl),
     ("format", .str s.format.name), ("headers", .ofTexts s.headers),
     ("isActive", .bool s.isActive), ("timeoutMs", .ofCount s.timeout)]

end ExternalSystem

namespace CallConfig

def read : Reader CallConfig :=
  Reader.record "CallConfig"
    [.required "system" Reader.text ["systemCode"],
     .default "path" (Reader.option Reader.text) none,
     .default "method" Reader.text "POST",
     .default "operation" Reader.text "Request",
     .default "timeoutMs" (Reader.option (Reader.natural 64 "u64")) none,
     .default "headers" (Reader.table Reader.text) [],
     .default "payloadPath" (Reader.option Reader.text) none]
    fun (system, path, method, operation, timeout, headers, payload, ()) =>
      .ok ⟨system, path, method, operation, timeout, headers, payload⟩

/-- The call as a record. -/
def toValue (c : CallConfig) : Value :=
  .obj
    [("system", .str c.system), ("path", .ofText c.path), ("method", .str c.method),
     ("operation", .str c.operation), ("timeoutMs", .ofCount c.timeout),
     ("headers", .ofTexts c.headers), ("payloadPath", .ofText c.payloadPath)]

end CallConfig

/-- Why settings are of no use. -/
inductive SettingsFault
  | noRequestTime
  | noConnectTime
  | connectExceedsRequest
deriving DecidableEq

/-- The wording of a fault. -/
def SettingsFault.message : SettingsFault → String
  | .noRequestTime => "Request timeout cannot be zero"
  | .noConnectTime => "Connect timeout cannot be zero"
  | .connectExceedsRequest => "Connect timeout cannot exceed request timeout"

namespace CallSettings

/-- The settings in the absence of others. -/
def standard : CallSettings := ⟨30, 10, "ratebridge/0.1.0"⟩

def read : Reader CallSettings :=
  Reader.record "InvokerConfig"
    [.default "requestTimeoutSecs" (Reader.natural 64 "u64") standard.requestTimeout,
     .default "connectTimeoutSecs" (Reader.natural 64 "u64") standard.connectTimeout,
     .default "userAgent" Reader.text standard.userAgent]
    fun (request, connect, agent, ()) => .ok ⟨request, connect, agent⟩

/-- The settings as a record. -/
def toValue (s : CallSettings) : Value :=
  .obj
    [("requestTimeoutSecs", .count s.requestTimeout),
     ("connectTimeoutSecs", .count s.connectTimeout), ("userAgent", .str s.userAgent)]

/-- Finds the first fault of settings. -/
def validate (s : CallSettings) : Except SettingsFault Unit :=
  if s.requestTimeout = 0 then .error .noRequestTime
  else if s.connectTimeout = 0 then .error .noConnectTime
  else if s.requestTimeout < s.connectTimeout then .error .connectExceedsRequest
  else .ok ()

/-- The milliseconds that a call may take. -/
def requestMillis (s : CallSettings) : Nat := s.requestTimeout * 1000

/-- The milliseconds that a connection may take. -/
def connectMillis (s : CallSettings) : Nat := s.connectTimeout * 1000

end CallSettings

end Interchange
