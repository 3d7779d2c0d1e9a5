import Interchange.Error
import Interchange.Http.Exchange
/-!
# Calling a system

A call sends a part of the context in the format of a system and reads the reply.  What was last
received stands in the context under `response` and is not sent when the whole context is.

* `expandVariables` — header values with references to the environment resolved.
* `ExternalSystem.request` — the request of a call.
* `ExternalSystem.conclude` — what an outcome means.
* `ExternalSystem.invoke` — both, with a transport between them.
-/

namespace Interchange

/-- The variables of an environment. -/
abbrev Environment := String → Option String

namespace Environment

/-- The environment of a table. -/
def ofTable (t : List (String × String)) : Environment := fun name => Table.get? name t

/-- What begins a reference. -/
def opening : List Char := "$\x7bENV:".toList

/-- The name in a reference at the beginning of a text: all up to the closing brace, at least one
character. -/
def referenceAt? (cs : List Char) : Option (List Char) :=
  (Text.stripLead opening cs).bind fun rest =>
    let name := rest.takeWhile (· ≠ '\x7d')
    if name.isEmpty || name.length = rest.length then none else some name

/-- The names in the references of a text, from the left; `skip` characters belong to a reference
that was found before. -/
def references : (skip : Nat) → List Char → List (List Char)
  | _, [] => []
  | skip + 1, _ :: cs => references skip cs
  | 0, c :: cs =>
    match referenceAt? (c :: cs) with
    | some name => name :: references (opening.length + name.length) cs
    | none => references 0 cs

/-- The text of a reference. -/
def reference (name : String) : String := String.ofList (opening ++ name.toList ++ ['\x7d'])

/-- Replaces references one after the other, each in all its places. -/
def resolve (env : Environment) : List String → String → Except SetupFault String
  | [], s => .ok s
  | name :: names, s =>
    match env name with
    | some v => resolve env names (Text.replace (reference name) v s)
    | none => .error (.unsetVariable name)

/-- A text with its references resolved. -/
def expand (env : Environment) (s : String) : Except SetupFault String :=
  resolve env ((references 0 s.toList).map String.ofList) s

end Environment

/-- The key of the context under which the last reply stands. -/
def responseKey : String := "response"

namespace CallConfig

/-- The part of the context that a call sends.  The last reply is left out of the whole context. -/
def payload (call : CallConfig) (context : Value) : Value :=
  match call.payloadPath with
  | some path => .ofOption (context.at? path)
  | none =>
    match context with
    | .obj ms => .obj (Table.erase responseKey ms)
    | v => v

end CallConfig

/-- A base address and a path with one slash between them; a blank path adds nothing. -/
def joinedUrl (base : String) (path : Option String) : String :=
  match meaningful? path with
  | some p =>
    String.ofList (Text.dropEndWhile (· = '/') base.toList) ++ "/" ++
      String.ofList (p.toList.dropWhile (· = '/'))
  | none => base

/-- The address of a call in normal form. -/
def callUrl (base : String) (path : Option String) : Except SetupFault String :=
  let joined := joinedUrl base path
  match Url.parse joined with
  | .error fault => .error (.badUrl joined fault)
  | .ok (scheme, url) =>
    if scheme = "http" || scheme = "https" then .ok url else .error (.badScheme scheme joined)

/-- What a call made of a reply. -/
structure Invocation where
  response : Value
  status : Nat
  url : String
deriving DecidableEq

namespace ExternalSystem

/-- The headers that the format asks for. -/
def formatHeaders (s : ExternalSystem) (call : CallConfig) : List (String × String) :=
  [("Accept", s.format.contentType), ("Content-Type", s.format.contentType)] ++
    if s.format = .soap then [("SOAPAction", "\"" ++ call.operation ++ "\"")] else []

/-- Stores headers over others, with references to the environment resolved. -/
def addHeaders (env : Environment) :
    List (String × String) → List (String × String) → Except SetupFault (List (String × String))
  | headers, [] => .ok headers
  | headers, (name, value) :: rest => do
    addHeaders env (Table.put name (← env.expand value) headers) rest

/-- The headers of a call: those of the step stand over those of the system, and these over those
of the format. -/
def callHeaders (s : ExternalSystem) (env : Environment) (call : CallConfig) :
    Except SetupFault (List (String × String)) :=
  addHeaders env (s.formatHeaders call) (s.headers ++ call.headers)

/-- The milliseconds that a call may take: as the step says, else the system, else the settings. -/
def callTimeout (s : ExternalSystem) (settings : CallSettings) (call : CallConfig) : Nat :=
  (call.timeout.or s.timeout).getD settings.requestMillis

/-- Prepares the request of a call. -/
def prepare (s : ExternalSystem) (settings : CallSettings) (env : Environment) (call : CallConfig)
    (context : Value) : Except SetupFault Request := do
  let body := s.format.encode (call.payload context) call.operation
  let url ← callUrl s.baseUrl call.path
  let headers ← s.callHeaders env call
  return ⟨Text.asciiUpper call.method, url, headers, body, s.callTimeout settings call⟩

/-- The request of a call; an inactive system is not called. -/
def request (s : ExternalSystem) (settings : CallSettings) (env : Environment) (call : CallConfig)
    (context : Value) : Except Error Request :=
  if s.isActive then (s.prepare settings env call context).mapError .setup
  else .error (.inactiveSystem s.code)

/-- What the outcome of a request means. -/
def conclude (s : ExternalSystem) (sent : Request) (o : Outcome) : Except Error Invocation :=
  match o with
  | .failed f => .error (.http f)
  | .timedOut => .error (.http (.timeout sent.timeout))
  | .answered r =>
    if r.isSuccess then
      let format := WireFormat.ofReply r.body r.contentType? s.format
      match format.decode r.body with
      | some v => .ok ⟨v, r.status, sent.url⟩
      | none => .error (.unreadableReply format)
    else .error (.http (.ofReply r.status r.body r.retryAfter?))

/-- Calls a system. -/
def invoke {σ : Type} (send : Transport σ) (settings : CallSettings) (env : Environment)
    (s : ExternalSystem) (call : CallConfig) (context : Value) :
    StateM σ (Except Error Invocation) := do
  match s.request settings env call context with
  | .error e => return .error e
  | .ok r => return s.conclude r (← send r)

end ExternalSystem

end Interchange
