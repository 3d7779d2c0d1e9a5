import Interchange.Mapping.DataType
import Interchange.Text.Pieces
/-!
# Failed calls

One shape for every way in which a call to another system can fail: a reply that is no success, a
timeout, or no connection.  The message of a failed reply is the best that its body has to offer.

* `HttpFailure.ofReply`, `HttpFailure.timeout`, `HttpFailure.network`.
* `HttpFailure.display` — the wording of a failure.
-/

namespace Interchange

/-- The kinds of failure. -/
inductive FailureClass
  | clientError | serverError | networkError | timeoutError | rateLimitError | authenticationError
  | unknown
deriving DecidableEq

namespace FailureClass

def name : FailureClass → String
  | clientError => "ClientError"
  | serverError => "ServerError"
  | networkError => "NetworkError"
  | timeoutError => "TimeoutError"
  | rateLimitError => "RateLimitError"
  | authenticationError => "AuthenticationError"
  | unknown => "Unknown"

/-- Whether the same call might succeed at another time. -/
def isRetryable : FailureClass → Bool
  | serverError | networkError | timeoutError | rateLimitError => true
  | clientError | authenticationError | unknown => false

/-- The kind of failure that a status stands for. -/
def ofStatus (status : Nat) : FailureClass :=
  if status = 401 || status = 403 then authenticationError
  else if status = 408 then timeoutError
  else if status = 429 then rateLimitError
  else if 400 ≤ status && status ≤ 499 then clientError
  else if 500 ≤ status && status ≤ 599 then serverError
  else unknown

end FailureClass

/-- A failed call. -/
structure HttpFailure where
  status : Option Nat
  kind : FailureClass
  message : String
  /-- The body, if it was JSON. -/
  details : Option Value
  /-- The seconds after which the other side would like to be asked again. -/
  retryAfter : Option Nat
deriving DecidableEq

namespace HttpFailure

/-- The most characters of a body that become a message. -/
def messageLimit : Nat := 512

/-- The message in a JSON body: the one in `error`, else `message`, else `error`; the first of them
that is there has to be a text. -/
def jsonMessage? (body : Value) : Option String :=
  let nested := (body.member? "error").bind fun e => e.member? "message"
  ((nested.or (body.member? "message")).or (body.member? "error")).bind Value.text?

/-- What stands between two texts. -/
def between? (opening closing : List Char) : List Char → Option (List Char)
  | [] => none
  | c :: cs =>
    match Text.stripLead opening (c :: cs) with
    | some rest => upTo [] rest
    | none => between? opening closing cs
where
  upTo (seen : List Char) : List Char → Option (List Char)
    | [] => none
    | c :: cs =>
      if Text.beginsWith closing (c :: cs) then some seen.reverse else upTo (c :: seen) cs

/-- The fault text of a SOAP body. -/
def faultText? (body : String) : Option String :=
  (between? "<faultstring>".toList "</faultstring>".toList body.toList).map fun cs =>
    Text.trim (String.ofList cs)

/-- The message of a failed reply. -/
def messageOf (details : Option Value) (body : String) : String :=
  match details.bind jsonMessage? with
  | some m => m
  | none =>
    match faultText? body with
    | some m => m
    | none =>
      let trimmed := (Text.trim body).toList
      if trimmed.isEmpty then "empty response body" else String.ofList (trimmed.take messageLimit)

/-- The failure of a reply that is no success. -/
def ofReply (status : Nat) (body : String) (retryAfter : Option Nat) : HttpFailure :=
  let details := Value.parse? body
  ⟨some status, .ofStatus status, messageOf details body, details, retryAfter⟩

/-- The failure of a call that took too long. -/
def timeout (millis : Nat) : HttpFailure :=
  ⟨none, .timeoutError, s!"request timed out after {millis} ms", none, none⟩

/-- The failure of a call that did not get through. -/
def network (message : String) : HttpFailure := ⟨none, .networkError, message, none, none⟩

/-- The wording of a failure. -/
def display (f : HttpFailure) : String :=
  let code := (f.status.map toString).getD "N/A"
  s!"HTTP Error [{code}]: {f.message} (classification: {f.kind.name})"

/-- The failure as a record. -/
def toValue (f : HttpFailure) : Value :=
  .obj
    [("status_code", (f.status.map Value.count).getD .null), ("classification", .str f.kind.name),
     ("message", .str f.message), ("details", .ofOption f.details),
     ("retry_after", (f.retryAfter.map Value.count).getD .null)]

end HttpFailure

end Interchange
