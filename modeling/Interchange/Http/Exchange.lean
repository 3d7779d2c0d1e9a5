import Interchange.Http.Failure
import Interchange.Number.Numeral
import Interchange.Table
/-!
# Requests and replies

What is handed to a transport and what comes back.  A transport may carry a state of its own; one
that answers from a queue of prepared replies and keeps what it was sent is a value like any other.

* `Request`, `Reply` — one call.
* `Transport` — anything that answers requests.
* `Queue.send` — the transport of prepared replies.
-/

namespace Interchange

/-- A request that is ready to be sent.  Times are in milliseconds. -/
structure Request where
  method : String
  url : String
  headers : List (String × String)
  body : String
  timeout : Nat
deriving DecidableEq

/-- A reply.  The names of its headers are in lower case. -/
structure Reply where
  status : Nat
  headers : List (String × String)
  body : String
deriving DecidableEq

namespace Reply

/-- A reply with a content type. -/
def ofBody (status : Nat) (contentType body : String) : Reply :=
  ⟨status, [("content-type", contentType)], body⟩

/-- The value of a header, whose name may be given in any case. -/
def header? (r : Reply) (name : String) : Option String :=
  Table.get? (Text.asciiLower name) r.headers

def contentType? (r : Reply) : Option String := r.header? "content-type"

def isSuccess (r : Reply) : Bool := 200 ≤ r.status && r.status < 300

/-- The seconds after which the other side would like to be asked again. -/
def retryAfter? (r : Reply) : Option Nat :=
  (r.header? "retry-after").bind fun v => Numeral.natural? (Text.trim v)

end Reply

/-- How a request ended. -/
inductive Outcome
  | answered (r : Reply)
  | failed (f : HttpFailure)
  | timedOut

/-- Answers requests. -/
abbrev Transport (σ : Type) := Request → StateM σ Outcome

/-- Prepared replies, and the requests that were sent so far.  Every reply comes with the same
delay; a request that does not wait for it leaves its reply in the queue. -/
structure Queue where
  replies : List (Except HttpFailure Reply)
  sent : List Request
  delay : Option Nat

namespace Queue

/-- Answers with the next reply. -/
def send : Transport Queue := fun request q =>
  let q := { q with sent := q.sent ++ [request] }
  if q.delay.any fun d => request.timeout ≤ d then (.timedOut, q)
  else
    match q.replies with
    | [] => (.failed (.network "no mock response queued"), q)
    | .ok r :: rest => (.answered r, { q with replies := rest })
    | .error f :: rest => (.failed f, { q with replies := rest })

end Queue

end Interchange
