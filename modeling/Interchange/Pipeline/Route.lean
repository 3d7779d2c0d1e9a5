import Interchange.Panic
import Interchange.Record.Reader
import Interchange.Text.Ascii
import Interchange.Text.Blank
/-!
# Routes

A route says which requests a pipeline is for.  Each of its criteria that the request meets adds to
its score, one that the request contradicts rules the route out, and one that either side leaves
unset or blank counts for nothing.

* `RoutingRule.read`, `RouteRequest.read` — the records.
* `RoutingRule.score`, `RoutingRule.tryScore` — how well a route fits a request.
-/

namespace Interchange

/-- The requests that a pipeline is for. -/
structure RoutingRule where
  productLine : Option String
  sourceSystem : Option String
  transactionType : Option String
  priority : Int32
  isActive : Bool
deriving DecidableEq

/-- What is known of a request before it is routed. -/
structure RouteRequest where
  productLine : Option String
  sourceSystem : Option String
  transactionType : Option String
deriving DecidableEq

/-- Reads a route. -/
def RoutingRule.read : Reader RoutingRule :=
  Reader.record "RoutingRule"
    [.default "productLine" (Reader.option Reader.text) none,
     .default "sourceSystem" (Reader.option Reader.text) none,
     .default "transactionType" (Reader.option Reader.text) none,
     .default "priority" Reader.int32 0,
     .default "isActive" Reader.bool true]
    fun (product, source, transaction, priority, active, ()) =>
      .ok ⟨product, source, transaction, priority, active⟩

/-- Reads the routing criteria of a request. -/
def RouteRequest.read : Reader RouteRequest :=
  Reader.record "RouteRequest"
    [.optional "productLine" Reader.text,
     .optional "sourceSystem" Reader.text,
     .optional "transactionType" Reader.text]
    fun (product, source, transaction, ()) => .ok ⟨product, source, transaction⟩

/-- What a criterion of a route says about a request. -/
inductive Agreement
  | meets
  | contradicts
  /-- One of the two sides is unset or blank. -/
  | open
deriving DecidableEq

/-- A text without surrounding blanks, if there is anything in it. -/
def meaningful? (s : Option String) : Option String := (s.map Text.trim).filter fun t => !t.isEmpty

/-- Compares a criterion with what a request says; the case of ASCII letters does not matter. -/
def Agreement.of (expected actual : Option String) : Agreement :=
  match meaningful? expected, meaningful? actual with
  | some e, some a => if Text.sameIgnoringCase a e then .meets else .contradicts
  | _, _ => .open

namespace RoutingRule

/-- The criteria of a route beside what a request says, with what each of them is worth. -/
def criteria (r : RoutingRule) (q : RouteRequest) : List (Agreement × Int32) :=
  [(.of r.productLine q.productLine, 10),
   (.of r.sourceSystem q.sourceSystem, 5),
   (.of r.transactionType q.transactionType, 3)]

/-- Adds up what the criteria that are met are worth; nothing if one is contradicted. -/
def addUp (total : Int32) : List (Agreement × Int32) → Option Int32
  | [] => some total
  | (.meets, worth) :: rest => addUp (total + worth) rest
  | (.open, _) :: rest => addUp total rest
  | (.contradicts, _) :: _ => none

/-- The score of a route for a request, a 32-bit word; nothing if the request contradicts it. -/
def score (r : RoutingRule) (q : RouteRequest) : Option Int32 := addUp r.priority (r.criteria q)

/-- Adds up what the criteria that are met are worth, with each sum checked. -/
def tryAddUp (total : Int32) : List (Agreement × Int32) → Except Panic (Option Int32)
  | [] => .ok (some total)
  | (.meets, worth) :: rest => do tryAddUp (← Panic.add total worth) rest
  | (.open, _) :: rest => tryAddUp total rest
  | (.contradicts, _) :: _ => .ok none

/-- The score of a route for a request, with each sum checked. -/
def tryScore (r : RoutingRule) (q : RouteRequest) : Except Panic (Option Int32) :=
  tryAddUp r.priority (r.criteria q)

end RoutingRule

end Interchange
