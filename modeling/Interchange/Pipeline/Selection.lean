import Interchange.Pipeline.Basic
/-!
# Choosing a pipeline

A request goes to the pipeline with the route that fits it best.  Inactive pipelines and routes do
not take part, and of equal scores the first counts.

* `Selection.candidates` — every score of every pipeline that takes part.
* `Selection.best?`, `Selection.tryBest?` — the pipeline that is chosen.
-/

namespace Interchange

/-- A pipeline that fits a request, and how well. -/
structure Selection where
  pipelineId : String
  score : Int32
deriving DecidableEq

namespace Selection

/-- The scores of the active routes of a pipeline that fit a request. -/
def ofPipeline (q : RouteRequest) (p : Pipeline) : List Selection :=
  p.activeRoutes.filterMap fun r => (r.score q).map fun score => ⟨p.id, score⟩

/-- The scores of the active pipelines, in their order. -/
def candidates (ps : List Pipeline) (q : RouteRequest) : List Selection :=
  (ps.filter Pipeline.isActive).flatMap (ofPipeline q)

/-- The better of two; the earlier one unless the later scores more. -/
def better (best : Option Selection) (c : Selection) : Option Selection :=
  match best with
  | some b => if b.score < c.score then some c else some b
  | none => some c

/-- The first of the best candidates. -/
def best? (ps : List Pipeline) (q : RouteRequest) : Option Selection :=
  (candidates ps q).foldl better none

/-- The scores of the active routes of a pipeline that fit a request, with each sum checked. -/
def tryOfPipeline (q : RouteRequest) (p : Pipeline) : Except Panic (List Selection) := do
  let scores ← p.activeRoutes.mapM fun r => r.tryScore q
  return scores.filterMap fun score => score.map fun n => ⟨p.id, n⟩

/-- The scores of the active pipelines, with each sum checked. -/
def tryCandidates (ps : List Pipeline) (q : RouteRequest) : Except Panic (List Selection) := do
  return (← (ps.filter Pipeline.isActive).mapM (tryOfPipeline q)).flatten

/-- The first of the best candidates, with each sum checked. -/
def tryBest? (ps : List Pipeline) (q : RouteRequest) : Except Panic (Option Selection) := do
  return (← tryCandidates ps q).foldl better none

/-- The selection as a record. -/
def toValue (s : Selection) : Value :=
  .obj [("pipelineId", .str s.pipelineId), ("score", .ofInt s.score.toInt)]

end Selection

end Interchange
