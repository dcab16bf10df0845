import CodeGraph.Graph.Entity
import CodeGraph.Decimal.Notation
import CodeGraph.Decimal.Number

namespace CodeGraph.Similarity

/-- How strong a similarity is. -/
def band (score : Number) : String :=
  let score := score.nearest
  if 0.9 ≤ score then "very similar"
  else if 0.8 ≤ score then "similar"
  else if 0.7 ≤ score then "related"
  else "possibly related"

/-- Why two entities may belong together. A score that is infinite or no number gives no reason. -/
def reason (kind other : EntityType) (score : Number) : Except NumberFault String := do
  let percent ← score.percent
  let what := if kind = other then kind.name else "content"
  return s!"{band score} {what} ({percent}% match)"

/-- The score as a weight from zero to one. What is no number weighs one. -/
def weight : Number → Float
  | .int i => if 1 ≤ i then 1.0 else 0.0
  | .float score =>
    let capped := if score < 1.0 then score else 1.0
    if 0.0 < capped then capped else 0.0

end CodeGraph.Similarity
