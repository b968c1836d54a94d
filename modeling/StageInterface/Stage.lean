/-!
# Pipeline stages

The programmable stages of the pipeline, in pipeline order.
-/

namespace StageInterface

/-- A programmable stage of the pipeline. -/
inductive Stage
  | vertex
  | tessellationControl
  | tessellationEvaluation
  | geometry
  | fragment
  | compute
deriving DecidableEq, Repr

namespace Stage

def all : List Stage :=
  [vertex, tessellationControl, tessellationEvaluation, geometry, fragment, compute]

def label : Stage → String
  | vertex => "VertexShader"
  | tessellationControl => "TessellationControlShader"
  | tessellationEvaluation => "TessellationEvaluationShader"
  | geometry => "GeometryShader"
  | fragment => "FragmentShader"
  | compute => "ComputeShader"

/-- The place of a stage in the pipeline. -/
def rank : Stage → Nat
  | vertex => 0
  | tessellationControl => 1
  | tessellationEvaluation => 2
  | geometry => 3
  | fragment => 4
  | compute => 5

def sort (l : List Stage) : List Stage := l.mergeSort (fun a b => a.rank ≤ b.rank)

end Stage
end StageInterface
