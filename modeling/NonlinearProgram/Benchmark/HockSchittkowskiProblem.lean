import NonlinearProgram.Benchmark.HockSchittkowski
import NonlinearProgram.Problem.Assembly

/-!
# Hock-Schittkowski problem 71

The problem with its bounds, its starting point and its two constraints. The objective is 17.0140173
at the optimum.
-/

namespace NonlinearProgram.HockSchittkowski

variable {α : Type} [Scalar α]

def unconstrained : Except (Error α) (Problem α) := do
  let p ← Problem.create objective none
  let p ← p.setAllArgumentBounds (.interval (← Interval.between 1.0 5.0))
  p.setStartingPoint (.vector [1.0, 5.0, 5.0, 1.0])

def problem : Attempt α (Problem α) := do
  let p ← (unconstrained : Except (Error α) (Problem α))
  let least ← (Interval.lowerBounded (.number 25.0) : Except (Error α) (Interval α))
  let total ← (Interval.equality (.number 40.0) : Except (Error α) (Interval α))
  let (p, _) ← p.addConstraint product (.several [.interval least]) (some (.vector [1.0]))
  let (p, _) ← p.addConstraint squares (.several [.interval total]) (some (.vector [1.0]))
  return p

end NonlinearProgram.HockSchittkowski
