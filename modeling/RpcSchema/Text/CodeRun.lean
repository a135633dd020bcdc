/-!
Sets of code points, written as runs.
-/

namespace RpcSchema.Text

/-- Every `step`th code point from `first` to `last`, both included. -/
structure CodeRun where
  first : Nat
  last : Nat
  step : Nat

def CodeRun.holds (run : CodeRun) (code : Nat) : Bool :=
  run.first ≤ code && code ≤ run.last && (code - run.first) % run.step == 0

/-- A code point is in a table when one of its runs holds it. -/
def inRuns (runs : Array CodeRun) (code : Nat) : Bool :=
  runs.any fun run => run.holds code

end RpcSchema.Text
