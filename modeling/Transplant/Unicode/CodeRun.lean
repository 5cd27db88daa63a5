/-!
Runs of code points, the form in which character tables are kept.
-/

namespace Transplant.Unicode

/-- The code points `first`, `first + step`, and so on up to `last`. -/
structure CodeRun where
  first : Nat
  last : Nat
  step : Nat

/-- Whether a code point is one of the run's. -/
def CodeRun.contains (r : CodeRun) (n : Nat) : Bool :=
  decide (r.first ≤ n) && decide (n ≤ r.last) && (n - r.first) % r.step == 0

/-- A run whose code points are sent, in order, to the code points from `target` on, `step` apart
as well. -/
structure CaseRun extends CodeRun where
  target : Nat

/-- The code point a run sends `n` to, if `n` is one of its own. -/
def CaseRun.image? (r : CaseRun) (n : Nat) : Option Nat :=
  if r.contains n then some (r.target + (n - r.first)) else none

end Transplant.Unicode
