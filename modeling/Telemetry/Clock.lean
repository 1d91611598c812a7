/-
Things that happen at given times, put in order.

Times are milliseconds from the start of a run. Of two things at one time the first
in the first list comes first.
-/

namespace Telemetry.Clock

/-- The times `first`, `first + period`, … before `ending`, `fuel` of them at most. -/
def timesFrom (period ending : Nat) : Nat → Nat → List Nat
  | 0, _ => []
  | fuel + 1, first =>
    if first < ending then first :: timesFrom period ending fuel (first + period) else []

/-- The times `first`, `first + period`, … before `ending`, for a period that is not zero. -/
def times (first period ending : Nat) : List Nat :=
  timesFrom period ending ending first

def stamped {α : Type} (x : α) (ts : List Nat) : List (Nat × α) :=
  ts.map fun t => (t, x)

/-- Two lists of timed things as one, in the order of time. -/
def together {α : Type} (xs ys : List (Nat × α)) : List (Nat × α) :=
  xs.merge ys fun x y => x.1 ≤ y.1

end Telemetry.Clock
