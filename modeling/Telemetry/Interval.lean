/-
Spans of time between two events of the same kind, in milliseconds.
-/
import Telemetry.Number.Text

namespace Telemetry

/-- A span of time. -/
structure Interval where
  milliseconds : Nat
  deriving DecidableEq, Repr

namespace Interval

def ofSeconds (n : Nat) : Interval :=
  ⟨n * 1000⟩

def isZero (i : Interval) : Bool :=
  i.milliseconds == 0

/-- The whole seconds of the span. -/
def seconds (i : Interval) : Nat :=
  i.milliseconds / 1000

/-- A clock counts seconds in 64 bits with a sign; this span after `uptime` it cannot show. -/
def overflows (uptime : Nat) (i : Interval) : Bool :=
  1 <<< 63 ≤ uptime + i.seconds

/-- The span as a double number of seconds: the whole seconds and the rest, each rounded. -/
def toSeconds (i : Interval) : Binary64 :=
  let fraction := do
    let nanoseconds ← Magnitude.ofNat? (i.milliseconds % 1000 * 1000000)
    let second ← Magnitude.ofNat? 1000000000
    nanoseconds.div? second
  Binary64.ofMagnitude? false do
    let whole ← Magnitude.ofNat? i.seconds
    whole.add? (← fraction)

def secondsText (i : Interval) : String :=
  i.toSeconds.plain ++ "s"

end Interval

end Telemetry
