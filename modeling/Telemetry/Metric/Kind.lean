/-
The two kinds of metric. A gauge is the last value observed; a counter is a
total that writes add to. Each kind is a namespace of its own.
-/

namespace Telemetry

/-- Gauge or counter. -/
inductive Kind where
  | gauge
  | counter
  deriving DecidableEq, Repr

namespace Kind

/-- The kind's name, on the wire and in paths. -/
def name : Kind → String
  | .gauge => "gauge"
  | .counter => "counter"

/-- The kind of a name, which is exact. -/
def ofName? (s : String) : Option Kind :=
  if s = "gauge" then some .gauge
  else if s = "counter" then some .counter
  else none

theorem ofName?_name (k : Kind) : ofName? k.name = some k := by
  cases k <;> rfl

theorem name_inj {k k' : Kind} : k.name = k'.name ↔ k = k' := by
  constructor
  · intro same
    have back := ofName?_name k
    rw [same, ofName?_name] at back
    exact (Option.some.inj back).symm
  · exact congrArg name

end Kind

end Telemetry
