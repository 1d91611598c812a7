/-
One value of a metric: a gauge's reading, or a counter's delta or total.

Only finite gauges are taken (`finiteGauge`), and a total that leaves 64 bits is
refused (`checkedTotal`), so what is stored can be written as JSON and read back.
-/
import Telemetry.Failure
import Telemetry.Text.Blank

namespace Telemetry

/-- A gauge's value, or a counter's delta or total. -/
inductive Sample where
  | gauge (value : Binary64)
  | counter (delta : Int64)
  deriving DecidableEq, Repr

def finiteGauge (name : String) (x : Binary64) : Outcome Binary64 :=
  if x.isFinite then .ok x else .error (.rejected (.notFinite name x))

/-- The counter's total with the delta, if 64 bits hold it. -/
def checkedTotal (name : String) (total delta : Int64) : Outcome Int64 :=
  let sum := total.toInt + delta.toInt
  if Int64.minValue.toInt ≤ sum ∧ sum ≤ Int64.maxValue.toInt then .ok (Int64.ofInt sum)
  else .error (.rejected (.overflow name total delta))

namespace Sample

def kind : Sample → Kind
  | .gauge _ => .gauge
  | .counter _ => .counter

def text : Sample → String
  | .gauge x => x.plain
  | .counter d => toString d.toInt

/-- The value that a text spells, blanks around it apart. -/
def parse (kind : Kind) (raw : String) : Outcome Sample :=
  let chars := Text.trimChars raw.toList
  match kind with
  | .gauge =>
    match float64OfChars chars with
    | .error fault => .error (.rejected (.gaugeText raw fault))
    | .ok x => (finiteGauge raw x).map .gauge
  | .counter =>
    match int64OfChars chars with
    | .error fault => .error (.rejected (.deltaText raw fault))
    | .ok d => .ok (.counter d)

end Sample

def Kind.parse (s : String) : Outcome Kind :=
  match ofName? s with
  | some k => .ok k
  | none => .error (.unsupportedKind s)

end Telemetry
