/-
All gauges and counters at one moment.

Merging is the rule by which everything is written: a gauge is replaced, a counter
is added to. A merge applies all of a snapshot or nothing of it (`merge`).
-/
import Telemetry.Metric.NameMap
import Telemetry.Metric.Sample
import Telemetry.Json.Decode
import Telemetry.Json.Value

namespace Telemetry

/-- The gauges' values and the counters' totals, each by name. -/
structure Snapshot where
  gauges : NameMap Binary64
  counters : NameMap Int64
  deriving DecidableEq, Repr

namespace Snapshot

def empty : Snapshot :=
  ⟨.empty, .empty⟩

instance : Inhabited Snapshot := ⟨empty⟩

def isEmpty (s : Snapshot) : Bool :=
  s.gauges.isEmpty && s.counters.isEmpty

def size (s : Snapshot) : Nat :=
  s.gauges.size + s.counters.size

/-- The value under a name in one namespace. -/
def get? (s : Snapshot) (kind : Kind) (name : String) : Option Sample :=
  match kind with
  | .gauge => (s.gauges.get? name).map .gauge
  | .counter => (s.counters.get? name).map .counter

/-- A counter's total, which is 0 before its first write. -/
def total (s : Snapshot) (name : String) : Int64 :=
  (s.counters.get? name).getD 0

/-- The gauge set, unchecked. -/
def setGauge (s : Snapshot) (name : String) (x : Binary64) : Snapshot :=
  { s with gauges := s.gauges.insert name x }

/-- The counter set, unchecked. -/
def setCounter (s : Snapshot) (name : String) (d : Int64) : Snapshot :=
  { s with counters := s.counters.insert name d }

/-- One value written by the merge rule. -/
def mergeSample (s : Snapshot) (name : String) : Sample → Outcome Snapshot
  | .gauge x => do
    let x ← finiteGauge name x
    .ok (s.setGauge name x)
  | .counter d => do
    let total ← checkedTotal name (s.total name) d
    .ok (s.setCounter name total)

/-- The values in the order in which a snapshot is written: gauges, then counters. -/
def samples (s : Snapshot) : List (String × Sample) :=
  s.gauges.entries.map (fun (name, x) => (name, .gauge x)) ++
    s.counters.entries.map (fun (name, d) => (name, .counter d))

/-- The values written one after another, up to the first refusal. -/
def mergeSamples (s : Snapshot) : List (String × Sample) → Outcome Snapshot
  | [] => .ok s
  | (name, sample) :: rest => do
    let s ← s.mergeSample name sample
    mergeSamples s rest

/-- A whole snapshot written by the merge rule, or nothing of it. -/
def merge (s other : Snapshot) : Outcome Snapshot :=
  s.mergeSamples other.samples

/-- Refuses the first gauge that is not finite. -/
def checkGauges : List (String × Binary64) → Outcome Unit
  | [] => .ok ()
  | (name, x) :: rest => do
    let _ ← finiteGauge name x
    checkGauges rest

/-- Every gauge is finite, so the snapshot can be written as JSON and read back. -/
def checkFinite (s : Snapshot) : Outcome Unit :=
  checkGauges s.gauges.entries

/-! ## JSON -/

def toJson (s : Snapshot) : Json.Value :=
  .object [
    ("Gauges", .object (s.gauges.entries.map fun (name, x) => (name, .double x))),
    ("Counters", .object (s.counters.entries.map fun (name, d) => (name, .integer d.toInt)))]

/-- How a snapshot is read: either map may be missing. -/
def shape : Json.Shape Snapshot where
  name := "Snapshot"
  fields := [
    { name := "Gauges"
      set := fun s t => do
        let es ← t.asMap Json.Tree.asDouble
        .ok { s with gauges := .ofList es }
      required := false },
    { name := "Counters"
      set := fun s t => do
        let es ← t.asMap Json.Tree.asInt64
        .ok { s with counters := .ofList es }
      required := false }]
  initial := empty

def ofDocument (d : Json.Document) : Except Json.Fault Snapshot :=
  d.read shape.read

end Snapshot

end Telemetry
