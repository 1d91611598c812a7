/-
The live store: gauges and counters in two sections, each guarded on its own.

Every operation is one or two section steps. A batch is its counter section
followed by its gauge section (`putBatch`); another caller may come between the
two, so each section is a definition of its own.
-/
import Telemetry.Metric.Snapshot

namespace Telemetry

/-- The gauges and counters that are being collected. -/
structure Store where
  gauges : NameMap Binary64
  counters : NameMap Int64
  deriving DecidableEq, Repr

namespace Store

def empty : Store :=
  ⟨.empty, .empty⟩

instance : Inhabited Store := ⟨empty⟩

/-- A copy of both sections, gauges read first. -/
def snapshot (s : Store) : Snapshot :=
  ⟨s.gauges, s.counters⟩

def size (s : Store) : Nat :=
  s.gauges.size + s.counters.size

def isEmpty (s : Store) : Bool :=
  s.size == 0

/-! ## Sections -/

/-- The new totals of a batch's counters, each from the total before the batch. -/
def newTotals (counters : NameMap Int64) : List (String × Int64) → Outcome (List (String × Int64))
  | [] => .ok []
  | (name, d) :: rest => do
    let total ← checkedTotal name ((counters.get? name).getD 0) d
    let totals ← newTotals counters rest
    .ok ((name, total) :: totals)

/-- Values set under names, one after another. -/
def insertAll {α : Type} (m : NameMap α) (es : List (String × α)) : NameMap α :=
  es.foldl (fun m (k, v) => m.insert k v) m

/-- The counter section of a batch: all totals are checked before any is set. -/
def putCounters (counters : NameMap Int64) (batch : NameMap Int64) : Outcome (NameMap Int64) := do
  let totals ← newTotals counters batch.entries
  .ok (insertAll counters totals)

def putGauges (gauges : NameMap Binary64) (batch : NameMap Binary64) : NameMap Binary64 :=
  insertAll gauges batch.entries

/-! ## Operations -/

/-- One value written: a gauge is replaced, a counter is added to. -/
def put (s : Store) (name : String) : Sample → Outcome Store
  | .gauge x => do
    let x ← finiteGauge name x
    .ok { s with gauges := s.gauges.insert name x }
  | .counter d => do
    let total ← checkedTotal name ((s.counters.get? name).getD 0) d
    .ok { s with counters := s.counters.insert name total }

/-- A whole snapshot written, or nothing of it. -/
def putBatch (s : Store) (batch : Snapshot) : Outcome Store := do
  batch.checkFinite
  let counters ← putCounters s.counters batch.counters
  .ok ⟨putGauges s.gauges batch.gauges, counters⟩

def get (s : Store) (name : String) : Outcome Sample :=
  match s.gauges.get? name with
  | some x => .ok (.gauge x)
  | none =>
    match s.counters.get? name with
    | some d => .ok (.counter d)
    | none => .error (.notFound none name)

def getTyped (s : Store) (kind : Kind) (name : String) : Outcome Sample :=
  match s.snapshot.get? kind name with
  | some v => .ok v
  | none => .error (.notFound (some kind) name)

/-- The store that a snapshot replaces it with; nothing is checked. -/
def restore (snapshot : Option Snapshot) : Outcome Store :=
  match snapshot with
  | some s => .ok ⟨s.gauges, s.counters⟩
  | none => .error .nothingToRestore

end Store

end Telemetry
