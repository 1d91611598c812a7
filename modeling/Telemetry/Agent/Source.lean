/-
What an agent observes: its own process and its host.

A reading gives gauges only, and only finite ones. The cores of the host are
numbered from 1.
-/
import Telemetry.Metric.Snapshot

namespace Telemetry.Agent

/-- What is seen of a process. -/
structure ProcessReading where
  memory : Nat
  virtualMemory : Nat
  load : Binary64
  random : Binary64
  deriving DecidableEq, Repr

/-- What is seen of a host. -/
structure HostReading where
  total : Nat
  free : Nat
  loads : List Binary64
  deriving DecidableEq, Repr

def finiteOnly (s : Snapshot) : Snapshot :=
  { s with gauges := s.gauges.filter fun _ x => x.isFinite }

namespace ProcessReading

def sourceName : String := "runtime"

def snapshot (r : ProcessReading) : Snapshot :=
  finiteOnly ((((Snapshot.empty.setGauge "Alloc" (.ofNat r.memory)).setGauge "Sys"
    (.ofNat r.virtualMemory)).setGauge "CPUutilization" r.load).setGauge "RandomValue" r.random)

end ProcessReading

namespace HostReading

def sourceName : String := "system"

def coreName (n : Nat) : String :=
  "CPUutilization" ++ toString n

def snapshot (r : HostReading) : Snapshot :=
  let memory := (Snapshot.empty.setGauge "TotalMemory" (.ofNat r.total)).setGauge "FreeMemory"
    (.ofNat r.free)
  finiteOnly (r.loads.zipIdx.foldl (fun s (x, i) => s.setGauge (coreName (i + 1)) x) memory)

end HostReading

/-- The gauges of a process that may be gone. -/
def readProcess (pid : Int32) : Option ProcessReading → Outcome Snapshot
  | some r => .ok r.snapshot
  | none => .error (.internal (.noProcess pid))

end Telemetry.Agent
