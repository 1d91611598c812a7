/-
The collector's command: its flags, and its run from its settings to a signal.

What is stored is restored before the port is bound, so an address that nothing can
listen at is found out last.
-/
import Telemetry.Command.Program
import Telemetry.Lifecycle

namespace Telemetry.Command

namespace Collector

def flags : List (Flag (Line CollectorSettings)) := [
  .text "address" (some 'a') "Listen address (host:port)"
    (Line.andThen fun s v => { s with address := v }),
  .number "store-interval" (some 'i')
    "Snapshot flush interval (seconds); 0 flushes on every write"
    (Line.andThen fun s v => { s with storeSeconds := v }),
  .path "file-storage-path" (some 'f') "Snapshot file path"
    (Line.andThen fun s v => { s with filePath := some v }),
  .truth "restore" (some 'r') "Load the snapshot at startup [possible values: true, false]"
    (Line.andThen fun s v => { s with restore := v }),
  .truth "remove-broken" none
    "Delete a snapshot file that fails to parse [possible values: true, false]"
    (Line.andThen fun s v => { s with removeBroken := v }),
  .text "database-dsn" (some 'd') "SQLite database (path, sqlite://path or :memory:)"
    (Line.andThen fun s v => { s with databaseSource := some v }),
  .text "key" (some 'k') "Integrity key for verifying records"
    (Line.andThen fun s v => { s with key := some v })]

/-- What holds when nothing is said, in an environment. -/
def defaults (env : Environment) : CollectorSettings :=
  .default (CollectorSettings.temporaryDirectory env)

def program : Program CollectorSettings where
  role := "collector"
  about := "tally metrics collector"
  defaults := defaults
  ofDocument := fun env => CollectorSettings.ofDocument (defaults env)
  applyEnvironment := CollectorSettings.applyEnvironment
  validate := CollectorSettings.validate
  ownFlags := flags

/-- A collector that has just been given its settings and may be bound to its address. -/
def begin (s : CollectorSettings) (h : Host) : Except Breakdown Telemetry.Collector × Host :=
  match Telemetry.Collector.ofSettings s (h.enter (.collectorVersion version)) with
  | (.error fault, h) => (.error (.start fault), h)
  | (.ok c, h) =>
    match Service.Binding.ofAddress s.address with
    | .error fault => (.error (.binding s.address fault), h)
    | .ok _ => (.ok c, h)

def enter (c : Telemetry.Collector) (e : Event) : Telemetry.Collector :=
  { c with host := c.host.enter e }

/-- A signal, which ends the serving, the scheduler and the collector. -/
def conclude (signal : Signal) (task : Nat) (course : Option Course)
    (c : Telemetry.Collector) : Telemetry.Collector :=
  let l := (⟨false, c.host.journal⟩ : Lifecycle).receive signal
  let c := Telemetry.Collector.stopServing .signalled
    { c with host := { c.host with journal := l.journal } }
  enter (Telemetry.Collector.wrapUp task course c).2 .collectorExits

/-- A whole run without requests, at the address that was bound, with a signal. -/
def run (bound : String) (uptime task : Nat) (signal : Signal) :
    Environment → List String → Host → Run :=
  program.run fun s h =>
    match begin s h with
    | (.error b, h) => (.gaveUp b, h)
    | (.ok c, _) =>
      let (course, c) := Telemetry.Collector.beginRun uptime (enter c (.listening bound))
      (.finished, (conclude signal task course c).host)

end Collector

end Telemetry.Command
