/-
A collector from its settings to its end.

A database answers every request itself. Otherwise the metrics are in memory, and a
snapshot file, if there is one, is restored before the first request and written
by a scheduler. At the end the scheduler flushes a last time, after the last
response.
-/
import Telemetry.Service.Handler
import Telemetry.Settings.Collector

namespace Telemetry

/-- Why a collector did not start: what was tried, and what failed. -/
structure StartFault where
  context : String
  cause : Failure
  deriving DecidableEq, Repr

/-- How a collector is told to stop: by the flag, or by nobody being left to raise it. -/
inductive Ending where
  | signalled
  | dropped
  deriving DecidableEq, Repr

namespace Collector

def openDatabase (settings : CollectorSettings) (source : String) (h : Host) :
    Except StartFault Collector × Host :=
  match Connection.openSource source h with
  | (.error e, h) => (.error ⟨"failed to open database " ++ source, e⟩, h)
  | (.ok c, h) =>
    let h := if settings.filePath.isSome then h.enter .fileNotUsed else h
    (.ok ⟨.database (some c), none, .ofSecret settings.key, none, h⟩, h)

def openFile (settings : CollectorSettings) (path : String) (h : Host) :
    Except StartFault Collector × Host :=
  match SnapshotFile.establish path settings.removeBroken h with
  | (.error e, h) => (.error ⟨"failed to open snapshot file " ++ path, e⟩, h)
  | (.ok f, h) =>
    let scheduler := Scheduler.new (.file f) settings.storeInterval settings.restore
    let s := (Flushing.start ⟨.memory .empty, scheduler, h⟩).2
    (.ok ⟨s.live, some s.scheduler, .ofSecret settings.key, none, s.host⟩, s.host)

def ofSettings (settings : CollectorSettings) (h : Host) : Except StartFault Collector × Host :=
  match settings.databaseSource, settings.filePath with
  | some source, _ => openDatabase settings source h
  | none, some path => openFile settings path h
  | none, none =>
    let h := h.enter .noFile
    (.ok ⟨.memory .empty, none, .ofSecret settings.key, none, h⟩, h)

/-- The scheduler's run begins, if there is one. -/
def beginRun (uptime : Nat) (s : Collector) : Option Course × Collector :=
  match s.scheduler with
  | none => (none, s)
  | some scheduler =>
    let (course, t) := Flushing.begin uptime false ⟨s.backend, scheduler, s.host⟩
    (course.toOption, { s with backend := t.live, scheduler := some t.scheduler, host := t.host })

def stopServing (ending : Ending) (s : Collector) : Collector :=
  let h := match ending with
    | .signalled => s.host.enter .shutdownReceived
    | .dropped => s.host
  { s with host := h.enter .serverStopped }

/-- The end of the backend's use, without a scheduler. -/
def closeBackend : Action Collector Unit := fun s =>
  match onBackend Backend.shutdown s with
  | (.ok (), s) => (.ok (), s)
  | (.error e, s) =>
    (.ok (), { s with host := s.host.enter (.backendNotClosed s.backend.name e) })

/-- What follows the serving: a last flush, or the end of the backend's use. -/
def wrapUp (task : Nat) (course : Option Course) : Action Collector Unit :=
  match course with
  | none => closeBackend
  | some (.collapsed c) => log (.flushTaskEnded task c)
  | some course => onScheduler (Flushing.conclude course)

/-- A collector that serves until it is told to stop, without further requests. -/
def runToEnd (uptime task : Nat) (ending : Ending) (s : Collector) : Collector :=
  let (course, s) := beginRun uptime s
  (wrapUp task course (stopServing ending s)).2

end Collector

end Telemetry
