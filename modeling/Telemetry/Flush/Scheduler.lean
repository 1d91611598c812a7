/-
The snapshot scheduler, which copies the live metrics to a durable backend.

It restores the live metrics once at the start, flushes them at an interval or, if
the interval is zero, after every write, and flushes a last time when it drains.
A flush replaces the durable contents by the live ones. Neither a failed restore
nor a failed flush stops it.
-/
import Telemetry.Backend
import Telemetry.Clock

namespace Telemetry

/-- A durable backend with its settings, and how far the scheduler's life has gone. -/
structure Scheduler where
  durable : Backend
  interval : Interval
  restoreOnStart : Bool
  phase : Phase
  flushed : Bool

namespace Scheduler

def new (durable : Backend) (interval : Interval) (restoreOnStart : Bool) : Scheduler :=
  ⟨durable, interval, restoreOnStart, .stopped, false⟩

/-- The interval of a scheduler that is told none. -/
def defaultInterval : Interval :=
  .ofSeconds 300

/-- Every write is flushed at once. -/
def isSynchronous (s : Scheduler) : Bool :=
  s.interval.isZero

end Scheduler

/-- The live backend, its scheduler, and their host. -/
structure Flushing where
  live : Backend
  scheduler : Scheduler
  host : Host

/-- How a run of a scheduler stands: going on, drained, or broken down. -/
inductive Course where
  | running
  | drained
  | collapsed (cause : Collapse)
  deriving DecidableEq, Repr

namespace Flushing

def onLive {α : Type} (a : Action Site α) : Action Flushing α :=
  a.on (fun s => ⟨s.live, s.host⟩) fun s t => { s with live := t.backend, host := t.host }

def onDurable {α : Type} (a : Action Site α) : Action Flushing α :=
  a.on (fun s => ⟨s.scheduler.durable, s.host⟩) fun s t =>
    { s with scheduler := { s.scheduler with durable := t.backend }, host := t.host }

def log (e : Event) : Action Flushing Unit :=
  .modify fun s => { s with host := s.host.enter e }

def scheduler? : Action Flushing Scheduler :=
  fun s => (.ok s.scheduler, s)

def durableName : Action Flushing String := do
  pure (← scheduler?).durable.name

def enterPhase (phase : Phase) : Action Flushing Unit := do
  log (.phaseEntered phase)
  .modify fun s => { s with scheduler := { s.scheduler with phase := phase } }

/-- The live metrics replaced by the durable ones, of which there has to be one; gives
their number. -/
def restore : Action Flushing Nat := do
  let snapshot ← onDurable Backend.getMetrics
  if snapshot.isEmpty then do
    let name ← durableName
    .fail (.badSnapshot (.emptyBackend name))
  else do
    onLive (Backend.restore snapshot)
    pure snapshot.size

/-- Restores if that is wanted, and is running then. True if something was restored. -/
def start : Action Flushing Bool := do
  if (← scheduler?).restoreOnStart then do
    enterPhase .restoring
    let restored ← match ← Action.attempt restore with
      | .ok n => do
        let name ← durableName
        log (.restored n name)
        pure true
      | .error e => do
        log (.restoreSkipped e)
        pure false
    enterPhase .running
    pure restored
  else do
    enterPhase .running
    pure false

def flush : Action Flushing Unit := do
  let snapshot ← onLive Backend.getMetrics
  onDurable (Backend.restore snapshot)
  Action.modify fun s => { s with scheduler := { s.scheduler with flushed := true } }
  let name ← durableName
  log (.flushed name snapshot.size)

/-- A flush whose failure is only reported. -/
def tryFlush (report : Failure → Event) : Action Flushing Unit := do
  match ← Action.attempt flush with
  | .ok () => pure ()
  | .error e => log (report e)

/-- A write was made: it is flushed if every write is, while the scheduler runs. -/
def notifyWrite : Action Flushing Unit := do
  let s ← scheduler?
  if s.isSynchronous ∧ s.phase = .running then tryFlush .writeFlushFailed else pure ()

def tick : Action Flushing Unit :=
  tryFlush .tickFlushFailed

/-- A last flush, and the end of the durable backend's use. -/
def drain : Action Flushing Unit := do
  enterPhase .draining
  match ← Action.attempt flush with
  | .ok () => log .lastFlushDone
  | .error e => log (.lastFlushFailed e)
  match ← Action.attempt (onDurable Backend.shutdown) with
  | .ok () => pure ()
  | .error e => do
    let name ← durableName
    log (.durableNotClosed name e)
  enterPhase .stopped
  log .schedulerStopped

/-! ## Runs -/

/-- The beginning of a run. A scheduler that flushes every write looks at the shutdown flag
before it waits, and drains at once when the flag is already up. -/
def begin (uptime : Nat) (alreadyDown : Bool) : Action Flushing Course := do
  if (← scheduler?).phase = .stopped then enterPhase .running else pure ()
  let s ← scheduler?
  if s.isSynchronous then do
    log .flushingEveryWrite
    if alreadyDown then do
      drain
      pure .drained
    else pure .running
  else do
    log (.flushingEvery s.interval)
    if s.interval.overflows uptime then pure (.collapsed .clockOverflow) else pure .running

/-- What happens one after another; a tick only counts while the run goes on. -/
def pass (course : Course) : List (Nat × Option (Action Flushing Unit)) → Action Flushing Unit
  | [] => pure ()
  | (_, some act) :: rest => do
    let _ ← Action.attempt act
    pass course rest
  | (_, none) :: rest => do
    if course = .running then tick else pure ()
    pass course rest

/-- A run up to its end: what happens in it at given times, and a tick at every interval. -/
def runFor (uptime span : Nat) (alreadyDown : Bool)
    (acts : List (Nat × Action Flushing Unit)) : Action Flushing Course := do
  let course ← begin uptime alreadyDown
  let period := (← scheduler?).interval.milliseconds
  let ticks := if period = 0 then [] else Clock.times period period span
  pass course (Clock.together (Clock.stamped none ticks) (acts.map fun (t, a) => (t, some a)))
  pure course

/-- The end of a run that still goes on: the flag goes up, or nobody is left to raise it. -/
def conclude (course : Course) : Action Flushing Unit :=
  if course = .running then drain else pure ()

end Flushing

end Telemetry
