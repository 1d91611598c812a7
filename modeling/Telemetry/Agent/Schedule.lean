/-
The agent: it polls its sources into a store of its own and reports the whole store.

Each poll also counts itself. A report sends all metrics at once, and nothing is
sent from an empty store; a report that fails is dropped, and the metrics stay for
the next one. Polls and reports follow their own clocks, polls from the start and
reports one interval later.
-/
import Telemetry.Clock
import Telemetry.Journal
import Telemetry.Sync.Batch

namespace Telemetry.Agent

/-- A source's name with what it gave. -/
structure Reading where
  source : String
  result : Outcome Snapshot

/-- What surrounds an agent: the readings of each poll and the fate of each batch, both
counted from 0. -/
structure Surroundings where
  readings : Nat → List Reading
  delivery : Nat → Outcome Unit

/-- The agent's state; batches that arrived and events stand last first. -/
structure State where
  store : Store
  codec : Sync.Codec
  polls : Nat
  sends : Nat
  arrived : List (List Record)
  journal : List Event

def pollCount : String := "PollCount"

namespace State

def new (store : Store) (codec : Sync.Codec) : State :=
  ⟨store, codec, 0, 0, [], []⟩

def enter (s : State) (e : Event) : State :=
  { s with journal := e :: s.journal }

/-- A reading taken into the store, or reported; true if it was taken. -/
def take (s : State) (r : Reading) : Bool × State :=
  match r.result with
  | .error e => (false, s.enter (.sourceFailed r.source e))
  | .ok batch =>
    match s.store.putBatch batch with
    | .error e => (false, s.enter (.readingRejected r.source e))
    | .ok store => (true, { s with store := store })

/-- Readings taken one after another; gives the number of those taken. -/
def takeAll (s : State) : List Reading → Nat × State
  | [] => (0, s)
  | r :: rest =>
    let (taken, s) := s.take r
    let (n, s) := takeAll s rest
    (if taken then n + 1 else n, s)

def countPoll (s : State) : State :=
  match s.store.put pollCount (.counter 1) with
  | .ok store => { s with store := store }
  | .error e => s.enter (.pollNotCounted e)

/-- One poll; gives the number of sources that succeeded. -/
def poll (w : Surroundings) (s : State) : Nat × State :=
  let (n, s') := { s with polls := s.polls + 1 }.takeAll (w.readings s.polls)
  (n, s'.countPoll)

/-- One report; gives the number of records sent. -/
def report (w : Surroundings) (s : State) : Outcome Nat × State :=
  if s.store.isEmpty then (.ok 0, s)
  else
    match s.codec.encode s.store.snapshot with
    | .error e => (.error e, s)
    | .ok rs =>
      let sent := { s with sends := s.sends + 1 }
      match w.delivery s.sends with
      | .error e => (.error e, sent)
      | .ok () => (.ok rs.length, { sent with arrived := rs :: s.arrived })

def pollTick (w : Surroundings) (s : State) : State :=
  (s.poll w).2

/-- A report at its time, whose outcome is only reported. -/
def reportTick (w : Surroundings) (s : State) : State :=
  match s.report w with
  | (.ok n, s) => s.enter (.reportSent n)
  | (.error e, s) => s.enter (.reportDropped e)

end State

/-- The two intervals. -/
structure Intervals where
  poll : Interval
  report : Interval
  deriving DecidableEq, Repr

namespace Intervals

def default : Intervals :=
  ⟨.ofSeconds 2, .ofSeconds 10⟩

def pollCollapse? (i : Intervals) : Option Collapse :=
  if i.poll.isZero then some .zeroPeriod else none

def reportCollapse? (uptime : Nat) (i : Intervals) : Option Collapse :=
  if i.report.overflows uptime then some .clockOverflow
  else if i.report.isZero then some .zeroPeriod
  else none

end Intervals

/-- What a clock brings. -/
inductive Tick where
  | poll
  | report
  deriving DecidableEq, Repr

/-- The ticks of a run in the order of time. -/
def ticks (uptime : Nat) (i : Intervals) (span : Nat) : List (Nat × Tick) :=
  let polls := match i.pollCollapse? with
    | some _ => []
    | none => Clock.times 0 i.poll.milliseconds span
  let reports := match i.reportCollapse? uptime with
    | some _ => []
    | none => Clock.times i.report.milliseconds i.report.milliseconds span
  Clock.together (Clock.stamped .poll polls) (Clock.stamped .report reports)

namespace State

def tick (w : Surroundings) (s : State) : Tick → State
  | .poll => s.pollTick w
  | .report => s.reportTick w

/-- The end of a loop: stopped with the others, or broken down before. -/
def stopLoop (s : State) (collapse : Option Collapse) (stopped : Event) : State :=
  match collapse with
  | none => s.enter stopped
  | some _ => s

/-- What is said of a loop that broke down. -/
def reportCollapse (s : State) (collapse : Option Collapse) (ended : Collapse → Event) : State :=
  match collapse with
  | none => s
  | some c => s.enter (ended c)

/-- A run of both loops for a span of time. -/
def runFor (w : Surroundings) (uptime span : Nat) (i : Intervals) (sources : Nat)
    (s : State) : State :=
  (ticks uptime i span).foldl (fun s t => s.tick w t.2)
    (s.enter (.agentStarted i.poll i.report sources s.codec.isSigning))

def stop (uptime task : Nat) (i : Intervals) (s : State) : State :=
  let polling := i.pollCollapse?
  let reporting := i.reportCollapse? uptime
  let s := (s.stopLoop polling .pollLoopStopped).stopLoop reporting .reportLoopStopped
  let s := (s.reportCollapse polling (.pollTaskEnded task)).reportCollapse reporting
    (.reportTaskEnded task)
  s.enter .agentStopped

end State

end Telemetry.Agent
