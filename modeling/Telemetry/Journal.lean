/-
What the program reports while it runs.

Every event worth a line is a constructor with the values that the line shows. A
line has a level and the part of the program that reports it (`Event.report`); an
event without a line is only remembered.
-/
import Telemetry.Interval
import Telemetry.Table.Schema

namespace Telemetry

/-- How severe a line is, the most severe first. -/
inductive Level where
  | error
  | warn
  | info
  | debug
  | trace
  deriving DecidableEq, Repr

namespace Level

def rank : Level → Nat
  | .error => 1
  | .warn => 2
  | .info => 3
  | .debug => 4
  | .trace => 5

def name : Level → String
  | .error => "ERROR"
  | .warn => "WARN"
  | .info => "INFO"
  | .debug => "DEBUG"
  | .trace => "TRACE"

end Level

/-- What a backend can be asked to do. -/
inductive Operation where
  | ping
  | put
  | get
  | getTyped
  | putMetrics
  | getMetrics
  | restore
  | shutdown
  deriving DecidableEq, Repr

def Operation.name : Operation → String
  | .ping => "ping"
  | .put => "put"
  | .get => "get"
  | .getTyped => "get_typed"
  | .putMetrics => "put_metrics"
  | .getMetrics => "get_metrics"
  | .restore => "restore"
  | .shutdown => "shutdown"

/-- Where a snapshot scheduler is in its life. -/
inductive Phase where
  | stopped
  | restoring
  | running
  | draining
  deriving DecidableEq, Repr

def Phase.name : Phase → String
  | .stopped => "stopped"
  | .restoring => "restoring"
  | .running => "running"
  | .draining => "draining"

/-- Why a task ended before its time. -/
inductive Collapse where
  | clockOverflow
  | zeroPeriod
  deriving DecidableEq, Repr

def Collapse.message : Collapse → String
  | .clockOverflow => "overflow when adding duration to instant"
  | .zeroPeriod => "`period` must be non-zero."

/-- A signal that ends the program. -/
inductive Signal where
  | interrupt
  | terminate
  deriving DecidableEq, Repr

def Signal.name : Signal → String
  | .interrupt => "SIGINT"
  | .terminate => "SIGTERM"

/-- What happened. -/
inductive Event where
  -- snapshot files
  | fileOpened (path : String)
  | brokenRemoved (path reason : String)
  | brokenKept (path : String) (fault : FileFault)
  | snapshotWritten (path : String) (metrics : Nat)
  -- databases
  | migration (stage : Table.Stage)
  | databaseOpened (path : String)
  | batchMerged (metrics : Nat)
  | contentsReplaced (metrics : Nat)
  | connectionClosed
  -- backends on trial
  | called (backend : String) (operation : Operation)
  -- the snapshot scheduler
  | phaseEntered (phase : Phase)
  | restored (metrics : Nat) (backend : String)
  | restoreSkipped (failure : Failure)
  | flushed (backend : String) (metrics : Nat)
  | writeFlushFailed (failure : Failure)
  | flushingEveryWrite
  | flushingEvery (interval : Interval)
  | tickFlushFailed (failure : Failure)
  | lastFlushDone
  | lastFlushFailed (failure : Failure)
  | durableNotClosed (backend : String) (failure : Failure)
  | schedulerStopped
  -- the collector
  | requestFailed (failure : Failure)
  | batchApplied (records : Nat)
  | listening (address : String)
  | shutdownReceived
  | serverStopped
  | fileNotUsed
  | noFile
  | flushTaskEnded (task : Nat) (collapse : Collapse)
  | backendNotClosed (backend : String) (failure : Failure)
  -- the agent
  | agentStarted (poll report : Interval) (sources : Nat) (signing : Bool)
  | readingRejected (source : String) (failure : Failure)
  | sourceFailed (source : String) (failure : Failure)
  | pollNotCounted (failure : Failure)
  | reportSent (records : Nat)
  | reportDropped (failure : Failure)
  | pollLoopStopped
  | reportLoopStopped
  | pollTaskEnded (task : Nat) (collapse : Collapse)
  | reportTaskEnded (task : Nat) (collapse : Collapse)
  | agentStopped
  | sending (records size wireSize : Nat)
  | replyNotRead
  -- the process
  | signalReceived (signal : Signal)
  | signalsUnavailable (fault : String)
  | shuttingDown
  | settingsLoaded (path : String)
  | agentVersion (version url : String)
  | agentExits
  | collectorVersion (version : String)
  | collectorExits
  deriving DecidableEq, Repr

/-- A line: its level, the part of the program that reports it, and its text. -/
structure Report where
  level : Level
  target : String
  text : String
  deriving DecidableEq, Repr

namespace Report

def line (r : Report) : String :=
  r.level.name ++ " " ++ r.target ++ ": " ++ r.text

end Report

def collapseText (task : Nat) (c : Collapse) : String :=
  "task " ++ toString task ++ " panicked with message \"" ++ c.message ++ "\""

namespace Event

def stageReport : Table.Stage → Report
  | .version current =>
    ⟨.info, "tally_storage::migration",
      "schema version: " ++ toString current ++ ", target: " ++ toString Table.lastVersion⟩
  | .metricsBegun =>
    ⟨.debug, "tally_storage::migration", "running migration V1: metrics table"⟩
  | .metricsDone => ⟨.info, "tally_storage::migration", "migration V1 done"⟩
  | .indexBegun =>
    ⟨.debug, "tally_storage::migration", "running migration V2: metrics type index"⟩
  | .indexDone => ⟨.info, "tally_storage::migration", "migration V2 done"⟩

/-- The line of an event, if it has one. -/
def report : Event → Option Report
  | .fileOpened path =>
    some ⟨.info, "tally_storage::file", "file snapshot backend: " ++ path⟩
  | .brokenRemoved path reason =>
    some ⟨.warn, "tally_storage::file",
      "removed broken snapshot file " ++ path ++ " (" ++ reason ++ ")"⟩
  | .brokenKept path fault =>
    some ⟨.warn, "tally_storage::file",
      "failed to remove broken snapshot file " ++ path ++ ": " ++ fault.message⟩
  | .snapshotWritten path n =>
    some ⟨.debug, "tally_storage::file",
      "snapshot written: " ++ path ++ " (" ++ toString n ++ " metrics)"⟩
  | .migration stage => some (stageReport stage)
  | .databaseOpened path =>
    some ⟨.info, "tally_storage::sqlite", "SQLite backend ready: " ++ path⟩
  | .batchMerged n =>
    some ⟨.debug, "tally_storage::sqlite::metrics",
      "SQLite batch merged: " ++ toString n ++ " metrics"⟩
  | .contentsReplaced n =>
    some ⟨.debug, "tally_storage::sqlite::metrics",
      "SQLite contents replaced: " ++ toString n ++ " metrics"⟩
  | .connectionClosed =>
    some ⟨.info, "tally_storage::sqlite::metrics", "SQLite connection closed"⟩
  | .called _ _ => none
  | .phaseEntered phase =>
    some ⟨.debug, "tally_storage::snapshot_scheduler", "snapshot scheduler → " ++ phase.name⟩
  | .restored n backend =>
    some ⟨.info, "tally_storage::snapshot_scheduler",
      "restored " ++ toString n ++ " metrics from " ++ backend ++ " backend"⟩
  | .restoreSkipped failure =>
    some ⟨.warn, "tally_storage::snapshot_scheduler",
      "snapshot restore skipped, starting empty: " ++ failure.message⟩
  | .flushed backend n =>
    some ⟨.debug, "tally_storage::snapshot_scheduler",
      "snapshot flushed to " ++ backend ++ " backend: " ++ toString n ++ " metrics"⟩
  | .writeFlushFailed failure =>
    some ⟨.warn, "tally_storage::snapshot_scheduler",
      "synchronous snapshot flush failed: " ++ failure.message⟩
  | .flushingEveryWrite =>
    some ⟨.info, "tally_storage::snapshot_scheduler", "snapshot scheduler: synchronous mode"⟩
  | .flushingEvery interval =>
    some ⟨.info, "tally_storage::snapshot_scheduler",
      "snapshot scheduler: every " ++ interval.secondsText⟩
  | .tickFlushFailed failure =>
    some ⟨.warn, "tally_storage::snapshot_scheduler",
      "periodic snapshot flush failed: " ++ failure.message⟩
  | .lastFlushDone =>
    some ⟨.info, "tally_storage::snapshot_scheduler", "shutdown snapshot flush done"⟩
  | .lastFlushFailed failure =>
    some ⟨.warn, "tally_storage::snapshot_scheduler",
      "shutdown snapshot flush failed: " ++ failure.message⟩
  | .durableNotClosed backend failure =>
    some ⟨.warn, "tally_storage::snapshot_scheduler",
      backend ++ " backend shutdown failed: " ++ failure.message⟩
  | .schedulerStopped =>
    some ⟨.info, "tally_storage::snapshot_scheduler", "snapshot scheduler stopped"⟩
  | .requestFailed failure =>
    some ⟨.warn, "tally_web::error", "request failed: " ++ failure.message⟩
  | .batchApplied n =>
    some ⟨.debug, "tally_web::handlers::update",
      "batch applied: " ++ toString n ++ " records"⟩
  | .listening address =>
    some ⟨.info, "tally_web", "collector listening on http://" ++ address⟩
  | .shutdownReceived => some ⟨.info, "tally_web", "collector received shutdown signal"⟩
  | .serverStopped => some ⟨.info, "tally_web", "collector stopped"⟩
  | .fileNotUsed =>
    some ⟨.info, "tally_app::collector", "database configured; snapshot file is not used"⟩
  | .noFile =>
    some ⟨.info, "tally_app::collector",
      "no snapshot file configured; metrics live in memory only"⟩
  | .flushTaskEnded task collapse =>
    some ⟨.warn, "tally_app::collector",
      "snapshot task ended abnormally: " ++ collapseText task collapse⟩
  | .backendNotClosed backend failure =>
    some ⟨.warn, "tally_app::collector",
      backend ++ " backend shutdown failed: " ++ failure.message⟩
  | .agentStarted poll report sources signing =>
    some ⟨.info, "tally_app::agent_scheduler",
      "agent scheduler started: poll=" ++ toString poll.milliseconds ++ "ms, report=" ++
        toString report.milliseconds ++ "ms, sources=" ++ toString sources ++ ", signing=" ++
        Json.booleanText signing⟩
  | .readingRejected source failure =>
    some ⟨.warn, "tally_app::agent_scheduler",
      "source " ++ source ++ " reading rejected: " ++ failure.message⟩
  | .sourceFailed source failure =>
    some ⟨.warn, "tally_app::agent_scheduler",
      "source " ++ source ++ " failed: " ++ failure.message⟩
  | .pollNotCounted failure =>
    some ⟨.warn, "tally_app::agent_scheduler",
      "PollCount not incremented: " ++ failure.message⟩
  | .reportSent n =>
    some ⟨.debug, "tally_app::agent_scheduler", "report sent: " ++ toString n ++ " records"⟩
  | .reportDropped failure =>
    some ⟨.warn, "tally_app::agent_scheduler", "report dropped: " ++ failure.message⟩
  | .pollLoopStopped => some ⟨.info, "tally_app::agent_scheduler", "poll loop stopped"⟩
  | .reportLoopStopped => some ⟨.info, "tally_app::agent_scheduler", "report loop stopped"⟩
  | .pollTaskEnded task collapse =>
    some ⟨.warn, "tally_app::agent_scheduler",
      "poll task ended abnormally: " ++ collapseText task collapse⟩
  | .reportTaskEnded task collapse =>
    some ⟨.warn, "tally_app::agent_scheduler",
      "report task ended abnormally: " ++ collapseText task collapse⟩
  | .agentStopped => some ⟨.info, "tally_app::agent_scheduler", "agent scheduler stopped"⟩
  | .sending records size wireSize =>
    some ⟨.debug, "tally_network::http_client",
      "sending batch: " ++ toString records ++ " records, " ++ toString size ++ " bytes (" ++
        toString wireSize ++ " on the wire)"⟩
  | .replyNotRead =>
    some ⟨.warn, "tally_network::http_client", "failed to read response body"⟩
  | .signalReceived signal =>
    some ⟨.info, "tally_app::lifecycle", signal.name ++ " received"⟩
  | .signalsUnavailable fault =>
    some ⟨.error, "tally_app::lifecycle",
      "signal handler unavailable, shutting down: " ++ fault⟩
  | .shuttingDown => some ⟨.info, "tally_app::lifecycle", "broadcasting shutdown"⟩
  | .settingsLoaded path =>
    some ⟨.debug, "tally_core::config", "config loaded: " ++ path⟩
  | .agentVersion version url =>
    some ⟨.info, "tally_agent", "tally-agent v" ++ version ++ " → " ++ url⟩
  | .agentExits => some ⟨.info, "tally_agent", "tally-agent stopped"⟩
  | .collectorVersion version =>
    some ⟨.info, "tally_collector", "tally-collector v" ++ version⟩
  | .collectorExits => some ⟨.info, "tally_collector", "tally-collector stopped"⟩

end Event

/-- The reports of a level or a more severe one, in the order of the events. -/
def reportsUpTo (level : Level) (events : List Event) : List Report :=
  (events.filterMap Event.report).filter fun r => r.level.rank ≤ level.rank

end Telemetry
