/-
The agent's command: its flags, and its run from its settings to a signal.
-/
import Telemetry.Agent.Schedule
import Telemetry.Command.Program
import Telemetry.Lifecycle

namespace Telemetry.Command

namespace Agent

/-- The agent's own flags. What two of them name can only be switched off. -/
def flags : List (Flag (Line AgentSettings)) := [
  .text "address" (some 'a') "Collector address (host:port or URL)"
    (Line.andThen fun s v => { s with serverAddress := v }),
  .number "poll-interval" (some 'p') "Poll interval (seconds)"
    (Line.andThen fun s v => { s with pollSeconds := v }),
  .number "report-interval" (some 'r') "Report interval (seconds)"
    (Line.andThen fun s v => { s with reportSeconds := v }),
  .text "key" (some 'k') "Integrity key for signing records"
    (Line.andThen fun s v => { s with key := some v }),
  .number "request-timeout-ms" none "Per-request timeout (milliseconds)"
    (Line.andThen fun s v => { s with timeoutMilliseconds := v }),
  .switch "no-compress" none "Send uncompressed request bodies"
    fun l => l.andThen (fun s v => { s with compress := v }) false,
  .switch "no-system-metrics" none "Skip host-wide memory/CPU metrics"
    fun l => l.andThen (fun s v => { s with systemMetrics := v }) false]

def program : Program AgentSettings where
  role := "agent"
  about := "tally metrics agent"
  defaults := fun _ => .default
  ofDocument := fun _ => AgentSettings.ofDocument
  applyEnvironment := AgentSettings.applyEnvironment
  validate := AgentSettings.validate
  ownFlags := flags

/-- The number of sources: the process itself, and the host if that is wanted. -/
def sources (s : AgentSettings) : Nat :=
  if s.systemMetrics then 2 else 1

def intervals (s : AgentSettings) : Telemetry.Agent.Intervals :=
  ⟨s.pollInterval, s.reportInterval⟩

/-- An agent that has just been given its settings. -/
def begin (s : AgentSettings) (h : Host) : Telemetry.Agent.State :=
  let journal := Event.agentVersion version s.baseUrl :: h.journal
  { Telemetry.Agent.State.new .empty (.ofSecret s.key) with journal := journal }

/-- A signal, which ends both loops and the agent. -/
def conclude (s : AgentSettings) (signal : Signal) (uptime task : Nat)
    (a : Telemetry.Agent.State) : Telemetry.Agent.State :=
  let l := (⟨false, a.journal⟩ : Lifecycle).receive signal
  ({ a with journal := l.journal }.stop uptime task (intervals s)).enter .agentExits

/-- A whole run, with a signal after a span of time. -/
def run (w : Telemetry.Agent.Surroundings) (uptime span task : Nat) (signal : Signal) :
    Environment → List String → Host → Run :=
  program.run fun s h =>
    let a := (begin s h).runFor w uptime span (intervals s) (sources s)
    (.finished, { h with journal := (conclude s signal uptime task a).journal })

end Agent

end Telemetry.Command
