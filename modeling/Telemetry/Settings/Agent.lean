/-
The agent's settings: defaults, then a file, then the environment; flags come last.
-/
import Telemetry.Interval
import Telemetry.Json.Decode
import Telemetry.Json.Value
import Telemetry.Settings.Variable

namespace Telemetry

/-- What an agent is told. -/
structure AgentSettings where
  serverAddress : String
  pollSeconds : UInt64
  reportSeconds : UInt64
  timeoutMilliseconds : UInt64
  key : Option String
  compress : Bool
  systemMetrics : Bool
  deriving DecidableEq, Repr

namespace AgentSettings

def default : AgentSettings :=
  ⟨"localhost:8080", 2, 10, 5000, none, true, true⟩

/-! ## JSON -/

def field {δ α : Type} (name : String) (read : Json.Tree → Except Json.Fault α)
    (set : δ → α → δ) : Json.Field δ where
  name := name
  set := fun s t => (read t).map (set s)
  required := false

def optionalText (t : Json.Tree) : Except Json.Fault (Option String) :=
  t.asOptional fun t => t.asText .text

def shape : Json.Shape AgentSettings where
  name := "AgentConfig"
  fields := [
    field "server_address" (fun t => t.asText .text) fun s v => { s with serverAddress := v },
    field "poll_interval_secs" Json.Tree.asUInt64 fun s v => { s with pollSeconds := v },
    field "report_interval_secs" Json.Tree.asUInt64 fun s v => { s with reportSeconds := v },
    field "request_timeout_ms" Json.Tree.asUInt64 fun s v => { s with timeoutMilliseconds := v },
    field "key" optionalText fun s v => { s with key := v },
    field "compress" Json.Tree.asBoolean fun s v => { s with compress := v },
    field "system_metrics" Json.Tree.asBoolean fun s v => { s with systemMetrics := v }]
  initial := default

def ofDocument (d : Json.Document) : Except Json.Fault AgentSettings :=
  d.read shape.read

def nullable : Option String → Json.Value
  | none => .null
  | some s => .text s

def toJson (s : AgentSettings) : Json.Value :=
  .object [
    ("server_address", .text s.serverAddress),
    ("poll_interval_secs", .integer s.pollSeconds.toNat),
    ("report_interval_secs", .integer s.reportSeconds.toNat),
    ("request_timeout_ms", .integer s.timeoutMilliseconds.toNat),
    ("key", nullable s.key),
    ("compress", .boolean s.compress),
    ("system_metrics", .boolean s.systemMetrics)]

/-! ## Environment -/

/-- Takes what the environment sets, up to the first variable that spells nothing. -/
def applyEnvironment (env : Environment) : Action AgentSettings Unit := do
  overlay (.ok (env.text "ADDRESS")) fun s v => { s with serverAddress := v }
  overlay (env.number "POLL_INTERVAL") fun s v => { s with pollSeconds := v }
  overlay (env.number "REPORT_INTERVAL") fun s v => { s with reportSeconds := v }
  overlay (env.number "REQUEST_TIMEOUT_MS") fun s v => { s with timeoutMilliseconds := v }
  overlay (.ok (env.text "KEY")) fun s v => { s with key := some v }
  overlay (env.truth "COMPRESS") fun s v => { s with compress := v }
  overlay (env.truth "SYSTEM_METRICS") fun s v => { s with systemMetrics := v }

/-! ## Use -/

def validate (s : AgentSettings) : Outcome Unit :=
  if Text.isBlankText s.serverAddress then .error (.settings (.empty "server_address"))
  else if s.pollSeconds = 0 then .error (.settings (.zero "poll_interval_secs"))
  else if s.reportSeconds = 0 then .error (.settings (.zero "report_interval_secs"))
  else if s.timeoutMilliseconds = 0 then .error (.settings (.zero "request_timeout_ms"))
  else .ok ()

/-- What starts with one of the schemes that an agent speaks. -/
def hasScheme (address : List Char) : Bool :=
  "http://".toList.isPrefixOf address || "https://".toList.isPrefixOf address

/-- The collector's address with a scheme before it and no slash at its end. -/
def baseUrl (s : AgentSettings) : String :=
  let address := Text.dropSlashEnd (Text.trim s.serverAddress)
  if hasScheme address.toList then address else "http://" ++ address

def pollInterval (s : AgentSettings) : Interval :=
  .ofSeconds s.pollSeconds.toNat

def reportInterval (s : AgentSettings) : Interval :=
  .ofSeconds s.reportSeconds.toNat

end AgentSettings

end Telemetry
