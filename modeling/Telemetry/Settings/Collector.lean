/-
The collector's settings: defaults, then a file, then the environment; flags come last.
-/
import Telemetry.Disk.Path
import Telemetry.Settings.Agent

namespace Telemetry

/-- What a collector is told. -/
structure CollectorSettings where
  address : String
  storeSeconds : UInt64
  filePath : Option String
  restore : Bool
  removeBroken : Bool
  databaseSource : Option String
  key : Option String
  deriving DecidableEq, Repr

namespace CollectorSettings

/-- The directory for temporary files that an environment names. -/
def temporaryDirectory (env : Environment) : String :=
  (env "TMPDIR").getD "/tmp"

def default (temporaryDirectory : String) : CollectorSettings :=
  ⟨"localhost:8080", 300, some (Path.child temporaryDirectory "tally-metrics.json"), true, false,
    none, none⟩

/-! ## JSON -/

def optionalPath (t : Json.Tree) : Except Json.Fault (Option String) :=
  t.asOptional fun t => t.asText .path

def shape (initial : CollectorSettings) : Json.Shape CollectorSettings where
  name := "CollectorConfig"
  fields := [
    AgentSettings.field "address" (fun t => t.asText .text) fun s v => { s with address := v },
    AgentSettings.field "store_interval_secs" Json.Tree.asUInt64
      fun s v => { s with storeSeconds := v },
    AgentSettings.field "file_storage_path" optionalPath fun s v => { s with filePath := v },
    AgentSettings.field "restore" Json.Tree.asBoolean fun s v => { s with restore := v },
    AgentSettings.field "remove_broken" Json.Tree.asBoolean
      fun s v => { s with removeBroken := v },
    AgentSettings.field "database_dsn" AgentSettings.optionalText
      fun s v => { s with databaseSource := v },
    AgentSettings.field "key" AgentSettings.optionalText fun s v => { s with key := v }]
  initial := initial

/-- The settings that a document spells, on top of some defaults. -/
def ofDocument (initial : CollectorSettings) (d : Json.Document) :
    Except Json.Fault CollectorSettings :=
  d.read (shape initial).read

def toJson (s : CollectorSettings) : Json.Value :=
  .object [
    ("address", .text s.address),
    ("store_interval_secs", .integer s.storeSeconds.toNat),
    ("file_storage_path", AgentSettings.nullable s.filePath),
    ("restore", .boolean s.restore),
    ("remove_broken", .boolean s.removeBroken),
    ("database_dsn", AgentSettings.nullable s.databaseSource),
    ("key", AgentSettings.nullable s.key)]

/-! ## Environment -/

/-- Takes what the environment sets, up to the first variable that spells nothing. A blank
path means that there is no file. -/
def applyEnvironment (env : Environment) : Action CollectorSettings Unit := do
  overlay (.ok (env.text "ADDRESS")) fun s v => { s with address := v }
  overlay (env.number "STORE_INTERVAL") fun s v => { s with storeSeconds := v }
  overlay (.ok (env.raw "FILE_STORAGE_PATH")) fun s v =>
    { s with filePath := if Text.isBlankText v then none else some v }
  overlay (env.truth "RESTORE") fun s v => { s with restore := v }
  overlay (env.truth "REMOVE_BROKEN") fun s v => { s with removeBroken := v }
  overlay (.ok (env.text "DATABASE_DSN")) fun s v => { s with databaseSource := some v }
  overlay (.ok (env.text "KEY")) fun s v => { s with key := some v }

/-! ## Use -/

def validate (s : CollectorSettings) : Outcome Unit :=
  if Text.isBlankText s.address then .error (.settings (.empty "address"))
  else if s.filePath = some "" then .error (.settings (.emptyOptional "file_storage_path"))
  else if s.databaseSource.any Text.isBlankText then
    .error (.settings (.emptyOptional "database_dsn"))
  else .ok ()

/-- The time between two flushes; none at all flushes every write. -/
def storeInterval (s : CollectorSettings) : Interval :=
  .ofSeconds s.storeSeconds.toNat

end CollectorSettings

end Telemetry
