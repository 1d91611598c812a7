/-
Settings from a JSON file, and where the file is looked for.
-/
import Telemetry.Host
import Telemetry.Settings.Variable

namespace Telemetry

namespace Settings

def load {α : Type} (read : Json.Document → Except Json.Fault α) (path : String) :
    Action Host α := fun h =>
  let unreadable (fault : FileFault) : Outcome α × Host :=
    (.error (.settings (.unreadable path fault)), h)
  match h.disk.read path with
  | .error fault => unreadable fault
  | .ok bytes =>
    match Text.Utf8.decode? bytes with
    | none => unreadable .notText
    | some text =>
      match read (.ofText text) with
      | .error fault => (.error (.settings (.unparsable path fault)), h)
      | .ok settings => (.ok settings, h.enter (.settingsLoaded path))

/-- The directory of the program's settings: below the one that the environment names for
settings, if that is an absolute path, or else below the home directory. -/
def directory? (env : Environment) : Option String :=
  match (env "XDG_CONFIG_HOME").filter Path.isAbsolute with
  | some base => some (Path.child base "tally")
  | none =>
    ((env "HOME").filter (· ≠ "")).map fun home => Path.child (Path.child home ".config") "tally"

/-- The file to load: a given one always, the one in the settings' directory if it is there. -/
def path? (env : Environment) (given : Option String) (fileName : String) (d : Disk) :
    Option String :=
  match given with
  | some path => some path
  | none =>
    match directory? env with
    | none => none
    | some directory =>
      let path := Path.child directory fileName
      if d.isFile path then some path else none

end Settings

end Telemetry
