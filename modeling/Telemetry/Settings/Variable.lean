/-
Settings from the environment.

A variable that holds nothing but blanks counts as not set. Numbers and truth values
may stand between blanks; a text is taken as it is.
-/
import Telemetry.Action
import Telemetry.Text.Blank

namespace Telemetry

abbrev Environment := String → Option String

namespace Environment

/-- What the names of all settings' variables begin with. -/
def stem : String := "TALLY_"

def raw (env : Environment) (setting : String) : Option String :=
  env (stem ++ setting)

/-- The variable of a setting, unless it is blank. -/
def text (env : Environment) (setting : String) : Option String :=
  (env.raw setting).filter fun v => !Text.isBlankText v

/-- The value that a variable spells, if it is set. -/
def parsed {α : Type} (env : Environment) (setting : String)
    (parse : List Char → Except VariableFault α) : Outcome (Option α) :=
  match env.text setting with
  | none => .ok none
  | some v =>
    match parse (Text.trimChars v.toList) with
    | .ok x => .ok (some x)
    | .error fault => .error (.settings (.variable (stem ++ setting) v fault))

def number (env : Environment) (setting : String) : Outcome (Option UInt64) :=
  env.parsed setting fun cs => (uint64OfChars cs).mapError .integer

def truth (env : Environment) (setting : String) : Outcome (Option Bool) :=
  env.parsed setting fun cs =>
    match boolOfChars cs with
    | some b => .ok b
    | none => .error .boolean

end Environment

/-- Sets a field if there is a value for it. -/
def overlay {σ α : Type} (value : Outcome (Option α)) (set : σ → α → σ) : Action σ Unit := fun s =>
  match value with
  | .error e => (.error e, s)
  | .ok none => (.ok (), s)
  | .ok (some x) => (.ok (), set s x)

end Telemetry
