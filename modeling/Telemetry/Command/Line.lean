/-
What a command line asks of a program: settings from a file, changes to them, and a
filter for the reports.
-/
import Telemetry.Command.Flag
import Telemetry.Filter

namespace Telemetry.Command

/-- What a command line asks for: the file with the settings, what is changed in them, and
how the filter is spelled. -/
structure Line (σ : Type) where
  path : Option String
  change : σ → σ
  filter : String

namespace Line

variable {σ α : Type}

def plain : Line σ :=
  ⟨none, id, "info"⟩

def andThen (set : σ → α → σ) (l : Line σ) (v : α) : Line σ :=
  { l with change := fun s => set (l.change s) v }

/-- The flags that every program has before its own. -/
def firstFlags : List (Flag (Line σ)) := [
  .path "config" (some 'c') "JSON config file" fun l v => { l with path := some v }]

/-- The flags that every program has after its own. -/
def lastFlags : List (Flag (Line σ)) := [
  .text "log-level" (some 'l') "Log level (trace, debug, info, warn, error) [default: info]"
    fun l v => { l with filter := v },
  ⟨"help", some 'h', "Print help", .interrupts .help⟩,
  ⟨"version", some 'V', "Print version", .interrupts .version⟩]

end Line

end Telemetry.Command
