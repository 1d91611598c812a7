/-
The programs: how each one comes to its settings, and how it ends.

Settings are layered: the defaults or a file, then the environment, then the flags.
They are validated once, when all layers are there.
-/
import Telemetry.Command.Line
import Telemetry.Service.Binding
import Telemetry.Service.Life
import Telemetry.Settings.Load

namespace Telemetry.Command

/-! ## The end of a program -/

/-- Why a program gave up. -/
inductive Breakdown where
  | settings (role : String) (failure : Failure)
  | start (fault : StartFault)
  | binding (address : String) (fault : AddressFault)
  deriving DecidableEq, Repr

namespace Breakdown

def context : Breakdown → String
  | .settings role _ => "invalid " ++ role ++ " configuration"
  | .start fault => fault.context
  | .binding address _ => "failed to bind " ++ address

def cause : Breakdown → String
  | .settings _ failure => failure.message
  | .start fault => fault.cause.message
  | .binding _ fault => fault.message

/-- The text with four blanks before each of its lines. -/
def indented (s : String) : String :=
  String.ofList (margin ++ s.toList.flatMap fun c => if c = '\n' then c :: margin else [c])
where
  margin : List Char := [' ', ' ', ' ', ' ']

def message (b : Breakdown) : String :=
  "Error: " ++ b.context ++ "\n\nCaused by:\n" ++ indented b.cause

end Breakdown

/-- How a program ends. -/
inductive Exit where
  | finished
  | interrupted (i : Interruption)
  | gaveUp (b : Breakdown)
  deriving DecidableEq, Repr

def Exit.code : Exit → UInt8
  | .finished => 0
  | .interrupted .misuse => 2
  | .interrupted _ => 0
  | .gaveUp _ => 1

/-! ## Programs -/

def version : String := "0.3.8"

/-- A program with settings `σ`. -/
structure Program (σ : Type) where
  role : String
  about : String
  defaults : Environment → σ
  ofDocument : Environment → Json.Document → Except Json.Fault σ
  applyEnvironment : Environment → Action σ Unit
  validate : σ → Outcome Unit
  ownFlags : List (Flag (Line σ))

namespace Program

variable {σ : Type}

def name (p : Program σ) : String :=
  "tally-" ++ p.role

def title (p : Program σ) : String :=
  p.name ++ " " ++ version

def fileName (p : Program σ) : String :=
  p.role ++ ".json"

def flags (p : Program σ) : List (Flag (Line σ)) :=
  Line.firstFlags ++ p.ownFlags ++ Line.lastFlags

def line (p : Program σ) (arguments : List String) : Except Interruption (Line σ) :=
  read p.flags .plain arguments

/-- The settings of a file and the environment, which are the ones that a program has
without flags. -/
def layered (p : Program σ) (env : Environment) (path : Option String) : Action Host σ := do
  let below ← match path with
    | some path => Settings.load (p.ofDocument env) path
    | none => pure (p.defaults env)
  let (outcome, settings) := p.applyEnvironment env below
  Action.ofOutcome (outcome.map fun _ => settings)

/-- The settings that a command line asks for. -/
def settings (p : Program σ) (env : Environment) (l : Line σ) : Action Host σ := do
  let path ← Host.look (Settings.path? env l.path p.fileName)
  let settings := l.change (← p.layered env path)
  Action.ofOutcome (p.validate settings)
  pure settings

end Program

/-! ## Runs -/

/-- A run that is over: its end, the filter for its reports, and what it left. -/
structure Run where
  exit : Exit
  filter : Filter
  host : Host

def Run.reports (r : Run) : List Report :=
  (r.host.events.filterMap Event.report).filter r.filter.admits

/-- A run with what a program does once it has its settings. -/
def Program.run {σ : Type} (p : Program σ) (serve : σ → Host → Exit × Host)
    (env : Environment) (arguments : List String) (h : Host) : Run :=
  match p.line arguments with
  | .error i => ⟨.interrupted i, .errorsOnly, h⟩
  | .ok l =>
    let filter := Filter.ofEnvironment env l.filter
    match p.settings env l h with
    | (.error e, h) => ⟨.gaveUp (.settings p.role e), filter, h⟩
    | (.ok settings, h) =>
      let (exit, h) := serve settings h
      ⟨exit, filter, h⟩

end Telemetry.Command
