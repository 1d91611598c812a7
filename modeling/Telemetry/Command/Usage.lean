/-
How a program explains its flags: one line each, the explanations below each other.
-/
import Telemetry.Command.Program

namespace Telemetry.Command

variable {σ : Type}

def Flag.valueName (f : Flag σ) : String :=
  String.ofList (f.name.toList.map fun c => if c = '-' then '_' else c.toUpper)

def Flag.spelling (f : Flag σ) : String :=
  let letter := match f.letter with
    | some c => "-" ++ String.singleton c ++ ", "
    | none => "    "
  let value := match f.effect with
    | .takes _ => " <" ++ f.valueName ++ ">"
    | _ => ""
  letter ++ "--" ++ f.name ++ value

namespace Program

/-- The flags, each with its explanation behind a common margin. -/
def flagLines (flags : List (Flag σ)) : List String :=
  let width := (flags.map fun f => f.spelling.length).foldl max 0
  flags.map fun f =>
    "  " ++ f.spelling ++ String.ofList (List.replicate (width - f.spelling.length + 2) ' ') ++
      f.about

/-- What the program says when it is asked for help. -/
def usage (p : Program σ) : String :=
  "\n".intercalate
    ([p.about, "", "Usage: " ++ p.name ++ " [OPTIONS]", "", "Options:"] ++ flagLines p.flags)

end Program

end Telemetry.Command
