/-
Flags on a command line, read one argument after another.

A flag has a name, which stands after two dashes, and perhaps a letter, which stands
after one. The value of a flag follows an equals sign or the letter, or is the next
argument, unless that looks like a flag. Every flag is given once at most, and
nothing stands alone. The first flag that interrupts ends the reading, and so does
the first mistake.
-/
import Telemetry.Number.Reading

namespace Telemetry.Command

/-- What ends the reading of a command line early. -/
inductive Interruption where
  | help
  | version
  | misuse
  deriving DecidableEq, Repr

/-- What a flag does to what was read so far; a value may be refused. -/
inductive Effect (σ : Type) where
  | interrupts (i : Interruption)
  | switches (set : σ → σ)
  | takes (set : σ → String → Option σ)

/-- A flag, with the line that explains it. -/
structure Flag (σ : Type) where
  name : String
  letter : Option Char
  about : String
  effect : Effect σ

namespace Flag

variable {σ : Type}

def text (name : String) (letter : Option Char) (about : String) (set : σ → String → σ) :
    Flag σ :=
  ⟨name, letter, about, .takes fun s v => some (set s v)⟩

/-- A flag for a path, which is never empty. -/
def path (name : String) (letter : Option Char) (about : String) (set : σ → String → σ) :
    Flag σ :=
  ⟨name, letter, about, .takes fun s v => if v = "" then none else some (set s v)⟩

def number (name : String) (letter : Option Char) (about : String) (set : σ → UInt64 → σ) :
    Flag σ :=
  ⟨name, letter, about, .takes fun s v => (uint64OfChars v.toList).toOption.map (set s)⟩

def truth (name : String) (letter : Option Char) (about : String) (set : σ → Bool → σ) :
    Flag σ :=
  ⟨name, letter, about, .takes fun s v => (boolOfChars v.toList).map (set s)⟩

def switch (name : String) (letter : Option Char) (about : String) (set : σ → σ) : Flag σ :=
  ⟨name, letter, about, .switches set⟩

end Flag

/-! ## Reading -/

/-- What was read so far: its result, the names of the flags given, how a value still to
come is taken, and whether two dashes have closed the list of flags. -/
structure Reading (σ : Type) where
  result : σ
  given : List String
  pending : Option (σ → String → Option σ)
  closed : Bool

namespace Reading

variable {σ : Type}

def start (initial : σ) : Reading σ :=
  ⟨initial, [], none, false⟩

/-- A value taken, if it is not refused. -/
def take (r : Reading σ) (set : σ → String → Option σ) (v : String) :
    Except Interruption (Reading σ) :=
  match set r.result v with
  | some result => .ok { r with result := result, pending := none }
  | none => .error .misuse

/-- A flag noted, which was not given before. -/
def note (r : Reading σ) (f : Flag σ) : Except Interruption (Reading σ) :=
  if r.given.contains f.name then .error .misuse else .ok { r with given := f.name :: r.given }

def give (r : Reading σ) (f : Flag σ) : Except Interruption (Reading σ) :=
  match f.effect with
  | .interrupts i => .error i
  | .switches set => (r.note f).map fun r => { r with result := set r.result }
  | .takes set => (r.note f).map fun r => { r with pending := some set }

def giveWith (r : Reading σ) (f : Flag σ) (v : List Char) : Except Interruption (Reading σ) :=
  match f.effect with
  | .takes set => (r.note f).bind fun r => r.take set (String.ofList v)
  | _ => .error .misuse

/-- A flag by its name, perhaps with a value after an equals sign. -/
def named (flags : List (Flag σ)) (r : Reading σ) (cs : List Char) :
    Except Interruption (Reading σ) :=
  match flags.find? (fun f => f.name.toList = cs.takeWhile (· ≠ '=')),
    cs.dropWhile (· ≠ '=') with
  | none, _ => .error .misuse
  | some f, [] => r.give f
  | some f, _ :: v => r.giveWith f v

/-- What follows a letter is its value, with or without an equals sign. -/
def attached : List Char → List Char
  | '=' :: v => v
  | v => v

/-- Flags by their letters; the first that takes a value takes what follows, if anything does. -/
def lettered (flags : List (Flag σ)) (r : Reading σ) : List Char →
    Except Interruption (Reading σ)
  | [] => .ok r
  | c :: cs =>
    match flags.find? fun f => f.letter = some c with
    | none => .error .misuse
    | some f =>
      match f.effect, cs with
      | .takes _, _ :: _ => r.giveWith f (attached cs)
      | _, _ => (r.give f).bind fun r => lettered flags r cs

def next (flags : List (Flag σ)) (r : Reading σ) (argument : String) :
    Except Interruption (Reading σ) :=
  if r.closed then .error .misuse
  else
    match argument.toList, r.pending with
    | '-' :: _ :: _, some _ => .error .misuse
    | ['-', '-'], none => .ok { r with closed := true }
    | '-' :: '-' :: cs, none => r.named flags cs
    | '-' :: c :: cs, none => r.lettered flags (c :: cs)
    | _, some set => r.take set argument
    | _, none => .error .misuse

/-- The result, unless a value is still to come. -/
def finish (r : Reading σ) : Except Interruption σ :=
  match r.pending with
  | some _ => .error .misuse
  | none => .ok r.result

end Reading

def read {σ : Type} (flags : List (Flag σ)) (initial : σ) (arguments : List String) :
    Except Interruption σ :=
  (arguments.foldlM (Reading.next flags) (.start initial)).bind Reading.finish

end Telemetry.Command
