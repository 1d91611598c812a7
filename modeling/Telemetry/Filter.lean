/-
Which reports are written: rules for targets and levels.

A filter is written as rules between commas. A rule is a level, or a target, or both with
an equals sign between them, and a target stands for all targets that begin with it.
Of the rules for a target the longest decides, and of equally long ones the last.
-/
import Telemetry.Journal
import Telemetry.Number.Reading
import Telemetry.Settings.Variable

namespace Telemetry

/-- What is written of some targets: all up to a level, or nothing. -/
structure FilterRule where
  target : String
  limit : Option Level
  deriving DecidableEq, Repr

/-- Rules, of which the later ones are the stronger. -/
structure Filter where
  rules : List FilterRule
  deriving DecidableEq, Repr

namespace FilterRule

/-- The limit of a number: 0 for nothing, or a level's rank. -/
def limitOfRank? : Nat → Option (Option Level)
  | 0 => some none
  | n => ([Level.error, .warn, .info, .debug, .trace].find? fun l => l.rank = n).map some

/-- The limit of a name, in any case. -/
def limitOfName? (name : String) : Option (Option Level) :=
  match name with
  | "off" => some none
  | "error" => some (some .error)
  | "warn" => some (some .warn)
  | "info" => some (some .info)
  | "debug" => some (some .debug)
  | "trace" => some (some .trace)
  | _ => none

def limit? (cs : List Char) : Option (Option Level) :=
  match uint64OfChars cs with
  | .ok n => limitOfRank? n.toNat
  | .error _ => limitOfName? (String.ofList (cs.map Char.toLower))

/-- A rule may begin with the character: a letter, a digit, or what joins them. -/
def isStart (c : Char) : Bool :=
  c.isAlphanum || 0x80 ≤ c.toNat || ['-', ':', '_'].contains c

/-- The rule that a text spells. A target alone lets everything through. -/
def ofText? (text : String) : Option FilterRule :=
  let cs := Text.trimChars text.toList
  if cs.head?.all (fun c => !isStart c) then none
  else
    match cs.takeWhile (· ≠ '='), cs.dropWhile (· ≠ '=') with
    | name, [] =>
      match limit? name with
      | some limit => some ⟨"", limit⟩
      | none => some ⟨String.ofList name, some .trace⟩
    | name, [_] => some ⟨String.ofList name, some .trace⟩
    | name, _ :: level => (limit? level).map fun limit => ⟨String.ofList name, limit⟩

def covers (r : FilterRule) (target : String) : Bool :=
  r.target.toList.isPrefixOf target.toList

/-- The rule says more of a target than another one, or as much. -/
def outweighs (r : FilterRule) (other : Option FilterRule) : Bool :=
  other.all fun o => o.target.length ≤ r.target.length

end FilterRule

namespace Filter

/-- What is written when nothing is said: errors. -/
def errorsOnly : Filter :=
  ⟨[⟨"", some .error⟩]⟩

def ofRules : List FilterRule → Filter
  | [] => errorsOnly
  | rules => ⟨rules⟩

/-- What stands between commas and is not empty. -/
def pieces (text : String) : List String :=
  (text.splitOn ",").filter (· ≠ "")

/-- The filter that a text spells, if every piece of it is a rule. -/
def ofText? (text : String) : Option Filter :=
  ((pieces text).mapM FilterRule.ofText?).map ofRules

/-- The filter of those pieces of a text that are rules. -/
def ofLooseText (text : String) : Filter :=
  ofRules ((pieces text).filterMap FilterRule.ofText?)

def variableName : String := "RUST_LOG"

/-- The filter that the environment spells, or else the one of a text. -/
def ofEnvironment (env : Environment) (text : String) : Filter :=
  match (env variableName).bind ofText? with
  | some filter => filter
  | none => ofLooseText text

def ruleFor? (f : Filter) (target : String) : Option FilterRule :=
  f.rules.foldl
    (fun best r => if r.covers target ∧ r.outweighs best then some r else best) none

def admits (f : Filter) (r : Report) : Bool :=
  ((f.ruleFor? r.target).bind FilterRule.limit).any fun l => r.level.rank ≤ l.rank

end Filter

end Telemetry
