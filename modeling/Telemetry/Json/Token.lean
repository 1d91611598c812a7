/-
The tokens of a JSON text.

The text is a list of characters with `none` for a byte that belongs to no
character. Reading is a fold (`Lexer.step`), one unit at a time; from the first
fault on it stands still, and `Token.broken` marks the place. A string that is
delimited but spells no text (a lone surrogate, a stray byte) is a token
`string none`: what skips a value does not look into its strings.
-/
import Telemetry.Text.Utf8
import Telemetry.Text.Hex
import Telemetry.Number.Reading

namespace Telemetry.Json

/-- A number as written: digits before and after the point, and after the exponent's mark. -/
structure Numeral where
  negative : Bool
  whole : List Nat
  fraction : List Nat
  exponentNegative : Bool
  exponent : List Nat
  deriving DecidableEq, Repr

/-- What a JSON text consists of. -/
inductive Token where
  | null
  | boolean (value : Bool)
  | number (numeral : Numeral)
  | string (text : Option String)
  | openArray
  | closeArray
  | openObject
  | closeObject
  | comma
  | colon
  | broken
  deriving DecidableEq, Repr

/-! ## Strings -/

/-- The place in a string: among plain characters, after a backslash, or among the
four digits of a code unit. -/
inductive Phase where
  | plain
  | escaped
  | digits (left code : Nat)
  deriving DecidableEq, Repr

/-- A string that has begun: its characters, the last one first; whether it spells text;
the first half of a surrogate pair that waits for the second. -/
structure Spelling where
  chars : List Char
  sound : Bool
  high : Option Nat
  phase : Phase
  deriving DecidableEq, Repr

namespace Spelling

def start : Spelling :=
  ⟨[], true, none, .plain⟩

/-- One character more; half a pair before it is no text. -/
def push (s : Spelling) (c : Char) : Spelling :=
  ⟨c :: s.chars, s.sound && s.high.isNone, none, .plain⟩

/-- Something that is no character. -/
def spoil (s : Spelling) : Spelling :=
  ⟨s.chars, false, none, .plain⟩

/-- The text, if the string spells one. -/
def text? (s : Spelling) : Option String :=
  if s.sound && s.high.isNone then some (String.ofList s.chars.reverse) else none

/-- The character that a letter after a backslash stands for. -/
def shorthand? (c : Char) : Option Char :=
  if c = '"' ∨ c = '\\' ∨ c = '/' then some c
  else if c = 'b' then some '\x08'
  else if c = 'f' then some '\x0c'
  else if c = 'n' then some '\n'
  else if c = 'r' then some '\r'
  else if c = 't' then some '\t'
  else none

/-- A code unit of sixteen bits: a character, or one half of a pair. -/
def codeUnit (s : Spelling) (n : Nat) : Spelling :=
  match s.high with
  | some h =>
    if 0xDC00 ≤ n ∧ n ≤ 0xDFFF then
      ⟨Char.ofNat (0x10000 + (h - 0xD800) * 0x400 + (n - 0xDC00)) :: s.chars, s.sound, none, .plain⟩
    else s.spoil
  | none =>
    if 0xD800 ≤ n ∧ n ≤ 0xDBFF then ⟨s.chars, s.sound, some n, .plain⟩
    else if 0xDC00 ≤ n ∧ n ≤ 0xDFFF then s.spoil
    else s.push (Char.ofNat n)

/-- A unit inside a string, the closing quote apart; none where no string goes on. -/
def step? (s : Spelling) : Option Char → Option Spelling
  | none =>
    match s.phase with
    | .plain => some s.spoil
    | _ => none
  | some c =>
    match s.phase with
    | .plain =>
      if c = '\\' then some { s with phase := .escaped }
      else if c.toNat < 0x20 then none
      else some (s.push c)
    | .escaped =>
      if c = 'u' then some { s with phase := .digits 4 0 }
      else (shorthand? c).map s.push
    | .digits left code =>
      match Text.Hex.value? c with
      | none => none
      | some d =>
        if left = 1 then some (s.codeUnit (code * 16 + d))
        else some { s with phase := .digits (left - 1) (code * 16 + d) }

end Spelling

/-! ## Numbers -/

/-- The part of a number that has been reached. -/
inductive Stage where
  | sign
  | zero
  | whole
  | point
  | fraction
  | mark
  | exponentSign
  | exponent
  deriving DecidableEq, Repr

/-- A number may end here. -/
def Stage.complete : Stage → Bool
  | .zero | .whole | .fraction | .exponent => true
  | _ => false

/-- What one character does to a number. -/
inductive NumberStep where
  | more (stage : Stage) (numeral : Numeral)
  | over
  | fault
  deriving DecidableEq, Repr

namespace Numeral

def start (negative : Bool) : Numeral :=
  ⟨negative, [], [], false, []⟩

/-- The digits in the order of the text. -/
def inOrder (n : Numeral) : Numeral :=
  { n with whole := n.whole.reverse, fraction := n.fraction.reverse,
           exponent := n.exponent.reverse }

/-- The mark of a fraction or an exponent, or the end of the number. -/
def tail (n : Numeral) (stage : Stage) (c : Char) : NumberStep :=
  if c = '.' ∧ (stage = .zero ∨ stage = .whole) then .more .point n
  else if (c = 'e' ∨ c = 'E') ∧ stage ≠ .exponent then .more .mark n
  else .over

/-- One character of a number, whose digits stand last first. -/
def step (n : Numeral) (stage : Stage) (c : Char) : NumberStep :=
  match stage, digit? c with
  | .sign, some 0 => .more .zero { n with whole := [0] }
  | .sign, some d => .more .whole { n with whole := [d] }
  | .sign, none => .fault
  | .zero, some _ => .fault
  | .whole, some d => .more .whole { n with whole := d :: n.whole }
  | .point, some d => .more .fraction { n with fraction := d :: n.fraction }
  | .fraction, some d => .more .fraction { n with fraction := d :: n.fraction }
  | .mark, some d => .more .exponent { n with exponent := d :: n.exponent }
  | .exponentSign, some d => .more .exponent { n with exponent := d :: n.exponent }
  | .exponent, some d => .more .exponent { n with exponent := d :: n.exponent }
  | .point, none => .fault
  | .mark, none =>
    if c = '+' then .more .exponentSign n
    else if c = '-' then .more .exponentSign { n with exponentNegative := true }
    else .fault
  | .exponentSign, none => .fault
  | .zero, none => n.tail .zero c
  | .whole, none => n.tail .whole c
  | .fraction, none => n.tail .fraction c
  | .exponent, none => n.tail .exponent c

end Numeral

/-! ## The fold -/

/-- Where a reader stands: between tokens, within one, or past a fault. -/
inductive Mode where
  | between
  | word (left : List Char) (token : Token)
  | string (spelling : Spelling)
  | number (stage : Stage) (numeral : Numeral)
  | stopped
  deriving DecidableEq, Repr

/-- A reader and the tokens before it, the last one first. -/
structure Lexer where
  mode : Mode
  tokens : List Token
  deriving DecidableEq, Repr

namespace Lexer

def start : Lexer :=
  ⟨.between, []⟩

def push (l : Lexer) (t : Token) : Lexer :=
  ⟨.between, t :: l.tokens⟩

/-- A fault: nothing after it is read. -/
def stop (l : Lexer) : Lexer :=
  ⟨.stopped, .broken :: l.tokens⟩

/-- A character between tokens. -/
def first (l : Lexer) (c : Char) : Lexer :=
  if c = ' ' ∨ c = '\t' ∨ c = '\n' ∨ c = '\r' then ⟨.between, l.tokens⟩
  else if c = '{' then l.push .openObject
  else if c = '}' then l.push .closeObject
  else if c = '[' then l.push .openArray
  else if c = ']' then l.push .closeArray
  else if c = ',' then l.push .comma
  else if c = ':' then l.push .colon
  else if c = '"' then ⟨.string .start, l.tokens⟩
  else if c = 't' then ⟨.word ['r', 'u', 'e'] (.boolean true), l.tokens⟩
  else if c = 'f' then ⟨.word ['a', 'l', 's', 'e'] (.boolean false), l.tokens⟩
  else if c = 'n' then ⟨.word ['u', 'l', 'l'] .null, l.tokens⟩
  else if c = '-' then ⟨.number .sign (.start true), l.tokens⟩
  else match digit? c with
    | some 0 => ⟨.number .zero { Numeral.start false with whole := [0] }, l.tokens⟩
    | some d => ⟨.number .whole { Numeral.start false with whole := [d] }, l.tokens⟩
    | none => l.stop

def step (l : Lexer) (u : Option Char) : Lexer :=
  match l.mode, u with
  | .stopped, _ => l
  | .string s, some '"' =>
    if s.phase = .plain then l.push (.string s.text?)
    else match s.step? (some '"') with
      | some s' => ⟨.string s', l.tokens⟩
      | none => l.stop
  | .string s, u =>
    match s.step? u with
    | some s' => ⟨.string s', l.tokens⟩
    | none => l.stop
  | .number stage n, none =>
    if stage.complete then (l.push (.number n.inOrder)).stop else l.stop
  | _, none => l.stop
  | .between, some c => l.first c
  | .word left token, some c =>
    match left with
    | [] => l.stop
    | [x] => if c = x then l.push token else l.stop
    | x :: xs => if c = x then ⟨.word xs token, l.tokens⟩ else l.stop
  | .number stage n, some c =>
    match n.step stage c with
    | .more stage' n' => ⟨.number stage' n', l.tokens⟩
    | .over => (l.push (.number n.inOrder)).first c
    | .fault => l.stop

def finish (l : Lexer) : List Token :=
  match l.mode with
  | .between | .stopped => l.tokens.reverse
  | .number stage n =>
    if stage.complete then (l.push (.number n.inOrder)).tokens.reverse else l.stop.tokens.reverse
  | _ => l.stop.tokens.reverse

end Lexer

/-- The tokens of a text, up to its first fault. -/
def tokens (units : List (Option Char)) : List Token :=
  (units.foldl Lexer.step .start).finish

end Telemetry.Json
