/-
JSON as it is written: without blanks (`compact`), or with two blanks a level and
one item a line (`pretty`).

Characters other than the quote, the backslash and the controls stand for
themselves; a double is in wire form, and `null` when it is not finite.
-/
import Telemetry.Number.Text
import Telemetry.Text.Hex

namespace Telemetry.Json

/-- A value to be written. Members keep their order. -/
inductive Value where
  | null
  | boolean (value : Bool)
  | integer (value : Int)
  | double (value : Binary64)
  | text (value : String)
  | array (items : List Value)
  | object (members : List (String × Value))
  deriving Repr

def escape (c : Char) : List Char :=
  if c = '"' then ['\\', '"']
  else if c = '\\' then ['\\', '\\']
  else if c = '\x08' then ['\\', 'b']
  else if c = '\x0c' then ['\\', 'f']
  else if c = '\n' then ['\\', 'n']
  else if c = '\r' then ['\\', 'r']
  else if c = '\t' then ['\\', 't']
  else if c.toNat < 0x20 then
    ['\\', 'u', '0', '0', Text.Hex.digit (c.toNat / 16), Text.Hex.digit (c.toNat % 16)]
  else [c]

def quoted (s : String) : List Char :=
  '"' :: s.toList.flatMap escape ++ ['"']

def integerChars (i : Int) : List Char :=
  Binary64.signChars (decide (i < 0)) ++ Nat.toDigits 10 i.natAbs

def nullChars : List Char :=
  ['n', 'u', 'l', 'l']

def booleanChars : Bool → List Char
  | true => ['t', 'r', 'u', 'e']
  | false => ['f', 'a', 'l', 's', 'e']

/-- A double in wire form, if it is finite. -/
def doubleChars (x : Binary64) : List Char :=
  if x.isFinite then x.chars Magnitude.wireChars else nullChars

mutual

def Value.compactChars : Value → List Char
  | .null => nullChars
  | .boolean b => booleanChars b
  | .integer i => integerChars i
  | .double x => doubleChars x
  | .text s => quoted s
  | .array items => '[' :: Value.compactItems true items ++ [']']
  | .object members => '{' :: Value.compactMembers true members ++ ['}']

/-- Items, with a comma before each but the first. -/
def Value.compactItems : Bool → List Value → List Char
  | _, [] => []
  | first, v :: rest =>
    (if first then [] else [',']) ++ v.compactChars ++ Value.compactItems false rest

/-- Members, with a comma before each but the first. -/
def Value.compactMembers : Bool → List (String × Value) → List Char
  | _, [] => []
  | first, (k, v) :: rest =>
    (if first then [] else [',']) ++ quoted k ++ ':' :: v.compactChars ++
      Value.compactMembers false rest

end

/-- A line end and the blanks of a level. -/
def lineStart (level : Nat) : List Char :=
  '\n' :: List.replicate (2 * level) ' '

mutual

def Value.prettyChars (level : Nat) : Value → List Char
  | .null => nullChars
  | .boolean b => booleanChars b
  | .integer i => integerChars i
  | .double x => doubleChars x
  | .text s => quoted s
  | .array [] => ['[', ']']
  | .array (v :: rest) =>
    '[' :: Value.prettyItems (level + 1) true (v :: rest) ++ lineStart level ++ [']']
  | .object [] => ['{', '}']
  | .object (m :: rest) =>
    '{' :: Value.prettyMembers (level + 1) true (m :: rest) ++ lineStart level ++ ['}']

def Value.prettyItems (level : Nat) : Bool → List Value → List Char
  | _, [] => []
  | first, v :: rest =>
    (if first then [] else [',']) ++ lineStart level ++ v.prettyChars level ++
      Value.prettyItems level false rest

/-- Members, one a line, with a blank after the colon. -/
def Value.prettyMembers (level : Nat) : Bool → List (String × Value) → List Char
  | _, [] => []
  | first, (k, v) :: rest =>
    (if first then [] else [',']) ++ lineStart level ++ quoted k ++ ':' :: ' ' ::
      v.prettyChars level ++ Value.prettyMembers level false rest

end

def Value.compact (v : Value) : String :=
  String.ofList v.compactChars

def Value.pretty (v : Value) : String :=
  String.ofList (v.prettyChars 0)

end Telemetry.Json
