/-
Numbers read from text, exactly.

A gauge's text is a decimal with an optional sign, point and exponent, or a name
of an infinity or not-a-number in any case; it is rounded once (`Binary64.ofText`).
A counter's text is a whole number within its bounds (`Int64.ofText`). Digits
are read from the left, so a number too large is refused before a later bad digit.
-/
import Telemetry.Number.Binary64

namespace Telemetry

def digit? (c : Char) : Option Nat :=
  if '0' ≤ c ∧ c ≤ '9' then some (c.toNat - 48) else none

/-- The number that a list of digits stands for. -/
def natOfDigits (ds : List Nat) : Nat :=
  ds.foldl (fun n d => n * 10 + d) 0

/-- The digits that a text starts with, and the rest. -/
def takeDigits : List Char → List Nat × List Char
  | [] => ([], [])
  | c :: cs =>
    match digit? c with
    | some d => let (ds, rest) := takeDigits cs; (d :: ds, rest)
    | none => ([], c :: cs)

/-! ## Whole numbers -/

/-- Why a text is no whole number. -/
inductive IntegerFault where
  | empty
  | badDigit
  | tooLarge
  | tooSmall
  deriving DecidableEq, Repr

def IntegerFault.message : IntegerFault → String
  | .empty => "cannot parse integer from empty string"
  | .badDigit => "invalid digit found in string"
  | .tooLarge => "number too large to fit in target type"
  | .tooSmall => "number too small to fit in target type"

/-- Digits onto the number before them, refused with `excess` past `limit`. -/
def readDigits (limit : Nat) (excess : IntegerFault) : List Char → Nat → Except IntegerFault Nat
  | [], n => .ok n
  | c :: cs, n =>
    match digit? c with
    | none => .error .badDigit
    | some d => if limit < n * 10 + d then .error excess else readDigits limit excess cs (n * 10 + d)

/-- At least one digit. -/
def readSome (limit : Nat) (excess : IntegerFault) : List Char → Except IntegerFault Nat
  | [] => .error .badDigit
  | cs => readDigits limit excess cs 0

/-- A whole number of 64 bits with a sign, which may be written. -/
def int64OfChars : List Char → Except IntegerFault Int64
  | [] => .error .empty
  | '-' :: cs => (readSome (1 <<< 63) .tooSmall cs).map fun n => Int64.ofInt (-(n : Int))
  | '+' :: cs => (readSome (1 <<< 63 - 1) .tooLarge cs).map fun n => Int64.ofInt n
  | cs => (readSome (1 <<< 63 - 1) .tooLarge cs).map fun n => Int64.ofInt n

/-- A whole number of 64 bits without a sign; a plus may be written. -/
def uint64OfChars : List Char → Except IntegerFault UInt64
  | [] => .error .empty
  | '+' :: cs => (readSome (1 <<< 64 - 1) .tooLarge cs).map UInt64.ofNat
  | cs => (readSome (1 <<< 64 - 1) .tooLarge cs).map UInt64.ofNat

/-- A yes or no: `true` or `false` and nothing else. -/
def boolOfChars (cs : List Char) : Option Bool :=
  if cs = ['t', 'r', 'u', 'e'] then some true
  else if cs = ['f', 'a', 'l', 's', 'e'] then some false
  else none

/-! ## Doubles -/

/-- Why a text is no double. -/
inductive FloatFault where
  | empty
  | malformed
  deriving DecidableEq, Repr

def FloatFault.message : FloatFault → String
  | .empty => "cannot parse float from empty string"
  | .malformed => "invalid float literal"

/-- The magnitude `n * 10 ^ e`, rounded once; none when it rounds past the largest.

Numbers far outside the range are settled by the place of their first digit, so a
huge exponent costs nothing. -/
def magnitudeOfDecimal (n : Nat) (e : Int) : Option Magnitude :=
  let places := (Nat.toDigits 10 n).length
  if n = 0 then some .zero
  else if 400 < e + places then none
  else if e + places < -400 then some .zero
  else if 0 ≤ e then Magnitude.ofNat? (n * Nat.pow 10 e.toNat)
  else Magnitude.ofRatio? n (Nat.pow 10 (-e).toNat)

/-- The exponent after its mark: digits with an optional sign, and nothing more. -/
def exponentOfChars (cs : List Char) : Option Int :=
  let (negative, digits) := match cs with
    | '-' :: rest => (true, rest)
    | '+' :: rest => (false, rest)
    | rest => (false, rest)
  match takeDigits digits with
  | ([], _) => none
  | (ds, []) => some (if negative then -(natOfDigits ds : Int) else natOfDigits ds)
  | _ => none

/-- What may follow the digits: nothing, or an exponent. -/
def exponentPart : List Char → Option Int
  | [] => some 0
  | c :: cs => if c = 'e' ∨ c = 'E' then exponentOfChars cs else none

/-- A decimal without a sign: digits around an optional point, then an exponent. -/
def magnitudeOfChars (cs : List Char) : Option (Option Magnitude) :=
  let (whole, afterWhole) := takeDigits cs
  let (fraction, rest) := match afterWhole with
    | '.' :: tail => takeDigits tail
    | tail => ([], tail)
  if whole = [] ∧ fraction = [] then none
  else (exponentPart rest).map fun e =>
    magnitudeOfDecimal (natOfDigits (whole ++ fraction)) (e - fraction.length)

/-- The letter in lower case, for the letters of ASCII. -/
def lowered (cs : List Char) : List Char :=
  cs.map Char.toLower

/-- A double without a sign, which is given. -/
def unsignedOfChars (negative : Bool) (cs : List Char) : Except FloatFault Binary64 :=
  if lowered cs = ['n', 'a', 'n'] then .ok .nan
  else if lowered cs = ['i', 'n', 'f'] ∨ lowered cs = ['i', 'n', 'f', 'i', 'n', 'i', 't', 'y'] then
    .ok (.infinite negative)
  else match magnitudeOfChars cs with
    | some m => .ok (Binary64.ofMagnitude? negative m)
    | none => .error .malformed

def float64OfChars : List Char → Except FloatFault Binary64
  | [] => .error .empty
  | '-' :: cs => unsignedOfChars true cs
  | '+' :: cs => unsignedOfChars false cs
  | cs => unsignedOfChars false cs

end Telemetry
