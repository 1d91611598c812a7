/-
The three ways a double is written.

* `plain`: shortest digits, never an exponent, nothing after an integer (`0.00001`, `1`).
* `wire`: shortest digits, always a fraction or an exponent; positional from
  `10 ^ -5` up to below `10 ^ 16` (`1.0`, `1e+16`, `1.5e-7`).
* `sixPlaces`: the exact value rounded to six decimals, a half to the even digit.
-/
import Telemetry.Number.Shortest

namespace Telemetry

namespace Decimal

def zeros (n : Nat) : List Char :=
  List.replicate n '0'

def digitChars (n : Nat) : List Char :=
  Nat.toDigits 10 n

/-- The digits before the point and the digits after it. -/
def parts (x : Decimal) : List Char × List Char :=
  let ds := digitChars x.digits
  if 0 ≤ x.exponent then (ds ++ zeros x.exponent.toNat, [])
  else
    let places := (-x.exponent).toNat
    if places < ds.length then (ds.take (ds.length - places), ds.drop (ds.length - places))
    else (['0'], zeros (places - ds.length) ++ ds)

/-- Without an exponent, and without a point when nothing follows it. -/
def plainChars (x : Decimal) : List Char :=
  match x.parts with
  | (whole, []) => whole
  | (whole, fraction) => whole ++ '.' :: fraction

/-- Without an exponent, and with a digit after the point. -/
def pointChars (x : Decimal) : List Char :=
  match x.parts with
  | (whole, []) => whole ++ ['.', '0']
  | (whole, fraction) => whole ++ '.' :: fraction

/-- The exponent of the first digit. -/
def leading (x : Decimal) : Int :=
  x.exponent + (digitChars x.digits).length - 1

def exponentChars (k : Int) : List Char :=
  (if k < 0 then '-' else '+') :: digitChars k.natAbs

/-- One digit before the point, and an exponent. -/
def scientificChars (x : Decimal) : List Char :=
  match digitChars x.digits with
  | [] => []
  | [d] => d :: 'e' :: exponentChars x.leading
  | d :: ds => d :: '.' :: ds ++ 'e' :: exponentChars x.leading

/-- Positional where that is not long, else scientific. -/
def wireChars (x : Decimal) : List Char :=
  if -5 ≤ x.leading ∧ x.leading < 16 then x.pointChars else x.scientificChars

end Decimal

namespace Magnitude

def plainChars (m : Magnitude) : List Char :=
  if m.isZero then ['0'] else (Decimal.shortest .up m).plainChars

def wireChars (m : Magnitude) : List Char :=
  if m.isZero then ['0', '.', '0'] else (Decimal.shortest .even m).wireChars

/-- How many millionths the magnitude has, rounded, a half to even. -/
def millionths (m : Magnitude) : Nat :=
  nearest (m.scaled * 1000000) (1 <<< 1074)

def sixPlacesChars (m : Magnitude) : List Char :=
  let fraction := Decimal.digitChars (m.millionths % 1000000)
  Decimal.digitChars (m.millionths / 1000000) ++
    '.' :: (Decimal.zeros (6 - fraction.length) ++ fraction)

end Magnitude

namespace Binary64

def signChars (negative : Bool) : List Char :=
  if negative then ['-'] else []

/-- The number as `form` writes its magnitude; the rest has names. -/
def chars (form : Magnitude → List Char) : Binary64 → List Char
  | .finite s m => signChars s ++ form m
  | .infinite s => signChars s ++ ['i', 'n', 'f']
  | .nan => ['N', 'a', 'N']

/-- Shortest digits, never an exponent. -/
def plain (x : Binary64) : String :=
  String.ofList (x.chars Magnitude.plainChars)

/-- Shortest digits, always a fraction or an exponent. -/
def wire (x : Binary64) : String :=
  String.ofList (x.chars Magnitude.wireChars)

def sixPlaces (x : Binary64) : String :=
  String.ofList (x.chars Magnitude.sixPlacesChars)

end Binary64

end Telemetry
