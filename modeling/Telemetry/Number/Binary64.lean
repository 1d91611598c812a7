/-
Double precision numbers as exact integers.

A finite number is a sign and a magnitude `significand * 2 ^ exponent`, counted
in units of `2 ^ -1074`, the smallest positive magnitude. The form is
canonical, so equality of numbers is equality of values, sign of zero included.
Every result is the exact one rounded to nearest, ties to the even
significand (`Magnitude.round?`), so nothing here uses machine arithmetic.
-/

namespace Telemetry

/-- Significands have 53 bits, so they are below this. -/
abbrev Magnitude.limit : Nat := 1 <<< 53

/-- The smallest significand with all 53 bits. -/
abbrev Magnitude.half : Nat := 1 <<< 52

/-- A finite magnitude, `significand * 2 ^ exponent` units of `2 ^ -1074`, in the one form
whose significand has 53 bits unless the exponent is the smallest. -/
structure Magnitude where
  significand : Nat
  exponent : Nat
  significand_lt : significand < Magnitude.limit
  normal : Magnitude.half ≤ significand ∨ exponent = 0
  exponent_le : exponent ≤ 2045
  deriving DecidableEq, Repr

/-- A double precision number; all not-a-numbers are one. -/
inductive Binary64 where
  | finite (negative : Bool) (magnitude : Magnitude)
  | infinite (negative : Bool)
  | nan
  deriving DecidableEq, Repr

namespace Magnitude

/-- The value in units of `2 ^ -1074`. -/
def scaled (m : Magnitude) : Nat :=
  m.significand <<< m.exponent

def zero : Magnitude :=
  ⟨0, 0, by decide, by decide, by decide⟩

instance : Inhabited Magnitude := ⟨zero⟩

def isZero (m : Magnitude) : Bool :=
  m.significand == 0

/-- `a / d` to the nearest integer, a half to the even one. -/
def nearest (a d : Nat) : Nat :=
  let q := a / d
  let r := a % d
  if 2 * r < d then q
  else if d < 2 * r then q + 1
  else if q % 2 = 0 then q else q + 1

/-- The exponent at which `a / d` has 53 bits, or the smallest. -/
def unitExponent (a d : Nat) : Nat :=
  let p := a.log2 - (d.log2 + 52)
  if 0 < p ∧ a < d <<< (p + 52) then p - 1 else p

/-- `a / d` units of `2 ^ -1074`, rounded; none when it rounds past the largest magnitude. -/
def round? (a d : Nat) : Option Magnitude :=
  let p := unitExponent a d
  let s := nearest a (d <<< p)
  let m := if s = limit then half else s
  let q := if s = limit then p + 1 else p
  if h : m < limit ∧ (half ≤ m ∨ q = 0) ∧ q ≤ 2045 then
    some ⟨m, q, h.1, h.2.1, h.2.2⟩
  else none

/-- The rational `n / d`, rounded. -/
def ofRatio? (n d : Nat) : Option Magnitude :=
  round? (n <<< 1074) d

def ofNat? (n : Nat) : Option Magnitude :=
  ofRatio? n 1

def mul? (x y : Magnitude) : Option Magnitude :=
  round? (x.scaled * y.scaled) (1 <<< 1074)

/-- The quotient by a magnitude that is not zero, rounded. -/
def div? (x y : Magnitude) : Option Magnitude :=
  round? (x.scaled <<< 1074) y.scaled

def add? (x y : Magnitude) : Option Magnitude :=
  round? (x.scaled + y.scaled) 1

/-- The integer that the magnitude is, if it is one. -/
def toNat? (m : Magnitude) : Option Nat :=
  if m.scaled % 1 <<< 1074 = 0 then some (m.scaled >>> 1074) else none

end Magnitude

namespace Binary64

/-- A sign and a rounded magnitude; past the largest one it is infinite. -/
def ofMagnitude? (negative : Bool) : Option Magnitude → Binary64
  | some m => .finite negative m
  | none => .infinite negative

/-- Neither infinite nor not-a-number. -/
def isFinite : Binary64 → Bool
  | .finite _ _ => true
  | _ => false

def zero : Binary64 :=
  .finite false .zero

instance : Inhabited Binary64 := ⟨zero⟩

def ofNat (n : Nat) : Binary64 :=
  ofMagnitude? false (Magnitude.ofNat? n)

def ofInt (i : Int) : Binary64 :=
  ofMagnitude? (decide (i < 0)) (Magnitude.ofNat? i.natAbs)

def neg : Binary64 → Binary64
  | .finite s m => .finite (!s) m
  | .infinite s => .infinite (!s)
  | .nan => .nan

/-- The number with the sign of zero forgotten. -/
def plainZero : Binary64 → Binary64
  | .finite s m => if m.isZero then zero else .finite s m
  | x => x

/-- The integer that the number is, if it is one. -/
def toInt? : Binary64 → Option Int
  | .finite s m => m.toNat?.map fun n => if s then -(n : Int) else (n : Int)
  | _ => none

end Binary64

end Telemetry
