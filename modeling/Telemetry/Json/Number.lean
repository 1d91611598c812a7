/-
The number that a numeral stands for.

A whole number within 64 bits is exact. Any other numeral is a double, reached in
two roundings: as many digits as fit 64 bits make a significand, and the rest is
a power of ten by which the rounded significand is multiplied or divided. So the
double is near the written decimal, and not always nearest to it.
-/
import Telemetry.Json.Token

namespace Telemetry.Json

/-- A number read: a whole one of 64 bits, a negative whole one, or a double. -/
inductive Quantity where
  | whole (n : Nat)
  | negative (n : Nat)
  | double (x : Binary64)
  deriving DecidableEq, Repr

/-- Digits onto the number before them as long as it fits 64 bits, and the digits left. -/
def gather (significand : Nat) : List Nat → Nat × List Nat
  | [] => (significand, [])
  | d :: ds =>
    if significand * 10 + d < UInt64.size then gather (significand * 10 + d) ds
    else (significand, d :: ds)

/-- The power of ten, rounded. -/
def tenPower (k : Nat) : Magnitude :=
  (Magnitude.ofNat? (Nat.pow 10 k)).getD .zero

/-- Divides by `10 ^ 308` until the exponent is one of a power of ten or the magnitude is
zero. A significand of 64 bits needs three steps at most. -/
def shrink : Nat → Magnitude → Int → Magnitude × Int
  | 0, m, e => (m, e)
  | fuel + 1, m, e =>
    if -308 ≤ e ∨ m.isZero then (m, e)
    else shrink fuel ((m.div? (tenPower 308)).getD .zero) (e + 308)

/-- `significand * 10 ^ e` in two roundings; none when it is out of range. -/
def scale? (significand : Nat) (e : Int) : Option Magnitude :=
  match Magnitude.ofNat? significand with
  | none => none
  | some m =>
    if 308 < e then if m.isZero then some m else none
    else if 0 ≤ e then m.mul? (tenPower e.toNat)
    else
      let (m, e) := shrink 3 m e
      if m.isZero then some m else m.div? (tenPower (-e).toNat)

namespace Numeral

/-- Neither a point nor an exponent. -/
def isPlain (n : Numeral) : Bool :=
  n.fraction.isEmpty && n.exponent.isEmpty

/-- The significand, and the exponent that the digits give it. -/
def scientific (n : Numeral) : Nat × Int :=
  let (s, dropped) := gather 0 n.whole
  let (s, unread) := gather s n.fraction
  (s, (dropped.length : Int) - (n.fraction.length - unread.length))

/-- The magnitude that the numeral is near, if it is in range. An exponent past 31 bits is
out of range unless it makes nothing of the number. -/
def magnitude? (n : Numeral) : Option Magnitude :=
  let (s, e) := n.scientific
  let k := natOfDigits n.exponent
  if 1 <<< 31 ≤ k then
    if s = 0 ∨ n.exponentNegative then some .zero else none
  else scale? s (if n.exponentNegative then e - k else e + k)

/-- The number that the numeral stands for, if it is in range. -/
def quantity? (n : Numeral) : Option Quantity :=
  let w := natOfDigits n.whole
  if n.isPlain ∧ w < UInt64.size then
    if n.negative = false then some (.whole w)
    else if w = 0 ∨ 1 <<< 63 < w then some (.double (Binary64.ofNat w).neg)
    else some (.negative w)
  else n.magnitude?.map fun m => .double (.finite n.negative m)

end Numeral

end Telemetry.Json
