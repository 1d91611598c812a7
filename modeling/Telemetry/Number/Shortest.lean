/-
The shortest decimal of a magnitude: of the decimals that round back to it, one
with the fewest digits, and of those the nearest.

The reals that round to a magnitude form an interval around it, ends included
when its significand is even (`Neighbourhood`). For 1, 2, … 17 digits the two
neighbours of the magnitude on that decimal grid are tried in exact arithmetic;
the first grid with a hit wins. Where two hits are equally near, a `Tie` decides.
-/
import Telemetry.Number.Binary64

namespace Telemetry

/-- The decimal `digits * 10 ^ exponent`. -/
structure Decimal where
  digits : Nat
  exponent : Int
  deriving DecidableEq, Repr

/-- Which of two equally near neighbours is taken. -/
inductive Tie where
  | even
  | up
  deriving DecidableEq, Repr

/-- The reals that round to a magnitude, in units of `2 ^ -1076`; the ends count
when `closed`. -/
structure Neighbourhood where
  low : Nat
  centre : Nat
  high : Nat
  closed : Bool
  deriving DecidableEq, Repr

/-- Below a power of two the next magnitude is half as far as above it. -/
def Magnitude.neighbourhood (m : Magnitude) : Neighbourhood :=
  let unit := 1 <<< m.exponent
  let below := if m.significand = Magnitude.half ∧ 0 < m.exponent then unit else 2 * unit
  ⟨4 * m.scaled - below, 4 * m.scaled, 4 * m.scaled + 2 * unit, m.significand % 2 == 0⟩

namespace Decimal

/-- `10 ^ k` as a fraction of units of `2 ^ -1076`. -/
def unit (k : Int) : Nat × Nat :=
  if 0 ≤ k then (Nat.pow 10 k.toNat <<< 1076, 1) else (1 <<< 1076, Nat.pow 10 (-k).toNat)

/-- How many decimal digits `n` has. -/
def length (n : Nat) : Nat :=
  (Nat.toDigits 10 n).length

/-- The `k` with `10 ^ k ≤ a / b < 10 ^ (k + 1)`, for positive `a` and `b`. -/
def decade (a b : Nat) : Int :=
  if b ≤ a then (length (a / b) : Int) - 1
  else -(length ((b + a - 1) / a - 1) : Int)

/-- `n * 10 ^ k` rounds to the magnitude. -/
def within (v : Neighbourhood) (k : Int) (n : Nat) : Bool :=
  let (u, d) := unit k
  if v.closed then v.low * d ≤ n * u && n * u ≤ v.high * d
  else v.low * d < n * u && n * u < v.high * d

/-- The nearer of the two neighbours on the grid of `10 ^ k` that round to the magnitude. -/
def onGrid? (tie : Tie) (v : Neighbourhood) (k : Int) : Option Nat :=
  let (u, d) := unit k
  let n := v.centre * d / u
  match within v k n, within v k (n + 1) with
  | true, true =>
    if 2 * (v.centre * d) < (2 * n + 1) * u then some n
    else if (2 * n + 1) * u < 2 * (v.centre * d) then some (n + 1)
    else match tie with
      | .even => if n % 2 = 0 then some n else some (n + 1)
      | .up => some (n + 1)
  | true, false => some n
  | false, true => some (n + 1)
  | false, false => none

/-- Takes zeros off the end of the digits, at most `fuel` of them. -/
def strip : Nat → Decimal → Decimal
  | 0, x => x
  | fuel + 1, x =>
    if x.digits ≠ 0 ∧ x.digits % 10 = 0 then strip fuel ⟨x.digits / 10, x.exponent + 1⟩ else x

/-- The shortest decimal that rounds to `m`, which is not zero. -/
def shortest (tie : Tie) (m : Magnitude) : Decimal :=
  let v := m.neighbourhood
  let top := decade v.centre (1 <<< 1076)
  let found := (List.range 17).findSome? fun (i : Nat) =>
    (onGrid? tie v (top - i)).map fun n => Decimal.mk n (top - i)
  strip 17 (found.getD ⟨0, 0⟩)

end Decimal

end Telemetry
