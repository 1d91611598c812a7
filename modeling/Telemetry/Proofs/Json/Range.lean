/-
No double that was written is out of range when it is read.

Below one the power of ten is a divisor, and a quotient of what fits 64 bits is in range
(`exists_scale_neg`). Above one the reader rounds the digits, then the power, then the
product, so what matters is how near the largest magnitude the decimal lies. Scaling keeps
the order (`scale?_mono`), and a decimal that rounds to another magnitude than the largest
is below `ceiling`: the largest decimal below it is in range at every exponent
(`scale?_ceiling`), and so is the one decimal of the largest magnitude. So every finite
double is reread as a finite double, its neighbour at worst (`exists_reread`).
-/
import Telemetry.Proofs.Json.Rereading

namespace Telemetry

namespace Json

variable {n n' : Nat} {e e' : Int} {m x y : Magnitude}

theorem ofNat?_mono (le : n ≤ n') (h : Magnitude.ofNat? n' = some m) :
    ∃ m', Magnitude.ofNat? n = some m' ∧ m'.scaled ≤ m.scaled := by
  rw [Magnitude.ofNat?, Magnitude.ofRatio?] at h ⊢
  refine Magnitude.round?_mono Nat.one_pos ?_ h
  rw [Nat.shiftLeft_eq, Nat.shiftLeft_eq]
  exact Nat.mul_le_mul_right _ le

theorem ten_pow_mono {j k : Nat} (le : j ≤ k) : 10 ^ j ≤ 10 ^ k :=
  Nat.pow_le_pow_right (by decide) le

theorem ofNat?_tenPower_308 : Magnitude.ofNat? (10 ^ 308) = some (tenPower 308) := by
  decide +kernel

theorem ofNat?_tenPower {k : Nat} (le : k ≤ 308) : Magnitude.ofNat? (10 ^ k) = some (tenPower k) := by
  obtain ⟨m, power, -⟩ := ofNat?_mono (ten_pow_mono le) ofNat?_tenPower_308
  rw [power, tenPower, show Nat.pow 10 k = 10 ^ k from rfl, power, Option.getD_some]

theorem tenPower_mono {j k : Nat} (le : j ≤ k) (le' : k ≤ 308) :
    (tenPower j).scaled ≤ (tenPower k).scaled := by
  obtain ⟨m, power, order⟩ := ofNat?_mono (ten_pow_mono le) (ofNat?_tenPower le')
  rw [ofNat?_tenPower (Nat.le_trans le le')] at power
  rw [Option.some.inj power]
  exact order

theorem le_tenPower {k : Nat} (pos : 0 < k) (le : k ≤ 308) : 2 ^ (3 + 1074) ≤ (tenPower k).scaled := by
  refine Nat.le_trans ?_ (tenPower_mono pos le)
  decide +kernel

theorem shiftLeft_lt_mul {a b i j k s : Nat} (small : a ≤ 2 ^ i) (large : 2 ^ j ≤ b)
    (bits : i + s < j + k) : a <<< s < b * 2 ^ k := calc
  a <<< s = a * 2 ^ s := Nat.shiftLeft_eq ..
  _ ≤ 2 ^ i * 2 ^ s := Nat.mul_le_mul_right _ small
  _ = 2 ^ (i + s) := (Nat.pow_add ..).symm
  _ < 2 ^ (j + k) := Nat.pow_lt_pow_right (by decide) bits
  _ = 2 ^ j * 2 ^ k := Nat.pow_add ..
  _ ≤ b * 2 ^ k := Nat.mul_le_mul_right _ large

/-- A quotient by a power of ten is in range, and below the bound of what is divided. -/
theorem exists_div (small : x.scaled ≤ 2 ^ (64 + 1074)) (large : 2 ^ (3 + 1074) ≤ y.scaled) :
    ∃ m, x.div? y = some m ∧ m.scaled ≤ 2 ^ (64 + 1074) :=
  Magnitude.exists_round (Nat.lt_of_lt_of_le (Nat.two_pow_pos _) large)
    (shiftLeft_lt_mul small large (by decide)) (by decide)

/-- After the steps of `10 ^ 308` what is left is a power of ten that is in range. -/
theorem shrink_spec : ∀ (fuel : Nat) {m : Magnitude} {e : Int}, m.scaled ≤ 2 ^ (64 + 1074) → e < 0 →
    -(308 * (fuel + 1) : Int) ≤ e →
      (shrink fuel m e).1.scaled ≤ 2 ^ (64 + 1074) ∧ (shrink fuel m e).2 < 0 ∧ -308 ≤ (shrink fuel m e).2
        ∨ (shrink fuel m e).1.isZero = true
  | 0, m, e, small, below, near => .inl ⟨small, below, by simpa [shrink] using near⟩
  | fuel + 1, m, e, small, below, near => by
    unfold shrink
    split
    · rename_i done
      exact done.imp_left fun done => ⟨small, below, done⟩
    · rename_i far
      rw [not_or, Int.not_le] at far
      obtain ⟨m', divided, small'⟩ := exists_div small (le_tenPower (by decide) (Nat.le_refl 308))
      rw [divided, Option.getD_some]
      exact shrink_spec fuel small' (by omega) (by omega)

theorem exists_scale_neg (fits : n < UInt64.size) (below : e < 0) (near : -1232 ≤ e) :
    ∃ m, scale? n e = some m := by
  obtain ⟨x, whole, small⟩ := Magnitude.exists_ofNat (k := 64) fits (by decide)
  have shrunk := shrink_spec 3 small below (by omega)
  unfold scale?
  simp only [whole]
  rw [if_neg (by omega), if_neg (by omega)]
  split
  · exact ⟨_, rfl⟩
  · rename_i some
    obtain ⟨small', below', near'⟩ := shrunk.resolve_right some
    obtain ⟨m, divided, -⟩ := exists_div small'
      (le_tenPower (k := (-(shrink 3 x e).2).toNat) (by omega) (by omega))
    exact ⟨m, divided⟩

theorem mul?_mono {x' y' : Magnitude} (le : x.scaled ≤ x'.scaled) (le' : y.scaled ≤ y'.scaled)
    (h : x'.mul? y' = some m) : ∃ m', x.mul? y = some m' ∧ m'.scaled ≤ m.scaled :=
  Magnitude.round?_mono (Magnitude.one_shiftLeft_pos 1074) (Nat.mul_le_mul le le') h

theorem scale?_of_nonneg (low : 0 ≤ e) (high : e ≤ 308) :
    scale? n e = (Magnitude.ofNat? n).bind fun m => m.mul? (tenPower e.toNat) := by
  unfold scale?
  cases Magnitude.ofNat? n with
  | none => rfl
  | some m =>
    simp only [Option.bind_some]
    rw [if_neg (by omega), if_pos low]

/-- A smaller decimal is in range if a larger is. -/
theorem scale?_mono (low : 0 ≤ e) (order : e ≤ e') (high : e' ≤ 308) (le : n ≤ n')
    (h : scale? n' e' = some m) : ∃ m', scale? n e = some m' := by
  rw [scale?_of_nonneg (by omega) high] at h
  obtain ⟨x', whole', product'⟩ := Option.bind_eq_some_iff.1 h
  obtain ⟨x, whole, digits⟩ := ofNat?_mono le whole'
  have powers : (tenPower e.toNat).scaled ≤ (tenPower e'.toNat).scaled :=
    tenPower_mono (by omega) (by omega)
  obtain ⟨m', product, -⟩ := mul?_mono digits powers product'
  exact ⟨m', by rw [scale?_of_nonneg low (by omega), whole, Option.bind_some, product]⟩

/-- Half way between the two largest magnitudes. -/
def ceiling : Nat :=
  (2 ^ 55 - 6) <<< 969

theorem scale?_seventeen : (scale? (10 ^ 17) 291).isSome = true := by
  decide +kernel

/-- The last exponents one by one, as the rounding of each power of ten is its own. -/
theorem scale?_ceiling : ∀ i < 17, (scale? (ceiling / 10 ^ (292 + i)) (292 + i : Nat)).isSome = true := by
  decide +kernel

theorem exists_scale_nonneg (few : n ≤ 10 ^ 17) (low : 0 ≤ e) (high : e ≤ 308)
    (small : n * 10 ^ e.toNat ≤ ceiling) : ∃ m, scale? n e = some m := by
  rcases Int.lt_or_le e 292 with early | late
  · obtain ⟨m, read⟩ := Option.isSome_iff_exists.1 scale?_seventeen
    exact scale?_mono low (by omega) (by decide) few read
  · obtain ⟨m, read⟩ := Option.isSome_iff_exists.1 (scale?_ceiling (e.toNat - 292) (by omega))
    rw [show 292 + (e.toNat - 292) = e.toNat by omega, Int.toNat_of_nonneg low] at read
    exact scale?_mono low (Int.le_refl e) high
      ((Nat.le_div_iff_mul_le (Nat.pow_pos (by decide))).2 small) read

end Json

/-! ## Shortest decimals -/

namespace Magnitude

/-- The largest magnitude. -/
def largest : Magnitude :=
  ⟨limit - 1, 2045, by decide, by decide, by decide⟩

theorem high_le {m : Magnitude} (other : m ≠ largest) :
    m.neighbourhood.high ≤ Json.ceiling * 1 <<< 1076 := by
  have step : 4 * m.significand + 2 ≤ 2 ^ 55 - 6 ∧ m.exponent ≤ 2045 ∨
      4 * m.significand + 2 ≤ (2 ^ 55 - 6) * 2 ∧ m.exponent < 2045 := by
    obtain ⟨s, q, small, normal, inRange⟩ := m
    have : ¬ (s = limit - 1 ∧ q = 2045) := by
      rintro ⟨rfl, rfl⟩
      exact other rfl
    rw [limit_eq] at *
    simp only
    omega
  have high := m.high_mul 1
  rw [Nat.mul_one, Nat.one_mul] at high
  calc m.neighbourhood.high = (4 * m.significand + 2) * 2 ^ m.exponent := by
        rw [high, Nat.add_mul, Nat.mul_assoc]
    _ ≤ (2 ^ 55 - 6) * 2 ^ 2045 := scaled_step step
    _ = Json.ceiling * 1 <<< 1076 := by decide +kernel

end Magnitude

namespace Decimal

open Magnitude (largest)

variable {m : Magnitude}

theorem value_le_ceiling (zero : m.isZero = false) (other : m ≠ largest)
    (whole : 0 ≤ (shortest .even m).exponent) :
    (shortest .even m).digits * 10 ^ (shortest .even m).exponent.toNat ≤ Json.ceiling :=
  value_le (shortest_within .even zero) whole (Magnitude.high_le other)

theorem exponent_le (zero : m.isZero = false) (other : m ≠ largest) :
    (shortest .even m).exponent ≤ 308 := by
  refine Int.not_lt.1 fun beyond => ?_
  have value := value_le_ceiling zero other (by omega)
  have pos := shortest_pos .even zero
  generalize shortest .even m = x at *
  have : 10 ^ 309 ≤ Json.ceiling := calc
    10 ^ 309 ≤ 10 ^ x.exponent.toNat := Json.ten_pow_mono (by omega)
    _ ≤ x.digits * 10 ^ x.exponent.toNat := Nat.le_mul_of_pos_left _ pos
    _ ≤ Json.ceiling := value
  exact absurd this (by decide +kernel)

theorem asRead_largest : (shortest .even largest).asRead = ⟨17976931348623157, 292⟩ := by
  decide +kernel

theorem asRead_whole_lt {x : Decimal} (low : 0 ≤ x.exponent)
    (short : x.leading < 16) : x.digits * 10 ^ (x.exponent.toNat + 1) < UInt64.size := by
  have leading : x.leading = x.exponent + (length x.digits : Int) - 1 := rfl
  calc x.digits * 10 ^ (x.exponent.toNat + 1)
      < 10 ^ length x.digits * 10 ^ (x.exponent.toNat + 1) :=
        Nat.mul_lt_mul_of_pos_right (lt_pow_length _) (Nat.pow_pos (by decide))
    _ = 10 ^ (length x.digits + (x.exponent.toNat + 1)) := (Nat.pow_add ..).symm
    _ ≤ 10 ^ 17 := Json.ten_pow_mono (by omega)
    _ < UInt64.size := by decide

/-- **The shortest decimal of a magnitude is in range when it is read.** -/
theorem exists_scale_asRead (zero : m.isZero = false) :
    (shortest .even m).asRead.Fits ∧ ∃ y, Json.scale? (shortest .even m).asRead.digits
      (shortest .even m).asRead.exponent = some y := by
  by_cases other : m = largest
  · rw [other, asRead_largest]
    exact ⟨⟨by decide, by decide⟩, Option.isSome_iff_exists.1 (by decide +kernel)⟩
  · have pos := shortest_pos .even zero
    have few := shortest_digits_le .even zero
    have least := shortest_exponent_ge .even zero
    have most := exponent_le zero other
    have value := value_le_ceiling zero other
    generalize shortest .even m = x at *
    have fits : x.digits < UInt64.size := Nat.lt_of_le_of_lt few (by decide)
    unfold asRead
    split
    · rename_i whole
      have fits := asRead_whole_lt whole.1 whole.2
      exact ⟨⟨fits, show (-1 : Int).natAbs ≤ 400 by decide⟩,
        Json.exists_scale_neg fits (show (-1 : Int) < 0 by decide)
          (show (-1232 : Int) ≤ -1 by decide)⟩
    · refine ⟨⟨fits, by omega⟩, ?_⟩
      rcases Int.lt_or_le x.exponent 0 with below | above
      · exact Json.exists_scale_neg fits below (by omega)
      · exact Json.exists_scale_nonneg few above most (value above)

end Decimal

namespace Binary64

/-- **Every finite double is read back as a finite double.** -/
theorem exists_reread {x : Binary64} (h : x.isFinite = true) : ∃ y, x.reread? = some y := by
  match x, h with
  | finite s m, _ =>
    cases zero : m.isZero with
    | true => exact ⟨_, reread?_zero s zero⟩
    | false =>
      obtain ⟨fits, y, read⟩ := Decimal.exists_scale_asRead zero
      exact ⟨finite s y, by rw [reread?_of_fits s zero fits, read]; rfl⟩

end Binary64

/-- So every snapshot of finite gauges is read back as one. -/
theorem Snapshot.reread_of_finite {s : Snapshot} (finite : s.checkFinite = .ok ()) :
    s.Reread s.reread :=
  reread_reread fun name x get => Binary64.exists_reread (checkFinite_eq_ok.1 finite name x get)

end Telemetry
