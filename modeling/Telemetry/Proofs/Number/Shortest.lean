/-
The shortest decimal rounds back to its magnitude.

Of the decimals with 17 digits one is always near enough: their distance is less than the
width of the neighbourhood (`onGrid_seventeen`). So the search ends with a decimal that
lies in the neighbourhood (`shortest_within`), and any fraction of that value is rounded
to the magnitude (`round?_of_within`).
-/
import Telemetry.Proofs.Number.Digits
import Telemetry.Proofs.Number.Rounding

namespace Telemetry

namespace Decimal

variable {v : Neighbourhood} {k : Int} {n : Nat}

theorem shiftLeft_one (a n : Nat) : a <<< n = a * 1 <<< n := by
  rw [Nat.shiftLeft_eq, Nat.one_shiftLeft]

theorem one_shiftLeft_1076 : 1 <<< 1076 = 4 * 1 <<< 1074 := by
  have two (n : Nat) : 1 <<< (n + 2) = 4 * 1 <<< n := by
    rw [Nat.one_shiftLeft, Nat.one_shiftLeft, Nat.pow_add, Nat.mul_comm]
  exact two 1074

theorem unit_eq (k : Int) : unit k = (10 ^ k.toNat * 1 <<< 1076, 10 ^ (-k).toNat) := by
  unfold unit
  split
  · rw [show (-k).toNat = 0 by omega, shiftLeft_one]
    rfl
  · rw [show k.toNat = 0 by omega, Nat.pow_zero, Nat.one_mul]
    rfl

theorem unit_pos (k : Int) : 0 < (unit k).1 ∧ 0 < (unit k).2 := by
  rw [unit_eq]
  exact ⟨Nat.mul_pos (Nat.pow_pos (by decide)) (Magnitude.one_shiftLeft_pos _), Nat.pow_pos (by decide)⟩

/-- Some places to the left a unit is that power of ten larger. -/
theorem unit_add (k : Int) (j : Nat) :
    (unit (k + j)).1 * (unit k).2 = 10 ^ j * (unit k).1 * (unit (k + j)).2 := by
  have places : (k + j).toNat + (-k).toNat = j + k.toNat + (-(k + j)).toNat := by omega
  simp only [unit_eq]
  generalize 1 <<< 1076 = one
  calc 10 ^ (k + j).toNat * one * 10 ^ (-k).toNat
      = 10 ^ ((k + j).toNat + (-k).toNat) * one := by rw [Nat.pow_add]; ac_rfl
    _ = 10 ^ (j + k.toNat + (-(k + j)).toNat) * one := by rw [places]
    _ = 10 ^ j * (10 ^ k.toNat * one) * 10 ^ (-(k + j)).toNat := by
      rw [Nat.pow_add, Nat.pow_add]
      ac_rfl

theorem within_iff : within v k n = true ↔ v.Holds (n * (unit k).1) (unit k).2 := by
  unfold within Neighbourhood.Holds
  simp only
  split <;> simp

theorem value_le {c : Nat} (near : within v k n = true) (whole : 0 ≤ k)
    (high : v.high ≤ c * 1 <<< 1076) : n * 10 ^ k.toNat ≤ c := by
  have near := within_iff.1 near
  have below : n * (unit k).1 ≤ v.high * (unit k).2 := by
    unfold Neighbourhood.Holds at near
    split at near
    · exact near.2
    · exact Nat.le_of_lt near.2
  rw [unit_eq, show (-k).toNat = 0 by omega, Nat.pow_zero, Nat.mul_one, ← Nat.mul_assoc] at below
  exact Nat.le_of_mul_le_mul_right (Nat.le_trans below high) (Magnitude.one_shiftLeft_pos 1076)

/-- Zeros at the end of the digits are places in the exponent. -/
theorem within_add (j : Nat) : within v (k + j) n = true ↔ within v k (n * 10 ^ j) = true := by
  have : n * (unit (k + j)).1 * (unit k).2 = n * 10 ^ j * (unit k).1 * (unit (k + j)).2 := by
    rw [Nat.mul_assoc, unit_add k j]
    ac_rfl
  rw [within_iff, within_iff]
  exact ⟨.of_ratio (unit_pos _).2 (unit_pos _).2 this,
    .of_ratio (unit_pos _).2 (unit_pos _).2 this.symm⟩

theorem strip_within : ∀ (fuel : Nat) {x : Decimal}, within v x.exponent x.digits = true →
    within v (strip fuel x).exponent (strip fuel x).digits = true
  | 0, _, h => h
  | fuel + 1, x, h => by
    unfold strip
    split
    · rename_i more
      refine strip_within fuel ((within_add 1).2 ?_)
      rw [Nat.pow_one, Nat.div_mul_cancel (Nat.dvd_of_mod_eq_zero more.2)]
      exact h
    · exact h

theorem strip_bounds : ∀ (fuel : Nat) (x : Decimal),
    (strip fuel x).digits ≤ x.digits ∧ x.exponent ≤ (strip fuel x).exponent
  | 0, x => ⟨Nat.le_refl _, Int.le_refl _⟩
  | fuel + 1, x => by
    unfold strip
    split
    · obtain ⟨digits, exponent⟩ := strip_bounds fuel ⟨x.digits / 10, x.exponent + 1⟩
      simp only at digits exponent
      exact ⟨by omega, by omega⟩
    · exact ⟨Nat.le_refl _, Int.le_refl _⟩

/-! ## Seventeen digits -/

/-- The place of the first digit. -/
theorem decade_le {a b : Nat} (pos : 0 < a) (pos' : 0 < b) :
    b * 10 ^ (decade a b).toNat ≤ a * 10 ^ (-decade a b).toNat := by
  unfold decade
  split
  · rename_i more
    have some : 0 < a / b := Nat.div_pos more pos'
    have : 0 < length (a / b) := List.length_pos_iff.2 Nat.toDigits_ne_nil
    rw [show ((length (a / b) : Int) - 1).toNat = length (a / b) - 1 by omega,
      show (-((length (a / b) : Int) - 1)).toNat = 0 by omega, Nat.pow_zero, Nat.mul_one]
    calc b * 10 ^ (length (a / b) - 1) ≤ b * (a / b) := Nat.mul_le_mul_left b (pow_length_le some)
      _ ≤ a := Nat.mul_div_le a b
  · have := lt_pow_length ((b + a - 1) / a - 1)
    have covers : b ≤ a * ((b + a - 1) / a) := by
      have := Nat.div_add_mod (b + a - 1) a
      have := Nat.mod_lt (b + a - 1) pos
      omega
    rw [show (-(length ((b + a - 1) / a - 1) : Int)).toNat = 0 by omega, Nat.pow_zero, Nat.mul_one,
      Int.neg_neg, Int.toNat_natCast]
    exact Nat.le_trans covers (Nat.mul_le_mul_left a (by omega))

theorem lt_decade {a : Nat} (pos : 0 < a) {b : Nat} (pos' : 0 < b) :
    a * 10 ^ (-(decade a b + 1)).toNat < b * 10 ^ (decade a b + 1).toNat := by
  unfold decade
  split
  · have digits := lt_pow_length (a / b)
    rw [show (-((length (a / b) : Int) - 1 + 1)).toNat = 0 by omega,
      show ((length (a / b) : Int) - 1 + 1).toNat = length (a / b) by omega, Nat.pow_zero,
      Nat.mul_one, Nat.mul_comm]
    exact Nat.lt_mul_of_div_lt digits pos'
  · rename_i less
    have parts := Nat.div_add_mod (b + a - 1) a
    have rest := Nat.mod_lt (b + a - 1) pos
    have two : 1 < (b + a - 1) / a := (Nat.lt_div_iff_mul_lt pos).2 (by omega)
    obtain ⟨c, eq⟩ : ∃ c, (b + a - 1) / a = c + 1 := ⟨_, (Nat.succ_pred_eq_of_pos (by omega)).symm⟩
    rw [eq, Nat.mul_succ] at parts
    have some : 0 < length c := List.length_pos_iff.2 Nat.toDigits_ne_nil
    rw [eq, Nat.add_sub_cancel, show (-(length c : Int) + 1).toNat = 0 by omega,
      show (-(-(length c : Int) + 1)).toNat = length c - 1 by omega, Nat.pow_zero, Nat.mul_one]
    calc a * 10 ^ (length c - 1) ≤ a * c := Nat.mul_le_mul_left a (pow_length_le (by omega))
      _ < b := by omega

/-- So a fraction of at least `10 ^ -k` has its first digit there or before. -/
theorem le_decade {a b k : Nat} (pos : 0 < a) (pos' : 0 < b) (h : b ≤ a * 10 ^ k) :
    -(k : Int) ≤ decade a b := by
  refine Int.not_lt.1 fun beyond => ?_
  have less := lt_decade pos pos'
  rw [show (decade a b + 1).toNat = 0 by omega, Nat.pow_zero, Nat.mul_one] at less
  have : a * 10 ^ k ≤ a * 10 ^ (-(decade a b + 1)).toNat :=
    Nat.mul_le_mul_left a (Nat.pow_le_pow_right (by decide) (by omega))
  omega

/-- Of seventeen digits the last is small beside the whole. -/
theorem seventeenth_le {c : Nat} (pos : 0 < c) :
    10 ^ 16 * (unit (decade c (1 <<< 1076) - 16)).1 ≤ c * (unit (decade c (1 <<< 1076) - 16)).2 := by
  have first := decade_le pos (Magnitude.one_shiftLeft_pos 1076)
  generalize decade c (1 <<< 1076) = top at *
  have left : (unit top).1 ≤ c * (unit top).2 := by
    rw [unit_eq, Nat.mul_comm]
    exact first
  have places := unit_add (top - 16) 16
  rw [show top - 16 + ((16 : Nat) : Int) = top by omega] at places
  refine Nat.le_of_mul_le_mul_right ?_ (unit_pos top).2
  rw [← places]
  calc (unit top).1 * (unit (top - 16)).2 ≤ c * (unit top).2 * (unit (top - 16)).2 :=
        Nat.mul_le_mul_right _ left
    _ = c * (unit (top - 16)).2 * (unit top).2 := Nat.mul_right_comm ..

/-- With `i + 1` places up to the first one a number has no more than `i + 1` digits. -/
theorem places_lt {c : Nat} (pos : 0 < c) (i : Nat) :
    c * (unit (decade c (1 <<< 1076) - i)).2 <
      10 ^ (i + 1) * (unit (decade c (1 <<< 1076) - i)).1 := by
  have first := lt_decade pos (Magnitude.one_shiftLeft_pos 1076)
  generalize decade c (1 <<< 1076) = top at *
  have left : c * (unit (top + 1)).2 < (unit (top + 1)).1 := by
    rw [unit_eq, Nat.mul_comm (10 ^ _)]
    exact first
  have places := unit_add (top - i) (i + 1)
  rw [show top - i + ((i + 1 : Nat) : Int) = top + 1 by omega] at places
  refine Nat.lt_of_mul_lt_mul_right (a := (unit (top + 1)).2) ?_
  rw [← places]
  calc c * (unit (top - i)).2 * (unit (top + 1)).2 = c * (unit (top + 1)).2 * (unit (top - i)).2 :=
        Nat.mul_right_comm ..
    _ < (unit (top + 1)).1 * (unit (top - i)).2 := Nat.mul_lt_mul_of_pos_right left (unit_pos _).2

/-- So its grid is finer than the neighbourhood is wide, and has a decimal there. -/
theorem within_seventeen {m : Magnitude} (some : 0 < m.scaled) :
    let k := decade m.neighbourhood.centre (1 <<< 1076) - 16
    let n := m.neighbourhood.centre * (unit k).2 / (unit k).1
    within m.neighbourhood k n = true ∨ within m.neighbourhood k (n + 1) = true := by
  intro k n
  have centre : m.neighbourhood.centre = 4 * m.scaled := rfl
  have fine : 10 ^ 16 * (unit k).1 ≤ m.neighbourhood.centre * (unit k).2 :=
    seventeenth_le (by omega)
  obtain ⟨pos, pos'⟩ := unit_pos k
  have below : n * (unit k).1 ≤ m.neighbourhood.centre * (unit k).2 := Nat.div_mul_le_self ..
  have above : m.neighbourhood.centre * (unit k).2 < (n + 1) * (unit k).1 := by
    rw [Nat.succ_mul]
    exact Nat.lt_div_mul_add pos
  rw [within_iff, within_iff]
  have width : 0 < (unit k).2 * 2 ^ m.exponent := Nat.mul_pos pos' (Nat.two_pow_pos _)
  have largest := Nat.mul_le_mul_right ((unit k).2 * 2 ^ m.exponent)
    (Nat.succ_le_of_lt m.significand_lt)
  have low := m.low_mul (unit k).2
  rw [Nat.succ_mul, Magnitude.limit_eq] at largest
  rw [Nat.succ_mul] at above
  by_cases near : m.neighbourhood.low * (unit k).2 < n * (unit k).1
  · refine .inl (.of_lt near ?_)
    rw [m.high_mul]
    rw [m.centre_mul] at below
    omega
  · refine .inr (.of_lt ?_ ?_)
    · rw [Nat.succ_mul, low]
      rw [m.centre_mul] at above
      omega
    · rw [m.high_mul, Nat.succ_mul]
      rw [m.centre_mul] at fine
      rw [low] at near
      split at near
      · rename_i side
        have isHalf : m.significand * ((unit k).2 * 2 ^ m.exponent) =
            2 ^ 52 * ((unit k).2 * 2 ^ m.exponent) := by rw [side.1, Magnitude.half_eq]
        omega
      · omega

/-! ## The search -/

theorem within_of_onGrid {tie : Tie} (h : onGrid? tie v k = some n) : within v k n = true := by
  unfold onGrid? at h
  simp only at h
  split at h
  · rename_i below above
    repeat' split at h
    all_goals
      cases h
      assumption
  · rename_i below _
    cases h
    exact below
  · rename_i _ above
    cases h
    exact above
  · cases h

theorem onGrid?_le {tie : Tie} (h : onGrid? tie v k = some n) :
    n ≤ v.centre * (unit k).2 / (unit k).1 + 1 := by
  unfold onGrid? at h
  simp only at h
  repeat' split at h
  all_goals
    cases h
  all_goals omega

/-- One of the two neighbours is found if one of them rounds to the magnitude. -/
theorem onGrid?_isSome (tie : Tie)
    (h : within v k (v.centre * (unit k).2 / (unit k).1) = true ∨
      within v k (v.centre * (unit k).2 / (unit k).1 + 1) = true) :
    (onGrid? tie v k).isSome = true := by
  unfold onGrid?
  simp only
  split
  · repeat' split
    all_goals rfl
  · rfl
  · rfl
  · rename_i below above
    rw [below, above] at h
    rcases h with h | h <;> cases h

theorem scaled_pos {m : Magnitude} (h : m.isZero = false) : 0 < m.scaled := by
  rw [Magnitude.scaled_eq]
  exact Nat.mul_pos (Nat.pos_of_ne_zero (by simpa [Magnitude.isZero] using h)) (Nat.two_pow_pos _)

/-- The decimal is found on one of the grids of up to seventeen digits. -/
theorem shortest_cases (tie : Tie) {m : Magnitude} (h : m.isZero = false) :
    let top := decade m.neighbourhood.centre (1 <<< 1076)
    ∃ i < 17, ∃ n, onGrid? tie m.neighbourhood (top - (i : Nat)) = some n ∧
      shortest tie m = strip 17 ⟨n, top - (i : Nat)⟩ := by
  unfold shortest
  simp only
  generalize top_eq : decade m.neighbourhood.centre (1 <<< 1076) = top
  cases found : (List.range 17).findSome? fun (i : Nat) =>
      (onGrid? tie m.neighbourhood (top - i)).map fun n => Decimal.mk n (top - i) with
  | none =>
    have missed := List.findSome?_eq_none_iff.1 found 16 (by decide)
    have hit := onGrid?_isSome tie (within_seventeen (scaled_pos h))
    rw [top_eq] at hit
    rw [Option.map_eq_none_iff] at missed
    rw [show (top - ((16 : Nat) : Int)) = top - 16 from rfl] at missed
    rw [missed] at hit
    cases hit
  | some x =>
    obtain ⟨i, mem, hit⟩ := List.exists_of_findSome?_eq_some found
    obtain ⟨n, grid, rfl⟩ := Option.map_eq_some_iff.1 hit
    exact ⟨i, List.mem_range.1 mem, n, grid, rfl⟩

/-- **The shortest decimal of a magnitude rounds to it.** -/
theorem shortest_within (tie : Tie) {m : Magnitude} (h : m.isZero = false) :
    within m.neighbourhood (shortest tie m).exponent (shortest tie m).digits = true := by
  obtain ⟨i, -, n, grid, eq⟩ := shortest_cases tie h
  rw [eq]
  exact strip_within 17 (within_of_onGrid grid)

theorem shortest_pos (tie : Tie) {m : Magnitude} (h : m.isZero = false) :
    0 < (shortest tie m).digits := by
  refine Nat.pos_of_ne_zero fun zero => ?_
  have near := within_iff.1 (shortest_within tie h)
  rw [zero, Nat.zero_mul, ← Nat.mul_zero 4] at near
  have low := (Magnitude.near_of_holds near).low
  have width := Nat.mul_pos (unit_pos (shortest tie m).exponent).2 (Nat.two_pow_pos m.exponent)
  have some : 0 < m.significand := Nat.pos_of_ne_zero (by simpa [Magnitude.isZero] using h)
  have := Nat.le_mul_of_pos_left ((unit (shortest tie m).exponent).2 * 2 ^ m.exponent) some
  omega

theorem centre_ge {m : Magnitude} (h : m.isZero = false) : 4 ≤ m.neighbourhood.centre := by
  have := scaled_pos h
  rw [show m.neighbourhood.centre = 4 * m.scaled from rfl]
  omega

/-- The shortest decimal has at most seventeen digits, a power of ten apart. -/
theorem shortest_digits_le (tie : Tie) {m : Magnitude} (h : m.isZero = false) :
    (shortest tie m).digits ≤ 10 ^ 17 := by
  obtain ⟨i, few, n, grid, eq⟩ := shortest_cases tie h
  have below := places_lt (Nat.lt_of_lt_of_le (by decide) (centre_ge h)) i
  have quotient := (Nat.div_lt_iff_lt_mul (unit_pos _).1).2 below
  have places : 10 ^ (i + 1) ≤ 10 ^ 17 := Nat.pow_le_pow_right (by decide) few
  have grown := onGrid?_le grid
  have stripped := (strip_bounds 17 ⟨n, decade m.neighbourhood.centre (1 <<< 1076) - (i : Nat)⟩).1
  rw [← eq] at stripped
  simp only at stripped
  omega

/-- The smallest magnitude has its first digit at the 324th place. -/
theorem shortest_exponent_ge (tie : Tie) {m : Magnitude} (h : m.isZero = false) :
    -340 ≤ (shortest tie m).exponent := by
  obtain ⟨i, few, n, -, eq⟩ := shortest_cases tie h
  have places : (1 : Nat) <<< 1076 ≤ m.neighbourhood.centre * 10 ^ 324 := calc
    1 <<< 1076 ≤ 4 * 10 ^ 324 := by decide +kernel
    _ ≤ m.neighbourhood.centre * 10 ^ 324 := Nat.mul_le_mul_right _ (centre_ge h)
  have first := le_decade (Nat.lt_of_lt_of_le (by decide) (centre_ge h))
    (Magnitude.one_shiftLeft_pos 1076) places
  have stripped := (strip_bounds 17 ⟨n, decade m.neighbourhood.centre (1 <<< 1076) - (i : Nat)⟩).2
  rw [← eq] at stripped
  simp only at stripped
  omega

/-- Any fraction of a decimal's value is rounded as the decimal is. -/
theorem round?_of_within {m : Magnitude} {a d : Nat} (pos : 0 < d)
    (value : 4 * a * (unit k).2 = n * (unit k).1 * d) (h : within m.neighbourhood k n = true) :
    Magnitude.round? a d = some m :=
  Magnitude.round?_eq pos ((within_iff.1 h).of_ratio (unit_pos k).2 pos value.symm)

end Decimal

end Telemetry
