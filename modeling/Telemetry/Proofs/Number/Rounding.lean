/-
Rounding to the nearest magnitude.

The reals that round to a magnitude are its neighbourhood: a fraction that lies there
is rounded to the magnitude (`round?_eq`). So a magnitude is its own rounding
(`round?_scaled`), and a whole number below `2 ^ 53` is exact (`ofNat?_exact`). Only
what is rounded past the largest magnitude has none near it (`round?_cases`), and
rounding keeps the order, so a smaller fraction has one if a larger has (`round?_mono`).
-/
import Mathlib.Algebra.Group.Nat.Defs
import Telemetry.Number.Shortest

namespace Telemetry

namespace Neighbourhood

variable {v : Neighbourhood}

/-- The fraction `a / d`, in units of `2 ^ -1076`, lies in the neighbourhood. -/
def Holds (v : Neighbourhood) (a d : Nat) : Prop :=
  if v.closed then v.low * d ≤ a ∧ a ≤ v.high * d else v.low * d < a ∧ a < v.high * d

/-- In a neighbourhood or not, that is a matter of the value alone. -/
theorem Holds.of_ratio {a d b e : Nat} (pos : 0 < d) (pos' : 0 < e) (same : a * e = b * d)
    (h : v.Holds a d) : v.Holds b e := by
  have le {x y : Nat} : x * d ≤ y ↔ x * e * d ≤ y * e := by
    rw [Nat.mul_right_comm, Nat.mul_le_mul_right_iff pos']
  have ge {x y : Nat} : y ≤ x * d ↔ y * e ≤ x * e * d := by
    rw [Nat.mul_right_comm, Nat.mul_le_mul_right_iff pos']
  unfold Holds at h ⊢
  split at h <;> rename_i ends
  · rw [if_pos ends]
    rw [le, ge, same, Nat.mul_le_mul_right_iff pos, Nat.mul_le_mul_right_iff pos] at h
    exact h
  · rw [if_neg ends]
    rw [← Nat.not_le, ← Nat.not_le, le, ge, same, Nat.mul_le_mul_right_iff pos,
      Nat.mul_le_mul_right_iff pos, Nat.not_le, Nat.not_le] at h
    exact h

theorem Holds.of_lt {a d : Nat} (low : v.low * d < a) (high : a < v.high * d) : v.Holds a d := by
  unfold Holds
  split
  · exact ⟨Nat.le_of_lt low, Nat.le_of_lt high⟩
  · exact ⟨low, high⟩

end Neighbourhood

namespace Magnitude

/-- At most a half away, and less than that where the integer is odd. -/
theorem nearest_eq {a d n : Nat} (low : 2 * (n * d) ≤ 2 * a + d) (high : 2 * a ≤ 2 * (n * d) + d)
    (tie : n % 2 = 0 ∨ 2 * (n * d) < 2 * a + d ∧ 2 * a < 2 * (n * d) + d) (pos : 0 < d) :
    nearest a d = n := by
  have parts : d * (a / d) + a % d = a := Nat.div_add_mod a d
  have rest : a % d < d := Nat.mod_lt a pos
  rw [Nat.mul_comm] at parts
  unfold nearest
  simp only
  generalize a / d = q at *
  generalize a % d = r at *
  -- The integer is the quotient or the one above it.
  have between : n = q ∨ n = q + 1 := by
    rcases Nat.lt_or_ge n q with below | above
    · have := Nat.mul_le_mul_right d (Nat.succ_le_of_lt below)
      rw [Nat.succ_mul] at this
      omega
    · rcases Nat.lt_or_ge (q + 1) n with beyond | within
      · have := Nat.mul_le_mul_right d (Nat.succ_le_of_lt beyond)
        rw [Nat.succ_mul, Nat.succ_mul] at this
        omega
      · omega
  rcases between with rfl | rfl
  · split
    · rfl
    · split
      · omega
      · rw [if_pos (by omega)]
  · have next : (q + 1) * d = q * d + d := Nat.succ_mul q d
    rw [next] at low high tie
    rw [if_neg (by omega)]
    split
    · rfl
    · rw [if_neg (by omega)]

/-- The exponent is the one at which the fraction has 53 bits, or zero where it has fewer. -/
structure IsExponent (a d p : Nat) : Prop where
  below : a < limit * (d * 2 ^ p)
  above : p = 0 ∨ half * (d * 2 ^ p) ≤ a

theorem half_eq : half = 2 ^ 52 := by
  decide

theorem limit_eq : limit = 2 ^ 53 := by
  decide

theorem half_mul (d p : Nat) : half * (d * 2 ^ p) = d * 2 ^ (p + 52) := by
  rw [half_eq, Nat.pow_add]
  ac_rfl

theorem limit_mul (d p : Nat) : limit * (d * 2 ^ p) = d * 2 ^ (p + 53) := by
  rw [limit_eq, Nat.pow_add]
  ac_rfl

theorem IsExponent.le {a b d p q : Nat} (h : IsExponent a d p) (h' : IsExponent b d q)
    (order : a ≤ b) : p ≤ q := by
  rcases h.above with rfl | above
  · exact Nat.zero_le q
  · have less : d * 2 ^ (p + 52) < d * 2 ^ (q + 53) := by
      rw [← half_mul, ← limit_mul]
      exact Nat.lt_of_le_of_lt (Nat.le_trans above order) h'.below
    have := (Nat.pow_lt_pow_iff_right (by decide)).1 (Nat.lt_of_mul_lt_mul_left less)
    omega

theorem isExponent_unitExponent (a : Nat) {d : Nat} (pos : 0 < d) :
    IsExponent a d (unitExponent a d) := by
  have lowD : 2 ^ d.log2 ≤ d := Nat.log2_self_le (by omega)
  have highD : d < 2 ^ (d.log2 + 1) := Nat.lt_log2_self
  have highA : a < 2 ^ (a.log2 + 1) := Nat.lt_log2_self
  -- One bit more than the difference in length is always enough.
  have enough {p : Nat} (long : a.log2 ≤ d.log2 + 52 + p) : a < d * 2 ^ (p + 53) := calc
    a < 2 ^ (a.log2 + 1) := highA
    _ ≤ 2 ^ (d.log2 + (p + 53)) := Nat.pow_le_pow_right (by decide) (by omega)
    _ = 2 ^ d.log2 * 2 ^ (p + 53) := Nat.pow_add ..
    _ ≤ d * 2 ^ (p + 53) := Nat.mul_le_mul_right _ lowD
  have least {p : Nat} (long : d.log2 + 53 + p = a.log2) : d * 2 ^ (p + 52) ≤ a := calc
    d * 2 ^ (p + 52) ≤ 2 ^ (d.log2 + 1) * 2 ^ (p + 52) := Nat.mul_le_mul_right _ (Nat.le_of_lt highD)
    _ = 2 ^ a.log2 := by rw [← Nat.pow_add, ← long]; congr 1; omega
    _ ≤ a := Nat.log2_self_le fun zero => by simp [zero] at long
  unfold unitExponent
  simp only [Nat.shiftLeft_eq]
  split
  · rename_i short
    obtain ⟨p, eq⟩ : ∃ p, a.log2 - (d.log2 + 52) = p + 1 :=
      ⟨_, (Nat.succ_pred_eq_of_pos short.1).symm⟩
    rw [eq] at short ⊢
    refine ⟨?_, .inr ?_⟩
    · rw [limit_mul]
      exact short.2
    · rw [half_mul]
      exact least (by omega)
  · rename_i long
    rw [not_and, Nat.not_lt, ← half_mul] at long
    refine ⟨?_, (Nat.eq_zero_or_pos _).imp_right long⟩
    rw [limit_mul]
    exact enough (by omega)

theorem unitExponent_eq {a d p : Nat} (pos : 0 < d) (h : IsExponent a d p) :
    unitExponent a d = p :=
  Nat.le_antisymm ((isExponent_unitExponent a pos).le h (Nat.le_refl a))
    (h.le (isExponent_unitExponent a pos) (Nat.le_refl a))

/-! ## The nearest magnitude -/

variable {m : Magnitude}

theorem one_shiftLeft_pos (n : Nat) : 0 < 1 <<< n := by
  rw [Nat.one_shiftLeft]
  exact Nat.two_pow_pos n

theorem scaled_eq (m : Magnitude) : m.scaled = m.significand * 2 ^ m.exponent :=
  Nat.shiftLeft_eq ..

theorem closed_iff (m : Magnitude) : m.neighbourhood.closed = true ↔ m.significand % 2 = 0 :=
  beq_iff_eq

theorem centre_mul (m : Magnitude) (d : Nat) :
    m.neighbourhood.centre * d = 4 * (m.significand * (d * 2 ^ m.exponent)) := by
  rw [neighbourhood, scaled_eq, Nat.mul_assoc, Nat.mul_assoc, Nat.mul_comm _ d]

theorem high_mul (m : Magnitude) (d : Nat) :
    m.neighbourhood.high * d =
      4 * (m.significand * (d * 2 ^ m.exponent)) + 2 * (d * 2 ^ m.exponent) := by
  rw [← centre_mul, neighbourhood, Nat.add_mul, Nat.one_shiftLeft, Nat.mul_assoc 2, Nat.mul_comm d]

theorem low_mul (m : Magnitude) (d : Nat) :
    m.neighbourhood.low * d = 4 * (m.significand * (d * 2 ^ m.exponent)) -
      (if m.significand = half ∧ 0 < m.exponent then d * 2 ^ m.exponent
        else 2 * (d * 2 ^ m.exponent)) := by
  rw [← centre_mul, neighbourhood, Nat.sub_mul, Nat.one_shiftLeft]
  congr 1
  split
  · exact Nat.mul_comm ..
  · rw [Nat.mul_assoc, Nat.mul_comm d]

theorem eq_zero (h : m.isZero = true) : m = zero := by
  obtain ⟨s, q, small, normal, inRange⟩ := m
  have none : s = 0 := by simpa [isZero] using h
  subst none
  have : q = 0 := normal.resolve_left (by decide)
  subst this
  rfl

/-- A fraction is near a magnitude: at most half a unit of the last place away, the unit being
half as much below a power of two. -/
structure Near (m : Magnitude) (a d : Nat) : Prop where
  high : 2 * a ≤ 2 * (m.significand * (d * 2 ^ m.exponent)) + d * 2 ^ m.exponent
  low : 2 * (m.significand * (d * 2 ^ m.exponent)) ≤ 2 * a + d * 2 ^ m.exponent
  under : m.significand = half → 0 < m.exponent →
    4 * (m.significand * (d * 2 ^ m.exponent)) ≤ 4 * a + d * 2 ^ m.exponent
  tie : m.significand % 2 = 0 ∨
    2 * (m.significand * (d * 2 ^ m.exponent)) < 2 * a + d * 2 ^ m.exponent ∧
      2 * a < 2 * (m.significand * (d * 2 ^ m.exponent)) + d * 2 ^ m.exponent

theorem near_of_holds {a d : Nat} (h : m.neighbourhood.Holds (4 * a) d) : m.Near a d := by
  have odd (h : m.significand % 2 ≠ 0) :
      m.significand ≠ half ∧ d * 2 ^ m.exponent ≤ m.significand * (d * 2 ^ m.exponent) := by
    refine ⟨fun even => h (by rw [even]; decide), Nat.le_mul_of_pos_left _ ?_⟩
    exact Nat.pos_of_ne_zero fun zero => h (by rw [zero])
  rw [Neighbourhood.Holds, low_mul, high_mul] at h
  by_cases even : m.significand % 2 = 0
  · rw [if_pos (m.closed_iff.2 even)] at h
    have low : 4 * (m.significand * (d * 2 ^ m.exponent)) ≤ 4 * a + 2 * (d * 2 ^ m.exponent) := by
      split at h <;> omega
    refine ⟨by omega, by omega, fun isHalf normal => ?_, .inl even⟩
    rw [if_pos ⟨isHalf, normal⟩] at h
    omega
  · obtain ⟨off, some⟩ := odd even
    rw [if_neg (mt m.closed_iff.1 even), if_neg fun side => off side.1] at h
    exact ⟨by omega, by omega, fun isHalf => absurd isHalf off, by omega⟩

/-- A fraction near a magnitude has its exponent, unless the magnitude is a power of two and
the fraction is below it. -/
theorem Near.isExponent {a d : Nat} (near : m.Near a d) (pos : 0 < d)
    (h : m.exponent = 0 ∨ half * (d * 2 ^ m.exponent) ≤ a) : IsExponent a d m.exponent := by
  have unit : 0 < d * 2 ^ m.exponent := Nat.mul_pos pos (Nat.two_pow_pos _)
  have := near.high
  have largest := Nat.mul_le_mul_right (d * 2 ^ m.exponent) (Nat.succ_le_of_lt m.significand_lt)
  rw [Nat.succ_mul] at largest
  exact ⟨by omega, h⟩

/-- Below a power of two the exponent is one less, and the fraction is rounded up. -/
theorem Near.round_up {a d : Nat} (near : m.Near a d) (pos : 0 < d) (normal : 0 < m.exponent)
    (h : a < half * (d * 2 ^ m.exponent)) :
    m.significand = half ∧ ∃ p, m.exponent = p + 1 ∧ IsExponent a d p ∧
      nearest a (d * 2 ^ p) = limit := by
  have unit : 0 < d * 2 ^ m.exponent := Nat.mul_pos pos (Nat.two_pow_pos _)
  have isHalf : m.significand = half := by
    refine Nat.le_antisymm (Nat.le_of_not_lt fun more => ?_) (m.normal.resolve_right (by omega))
    have := Nat.mul_le_mul_right (d * 2 ^ m.exponent) (Nat.succ_le_of_lt more)
    rw [Nat.succ_mul] at this
    have := near.low
    omega
  have under := near.under isHalf normal
  have high := near.high
  obtain ⟨p, eq⟩ : ∃ p, m.exponent = p + 1 := ⟨_, (Nat.succ_pred_eq_of_pos normal).symm⟩
  have double : d * 2 ^ (p + 1) = 2 * (d * 2 ^ p) := by
    rw [Nat.pow_succ]
    ac_rfl
  have twice : half * (2 * (d * 2 ^ p)) = limit * (d * 2 ^ p) := by
    rw [← Nat.mul_assoc]
    rfl
  rw [isHalf, eq, double, twice] at under high
  rw [eq, double, twice] at h
  rw [eq, double] at unit
  have halves : limit * (d * 2 ^ p) = 2 * (half * (d * 2 ^ p)) := by
    rw [← Nat.mul_assoc 2]
    rfl
  have some : d * 2 ^ p ≤ half * (d * 2 ^ p) := Nat.le_mul_of_pos_left _ (by decide)
  exact ⟨isHalf, p, eq, ⟨h, .inr (by omega)⟩,
    nearest_eq (by omega) (by omega) (.inl (by decide)) (by omega)⟩

/-- The magnitude of a rounded significand, which may be one bit too long. -/
theorem round?_of_nearest {a d p n : Nat} (pos : 0 < d) (exponent : IsExponent a d p)
    (rounded : nearest a (d * 2 ^ p) = n)
    (significand : m.significand = if n = limit then half else n)
    (exponent' : m.exponent = if n = limit then p + 1 else p) : round? a d = some m := by
  obtain ⟨s, q, small, normal, inRange⟩ := m
  simp only at significand exponent'
  subst significand exponent'
  unfold round?
  simp only [unitExponent_eq pos exponent, Nat.shiftLeft_eq d, rounded]
  exact dif_pos ⟨small, normal, inRange⟩

/-- **A fraction in the neighbourhood of a magnitude is rounded to it.** -/
theorem round?_eq {a d : Nat} (pos : 0 < d) (h : m.neighbourhood.Holds (4 * a) d) :
    round? a d = some m := by
  have near := near_of_holds h
  have unit : 0 < d * 2 ^ m.exponent := Nat.mul_pos pos (Nat.two_pow_pos _)
  by_cases under : 0 < m.exponent ∧ a < half * (d * 2 ^ m.exponent)
  · obtain ⟨isHalf, p, eq, exponent, rounded⟩ := near.round_up pos under.1 under.2
    exact round?_of_nearest pos exponent rounded isHalf eq
  · rw [not_and, Nat.not_lt] at under
    have exponent := near.isExponent pos ((Nat.eq_zero_or_pos _).imp_right under)
    have short : m.significand ≠ limit := Nat.ne_of_lt m.significand_lt
    exact round?_of_nearest pos exponent (nearest_eq near.low near.high near.tie unit)
      (if_neg short).symm (if_neg short).symm

/-! ## Exact results -/

theorem holds_scaled (m : Magnitude) {d : Nat} (pos : 0 < d) :
    m.neighbourhood.Holds (4 * (m.scaled * d)) d := by
  have unit : 0 < d * 2 ^ m.exponent := Nat.mul_pos pos (Nat.two_pow_pos _)
  have centre : 4 * (m.scaled * d) = 4 * (m.significand * (d * 2 ^ m.exponent)) := by
    rw [← centre_mul, ← Nat.mul_assoc]
    rfl
  rcases Nat.eq_zero_or_pos m.significand with zero | some
  · rw [Neighbourhood.Holds, if_pos (m.closed_iff.2 (by rw [zero])), low_mul, high_mul, centre]
    omega
  · have : d * 2 ^ m.exponent ≤ m.significand * (d * 2 ^ m.exponent) := Nat.le_mul_of_pos_left _ some
    refine .of_lt ?_ ?_
    · rw [low_mul, centre]
      split <;> omega
    · rw [high_mul, centre]
      omega

theorem round?_scaled (m : Magnitude) {d : Nat} (pos : 0 < d) : round? (m.scaled * d) d = some m :=
  round?_eq pos (m.holds_scaled pos)

theorem exists_whole {n : Nat} (h : n < limit) : ∃ m : Magnitude, m.scaled = n <<< 1074 := by
  rcases Nat.eq_zero_or_pos n with rfl | some
  · exact ⟨zero, rfl⟩
  · have low : 2 ^ n.log2 ≤ n := Nat.log2_self_le (by omega)
    have high : n < 2 ^ (n.log2 + 1) := Nat.lt_log2_self
    have short : n.log2 < 53 := (Nat.log2_lt (by omega)).2 (limit_eq ▸ h)
    have normal : half ≤ n * 2 ^ (52 - n.log2) := calc
      half = 2 ^ n.log2 * 2 ^ (52 - n.log2) := by
        rw [← Nat.pow_add, show n.log2 + (52 - n.log2) = 52 by omega, half_eq]
      _ ≤ n * 2 ^ (52 - n.log2) := Nat.mul_le_mul_right _ low
    have small : n * 2 ^ (52 - n.log2) < limit := calc
      n * 2 ^ (52 - n.log2) < 2 ^ (n.log2 + 1) * 2 ^ (52 - n.log2) :=
        Nat.mul_lt_mul_of_pos_right high (Nat.two_pow_pos _)
      _ = limit := by rw [← Nat.pow_add, show n.log2 + 1 + (52 - n.log2) = 53 by omega, limit_eq]
    refine ⟨⟨n * 2 ^ (52 - n.log2), 1022 + n.log2, small, .inl normal, by omega⟩, ?_⟩
    have exponents : 52 - n.log2 + (1022 + n.log2) = 1074 := by omega
    rw [scaled_eq, Nat.mul_assoc, ← Nat.pow_add, Nat.shiftLeft_eq, exponents]

/-- A whole number below `2 ^ 53` is read exactly. -/
theorem ofNat?_exact {n : Nat} (h : n < limit) :
    ∃ m, ofNat? n = some m ∧ m.scaled = n <<< 1074 := by
  obtain ⟨m, eq⟩ := exists_whole h
  refine ⟨m, ?_, eq⟩
  rw [ofNat?, ofRatio?, ← eq]
  simpa using m.round?_scaled Nat.one_pos

/-! ## The range -/

/-- Rounding does not pass a whole number. -/
theorem nearest_le {a d n : Nat} (pos : 0 < d) (h : a ≤ n * d) : nearest a d ≤ n := by
  have parts : d * (a / d) + a % d = a := Nat.div_add_mod a d
  have quotient : a / d ≤ n := Nat.div_le_of_le_mul (Nat.mul_comm n d ▸ h)
  unfold nearest
  simp only
  rcases Nat.lt_or_eq_of_le quotient with below | exact
  · split
    · exact quotient
    · split
      · exact below
      · split <;> omega
  · -- The quotient is the number, so nothing is left over.
    have rest : a % d = 0 := by
      rw [exact, Nat.mul_comm] at parts
      omega
    rw [if_pos (by omega)]
    exact quotient

theorem le_nearest {a d n : Nat} (pos : 0 < d) (h : n * d ≤ a) : n ≤ nearest a d := by
  have quotient : n ≤ a / d := (Nat.le_div_iff_mul_le pos).2 h
  unfold nearest
  simp only
  split
  · exact quotient
  · split
    · omega
    · split <;> omega

/-- The nearest integer at the exponent of the fraction, in the fraction's units. -/
def rounded (a d : Nat) : Nat :=
  nearest a (d * 2 ^ unitExponent a d) * 2 ^ unitExponent a d

theorem half_carry (p : Nat) : half * 2 ^ (p + 1) = limit * 2 ^ p := by
  rw [limit_eq, half_eq, ← Nat.pow_add, ← Nat.pow_add]
  congr 1
  omega

theorem nearest_mono {a b d : Nat} (pos : 0 < d) (le : a ≤ b) : nearest a d ≤ nearest b d := by
  have partsA : d * (a / d) + a % d = a := Nat.div_add_mod a d
  have partsB : d * (b / d) + b % d = b := Nat.div_add_mod b d
  have restA : a % d < d := Nat.mod_lt a pos
  have quotients : a / d ≤ b / d := Nat.div_le_div_right le
  unfold nearest
  simp only
  rcases Nat.lt_or_eq_of_le quotients with below | same
  · have : a / d + 1 ≤ b / d := below
    repeat' split
    all_goals omega
  · rw [← same] at partsB ⊢
    repeat' split
    all_goals omega

theorem rounded_mono {a b d : Nat} (pos : 0 < d) (le : a ≤ b) : rounded a d ≤ rounded b d := by
  have first := isExponent_unitExponent a pos
  have second := isExponent_unitExponent b pos
  have units (p : Nat) : 0 < d * 2 ^ p := Nat.mul_pos pos (Nat.two_pow_pos p)
  unfold rounded
  rcases Nat.lt_or_eq_of_le (first.le second le) with below | same
  · -- The power of two between the exponents is passed by neither.
    obtain ⟨j, exponents⟩ := Nat.le.dest below
    calc nearest a (d * 2 ^ unitExponent a d) * 2 ^ unitExponent a d
        ≤ limit * 2 ^ unitExponent a d :=
          Nat.mul_le_mul_right _ (nearest_le (units _) (Nat.le_of_lt first.below))
      _ = half * 2 ^ (unitExponent a d + 1) := (half_carry _).symm
      _ ≤ half * 2 ^ unitExponent b d := Nat.mul_le_mul_left _ (Nat.pow_le_pow_right (by decide) below)
      _ ≤ nearest b (d * 2 ^ unitExponent b d) * 2 ^ unitExponent b d :=
          Nat.mul_le_mul_right _ (le_nearest (units _) (second.above.resolve_left (by omega)))
  · rw [same]
    exact Nat.mul_le_mul_right _ (nearest_mono (units _) le)

theorem rounded_le {a d k : Nat} (pos : 0 < d) (small : a < d * 2 ^ k) : rounded a d ≤ 2 ^ k := by
  have exponent := isExponent_unitExponent a pos
  have within : unitExponent a d ≤ k := by
    rcases exponent.above with zero | above
    · omega
    · have less := Nat.lt_of_le_of_lt (half_mul d _ ▸ above) small
      have := (Nat.pow_lt_pow_iff_right (by decide)).1 (Nat.lt_of_mul_lt_mul_left less)
      omega
  have powers : 2 ^ (k - unitExponent a d) * 2 ^ unitExponent a d = 2 ^ k := by
    rw [← Nat.pow_add, Nat.sub_add_cancel within]
  have close : a ≤ 2 ^ (k - unitExponent a d) * (d * 2 ^ unitExponent a d) := by
    rw [Nat.mul_left_comm, powers]
    exact Nat.le_of_lt small
  rw [rounded, ← powers]
  exact Nat.mul_le_mul_right _ (nearest_le (Nat.mul_pos pos (Nat.two_pow_pos _)) close)

theorem scaled_lt {s p e : Nat} (small : s < limit) (le : p ≤ e) : s * 2 ^ p < limit * 2 ^ e := calc
  s * 2 ^ p ≤ s * 2 ^ e := Nat.mul_le_mul_left _ (Nat.pow_le_pow_right (by decide) le)
  _ < limit * 2 ^ e := Nat.mul_lt_mul_of_pos_right small (Nat.two_pow_pos _)

theorem le_scaled {s p e : Nat} (large : half ≤ s) (lt : e < p) : limit * 2 ^ e ≤ s * 2 ^ p := by
  rw [← half_carry]
  exact Nat.mul_le_mul large (Nat.pow_le_pow_right (by decide) lt)

theorem scaled_step {s p e c : Nat} (h : 4 * s + 2 ≤ c ∧ p ≤ e ∨ 4 * s + 2 ≤ c * 2 ∧ p < e) :
    (4 * s + 2) * 2 ^ p ≤ c * 2 ^ e := by
  rcases h with ⟨small, le⟩ | ⟨small, lt⟩
  · exact Nat.mul_le_mul small (Nat.pow_le_pow_right (by decide) le)
  · calc (4 * s + 2) * 2 ^ p ≤ c * 2 * 2 ^ p := Nat.mul_le_mul_right _ small
      _ = c * 2 ^ (p + 1) := by rw [Nat.pow_succ, Nat.mul_assoc, Nat.mul_comm 2]
      _ ≤ c * 2 ^ e := Nat.mul_le_mul_left _ (Nat.pow_le_pow_right (by decide) lt)

theorem high_le_pow (m : Magnitude) : m.neighbourhood.high ≤ 2 ^ 1024 * 1 <<< 1076 := by
  have largest := m.significand_lt
  rw [limit_eq] at largest
  have high := m.high_mul 1
  rw [Nat.mul_one, Nat.one_mul] at high
  have digits : 4 * m.significand + 2 ≤ 2 ^ 55 := by omega
  calc m.neighbourhood.high = (4 * m.significand + 2) * 2 ^ m.exponent := by
        rw [high, Nat.add_mul, Nat.mul_assoc]
    _ ≤ 2 ^ 55 * 2 ^ 2045 := scaled_step (.inl ⟨digits, m.exponent_le⟩)
    _ = 2 ^ 1024 * 1 <<< 1076 := by decide +kernel

theorem two_pow_lt : 2 ^ 1024 < 10 ^ 309 := by
  decide +kernel

theorem le_of_limit_le {k e : Nat} (h : limit * 2 ^ e ≤ 2 ^ k) : 53 + e ≤ k := by
  rw [limit_eq, ← Nat.pow_add] at h
  exact (Nat.pow_le_pow_iff_right (by decide)).1 h

/-- A fraction has a nearest magnitude unless it is rounded past the largest. -/
theorem round?_cases (a : Nat) {d : Nat} (pos : 0 < d) :
    (∃ m, round? a d = some m ∧ m.scaled = rounded a d ∧ rounded a d < limit * 2 ^ 2045) ∨
      round? a d = none ∧ limit * 2 ^ 2045 ≤ rounded a d := by
  have exponent := isExponent_unitExponent a pos
  have unit : 0 < d * 2 ^ unitExponent a d := Nat.mul_pos pos (Nat.two_pow_pos _)
  have most : nearest a (d * 2 ^ unitExponent a d) ≤ limit :=
    nearest_le unit (Nat.le_of_lt exponent.below)
  have least : half ≤ nearest a (d * 2 ^ unitExponent a d) ∨ unitExponent a d = 0 :=
    exponent.above.symm.imp_left (le_nearest unit)
  obtain ⟨p, p_eq⟩ : ∃ p, unitExponent a d = p := ⟨_, rfl⟩
  obtain ⟨s, s_eq⟩ : ∃ s, nearest a (d * 2 ^ p) = s := ⟨_, rfl⟩
  rw [rounded]
  rw [p_eq] at exponent most least ⊢
  rw [s_eq] at most least ⊢
  by_cases carried : s = limit
  · -- One bit too long: the significand is the smallest, at the next exponent.
    subst carried
    rw [← half_carry]
    by_cases inRange : p + 1 ≤ 2045
    · exact .inl ⟨⟨half, p + 1, by decide, .inl (Nat.le_refl _), inRange⟩,
        round?_of_nearest pos exponent s_eq (if_pos rfl).symm (if_pos rfl).symm, scaled_eq _,
        scaled_lt (by decide) inRange⟩
    · refine .inr ⟨?_, le_scaled (Nat.le_refl _) (by omega)⟩
      simp only [round?, p_eq, Nat.shiftLeft_eq d, s_eq, if_true]
      exact dif_neg fun h => inRange h.2.2
  · have small : s < limit := Nat.lt_of_le_of_ne most carried
    by_cases inRange : p ≤ 2045
    · exact .inl ⟨⟨s, p, small, least, inRange⟩,
        round?_of_nearest pos exponent s_eq (if_neg carried).symm (if_neg carried).symm,
        scaled_eq _, scaled_lt small inRange⟩
    · refine .inr ⟨?_, le_scaled (least.resolve_right (by omega)) (by omega)⟩
      simp only [round?, p_eq, Nat.shiftLeft_eq d, s_eq, if_neg carried]
      exact dif_neg fun h => inRange h.2.2

/-- A fraction that is not too large has a nearest magnitude, below the same power of two. -/
theorem exists_round {a d k : Nat} (pos : 0 < d) (small : a < d * 2 ^ k) (bits : k ≤ 2097) :
    ∃ m, round? a d = some m ∧ m.scaled ≤ 2 ^ k := by
  have within := rounded_le pos small
  rcases round?_cases a pos with ⟨m, rounds, scaled, -⟩ | ⟨-, large⟩
  · exact ⟨m, rounds, scaled ▸ within⟩
  · have := le_of_limit_le (Nat.le_trans large within)
    omega

/-- What is in range when it is larger is in range, and no larger. -/
theorem round?_mono {a b d : Nat} {m : Magnitude} (pos : 0 < d) (le : a ≤ b)
    (rounds : round? b d = some m) : ∃ m', round? a d = some m' ∧ m'.scaled ≤ m.scaled := by
  have order := rounded_mono pos le
  rcases round?_cases b pos with ⟨_, here, scaled, small⟩ | ⟨none, -⟩
  · obtain rfl := Option.some.inj (rounds.symm.trans here)
    rcases round?_cases a pos with ⟨m', rounds', scaled', -⟩ | ⟨-, large⟩
    · exact ⟨m', rounds', by omega⟩
    · omega
  · rw [rounds] at none
    cases none

theorem shiftLeft_lt {n k : Nat} (small : n < 2 ^ k) (j : Nat) : n <<< j < 1 * 2 ^ (k + j) := by
  rw [Nat.shiftLeft_eq, Nat.one_mul, Nat.pow_add]
  exact Nat.mul_lt_mul_of_pos_right small (Nat.two_pow_pos j)

/-- A whole number of at most 1023 bits is in range. -/
theorem exists_ofNat {n k : Nat} (small : n < 2 ^ k) (bits : k ≤ 1023) :
    ∃ m, ofNat? n = some m ∧ m.scaled ≤ 2 ^ (k + 1074) := by
  unfold ofNat? ofRatio?
  exact exists_round Nat.one_pos (shiftLeft_lt small 1074) (by omega)

end Magnitude

namespace Binary64

theorem isFinite_ofNat {n : Nat} (fits : n < UInt64.size) : (ofNat n).isFinite = true := by
  have small : n < 2 ^ 64 := fits
  obtain ⟨m, rounds, -⟩ := Magnitude.exists_ofNat small (by decide)
  rw [ofNat, rounds]
  rfl

theorem isFinite_neg (x : Binary64) : x.neg.isFinite = x.isFinite := by
  cases x <;> rfl

end Binary64

end Telemetry
