/-
Doubles that are read back as themselves.

A reader rounds twice, but the first rounding changes nothing when the digits make a
number below `2 ^ 53`, and a power of ten up to `10 ^ 22` is exact too. Then one rounding
is left, of the shortest decimal, and that is the double (`reread_of_short`).
-/
import Telemetry.Proofs.Json.Snapshots
import Telemetry.Proofs.Number.Shortest

namespace Telemetry

namespace Json

theorem tenPower_scaled : ∀ k < 23, (tenPower k).scaled = 10 ^ k * 1 <<< 1074 := by
  decide +kernel

/-- With an exact significand and an exact power of ten, a decimal is rounded once. -/
theorem scale?_eq {m : Magnitude} {n : Nat} {e : Int} (some : 0 < n) (small : n < Magnitude.limit)
    (low : -22 ≤ e) (high : e ≤ 22) (h : Decimal.within m.neighbourhood e n = true) :
    scale? n e = .some m := by
  obtain ⟨x, whole, scaled⟩ := Magnitude.ofNat?_exact small
  have one : 0 < 1 <<< 1074 := Magnitude.one_shiftLeft_pos 1074
  rw [Decimal.shiftLeft_one] at scaled
  have nonzero : x.isZero = false := by
    refine Bool.eq_false_iff.2 fun zero => ?_
    rw [Magnitude.scaled_eq, beq_iff_eq.1 zero, Nat.zero_mul] at scaled
    exact absurd scaled (Nat.ne_of_lt (Nat.mul_pos some one))
  unfold scale?
  simp only [whole]
  rw [if_neg (by omega)]
  split
  · have power := tenPower_scaled e.toNat (by omega)
    refine Decimal.round?_of_within one ?_ h
    rw [scaled, power, Decimal.unit_eq, show (-e).toNat = 0 by omega, Decimal.one_shiftLeft_1076]
    generalize 1 <<< 1074 = w
    ac_rfl
  · have power := tenPower_scaled (-e).toNat (by omega)
    have still : shrink 3 x e = (x, e) := if_pos (.inl (by omega))
    simp only [still, nonzero, Bool.false_eq_true, if_false]
    rw [Magnitude.div?, power]
    refine Decimal.round?_of_within (Nat.mul_pos (Nat.pow_pos (by decide)) one) ?_ h
    rw [scaled, Decimal.shiftLeft_one, Decimal.unit_eq, show e.toNat = 0 by omega, Decimal.one_shiftLeft_1076]
    simp only [Nat.pow_zero, Nat.one_mul]
    generalize 1 <<< 1074 = w
    ac_rfl

/-- Digits that make a number of 64 bits are all gathered. -/
theorem gather_eq : ∀ {ds : List Nat} {n : Nat},
    ds.foldl (fun n d => n * 10 + d) n < UInt64.size →
      gather n ds = (ds.foldl (fun n d => n * 10 + d) n, [])
  | [], _, _ => rfl
  | d :: ds, n, h => by
    have first : n * 10 + d < UInt64.size := Nat.lt_of_le_of_lt (le_foldl_digits ds _) h
    rw [gather, if_pos first]
    exact gather_eq h

theorem scientific_eq {n : Numeral} (h : natOfDigits (n.whole ++ n.fraction) < UInt64.size) :
    n.scientific = (natOfDigits (n.whole ++ n.fraction), -(n.fraction.length : Int)) := by
  rw [natOfDigits, List.foldl_append] at h
  have whole := gather_eq (Nat.lt_of_le_of_lt (le_foldl_digits n.fraction _) h)
  rw [Numeral.scientific, whole]
  simp only
  rw [gather_eq h, natOfDigits, List.foldl_append]
  simp

end Json

/-! ## The decimal that is read -/

namespace Decimal

variable {x : Decimal} {negative : Bool}

/-- What is read of a decimal in wire form: a whole number has one zero after the point. -/
def asRead (x : Decimal) : Decimal :=
  if 0 ≤ x.exponent ∧ x.leading < 16 then ⟨x.digits * 10 ^ (x.exponent.toNat + 1), -1⟩ else x

theorem asRead_pos (some : 0 < x.digits) : 0 < x.asRead.digits := by
  unfold asRead
  split
  · exact Nat.mul_pos some (Nat.pow_pos (by decide))
  · exact some

/-- The digits are an exact double, and so is the power of ten. -/
def Short (x : Decimal) : Prop :=
  x.digits < Magnitude.limit ∧ x.exponent.natAbs ≤ 22

instance : Decidable x.Short :=
  inferInstanceAs (Decidable (_ ∧ _))

/-- The digits are all gathered, and the exponent is one that a numeral may have. -/
structure Fits (x : Decimal) : Prop where
  digits : x.digits < UInt64.size
  exponent : x.exponent.natAbs ≤ 400

theorem Short.fits (short : x.Short) : x.Fits :=
  ⟨Nat.lt_trans short.1 (by decide), Nat.le_trans short.2 (by decide)⟩

theorem asRead_within {v : Neighbourhood} (h : within v x.exponent x.digits = true) :
    within v x.asRead.exponent x.asRead.digits = true := by
  unfold asRead
  split
  · refine (within_add _).1 ?_
    rw [show -1 + ((x.exponent.toNat + 1 : Nat) : Int) = x.exponent by omega]
    exact h
  · exact h

/-- A number in parts is scaled once its digits and its exponent are gathered. -/
theorem magnitude?_of_parts {p : Json.Parts} (digits : AllDigits p.fraction)
    (whole : natOfDigits (digitValues (p.whole ++ p.fraction)) < UInt64.size)
    (exponent : natOfDigits p.numeral.exponent < 1 <<< 31) :
    p.numeral.magnitude? = Json.scale? (natOfDigits (digitValues (p.whole ++ p.fraction)))
      (if p.numeral.exponentNegative then -(p.fraction.length : Int) - natOfDigits p.numeral.exponent
        else -(p.fraction.length : Int) + natOfDigits p.numeral.exponent) := by
  rw [digitValues_append] at whole ⊢
  have scientific := Json.scientific_eq (n := p.numeral) whole
  rw [show p.numeral.fraction.length = p.fraction.length from length_digitValues digits] at scientific
  unfold Json.Numeral.magnitude?
  simp only [scientific]
  rw [if_neg (Nat.not_le.2 exponent)]
  rfl

theorem leading_ge (x : Decimal) : x.exponent ≤ x.leading := by
  have : 0 < (digitChars x.digits).length := List.length_pos_iff.2 Nat.toDigits_ne_nil
  unfold leading
  omega

/-- In positional form the parts have the digits of the decimal that is read. -/
theorem positional_digits (h : x.leading < 16) :
    let fraction := if x.parts.2 = [] then ['0'] else x.parts.2
    natOfDigits (digitValues (x.parts.1 ++ fraction)) = x.asRead.digits ∧
      -(fraction.length : Int) = x.asRead.exponent := by
  have digits : natOfDigits (digitValues (digitChars x.digits)) = x.digits :=
    natOfDigits_toDigits x.digits
  by_cases whole : 0 ≤ x.exponent
  · have parts : x.parts = (digitChars x.digits ++ zeros x.exponent.toNat, []) := if_pos whole
    have read : x.asRead = ⟨x.digits * 10 ^ (x.exponent.toNat + 1), -1⟩ := if_pos ⟨whole, h⟩
    rw [parts, read]
    refine ⟨?_, rfl⟩
    have all : zeros x.exponent.toNat ++ ['0'] = zeros (x.exponent.toNat + 1) :=
      List.replicate_succ'.symm
    simp only [if_true]
    rw [List.append_assoc, all, natOfDigits_append_zeros, digits]
  · have read : x.asRead = x := if_neg (not_and_of_not_left _ whole)
    rw [read]
    unfold parts
    simp only [if_neg whole]
    split
    · rename_i short
      have some : (digitChars x.digits).drop ((digitChars x.digits).length - (-x.exponent).toNat) ≠
          [] := by
        rw [← List.length_pos_iff, List.length_drop]
        omega
      simp only [if_neg some, List.take_append_drop, digits, List.length_drop]
      exact ⟨trivial, by omega⟩
    · rename_i long
      have some : zeros ((-x.exponent).toNat - (digitChars x.digits).length) ++ digitChars x.digits ≠
          [] := List.append_ne_nil_of_right_ne_nil _ Nat.toDigits_ne_nil
      have before := natOfDigits_zeros_append
        ((-x.exponent).toNat - (digitChars x.digits).length + 1) (digitChars x.digits)
      simp only [if_neg some]
      refine ⟨?_, ?_⟩
      · exact before.trans digits
      · rw [List.length_append, zeros, List.length_replicate]
        omega

/-- So has the scientific form, with the exponent of the first digit. -/
theorem scientific_exponent (x : Decimal) :
    (if decide (x.leading < 0) then -(((digitChars x.digits).drop 1).length : Int) - x.leading.natAbs
      else -(((digitChars x.digits).drop 1).length : Int) + x.leading.natAbs) = x.exponent := by
  have : 0 < (digitChars x.digits).length := List.length_pos_iff.2 Nat.toDigits_ne_nil
  have leading : x.leading = x.exponent + (digitChars x.digits).length - 1 := rfl
  rw [List.length_drop]
  by_cases below : x.leading < 0
  · rw [if_pos (decide_eq_true below)]
    omega
  · rw [if_neg (by simp [below])]
    omega

theorem Fits.length_le (fits : x.Fits) : (digitChars x.digits).length ≤ 20 := by
  rcases Nat.eq_zero_or_pos x.digits with zero | some
  · rw [zero]
    decide
  · exact length_le_of_lt some (Nat.lt_trans fits.digits (by decide))

theorem positional_magnitude? (h : -5 ≤ x.leading ∧ x.leading < 16) (some : 0 < x.digits)
    (fits : x.asRead.Fits) :
    (x.wireParts negative).numeral.magnitude? = Json.scale? x.asRead.digits x.asRead.exponent := by
  have form : x.wireParts negative =
      ⟨negative, x.parts.1, if x.parts.2 = [] then ['0'] else x.parts.2, none⟩ := if_pos h
  have valid := wireParts_valid some negative
  obtain ⟨digits, exponent⟩ := positional_digits h.2
  rw [form] at valid ⊢
  rw [magnitude?_of_parts valid.fraction (digits ▸ fits.digits) (show 0 < 1 <<< 31 by decide)]
  simp only [digits]
  congr 1
  rw [← exponent]
  exact Int.add_zero _

theorem scientific_magnitude? (h : ¬ (-5 ≤ x.leading ∧ x.leading < 16)) (some : 0 < x.digits)
    (fits : x.asRead.Fits) :
    (x.wireParts negative).numeral.magnitude? = Json.scale? x.asRead.digits x.asRead.exponent := by
  have form : x.wireParts negative = ⟨negative, (digitChars x.digits).take 1,
      (digitChars x.digits).drop 1, .some (decide (x.leading < 0), digitChars x.leading.natAbs)⟩ :=
    if_neg h
  have valid := wireParts_valid some negative
  -- A whole number below `10 ^ 16` would be positional, so no zero is read after the point.
  have read : x.asRead = x := by
    refine if_neg fun whole => h ⟨?_, whole.2⟩
    have := x.leading_ge
    omega
  rw [read] at fits ⊢
  have digits : natOfDigits (digitValues ((digitChars x.digits).take 1 ++
      (digitChars x.digits).drop 1)) = x.digits := by
    rw [List.take_append_drop]
    exact natOfDigits_toDigits x.digits
  have exponent : natOfDigits (digitValues (digitChars x.leading.natAbs)) = x.leading.natAbs :=
    natOfDigits_toDigits _
  have inRange : x.leading.natAbs < 1 <<< 31 := by
    have length := fits.length_le
    have near := fits.exponent
    have leading : x.leading = x.exponent + (digitChars x.digits).length - 1 := rfl
    rw [show (1 : Nat) <<< 31 = 2147483648 from rfl]
    omega
  rw [form] at valid ⊢
  rw [magnitude?_of_parts valid.fraction (digits.symm ▸ fits.digits) (exponent.symm ▸ inRange)]
  simp only [digits]
  congr 1
  change (if decide (x.leading < 0) then -(((digitChars x.digits).drop 1).length : Int) -
      natOfDigits (digitValues (digitChars x.leading.natAbs))
    else -(((digitChars x.digits).drop 1).length : Int) +
      natOfDigits (digitValues (digitChars x.leading.natAbs))) = _
  rw [exponent]
  exact scientific_exponent x

theorem wireParts_magnitude? (some : 0 < x.digits) (fits : x.asRead.Fits) :
    (x.wireParts negative).numeral.magnitude? = Json.scale? x.asRead.digits x.asRead.exponent := by
  by_cases h : -5 ≤ x.leading ∧ x.leading < 16
  · exact positional_magnitude? h some fits
  · exact scientific_magnitude? h some fits

end Decimal

namespace Binary64

/-- A finite double that is zero or is read from a short decimal. -/
def Short : Binary64 → Prop
  | finite _ m => m.isZero = false → (Decimal.shortest .even m).asRead.Short
  | _ => False

instance : (x : Binary64) → Decidable x.Short
  | finite _ m => inferInstanceAs (Decidable (m.isZero = false → _))
  | infinite _ => inferInstanceAs (Decidable False)
  | nan => inferInstanceAs (Decidable False)

theorem reread?_eq_map (s : Bool) (m : Magnitude) :
    (finite s m).reread? = (m.wireParts s).numeral.magnitude?.map (finite s) := by
  rw [Json.reread?_eq, Json.doubleTree, Json.Tree.asDouble, m.wireParts_quantity?]
  cases (m.wireParts s).numeral.magnitude? <;> rfl

theorem reread?_zero {m : Magnitude} (s : Bool) (h : m.isZero = true) :
    (finite s m).reread? = some (finite s m) := by
  rw [reread?_eq_map, Magnitude.eq_zero h]
  cases s <;> decide +kernel

/-- What is read of any other magnitude is its shortest decimal, scaled. -/
theorem reread?_of_fits {m : Magnitude} (s : Bool) (h : m.isZero = false)
    (fits : (Decimal.shortest .even m).asRead.Fits) :
    (finite s m).reread? = (Json.scale? (Decimal.shortest .even m).asRead.digits
      (Decimal.shortest .even m).asRead.exponent).map (finite s) := by
  rw [reread?_eq_map, Magnitude.wireParts, if_neg (by simp [h]),
    Decimal.wireParts_magnitude? (Decimal.shortest_pos .even h) fits]

/-- **A short double is read back as itself.** -/
theorem reread_of_short {x : Binary64} (h : x.Short) : x.reread? = some x := by
  match x, h with
  | finite s m, h =>
    cases zero : m.isZero with
    | true => exact reread?_zero s zero
    | false =>
      have short := h zero
      have near := short.2
      rw [reread?_of_fits s zero short.fits,
        Json.scale?_eq (Decimal.asRead_pos (Decimal.shortest_pos .even zero)) short.1 (by omega)
          (by omega) (Decimal.asRead_within (Decimal.shortest_within .even zero))]
      rfl

end Binary64

namespace Snapshot

theorem rereads_of_short {s : Snapshot}
    (h : ∀ name x, s.gauges.get? name = some x → x.Short) : s.Rereads :=
  fun name x get => Binary64.reread_of_short (h name x get)

end Snapshot

end Telemetry
