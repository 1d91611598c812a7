/-
Written doubles are read as numbers.

A finite double is written with its shortest digits, which do not begin with a zero
(`shortest_pos`), in parts that lex as one numeral (`Lexes.double`). What that numeral
stands for is the double's rereading, `Binary64.reread?`. It need not be the double
again: a reader rounds the digits first and their power of ten after that.
-/
import Telemetry.Json.Number
import Telemetry.Proofs.Json.Numerals
import Telemetry.Proofs.Number.Shortest

namespace Telemetry

namespace Decimal

variable {x : Decimal} {negative : Bool}

/-- A decimal in wire form, part by part. -/
def wireParts (x : Decimal) (negative : Bool) : Json.Parts :=
  if -5 ≤ x.leading ∧ x.leading < 16 then
    ⟨negative, x.parts.1, if x.parts.2 = [] then ['0'] else x.parts.2, none⟩
  else
    ⟨negative, (digitChars x.digits).take 1, (digitChars x.digits).drop 1,
      some (decide (x.leading < 0), digitChars x.leading.natAbs)⟩

theorem wireParts_chars (x : Decimal) (negative : Bool) :
    (x.wireParts negative).chars = Binary64.signChars negative ++ x.wireChars := by
  unfold wireParts wireChars
  split
  · unfold pointChars
    cases eq : x.parts with
    | mk whole fraction =>
      cases fraction <;>
        simp [Json.Parts.chars, Json.Parts.fractionChars, Json.Parts.exponentChars]
  · unfold scientificChars
    cases eq : digitChars x.digits with
    | nil => exact absurd eq Nat.toDigits_ne_nil
    | cons d ds =>
      cases ds <;>
        simp [Json.Parts.chars, Json.Parts.fractionChars, Json.Parts.exponentChars, exponentChars]

theorem parts_valid (some : 0 < x.digits) : Json.Parts.IsWhole x.parts.1 ∧ AllDigits x.parts.2 := by
  have digits : AllDigits (digitChars x.digits) := allDigits_toDigits x.digits
  obtain ⟨d, rest, low, high, eq⟩ := toDigits_head some
  unfold parts
  rw [digitChars, eq] at digits ⊢
  simp only
  split
  · -- No digit is behind the point, and zeros may follow the digits.
    refine ⟨?_, fun _ mem => absurd mem List.not_mem_nil⟩
    exact .inr ⟨d, rest ++ zeros x.exponent.toNat, low, high,
      digits.of_cons.append (allDigits_zeros _), List.cons_append⟩
  · split
    · rename_i short
      refine ⟨?_, digits.drop _⟩
      obtain ⟨n, length⟩ : ∃ n, (Nat.digitChar d :: rest).length - (-x.exponent).toNat = n + 1 :=
        ⟨_, (Nat.succ_pred_eq_of_pos (Nat.sub_pos_of_lt short)).symm⟩
      rw [length]
      exact .inr ⟨d, rest.take n, low, high, digits.of_cons.take n, rfl⟩
    · exact ⟨.inl rfl, (allDigits_zeros _).append digits⟩

theorem wireParts_valid (some : 0 < x.digits) (negative : Bool) :
    (x.wireParts negative).Valid := by
  have digits : AllDigits (digitChars x.digits) := allDigits_toDigits x.digits
  obtain ⟨whole, fraction⟩ := parts_valid some
  unfold wireParts
  split
  · refine ⟨whole, ?_, fun _ mem => by cases mem⟩
    simp only
    split
    · exact allDigits_zeros 1
    · exact fraction
  · refine ⟨?_, digits.drop 1, fun e mem => ?_⟩
    · rcases Json.Parts.isWhole_toDigits x.digits with zero | ⟨d, rest, low, high, -, eq⟩
      · exact .inl (by simp [digitChars, zero])
      · exact .inr ⟨d, [], low, high, fun _ mem => absurd mem List.not_mem_nil,
          by simp [digitChars, eq]⟩
    · cases mem
      exact ⟨allDigits_toDigits _, Nat.toDigits_ne_nil⟩

end Decimal

/-- A magnitude in wire form, part by part. -/
def Magnitude.wireParts (m : Magnitude) (negative : Bool) : Json.Parts :=
  if m.isZero then ⟨negative, ['0'], ['0'], none⟩ else (Decimal.shortest .even m).wireParts negative

theorem Magnitude.wireParts_chars (m : Magnitude) (negative : Bool) :
    (m.wireParts negative).chars = Binary64.signChars negative ++ m.wireChars := by
  unfold wireParts wireChars
  split
  · simp [Json.Parts.chars, Json.Parts.fractionChars, Json.Parts.exponentChars]
  · exact Decimal.wireParts_chars _ _

theorem Magnitude.wireParts_valid (m : Magnitude) (negative : Bool) :
    (m.wireParts negative).Valid := by
  unfold wireParts
  split
  · exact ⟨.inl rfl, allDigits_zeros 1, fun _ mem => by cases mem⟩
  · rename_i some
    exact Decimal.wireParts_valid (Decimal.shortest_pos .even (by simpa using some)) negative

/-- A magnitude in wire form has a fraction or an exponent. -/
theorem Magnitude.wireParts_marked (m : Magnitude) (negative : Bool) :
    (m.wireParts negative).fraction ≠ [] ∨ (m.wireParts negative).exponent ≠ none := by
  unfold wireParts
  split
  · exact .inl (by simp)
  · unfold Decimal.wireParts
    split
    · refine .inl ?_
      simp only
      split
      · simp
      · assumption
    · exact .inr (by simp)

/-- So it is read as a double, never as a whole number, and finite if it is in range. -/
theorem Magnitude.wireParts_quantity? (m : Magnitude) (negative : Bool) :
    (m.wireParts negative).numeral.quantity? =
      (m.wireParts negative).numeral.magnitude?.map fun n => .double (.finite negative n) := by
  have valid := m.wireParts_valid negative
  have marked : (m.wireParts negative).numeral.isPlain = false := by
    rcases m.wireParts_marked negative with fraction | exponent
    · simp [Json.Numeral.isPlain, Json.Parts.numeral, digitValues_ne_nil valid.fraction fraction]
    · obtain ⟨e, eq⟩ := Option.ne_none_iff_exists'.1 exponent
      obtain ⟨digits, some⟩ := valid.exponent e eq
      simp [Json.Numeral.isPlain, Json.Parts.numeral, eq, digitValues_ne_nil digits some]
  have sign : (m.wireParts negative).numeral.negative = negative := by
    unfold wireParts Decimal.wireParts Json.Parts.numeral
    split
    · rfl
    · split <;> rfl
  simp [Json.Numeral.quantity?, marked, sign]

/-! ## Rereading -/

/-- What a double is written as: a numeral, or `null` when it is not finite. -/
def Binary64.token : Binary64 → Json.Token
  | .finite s m => .number (m.wireParts s).numeral
  | _ => .null

/-- A double is read as one token, whatever stands around it. -/
theorem Json.Lexes.double (x : Binary64) : Json.Lexes (Json.doubleChars x) [x.token] := by
  cases x with
  | finite s m =>
    have lexes := Json.Parts.lexes (m.wireParts_valid s)
    rw [m.wireParts_chars s] at lexes
    exact lexes
  | infinite s => exact Json.Closes.null.lexes
  | nan => exact Json.Closes.null.lexes

end Telemetry
