/-
Values are read back from their own text.

A gauge's text has its shortest digits in positional form, hundreds of them if need be, and a
reader gathers them all before it rounds once. So what is read is the decimal that was
written (`parts_value`), and the decimal rounds to the gauge (`magnitudeOfDecimal_eq`): unlike
on the wire, every finite gauge comes back, with the sign of a zero. A counter's
text has all its digits. White space around a text does not count (`parse_text`).
-/
import Telemetry.Metric.Sample
import Telemetry.Proofs.Json.Doubles
import Telemetry.Proofs.Merge
import Telemetry.Proofs.Text.Blank

namespace Telemetry

/-- No digit is taken for something else. -/
theorem digit_apart {c : Char} (h : (digit? c).isSome = true) :
    c ≠ '-' ∧ c ≠ '+' ∧ c ≠ '.' ∧ c.toLower ≠ 'n' ∧ c.toLower ≠ 'i' ∧ Text.isBlank c = false := by
  have table : ∀ k < 58, (digit? (Char.ofNat k)).isSome = true → Char.ofNat k ≠ '-' ∧
      Char.ofNat k ≠ '+' ∧ Char.ofNat k ≠ '.' ∧ (Char.ofNat k).toLower ≠ 'n' ∧
      (Char.ofNat k).toLower ≠ 'i' ∧ Text.isBlank (Char.ofNat k) = false := by decide
  have small : c.toNat < 58 := by
    unfold digit? at h
    split at h
    · rename_i digit
      exact Nat.lt_succ_of_le (UInt32.le_iff_toNat_le.1 digit.2)
    · cases h
  have row := table c.toNat small
  rw [Char.ofNat_toNat] at row
  exact row h

theorem takeDigits_append {ds : List Char} (digits : AllDigits ds) {rest : List Char}
    (stop : ∀ c ∈ rest.head?, digit? c = none) : takeDigits (ds ++ rest) = (digitValues ds, rest) := by
  induction ds with
  | nil =>
    cases rest with
    | nil => rfl
    | cons c cs => simp [takeDigits, stop c rfl, digitValues]
  | cons c cs ih =>
    obtain ⟨d, digit⟩ := Option.isSome_iff_exists.1 (digits c List.mem_cons_self)
    rw [List.cons_append, takeDigits, digit]
    simp only [ih digits.of_cons]
    simp [digitValues, digit]

/-- Digits are gathered as long as the number that they make is within the limit. -/
theorem readDigits_eq {limit : Nat} {excess : IntegerFault} {cs : List Char} (digits : AllDigits cs)
    {n : Nat} (fits : (digitValues cs).foldl (fun n d => n * 10 + d) n ≤ limit) :
    readDigits limit excess cs n = .ok ((digitValues cs).foldl (fun n d => n * 10 + d) n) := by
  induction cs generalizing n with
  | nil => rfl
  | cons c rest ih =>
    obtain ⟨d, digit⟩ := Option.isSome_iff_exists.1 (digits c List.mem_cons_self)
    have all : digitValues (c :: rest) = d :: digitValues rest := by simp [digitValues, digit]
    rw [all, List.foldl_cons] at fits ⊢
    have first : ¬ limit < n * 10 + d :=
      Nat.not_lt.2 (Nat.le_trans (le_foldl_digits _ _) fits)
    simp only [readDigits, digit, if_neg first]
    exact ih digits.of_cons fits

theorem readSome_toDigits {limit n : Nat} {excess : IntegerFault} (fits : n ≤ limit) :
    readSome limit excess (Nat.toDigits 10 n) = .ok n := by
  have value : (digitValues (Nat.toDigits 10 n)).foldl (fun n d => n * 10 + d) 0 = n :=
    natOfDigits_toDigits n
  have read : readDigits limit excess (Nat.toDigits 10 n) 0 = .ok _ :=
    readDigits_eq (allDigits_toDigits n) (by rw [value]; exact fits)
  rw [value] at read
  have some : Nat.toDigits 10 n ≠ [] := Nat.toDigits_ne_nil
  unfold readSome
  split
  · exact absurd ‹_› some
  · exact read

/-- **A counter is read back from its digits.** -/
theorem int64OfChars_toString (d : Int64) : int64OfChars (toString d.toInt).toList = .ok d := by
  have low : -9223372036854775808 ≤ d.toInt := Int64.le_toInt d
  have high : d.toInt < 9223372036854775808 := Int64.toInt_lt d
  have exactly : Int64.ofInt d.toInt = d := Int64.ofInt_toInt d
  rw [Int.toString_eq_repr]
  cases total : d.toInt with
  | ofNat n =>
    rw [total] at high exactly
    have fits : n ≤ 1 <<< 63 - 1 := by
      rw [show (1 : Nat) <<< 63 - 1 = 9223372036854775807 from rfl]
      simp only [Int.ofNat_eq_natCast] at high
      omega
    have read : readSome (1 <<< 63 - 1) .tooLarge (Nat.toDigits 10 n) = .ok n := readSome_toDigits fits
    rw [Int.repr, Nat.toList_repr]
    obtain ⟨c, rest, digits⟩ := List.exists_cons_of_ne_nil (Nat.toDigits_ne_nil (b := 10) (n := n))
    obtain ⟨minus, plus, -⟩ := digit_apart (allDigits_toDigits n c (by simp [digits]))
    rw [digits] at read ⊢
    unfold int64OfChars
    split
    · rename_i eq
      cases eq
    · rename_i eq
      exact absurd (List.cons.inj eq).1 minus
    · rename_i eq
      exact absurd (List.cons.inj eq).1 plus
    · rw [read]
      exact congrArg Except.ok exactly
  | negSucc n =>
    rw [total] at low exactly
    have fits : n + 1 ≤ 1 <<< 63 := by
      rw [show (1 : Nat) <<< 63 = 9223372036854775808 from rfl]
      omega
    have read : readSome (1 <<< 63) .tooSmall (Nat.toDigits 10 (n + 1)) = .ok (n + 1) :=
      readSome_toDigits fits
    rw [Int.repr, String.toList_append, Nat.toList_repr]
    show (readSome (1 <<< 63) .tooSmall (Nat.toDigits 10 (n + 1))).map
      (fun n => Int64.ofInt (-(n : Int))) = .ok d
    rw [read]
    exact congrArg Except.ok exactly

/-! ## Decimals -/

namespace Decimal

variable {m : Magnitude} {n : Nat} {e : Int}

/-- A decimal of some hundred places is rounded once. -/
theorem magnitudeOfDecimal_eq (pos : 0 < n) (near : within m.neighbourhood e n = true)
    (low : -400 ≤ e + length n) (high : e + length n ≤ 400) : magnitudeOfDecimal n e = some m := by
  have places : ((Nat.toDigits 10 n).length : Int) = length n := rfl
  unfold magnitudeOfDecimal
  simp only [places, Nat.pow_eq]
  rw [if_neg (by omega), if_neg (by omega), if_neg (by omega)]
  split
  · rename_i whole
    have none : (-e).toNat = 0 := Int.toNat_of_nonpos (Int.neg_nonpos_of_nonneg whole)
    rw [Magnitude.ofNat?, Magnitude.ofRatio?]
    refine round?_of_within Nat.one_pos ?_ near
    rw [shiftLeft_one, unit_eq, none, one_shiftLeft_1076]
    simp only [Nat.pow_zero]
    generalize 1 <<< 1074 = w
    ac_rfl
  · rename_i broken
    have none : e.toNat = 0 := Int.toNat_of_nonpos (Int.le_of_lt (Int.not_le.1 broken))
    rw [Magnitude.ofRatio?]
    refine round?_of_within (Nat.pow_pos (by decide)) ?_ near
    rw [shiftLeft_one, unit_eq, none, one_shiftLeft_1076]
    simp only [Nat.pow_zero, Nat.one_mul]
    generalize 1 <<< 1074 = w
    ac_rfl

/-- In positional form a decimal has its own digits, and zeros. -/
theorem parts_value (x : Decimal) :
    natOfDigits (digitValues (x.parts.1 ++ x.parts.2)) = x.digits * 10 ^ x.exponent.toNat ∧
      x.parts.2.length = (-x.exponent).toNat := by
  have digits : natOfDigits (digitValues (digitChars x.digits)) = x.digits :=
    natOfDigits_toDigits x.digits
  unfold parts
  simp only
  split
  · rename_i whole
    rw [List.append_nil, natOfDigits_append_zeros, digits, show (-x.exponent).toNat = 0 by omega]
    exact ⟨rfl, rfl⟩
  · rename_i broken
    rw [show x.exponent.toNat = 0 by omega, Nat.pow_zero, Nat.mul_one]
    split
    · rename_i short
      rw [List.take_append_drop, digits, List.length_drop]
      exact ⟨rfl, by omega⟩
    · rename_i long
      have zeros_cons : ['0'] ++ (zeros ((-x.exponent).toNat - (digitChars x.digits).length) ++
          digitChars x.digits) = zeros ((-x.exponent).toNat - (digitChars x.digits).length + 1) ++
            digitChars x.digits := rfl
      rw [zeros_cons, natOfDigits_zeros_append, digits, List.length_append, zeros,
        List.length_replicate]
      exact ⟨rfl, by omega⟩

/-- What is read of the shortest decimal of a magnitude is the magnitude. -/
theorem magnitudeOfDecimal_shortest (tie : Tie) (zero : m.isZero = false) :
    magnitudeOfDecimal ((shortest tie m).digits * 10 ^ (shortest tie m).exponent.toNat)
      (-((-(shortest tie m).exponent).toNat : Int)) = some m := by
  have near := shortest_within tie zero
  have some := shortest_pos tie zero
  have few := shortest_digits_le tie zero
  have least := shortest_exponent_ge tie zero
  generalize shortest tie m = x at *
  rcases Int.lt_or_le x.exponent 0 with below | above
  · rw [show x.exponent.toNat = 0 by omega, Nat.pow_zero, Nat.mul_one,
      show -((-x.exponent).toNat : Int) = x.exponent by omega]
    have places : length x.digits ≤ 18 :=
      length_le_of_lt some (Nat.lt_of_le_of_lt few (by decide))
    exact magnitudeOfDecimal_eq some near (by omega) (by omega)
  · have value : x.digits * 10 ^ x.exponent.toNat < 10 ^ 309 :=
      Nat.lt_of_le_of_lt (value_le near above m.high_le_pow) Magnitude.two_pow_lt
    have pos : 0 < x.digits * 10 ^ x.exponent.toNat := Nat.mul_pos some (Nat.pow_pos (by decide))
    have places := length_le_of_lt pos value
    have near : within m.neighbourhood 0 (x.digits * 10 ^ x.exponent.toNat) = true := by
      refine (within_add x.exponent.toNat).1 ?_
      rw [show 0 + (x.exponent.toNat : Int) = x.exponent by omega]
      exact near
    rw [show -((-x.exponent).toNat : Int) = 0 by omega]
    exact magnitudeOfDecimal_eq pos near (by omega) (by omega)

end Decimal

/-! ## Gauges -/

/-- Digits around a point are all gathered, and the places behind it counted. -/
theorem magnitudeOfChars_eq {whole fraction : List Char} (digits : AllDigits whole)
    (digits' : AllDigits fraction) (some : whole ≠ []) :
    magnitudeOfChars (whole ++ Json.Parts.fractionChars fraction) =
      .some (magnitudeOfDecimal (natOfDigits (digitValues (whole ++ fraction))) (-(fraction.length : Int))) := by
  have stop : ∀ c ∈ (Json.Parts.fractionChars fraction).head?, digit? c = none := by
    intro c head
    cases fraction with
    | nil => cases head
    | cons d ds =>
      obtain rfl := Option.some.inj head
      rfl
  have nonempty := digitValues_ne_nil digits some
  have behind : takeDigits (fraction ++ []) = (digitValues fraction, []) :=
    takeDigits_append digits' (by simp)
  rw [List.append_nil] at behind
  unfold magnitudeOfChars
  rw [takeDigits_append digits stop, digitValues_append, ← length_digitValues digits']
  cases fraction with
  | nil =>
    have none : digitValues [] = [] := rfl
    simp [Json.Parts.fractionChars, nonempty, exponentPart, none]
  | cons d ds => simp [Json.Parts.fractionChars, nonempty, exponentPart, behind]

namespace Magnitude

variable (m : Magnitude)

/-- A magnitude in positional form: digits, and digits behind a point if there are any. -/
theorem plainChars_parts : ∃ whole fraction, m.plainChars = whole ++ Json.Parts.fractionChars fraction ∧
    AllDigits whole ∧ AllDigits fraction ∧ whole ≠ [] ∧
    magnitudeOfDecimal (natOfDigits (digitValues (whole ++ fraction))) (-(fraction.length : Int)) =
      some m := by
  unfold plainChars
  cases zero : m.isZero with
  | true =>
    rw [eq_zero zero]
    exact ⟨['0'], [], rfl, allDigits_zeros 1, (fun _ mem => nomatch mem), by simp, rfl⟩
  | false =>
    have some := Decimal.shortest_pos .up zero
    have read := Decimal.magnitudeOfDecimal_shortest .up zero
    obtain ⟨whole, fraction⟩ := Decimal.parts_valid some
    obtain ⟨digits, places⟩ := Decimal.parts_value (Decimal.shortest .up m)
    refine ⟨_, _, ?_, whole.allDigits, fraction, whole.ne_nil, by rw [digits, places, read]⟩
    simp only [Bool.false_eq_true, if_false, Decimal.plainChars]
    cases (Decimal.shortest .up m).parts with
    | mk whole fraction =>
      cases fraction with
      | nil => exact (List.append_nil whole).symm
      | cons d ds => rfl

theorem magnitudeOfChars_plainChars : magnitudeOfChars m.plainChars = some (some m) := by
  obtain ⟨whole, fraction, chars, digits, digits', nonempty, value⟩ := m.plainChars_parts
  rw [chars, magnitudeOfChars_eq digits digits' nonempty, value]

theorem plainChars_head : ∃ c rest, m.plainChars = c :: rest ∧ (digit? c).isSome = true := by
  obtain ⟨whole, fraction, chars, digits, -, nonempty, -⟩ := m.plainChars_parts
  obtain ⟨c, rest, rfl⟩ := List.exists_cons_of_ne_nil nonempty
  exact ⟨c, rest ++ Json.Parts.fractionChars fraction, chars, digits c List.mem_cons_self⟩

theorem not_blank_plainChars {c : Char} (mem : c ∈ m.plainChars) : Text.isBlank c = false := by
  obtain ⟨whole, fraction, chars, digits, digits', -, -⟩ := m.plainChars_parts
  have solid {cs : List Char} (digits : AllDigits cs) (mem : c ∈ cs) : Text.isBlank c = false :=
    (digit_apart (digits c mem)).2.2.2.2.2
  rw [chars] at mem
  rcases List.mem_append.1 mem with mem | mem
  · exact solid digits mem
  · cases fraction with
    | nil => cases mem
    | cons d ds =>
      rcases List.mem_cons.1 mem with rfl | mem
      · decide
      · exact solid digits' mem

/-- It begins with a digit, so it is no name of an infinity, nor of not-a-number. -/
theorem unsignedOfChars_plainChars (negative : Bool) :
    unsignedOfChars negative m.plainChars = .ok (.finite negative m) := by
  obtain ⟨c, rest, chars, digit⟩ := m.plainChars_head
  obtain ⟨-, -, -, notN, notI, -⟩ := digit_apart digit
  have lower : lowered m.plainChars = c.toLower :: lowered rest := by rw [chars]; rfl
  unfold unsignedOfChars
  rw [lower, magnitudeOfChars_plainChars]
  simp [notN, notI, Binary64.ofMagnitude?]

end Magnitude

/-- **Every finite double is read back from its positional form**, with the sign of a zero. -/
theorem float64OfChars_plain {x : Binary64} (finite : x.isFinite = true) :
    float64OfChars x.plain.toList = .ok x := by
  match x, finite with
  | .finite true m, _ =>
    rw [Binary64.plain, String.toList_ofList]
    exact m.unsignedOfChars_plainChars true
  | .finite false m, _ =>
    rw [Binary64.plain, String.toList_ofList, show Binary64.chars Magnitude.plainChars (.finite false m) =
      m.plainChars from rfl, ← m.unsignedOfChars_plainChars false]
    obtain ⟨c, rest, chars, digit⟩ := m.plainChars_head
    obtain ⟨minus, plus, -⟩ := digit_apart digit
    rw [chars]
    unfold float64OfChars
    split
    · rename_i eq
      cases eq
    · rename_i eq
      exact absurd (List.cons.inj eq).1 minus
    · rename_i eq
      exact absurd (List.cons.inj eq).1 plus
    · rfl

namespace Sample

theorem not_blank_text {x : Sample} (finite : ∀ y, x = .gauge y → y.isFinite = true) :
    ∀ c ∈ x.text.toList, Text.isBlank c = false := by
  intro c mem
  cases x with
  | gauge y =>
    match y, finite y rfl with
    | .finite s m, _ =>
      rw [text, Binary64.plain, String.toList_ofList] at mem
      rcases List.mem_append.1 mem with sign | mem
      · cases s with
        | false => cases sign
        | true =>
          rw [List.mem_singleton.1 sign]
          decide
      · exact m.not_blank_plainChars mem
  | counter d =>
    have solid {n : Nat} (mem : c ∈ Nat.toDigits 10 n) : Text.isBlank c = false :=
      (digit_apart (allDigits_toDigits n c mem)).2.2.2.2.2
    rw [text, Int.toString_eq_repr] at mem
    cases total : d.toInt with
    | ofNat n =>
      rw [total, Int.repr, Nat.toList_repr] at mem
      exact solid mem
    | negSucc n =>
      rw [total, Int.repr, String.toList_append, Nat.toList_repr] at mem
      rcases List.mem_append.1 mem with sign | mem
      · rw [List.mem_singleton.1 sign]
        decide
      · exact solid mem

/-- **A value is read back from its text**, with any blanks around it. -/
theorem parse_text {x : Sample} (finite : ∀ y, x = .gauge y → y.isFinite = true) {before after : String}
    (opens : Text.isBlankText before = true) (closes : Text.isBlankText after = true) :
    parse x.kind (before ++ x.text ++ after) = .ok x := by
  have trimmed : Text.trimChars (before ++ x.text ++ after).toList = x.text.toList := by
    rw [String.toList_append, String.toList_append]
    exact Text.trimChars_surrounded (List.all_eq_true.1 opens) (List.all_eq_true.1 closes)
      (not_blank_text finite)
  unfold parse
  rw [trimmed]
  cases x with
  | gauge y =>
    have whole := finite y rfl
    simp only [kind, text, float64OfChars_plain whole, finiteGauge, whole, if_true]
    rfl
  | counter d => simp only [kind, text, int64OfChars_toString]

end Sample

end Telemetry
