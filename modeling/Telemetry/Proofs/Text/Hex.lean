/-
Which texts spell some bytes in hexadecimal.

They are the digits of the bytes in lower case, and whatever differs from these in
nothing but its case (`decode?_eq_some_iff`). No digit is a blank, so trimming leaves
the text as it is (`trimChars_encodeChars`).
-/
import Telemetry.Proofs.Text.Blank
import Telemetry.Text.Hex

namespace Telemetry.Text

namespace Hex

theorem isBlank_digit : ∀ {n : Nat}, n < 16 → isBlank (digit n) = false := by
  decide

theorem trimChars_encodeChars (bytes : Bytes) : trimChars (encodeChars bytes) = encodeChars bytes := by
  refine trimChars_of_no_blank fun c mem => ?_
  obtain ⟨b, -, mem⟩ := List.mem_flatMap.1 mem
  have small := b.toNat_lt
  simp only [List.mem_cons, List.not_mem_nil, or_false] at mem
  rcases mem with rfl | rfl
  · exact isBlank_digit (by omega)
  · exact isBlank_digit (by omega)

theorem toLower_of_not_ascii {c : Char} (h : 128 ≤ c.toNat) : c.toLower = c := by
  unfold Char.toLower
  split
  · rename_i upper
    have high : c.toNat ≤ 90 := UInt32.le_iff_toNat_le.1 upper.2
    omega
  · rfl

theorem value?_eq_some_iff {c : Char} {n : Nat} :
    value? c = some n ↔ n < 16 ∧ c.toLower = digit n := by
  by_cases ascii : c.toNat < 128
  · have bound : ∀ k < 128, (value? (Char.ofNat k)).all (· < 16) = true := by decide
    have table : ∀ k < 128, ∀ n < 16,
      (value? (Char.ofNat k) = some n ↔ (Char.ofNat k).toLower = digit n) := by decide
    have bound := bound c.toNat ascii
    have table := table c.toNat ascii n
    rw [Char.ofNat_toNat] at bound table
    constructor
    · intro read
      have small : n < 16 := by simpa [read] using bound
      exact ⟨small, (table small).1 read⟩
    · rintro ⟨small, lower⟩
      exact (table small).2 lower
  · -- No digit lies beyond ASCII, and no character there has another case.
    have none : value? c = none := by
      have above (d : Char) (h : d.toNat < 128) : ¬ c ≤ d := by
        intro le
        have : c.toNat ≤ d.toNat := UInt32.le_iff_toNat_le.1 le
        omega
      unfold value?
      simp [above]
    rw [none, toLower_of_not_ascii (by omega)]
    constructor
    · intro read
      cases read
    · rintro ⟨small, rfl⟩
      have digits : ∀ n < 16, (digit n).toNat < 128 := by decide
      exact absurd (digits n small) ascii

/-! ## Bytes -/

theorem encodeChars_cons (b : UInt8) (rest : Bytes) :
    encodeChars (b :: rest) = digit (b.toNat / 16) :: digit (b.toNat % 16) :: encodeChars rest := rfl

theorem encodeChars_pair {x y : Nat} (hx : x < 16) (hy : y < 16) (rest : Bytes) :
    encodeChars (UInt8.ofNat (x * 16 + y) :: rest) = digit x :: digit y :: encodeChars rest := by
  have whole : (UInt8.ofNat (x * 16 + y)).toNat = x * 16 + y := by
    rw [UInt8.toNat_ofNat', Nat.mod_eq_of_lt (by omega)]
  rw [encodeChars_cons, whole, show (x * 16 + y) / 16 = x by omega,
    show (x * 16 + y) % 16 = y by omega]

theorem decodeAux_eq_some_iff {out : Bytes} : ∀ {cs : List Char} {read : Bytes},
    decodeAux cs read = some out ↔
      ∃ bytes, cs.map Char.toLower = encodeChars bytes ∧ out = read.reverse ++ bytes
  | [], read => by
    constructor
    · intro h
      exact ⟨[], rfl, by rw [List.append_nil, ← Option.some.inj h]⟩
    · rintro ⟨bytes, spelled, rfl⟩
      cases bytes with
      | nil => rw [decodeAux, List.append_nil]
      | cons b rest => cases spelled
  | [c], read => by
    constructor
    · intro h
      cases h
    · rintro ⟨bytes, spelled, rfl⟩
      cases bytes with
      | nil => cases spelled
      | cons b rest => simp [encodeChars_cons] at spelled
  | a :: b :: rest, read => by
    constructor
    · intro h
      unfold decodeAux at h
      split at h
      · rename_i x y first second
        obtain ⟨bytes, spelled, rfl⟩ := decodeAux_eq_some_iff.1 h
        obtain ⟨smallX, lowerA⟩ := value?_eq_some_iff.1 first
        obtain ⟨smallY, lowerB⟩ := value?_eq_some_iff.1 second
        refine ⟨UInt8.ofNat (x * 16 + y) :: bytes, ?_, by simp⟩
        rw [encodeChars_pair smallX smallY, List.map_cons, List.map_cons, lowerA, lowerB, spelled]
      · cases h
    · rintro ⟨bytes, spelled, rfl⟩
      cases bytes with
      | nil => cases spelled
      | cons byte bytes =>
        have small := byte.toNat_lt
        rw [encodeChars_cons, List.map_cons, List.map_cons] at spelled
        obtain ⟨lowerA, spelled⟩ := List.cons.inj spelled
        obtain ⟨lowerB, spelled⟩ := List.cons.inj spelled
        have first : value? a = some (byte.toNat / 16) := value?_eq_some_iff.2 ⟨by omega, lowerA⟩
        have second : value? b = some (byte.toNat % 16) := value?_eq_some_iff.2 ⟨by omega, lowerB⟩
        have whole : UInt8.ofNat (byte.toNat / 16 * 16 + byte.toNat % 16) = byte := by
          rw [Nat.div_add_mod' byte.toNat 16, UInt8.ofNat_toNat]
        simp only [decodeAux, first, second, whole]
        exact decodeAux_eq_some_iff.2 ⟨bytes, spelled, by simp⟩

/-- **A text spells some bytes exactly when it is their digits, in lower case or upper.** -/
theorem decode?_eq_some_iff {cs : List Char} {bytes : Bytes} :
    decode? cs = some bytes ↔ cs.map Char.toLower = encodeChars bytes := by
  rw [decode?, decodeAux_eq_some_iff]
  constructor
  · rintro ⟨_, spelled, rfl⟩
    exact spelled
  · intro spelled
    exact ⟨bytes, spelled, rfl⟩

theorem lower_encodeChars (bytes : Bytes) :
    (encodeChars bytes).map Char.toLower = encodeChars bytes := by
  induction bytes with
  | nil => rfl
  | cons b rest ih =>
    have small := b.toNat_lt
    have lower : ∀ n < 16, (digit n).toLower = digit n := by decide
    rw [encodeChars_cons, List.map_cons, List.map_cons, ih, lower _ (by omega), lower _ (by omega)]

theorem decode?_encodeChars (bytes : Bytes) : decode? (encodeChars bytes) = some bytes :=
  decode?_eq_some_iff.2 (lower_encodeChars bytes)

theorem encodeChars_inj {bytes bytes' : Bytes} (h : encodeChars bytes = encodeChars bytes') :
    bytes = bytes' := by
  have back := decode?_encodeChars bytes
  rw [h, decode?_encodeChars] at back
  exact (Option.some.inj back).symm

end Hex

end Telemetry.Text
