/-
A text is read back from its bytes.

The bytes of a character bring a reader that stands between two characters to the
same place behind the character (`foldl_step_char`), so the units of an encoded text
are its characters.
-/
import Telemetry.Text.Utf8

namespace Telemetry.Text.Utf8

theorem first_one (us : List (Option Char)) {b : Nat} (h : b < 0x80) :
    Reader.first us b = ⟨some (Char.ofNat b) :: us, none⟩ := by
  rw [Reader.first, if_pos h]

theorem first_two (us : List (Option Char)) {b : Nat} (h : 0xC2 ≤ b ∧ b ≤ 0xDF) :
    Reader.first us b = ⟨us, some ⟨1, 0x80, 0xBF, b - 0xC0, 1⟩⟩ := by
  rw [Reader.first, if_neg (by omega), if_pos h]

/-- The second byte is bounded so that no shorter form and no surrogate is spelled. -/
theorem first_three (us : List (Option Char)) {b : Nat} (h : 0xE0 ≤ b ∧ b ≤ 0xEF) :
    Reader.first us b =
      ⟨us, some ⟨2, if b = 0xE0 then 0xA0 else 0x80, if b = 0xED then 0x9F else 0xBF,
        b - 0xE0, 1⟩⟩ := by
  rw [Reader.first, if_neg (by omega), if_neg (by omega)]
  by_cases low : b = 0xE0
  · subst low
    rfl
  · by_cases high : b = 0xED
    · subst high
      rfl
    · simp [low, high, show 0xE1 ≤ b ∧ b ≤ 0xEF by omega]

theorem first_four (us : List (Option Char)) {b : Nat} (h : 0xF0 ≤ b ∧ b ≤ 0xF4) :
    Reader.first us b =
      ⟨us, some ⟨3, if b = 0xF0 then 0x90 else 0x80, if b = 0xF4 then 0x8F else 0xBF,
        b - 0xF0, 1⟩⟩ := by
  rw [Reader.first, if_neg (by omega), if_neg (by omega), if_neg (by omega), if_neg (by omega),
    if_neg (by omega)]
  by_cases low : b = 0xF0
  · subst low
    rfl
  · by_cases high : b = 0xF4
    · subst high
      rfl
    · simp [low, high, show 0xF1 ≤ b ∧ b ≤ 0xF3 by omega]

theorem step_none (us : List (Option Char)) {n : Nat} (h : n < 256) :
    Reader.step ⟨us, none⟩ (UInt8.ofNat n) = Reader.first us n := by
  rw [Reader.step, UInt8.toNat_ofNat', Nat.mod_eq_of_lt h]

theorem step_last {us : List (Option Char)} {low high code taken n : Nat} (h : n < 256)
    (inRange : low ≤ n ∧ n ≤ high) :
    Reader.step ⟨us, some ⟨1, low, high, code, taken⟩⟩ (UInt8.ofNat n) =
      ⟨some (Char.ofNat (code * 64 + (n - 0x80))) :: us, none⟩ := by
  simp only [Reader.step, UInt8.toNat_ofNat', Nat.mod_eq_of_lt h, inRange, and_self, if_true]

/-- A byte of a character that is owed more. -/
theorem step_more {us : List (Option Char)} (owed : Nat) {low high code taken n : Nat} (h : n < 256)
    (inRange : low ≤ n ∧ n ≤ high) :
    Reader.step ⟨us, some ⟨owed + 2, low, high, code, taken⟩⟩ (UInt8.ofNat n) =
      ⟨us, some ⟨owed + 1, 0x80, 0xBF, code * 64 + (n - 0x80), taken + 1⟩⟩ := by
  simp only [Reader.step, UInt8.toNat_ofNat', Nat.mod_eq_of_lt h, inRange, and_self, if_true]
  rfl

/-! ## Characters -/

theorem foldl_step_char (us : List (Option Char)) (c : Char) :
    (String.utf8EncodeChar c).foldl Reader.step ⟨us, none⟩ = ⟨some c :: us, none⟩ := by
  have valid : c.val.toNat < 0xD800 ∨ 0xDFFF < c.val.toNat ∧ c.val.toNat < 0x110000 := c.valid
  have same : Char.ofNat c.val.toNat = c := Char.ofNat_toNat c
  unfold String.utf8EncodeChar
  simp only
  generalize c.val.toNat = v at valid same ⊢
  split
  · rw [List.foldl_cons, List.foldl_nil, step_none us (by omega), first_one us (by omega), same]
  · split
    · rw [List.foldl_cons, List.foldl_cons, List.foldl_nil, step_none us (by omega),
        first_two us (by omega), step_last (by omega) (by omega)]
      rw [show (v / 64 % 0x20 + 0xc0 - 0xC0) * 64 + (v % 0x40 + 0x80 - 0x80) = v by omega, same]
    · split
      · rw [List.foldl_cons, List.foldl_cons, List.foldl_cons, List.foldl_nil,
          step_none us (by omega), first_three us (by omega),
          step_more 0 (by omega) (by split <;> split <;> omega),
          step_last (by omega) (by omega)]
        rw [show ((v / 4096 % 0x10 + 0xe0 - 0xE0) * 64 + (v / 64 % 0x40 + 0x80 - 0x80)) * 64 +
          (v % 0x40 + 0x80 - 0x80) = v by omega, same]
      · rw [List.foldl_cons, List.foldl_cons, List.foldl_cons, List.foldl_cons, List.foldl_nil,
          step_none us (by omega), first_four us (by omega),
          step_more 1 (by omega) (by split <;> split <;> omega),
          step_more 0 (by omega) (by omega), step_last (by omega) (by omega)]
        rw [show (((v / 262144 % 0x08 + 0xf0 - 0xF0) * 64 + (v / 4096 % 0x40 + 0x80 - 0x80)) * 64 +
          (v / 64 % 0x40 + 0x80 - 0x80)) * 64 + (v % 0x40 + 0x80 - 0x80) = v by omega, same]

theorem foldl_step_encodeChars (cs : List Char) (us : List (Option Char)) :
    (encodeChars cs).foldl Reader.step ⟨us, none⟩ = ⟨(cs.map some).reverse ++ us, none⟩ := by
  induction cs generalizing us with
  | nil => rfl
  | cons c rest ih =>
    rw [encodeChars, List.flatMap_cons, List.foldl_append, foldl_step_char, ← encodeChars, ih]
    simp

/-- **A text is read back from its bytes.** -/
theorem units_encodeChars (cs : List Char) : units (encodeChars cs) = cs.map some := by
  simp [units, foldl_step_encodeChars, Reader.finish]

theorem units_encode (s : String) : units (encode s) = s.toList.map some :=
  units_encodeChars s.toList

theorem encode_inj {s t : String} (h : encode s = encode t) : s = t := by
  have units := units_encode s
  rw [h, units_encode] at units
  exact String.toList_inj.1 ((List.map_inj_right fun _ _ => Option.some.inj).1 units).symm

end Telemetry.Text.Utf8
