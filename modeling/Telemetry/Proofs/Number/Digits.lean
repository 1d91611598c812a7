/-
Decimal digits, as characters and as numbers.

The digits of a number are read back as the number (`natOfDigits_toDigits`), the first
one is not zero unless the number is (`toDigits_head`), and how many they are says how
large it is (`lt_pow_length`, `pow_length_le`). So no two integers are written alike
(`toString_int_inj`).
-/
import Mathlib.Algebra.Group.Nat.Defs
import Telemetry.Number.Text
import Telemetry.Number.Reading

namespace Telemetry

theorem digit?_digitChar : ∀ {d : Nat}, d < 10 → digit? (Nat.digitChar d) = some d := by
  decide

/-- Nothing but digits. -/
def AllDigits (cs : List Char) : Prop :=
  ∀ c ∈ cs, (digit? c).isSome = true

/-- The numbers that the digits stand for. -/
def digitValues (cs : List Char) : List Nat :=
  cs.filterMap digit?

theorem AllDigits.append {cs ds : List Char} (h : AllDigits cs) (h' : AllDigits ds) :
    AllDigits (cs ++ ds) :=
  fun c mem => (List.mem_append.1 mem).elim (h c) (h' c)

theorem AllDigits.of_cons {c : Char} {cs : List Char} (h : AllDigits (c :: cs)) : AllDigits cs :=
  fun d mem => h d (List.mem_cons_of_mem c mem)

theorem AllDigits.not_mem {c : Char} {cs : List Char} (h : AllDigits cs) (other : digit? c = none) :
    c ∉ cs := by
  intro mem
  have digit := h c mem
  rw [other] at digit
  cases digit

theorem AllDigits.take {cs : List Char} (h : AllDigits cs) (n : Nat) : AllDigits (cs.take n) :=
  fun c mem => h c (List.mem_of_mem_take mem)

theorem AllDigits.drop {cs : List Char} (h : AllDigits cs) (n : Nat) : AllDigits (cs.drop n) :=
  fun c mem => h c (List.mem_of_mem_drop mem)

theorem allDigits_zeros (n : Nat) : AllDigits (Decimal.zeros n) := by
  intro c mem
  rw [List.eq_of_mem_replicate mem]
  rfl

theorem digitValues_append (cs ds : List Char) :
    digitValues (cs ++ ds) = digitValues cs ++ digitValues ds :=
  List.filterMap_append

theorem digitValues_ne_nil {cs : List Char} (h : AllDigits cs) (some : cs ≠ []) :
    digitValues cs ≠ [] := by
  obtain ⟨c, rest, rfl⟩ := List.exists_cons_of_ne_nil some
  obtain ⟨d, digit⟩ := Option.isSome_iff_exists.1 (h c List.mem_cons_self)
  simp [digitValues, digit]

theorem length_digitValues {cs : List Char} (h : AllDigits cs) :
    (digitValues cs).length = cs.length := by
  induction cs with
  | nil => rfl
  | cons c rest ih =>
    obtain ⟨d, digit⟩ := Option.isSome_iff_exists.1 (h c List.mem_cons_self)
    have others := ih h.of_cons
    simp only [digitValues] at others
    simp [digitValues, digit, others]

theorem le_foldl_digits : ∀ (ds : List Nat) (n : Nat), n ≤ ds.foldl (fun n d => n * 10 + d) n
  | [], n => Nat.le_refl n
  | d :: ds, n => Nat.le_trans (by omega) (le_foldl_digits ds (n * 10 + d))

theorem natOfDigits_concat (ds : List Nat) (d : Nat) :
    natOfDigits (ds ++ [d]) = natOfDigits ds * 10 + d := by
  simp [natOfDigits]

/-- Zeros before digits stand for nothing. -/
theorem natOfDigits_zeros_append (n : Nat) (cs : List Char) :
    natOfDigits (digitValues (Decimal.zeros n ++ cs)) = natOfDigits (digitValues cs) := by
  induction n with
  | zero => rfl
  | succ n ih =>
    rw [← ih]
    rfl

/-- Zeros after digits are a power of ten. -/
theorem natOfDigits_append_zeros (cs : List Char) (n : Nat) :
    natOfDigits (digitValues (cs ++ Decimal.zeros n)) = natOfDigits (digitValues cs) * 10 ^ n := by
  induction n with
  | zero => simp [Decimal.zeros]
  | succ n ih =>
    have last : cs ++ Decimal.zeros (n + 1) = cs ++ Decimal.zeros n ++ ['0'] := by
      rw [Decimal.zeros, List.replicate_succ', ← List.append_assoc]
      rfl
    rw [last, digitValues_append, show digitValues ['0'] = [0] from rfl, natOfDigits_concat, ih,
      Nat.pow_succ]
    ac_rfl

/-! ## The digits of a number -/

theorem toDigits_step {n : Nat} (h : 10 ≤ n) :
    Nat.toDigits 10 n = Nat.toDigits 10 (n / 10) ++ [Nat.digitChar (n % 10)] :=
  Nat.toDigits_of_base_le (by decide) h

theorem allDigits_toDigits (n : Nat) : AllDigits (Nat.toDigits 10 n) := by
  induction n using Nat.strongRecOn with
  | ind n ih =>
    have last {d : Nat} (h : d < 10) : AllDigits [Nat.digitChar d] := by
      intro c mem
      rw [List.mem_singleton.1 mem, digit?_digitChar h]
      rfl
    by_cases small : n < 10
    · rw [Nat.toDigits_of_lt_base small]
      exact last small
    · rw [toDigits_step (by omega)]
      exact (ih (n / 10) (by omega)).append (last (by omega))

theorem natOfDigits_toDigits (n : Nat) : natOfDigits (digitValues (Nat.toDigits 10 n)) = n := by
  induction n using Nat.strongRecOn with
  | ind n ih =>
    by_cases small : n < 10
    · rw [Nat.toDigits_of_lt_base small]
      simp [digitValues, digit?_digitChar small, natOfDigits]
    · have last : digitValues [Nat.digitChar (n % 10)] = [n % 10] := by
        simp [digitValues, digit?_digitChar (show n % 10 < 10 by omega)]
      rw [toDigits_step (by omega), digitValues_append, last, natOfDigits_concat,
        ih (n / 10) (by omega)]
      omega

theorem toDigits_head {n : Nat} (pos : 0 < n) :
    ∃ d rest, 0 < d ∧ d < 10 ∧ Nat.toDigits 10 n = Nat.digitChar d :: rest := by
  induction n using Nat.strongRecOn with
  | ind n ih =>
    by_cases small : n < 10
    · exact ⟨n, [], pos, small, Nat.toDigits_of_lt_base small⟩
    · obtain ⟨d, rest, low, high, eq⟩ := ih (n / 10) (by omega) (by omega)
      exact ⟨d, rest ++ [Nat.digitChar (n % 10)], low, high, by
        rw [toDigits_step (by omega), eq, List.cons_append]⟩

theorem length_step {n : Nat} (h : 10 ≤ n) : Decimal.length n = Decimal.length (n / 10) + 1 := by
  rw [Decimal.length, toDigits_step h, List.length_append]
  rfl

theorem length_small {n : Nat} (h : n < 10) : Decimal.length n = 1 := by
  rw [Decimal.length, Nat.toDigits_of_lt_base h]
  rfl

theorem lt_pow_length (n : Nat) : n < 10 ^ Decimal.length n := by
  induction n using Nat.strongRecOn with
  | ind n ih =>
    by_cases small : n < 10
    · rw [length_small small]
      exact small
    · have := ih (n / 10) (by omega)
      rw [length_step (by omega), Nat.pow_succ]
      omega

theorem pow_length_le {n : Nat} (pos : 0 < n) : 10 ^ (Decimal.length n - 1) ≤ n := by
  induction n using Nat.strongRecOn with
  | ind n ih =>
    by_cases small : n < 10
    · rw [length_small small]
      exact pos
    · have := ih (n / 10) (by omega) (by omega)
      obtain ⟨k, eq⟩ : ∃ k, Decimal.length (n / 10) = k + 1 :=
        ⟨_, (Nat.succ_pred_eq_of_pos (List.length_pos_iff.2 Nat.toDigits_ne_nil)).symm⟩
      rw [eq, Nat.add_sub_cancel] at this
      rw [length_step (by omega), eq, Nat.add_sub_cancel, Nat.pow_succ]
      omega

theorem length_le_of_lt {n k : Nat} (pos : 0 < n) (small : n < 10 ^ k) : Decimal.length n ≤ k := by
  have := (Nat.pow_lt_pow_iff_right (by decide)).1 (Nat.lt_of_le_of_lt (pow_length_le pos) small)
  omega

/-! ## Integers -/

theorem not_mem_toString_int {c : Char} (other : digit? c = none) (minus : c ≠ '-') (i : Int) :
    c ∉ (toString i).toList := by
  rw [Int.toString_eq_repr]
  cases i with
  | ofNat n =>
    rw [Int.repr, Nat.toList_repr]
    exact (allDigits_toDigits n).not_mem other
  | negSucc n =>
    rw [Int.repr, String.toList_append, Nat.toList_repr, List.mem_append, not_or]
    exact ⟨by simpa using minus, (allDigits_toDigits _).not_mem other⟩

theorem toString_int_inj {i j : Int} : toString i = toString j ↔ i = j := by
  have digits_inj {m n : Nat} (h : Nat.toDigits 10 m = Nat.toDigits 10 n) : m = n := by
    rw [← natOfDigits_toDigits m, h, natOfDigits_toDigits]
  have minus {m n : Nat} : Nat.toDigits 10 m ≠ '-' :: Nat.toDigits 10 n := by
    intro h
    have digit := allDigits_toDigits m '-' (by rw [h]; exact List.mem_cons_self)
    cases digit
  refine ⟨fun h => ?_, congrArg toString⟩
  rw [Int.toString_eq_repr, Int.toString_eq_repr, ← String.toList_inj] at h
  cases i with
  | ofNat m =>
    cases j with
    | ofNat n =>
      rw [Int.repr, Int.repr, Nat.toList_repr, Nat.toList_repr] at h
      rw [digits_inj h]
    | negSucc n =>
      rw [Int.repr, Int.repr, String.toList_append, Nat.toList_repr, Nat.toList_repr] at h
      exact absurd h minus
  | negSucc m =>
    cases j with
    | ofNat n =>
      rw [Int.repr, Int.repr, String.toList_append, Nat.toList_repr, Nat.toList_repr] at h
      exact absurd h.symm minus
    | negSucc n =>
      rw [Int.repr, Int.repr, String.toList_append, String.toList_append, Nat.toList_repr,
        Nat.toList_repr] at h
      rw [Nat.succ.inj (digits_inj (List.append_cancel_left h))]

end Telemetry
