/-
Written numbers are read as numbers.

`Parts` is a number as it is written, with the digits of its parts. Valid parts lex
as one token, the numeral that has the same digits (`Parts.lexes`). Every integer and
every finite double is written in valid parts.
-/
import Telemetry.Json.Decode
import Telemetry.Proofs.Json.Lexing
import Telemetry.Proofs.Number.Digits
import Telemetry.Proofs.Outcome

namespace Telemetry.Json

/-- A number as it is written: digits before and after the point, and those of an exponent
with its sign. -/
structure Parts where
  negative : Bool
  whole : List Char
  fraction : List Char
  exponent : Option (Bool × List Char)

namespace Parts

/-- A point and the digits after it; nothing without digits. -/
def fractionChars : List Char → List Char
  | [] => []
  | ds => '.' :: ds

/-- The mark of an exponent, its sign and its digits. -/
def exponentChars : Option (Bool × List Char) → List Char
  | none => []
  | some (negative, ds) => 'e' :: (if negative then '-' else '+') :: ds

/-- The number in characters. -/
def chars (p : Parts) : List Char :=
  Binary64.signChars p.negative ++ p.whole ++ fractionChars p.fraction ++ exponentChars p.exponent

/-- What the number is read as. -/
def numeral (p : Parts) : Numeral where
  negative := p.negative
  whole := digitValues p.whole
  fraction := digitValues p.fraction
  exponentNegative := p.exponent.any (·.1)
  exponent := digitValues ((p.exponent.map (·.2)).getD [])

/-- The digits of a whole number: no zero stands before other digits. -/
def IsWhole (cs : List Char) : Prop :=
  cs = ['0'] ∨ ∃ d rest, 0 < d ∧ d < 10 ∧ AllDigits rest ∧ cs = Nat.digitChar d :: rest

theorem isWhole_toDigits (n : Nat) : IsWhole (Nat.toDigits 10 n) := by
  by_cases zero : n = 0
  · exact .inl (by simp [zero])
  · obtain ⟨d, rest, low, high, eq⟩ := toDigits_head (Nat.pos_of_ne_zero zero)
    have digits := allDigits_toDigits n
    rw [eq] at digits
    exact .inr ⟨d, rest, low, high, digits.of_cons, eq⟩

theorem IsWhole.ne_nil {cs : List Char} (h : IsWhole cs) : cs ≠ [] := by
  rcases h with rfl | ⟨d, rest, -, -, -, rfl⟩ <;> exact List.cons_ne_nil _ _

theorem IsWhole.allDigits {cs : List Char} (h : IsWhole cs) : AllDigits cs := by
  rcases h with rfl | ⟨d, rest, -, high, digits, rfl⟩
  · exact allDigits_zeros 1
  · intro c mem
    rcases List.mem_cons.1 mem with rfl | mem
    · rw [digit?_digitChar high]
      rfl
    · exact digits c mem

/-- A number that may be written so: a mark of an exponent has digits after it. -/
structure Valid (p : Parts) : Prop where
  whole : IsWhole p.whole
  fraction : AllDigits p.fraction
  exponent : ∀ e ∈ p.exponent, AllDigits e.2 ∧ e.2 ≠ []

end Parts

namespace Lexer

/-- Digits in a part of a number that goes on with digits. `grow` is the number with the
digits of that part, the last one first. -/
theorem foldl_digits {ts : List Token} {stage : Stage} (grow : List Nat → Numeral)
    (more : ∀ (ds : List Nat) (c : Char) (d : Nat), digit? c = some d →
      (grow ds).step stage c = .more stage (grow (d :: ds)))
    {cs : List Char} (h : AllDigits cs) (ds : List Nat) :
    (cs.map some).foldl Lexer.step ⟨.number stage (grow ds), ts⟩ =
      ⟨.number stage (grow ((digitValues cs).reverse ++ ds)), ts⟩ := by
  induction cs generalizing ds with
  | nil => rfl
  | cons c rest ih =>
    obtain ⟨d, digit⟩ := Option.isSome_iff_exists.1 (h c List.mem_cons_self)
    have first : Lexer.step ⟨.number stage (grow ds), ts⟩ (some c) =
        ⟨.number stage (grow (d :: ds)), ts⟩ := by
      simp [Lexer.step, more ds c d digit]
    rw [List.map_cons, List.foldl_cons, first, ih h.of_cons]
    simp [digitValues, digit]

/-- A number has begun with the digits before its point. -/
theorem reaches_whole (ts : List Token) {p : Parts} (h : p.Valid) :
    ∃ stage, (stage = .zero ∨ stage = .whole) ∧
      ((Binary64.signChars p.negative ++ p.whole).map some).foldl Lexer.step ⟨.between, ts⟩ =
        ⟨.number stage ⟨p.negative, (digitValues p.whole).reverse, [], false, []⟩, ts⟩ := by
  rcases h.whole with zero | ⟨d, rest, low, high, digits, eq⟩
  · refine ⟨.zero, .inl rfl, ?_⟩
    rw [zero]
    cases p.negative <;> rfl
  · refine ⟨.whole, .inr rfl, ?_⟩
    have begun : ((Binary64.signChars p.negative ++ [Nat.digitChar d]).map some).foldl Lexer.step
        ⟨.between, ts⟩ = ⟨.number .whole ⟨p.negative, [d], [], false, []⟩, ts⟩ := by
      cases p.negative <;> match d, low, high with
        | 1, _, _ | 2, _, _ | 3, _, _ | 4, _, _ | 5, _, _ | 6, _, _ | 7, _, _ | 8, _, _ | 9, _, _ => rfl
    rw [eq, List.append_cons, List.map_append, List.foldl_append, begun,
      foldl_digits (fun ds => ⟨p.negative, ds, [], false, []⟩)
        (fun ds c d digit => by simp [Numeral.step, digit]) digits [d]]
    simp [digitValues, digit?_digitChar high]

theorem reaches_fraction (ts : List Token) {stage : Stage} (begun : stage = .zero ∨ stage = .whole)
    {cs : List Char} (h : AllDigits cs) (negative : Bool) (whole : List Nat) :
    ∃ stage', (stage' = .zero ∨ stage' = .whole ∨ stage' = .fraction) ∧
      ((Parts.fractionChars cs).map some).foldl Lexer.step
          ⟨.number stage ⟨negative, whole, [], false, []⟩, ts⟩ =
        ⟨.number stage' ⟨negative, whole, (digitValues cs).reverse, false, []⟩, ts⟩ := by
  cases cs with
  | nil => exact ⟨stage, begun.imp_right .inl, rfl⟩
  | cons c rest =>
    obtain ⟨d, digit⟩ := Option.isSome_iff_exists.1 (h c List.mem_cons_self)
    refine ⟨.fraction, .inr (.inr rfl), ?_⟩
    have point : Lexer.step ⟨.number stage ⟨negative, whole, [], false, []⟩, ts⟩ (some '.') =
        ⟨.number .point ⟨negative, whole, [], false, []⟩, ts⟩ := by
      rcases begun with rfl | rfl <;> rfl
    have first : Lexer.step ⟨.number .point ⟨negative, whole, [], false, []⟩, ts⟩ (some c) =
        ⟨.number .fraction ⟨negative, whole, [d], false, []⟩, ts⟩ := by
      simp [Lexer.step, Numeral.step, digit]
    simp only [Parts.fractionChars, List.map_cons, List.foldl_cons]
    rw [point, first, foldl_digits (fun ds => ⟨negative, whole, ds, false, []⟩)
      (fun ds c d digit => by simp [Numeral.step, digit]) h.of_cons [d]]
    simp [digitValues, digit]

/-- The mark of an exponent in either case, its sign, which may be left out, and its digits. -/
theorem reaches_power (ts : List Token) {stage : Stage}
    (begun : stage = .zero ∨ stage = .whole ∨ stage = .fraction) {mark : Char} {sign cs : List Char}
    {below : Bool} (marked : mark = 'e' ∨ mark = 'E')
    (signed : (sign = [] ∨ sign = ['+']) ∧ below = false ∨ sign = ['-'] ∧ below = true)
    (h : AllDigits cs) (some : cs ≠ []) (negative : Bool) (whole fraction : List Nat) :
    ((mark :: (sign ++ cs)).map Option.some).foldl Lexer.step
        ⟨.number stage ⟨negative, whole, fraction, false, []⟩, ts⟩ =
      ⟨.number .exponent ⟨negative, whole, fraction, below, (digitValues cs).reverse⟩, ts⟩ := by
  obtain ⟨c, rest, rfl⟩ := List.exists_cons_of_ne_nil some
  obtain ⟨d, digit⟩ := Option.isSome_iff_exists.1 (h c List.mem_cons_self)
  have mark : Lexer.step ⟨.number stage ⟨negative, whole, fraction, false, []⟩, ts⟩ (.some mark) =
      ⟨.number .mark ⟨negative, whole, fraction, false, []⟩, ts⟩ := by
    rcases marked with rfl | rfl <;> rcases begun with rfl | rfl | rfl <;> rfl
  have first : ((sign ++ [c]).map Option.some).foldl Lexer.step
      ⟨.number .mark ⟨negative, whole, fraction, false, []⟩, ts⟩ =
        ⟨.number .exponent ⟨negative, whole, fraction, below, [d]⟩, ts⟩ := by
    rcases signed with ⟨rfl | rfl, rfl⟩ | ⟨rfl, rfl⟩
    · simp [Lexer.step, Numeral.step, digit]
    · simp [Lexer.step, Numeral.step, digit, show digit? '+' = none from rfl]
    · simp [Lexer.step, Numeral.step, digit, show digit? '-' = none from rfl]
  rw [List.map_cons, List.foldl_cons, mark, List.append_cons, List.map_append, List.foldl_append,
    first, foldl_digits (fun ds => ⟨negative, whole, fraction, below, ds⟩)
      (fun ds c d digit => by simp [Numeral.step, digit]) h.of_cons [d]]
  simp [digitValues, digit]

theorem reaches_exponent (ts : List Token) {stage : Stage}
    (begun : stage = .zero ∨ stage = .whole ∨ stage = .fraction) {e : Option (Bool × List Char)}
    (h : ∀ x ∈ e, AllDigits x.2 ∧ x.2 ≠ []) (negative : Bool) (whole fraction : List Nat) :
    ∃ stage', stage'.complete = true ∧
      ((Parts.exponentChars e).map some).foldl Lexer.step
          ⟨.number stage ⟨negative, whole, fraction, false, []⟩, ts⟩ =
        ⟨.number stage' ⟨negative, whole, fraction, e.any (·.1),
          (digitValues ((e.map (·.2)).getD [])).reverse⟩, ts⟩ := by
  cases e with
  | none => exact ⟨stage, by rcases begun with rfl | rfl | rfl <;> rfl, rfl⟩
  | some e =>
    obtain ⟨below, cs⟩ := e
    obtain ⟨digits, some⟩ := h _ rfl
    refine ⟨.exponent, rfl, ?_⟩
    cases below
    · exact reaches_power ts begun (.inl rfl) (.inl ⟨.inr rfl, rfl⟩) digits some negative whole fraction
    · exact reaches_power ts begun (.inl rfl) (.inr ⟨rfl, rfl⟩) digits some negative whole fraction

end Lexer

/-- **A number is read with the digits that it is written with.** -/
theorem Parts.lexes {p : Parts} (h : p.Valid) : Lexes p.chars [.number p.numeral] := by
  intro before
  obtain ⟨_, begun, whole⟩ := Lexer.reaches_whole before.reverse h
  obtain ⟨_, begun', fraction⟩ :=
    Lexer.reaches_fraction before.reverse begun h.fraction p.negative _
  obtain ⟨stage, complete, exponent⟩ :=
    Lexer.reaches_exponent before.reverse begun' h.exponent p.negative _ _
  rw [Parts.chars, List.map_append, List.foldl_append, List.map_append, List.foldl_append, whole,
    fraction, exponent]
  have amounts := Lexer.number_amounts complete ⟨p.negative, (digitValues p.whole).reverse,
    (digitValues p.fraction).reverse, p.exponent.any (·.1),
    (digitValues ((p.exponent.map (·.2)).getD [])).reverse⟩ before
  simpa [Numeral.inOrder, Parts.numeral] using amounts

/-! ## Integers -/

/-- An integer as it is written. -/
def integerParts (i : Int) : Parts :=
  ⟨decide (i < 0), Nat.toDigits 10 i.natAbs, [], none⟩

theorem integerParts_valid (i : Int) : (integerParts i).Valid where
  whole := Parts.isWhole_toDigits i.natAbs
  fraction := fun _ mem => absurd mem List.not_mem_nil
  exponent := fun _ mem => by cases mem

theorem Lexes.integer (i : Int) : Lexes (integerChars i) [.number (integerParts i).numeral] := by
  have lexes := Parts.lexes (integerParts_valid i)
  rw [show (integerParts i).chars = integerChars i by
    simp [Parts.chars, integerParts, integerChars, Parts.fractionChars, Parts.exponentChars]] at lexes
  exact lexes

/-- An integer of 64 bits, with a sign or without, is read exactly. -/
theorem quantity?_integer {i : Int} (low : Int64.minValue.toInt ≤ i) (high : i < UInt64.size) :
    (integerParts i).numeral.quantity? =
      some (if i < 0 then .negative i.natAbs else .whole i.natAbs) := by
  have smallest : Int64.minValue.toInt = -9223372036854775808 := rfl
  have size : UInt64.size = 18446744073709551616 := rfl
  have digits : natOfDigits (digitValues (Nat.toDigits 10 i.natAbs)) = i.natAbs :=
    natOfDigits_toDigits _
  have plain : (integerParts i).numeral.isPlain = true := by
    simp [Numeral.isPlain, Parts.numeral, integerParts, digitValues]
  have small : i.natAbs < UInt64.size := by omega
  have whole : natOfDigits (integerParts i).numeral.whole = i.natAbs := digits
  unfold Numeral.quantity?
  simp only [whole, plain, small, and_self, if_true]
  by_cases negative : i < 0
  · have nonzero : ¬ (i.natAbs = 0 ∨ 1 <<< 63 < i.natAbs) := by
      rw [show (1 : Nat) <<< 63 = 9223372036854775808 from rfl]
      omega
    rw [if_neg nonzero]
    simp [Parts.numeral, integerParts, negative]
  · simp [Parts.numeral, integerParts, negative]

theorem asInt64_integer (d : Int64) :
    (Tree.number (integerParts d.toInt).numeral).asInt64 = .ok d := by
  have low : Int64.minValue.toInt ≤ d.toInt := Int64.le_toInt d
  have high : d.toInt < 9223372036854775808 := Int64.toInt_lt d
  have limit : Int64.maxValue.toInt = 9223372036854775807 := rfl
  have size : UInt64.size = 18446744073709551616 := rfl
  have read : (Tree.number (integerParts d.toInt).numeral).asInteger .int64 = .ok d.toInt := by
    rw [Tree.asInteger, quantity?_integer low (by omega)]
    by_cases negative : d.toInt < 0
    · simp only [negative, if_true]
      rw [show -(d.toInt.natAbs : Int) = d.toInt by omega]
    · simp only [negative, if_false]
      rw [show (d.toInt.natAbs : Int) = d.toInt by omega]
  rw [Tree.asInt64, read, Except.ok_bind, if_pos (by omega), Int64.ofInt_toInt]

end Telemetry.Json
