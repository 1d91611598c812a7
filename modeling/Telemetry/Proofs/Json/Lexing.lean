/-
The tokens of written text, piece by piece.

A number has no end of its own: it goes on until a character comes that is no part of
it. `Lexes cs ts` therefore says of a reader before `cs` that behind `cs` it amounts
to `ts`, at the end of the text and before any character that ends a number. A piece
that ends in something else leaves no token open (`Closes`), and anything may follow.
-/
import Telemetry.Json.Value
import Telemetry.Json.Token

namespace Telemetry.Json

/-- A character that is no part of a number. -/
def isBreak (c : Char) : Bool :=
  (digit? c).isNone && c ≠ '.' && c ≠ 'e' && c ≠ 'E'

/-- A character that may stand between tokens. -/
def isGap (c : Char) : Bool :=
  c = ' ' || c = '\t' || c = '\n' || c = '\r'

theorem isGap_cases {c : Char} (h : isGap c = true) : c = ' ' ∨ c = '\t' ∨ c = '\n' ∨ c = '\r' := by
  simpa [isGap, or_assoc] using h

/-- Nothing but characters that may stand between tokens. -/
def Gap (cs : List Char) : Prop :=
  ∀ c ∈ cs, isGap c = true

theorem Gap.nil : Gap [] :=
  fun _ mem => absurd mem List.not_mem_nil

namespace Lexer

/-- The reader amounts to the tokens: its number, if it is in one, is as good as over. -/
structure Amounts (l : Lexer) (ts : List Token) : Prop where
  finish : l.finish = ts
  step : ∀ c, isBreak c = true → l.step (some c) = first ⟨.between, ts.reverse⟩ c

theorem between_amounts (ts : List Token) : Amounts ⟨.between, ts.reverse⟩ ts :=
  ⟨by simp [Lexer.finish], fun _ _ => rfl⟩

/-- A number that may end here is over before a character that is no part of it. -/
theorem number_amounts {stage : Stage} (complete : stage.complete = true) (n : Numeral)
    (ts : List Token) :
    Amounts ⟨.number stage n, ts.reverse⟩ (ts ++ [.number n.inOrder]) := by
  refine ⟨by simp [Lexer.finish, complete, push], fun c stops => ?_⟩
  have ends : n.step stage c = .over := by
    simp only [isBreak, Bool.and_eq_true, Option.isNone_iff_eq_none, decide_eq_true_eq] at stops
    obtain ⟨⟨⟨digit, point⟩, small⟩, large⟩ := stops
    cases stage <;> simp_all [Stage.complete, Numeral.step, Numeral.tail]
  simp [Lexer.step, ends, push]

end Lexer

/-- The text is read as the tokens. -/
def Lexes (cs : List Char) (ts : List Token) : Prop :=
  ∀ before : List Token,
    ((cs.map some).foldl Lexer.step ⟨.between, before.reverse⟩).Amounts (before ++ ts)

/-- The text is read as the tokens, and no token is open behind it. -/
def Closes (cs : List Char) (ts : List Token) : Prop :=
  ∀ before : List Token,
    (cs.map some).foldl Lexer.step ⟨.between, before.reverse⟩ = ⟨.between, (before ++ ts).reverse⟩

/-- Nothing at the beginning of the text goes on with a number. -/
def StopsNumber (cs : List Char) : Prop :=
  ∀ c ∈ cs.head?, isBreak c = true

variable {cs cs₁ cs₂ : List Char} {ts ts₁ ts₂ : List Token}

theorem Closes.lexes (h : Closes cs ts) : Lexes cs ts := by
  intro before
  rw [h]
  exact Lexer.between_amounts _

namespace Lexes

theorem nil : Lexes [] [] :=
  Closes.lexes fun before => by simp

theorem tokens_eq (h : Lexes cs ts) : tokens (cs.map some) = ts :=
  (h []).finish

/-- Behind a closed piece any text is read as it would be alone. -/
theorem after_closed (h₁ : Closes cs₁ ts₁) (h₂ : Lexes cs₂ ts₂) :
    Lexes (cs₁ ++ cs₂) (ts₁ ++ ts₂) := by
  intro before
  rw [List.map_append, List.foldl_append, h₁, ← List.append_assoc]
  exact h₂ (before ++ ts₁)

/-- Behind any piece a text is read that does not go on with a number. -/
theorem append (h₁ : Lexes cs₁ ts₁) (h₂ : Lexes cs₂ ts₂) (apart : StopsNumber cs₂) :
    Lexes (cs₁ ++ cs₂) (ts₁ ++ ts₂) := by
  intro before
  rw [List.map_append, List.foldl_append, ← List.append_assoc]
  cases cs₂ with
  | nil =>
    have none : ts₂ = [] := by
      have := (h₂ []).finish
      simpa [Lexer.finish] using this.symm
    rw [none, List.append_nil]
    exact h₁ before
  | cons c rest =>
    have second := h₂ (before ++ ts₁)
    simp only [List.map_cons, List.foldl_cons] at second ⊢
    rw [(h₁ before).step c (apart c rfl)]
    exact second

end Lexes

namespace Closes

/-- A closed piece closes what stands before it. -/
theorem after {c : Char} (h₁ : Lexes cs₁ ts₁) (h₂ : Closes (c :: cs₂) ts₂)
    (stops : isBreak c = true) : Closes (cs₁ ++ c :: cs₂) (ts₁ ++ ts₂) := by
  intro before
  rw [List.map_append, List.foldl_append, ← List.append_assoc]
  have second := h₂ (before ++ ts₁)
  simp only [List.map_cons, List.foldl_cons] at second ⊢
  rw [(h₁ before).step c stops]
  exact second

theorem append (h₁ : Closes cs₁ ts₁) (h₂ : Closes cs₂ ts₂) : Closes (cs₁ ++ cs₂) (ts₁ ++ ts₂) := by
  intro before
  rw [List.map_append, List.foldl_append, h₁, ← List.append_assoc]
  exact h₂ (before ++ ts₁)

theorem mark {c : Char} {t : Token} (h : ∀ l : Lexer, l.first c = l.push t) : Closes [c] [t] :=
  fun before => by simp [Lexer.step, h, Lexer.push]

theorem gap (h : Gap cs) : Closes cs [] := by
  intro before
  rw [List.append_nil]
  induction cs with
  | nil => rfl
  | cons c rest ih =>
    obtain ⟨blank, blanks⟩ := List.forall_mem_cons.1 h
    rw [List.map_cons, List.foldl_cons]
    have stays : Lexer.step ⟨.between, before.reverse⟩ (some c) = ⟨.between, before.reverse⟩ := by
      rcases isGap_cases blank with rfl | rfl | rfl | rfl <;> rfl
    rw [stays]
    exact ih blanks

theorem null : Closes nullChars [.null] :=
  fun before => by simp [nullChars, Lexer.step, Lexer.first, Lexer.push]

theorem boolean (b : Bool) : Closes (booleanChars b) [.boolean b] := by
  intro before
  cases b <;> simp [booleanChars, Lexer.step, Lexer.first, Lexer.push]

end Closes

/-! ## Pieces in a row -/

/-- Pieces, with a mark before each but the first. -/
def joined {α : Type} (mark : α) : Bool → List (List α) → List α
  | _, [] => []
  | first, piece :: rest => (if first then [] else [mark]) ++ piece ++ joined mark false rest

theorem Gap.stops (h : Gap cs) : StopsNumber cs := by
  intro c mem
  rcases isGap_cases (h c (List.mem_of_mem_head? mem)) with rfl | rfl | rfl | rfl <;> rfl

theorem joined_stops (pieces : List (List Char)) : StopsNumber (joined ',' false pieces) := by
  intro c mem
  cases pieces with
  | nil => cases mem
  | cons piece rest =>
    rw [← Option.some.inj mem]
    rfl

/-- What stands before an item or a member. -/
theorem separator_closes (first : Bool) :
    Closes (if first then [] else [',']) (if first then [] else [.comma]) := by
  cases first
  · exact .mark fun _ => rfl
  · exact fun before => by simp

namespace Lexes

theorem padded {before after : List Char} (h₁ : Gap before) (h : Lexes cs ts) (h₂ : Gap after) :
    Lexes (before ++ cs ++ after) ts := by
  have inside := (after_closed (.gap h₁) h).append (Closes.gap h₂).lexes h₂.stops
  simpa using inside

theorem member {key : Option String} (h₁ : Lexes cs₁ [.string key]) (h₂ : Lexes cs₂ ts₂) :
    Lexes (cs₁ ++ ':' :: cs₂) (.string key :: .colon :: ts₂) :=
  append h₁ (after_closed (.mark fun _ => rfl : Closes [':'] [.colon]) h₂) fun _ mem => by
    rw [← Option.some.inj mem]
    rfl

variable {α : Type} {chars : α → List Char} {toks : α → List Token}

theorem joined : ∀ {pieces : List α}, (∀ p ∈ pieces, Lexes (chars p) (toks p)) → ∀ first : Bool,
    Lexes (Json.joined ',' first (pieces.map chars)) (Json.joined .comma first (pieces.map toks))
  | [], _, _ => .nil
  | _ :: rest, h, first => by
    obtain ⟨piece, others⟩ := List.forall_mem_cons.1 h
    exact (after_closed (separator_closes first) piece).append (joined others false) (joined_stops _)

/-- Items in brackets, with blanks before the closing one. -/
theorem array {pieces : List α} (h : ∀ p ∈ pieces, Lexes (chars p) (toks p)) {gap : List Char}
    (blank : Gap gap) : Lexes ('[' :: Json.joined ',' true (pieces.map chars) ++ gap ++ [']'])
      (.openArray :: Json.joined .comma true (pieces.map toks) ++ [.closeArray]) := by
  have opened : Closes ['['] [.openArray] := .mark fun _ => rfl
  have closed : Closes [']'] [.closeArray] := .mark fun _ => rfl
  have inside := padded Gap.nil (after_closed opened (joined h true)) blank
  simpa using (Closes.after inside closed rfl).lexes

/-- Members in braces, with blanks before the closing one. -/
theorem object {pieces : List α} (h : ∀ p ∈ pieces, Lexes (chars p) (toks p)) {gap : List Char}
    (blank : Gap gap) : Lexes ('{' :: Json.joined ',' true (pieces.map chars) ++ gap ++ ['}'])
      (.openObject :: Json.joined .comma true (pieces.map toks) ++ [.closeObject]) := by
  have opened : Closes ['{'] [.openObject] := .mark fun _ => rfl
  have closed : Closes ['}'] [.closeObject] := .mark fun _ => rfl
  have inside := padded Gap.nil (after_closed opened (joined h true)) blank
  simpa using (Closes.after inside closed rfl).lexes

end Lexes

/-! ## Strings -/

theorem step_string {s s' : Spelling} {ts : List Token} {c : Char}
    (inside : c ≠ '"' ∨ s.phase ≠ .plain) (h : s.step? (some c) = some s') :
    Lexer.step ⟨.string s, ts⟩ (some c) = ⟨.string s', ts⟩ := by
  unfold Lexer.step
  split <;> simp_all

theorem value?_digit : ∀ {n : Nat}, n < 16 → Text.Hex.value? (Text.Hex.digit n) = some n := by
  decide

theorem step_escape {s : Spelling} (plain : s.phase = .plain) (ts : List Token) :
    Lexer.step ⟨.string s, ts⟩ (some '\\') = ⟨.string { s with phase := .escaped }, ts⟩ := by
  simp [Lexer.step, Spelling.step?, plain]

theorem foldl_code {a b c d : Char} {x y z w : Nat} (ha : Text.Hex.value? a = some x)
    (hb : Text.Hex.value? b = some y) (hc : Text.Hex.value? c = some z)
    (hd : Text.Hex.value? d = some w) {s : Spelling} (plain : s.phase = .plain) (ts : List Token) :
    (['\\', 'u', a, b, c, d].map some).foldl Lexer.step ⟨.string s, ts⟩ =
      ⟨.string (s.codeUnit (((x * 16 + y) * 16 + z) * 16 + w)), ts⟩ := by
  have next {s' : Spelling} {e : Char} (t : Spelling) (inside : s'.phase ≠ .plain)
      (h : s'.step? (some e) = some t) : Lexer.step ⟨.string s', ts⟩ (some e) = ⟨.string t, ts⟩ :=
    step_string (.inr inside) h
  simp only [List.map_cons, List.map_nil, List.foldl_cons, List.foldl_nil, step_escape plain]
  rw [next { s with phase := .digits 4 0 } (by simp) (by simp [Spelling.step?]),
    next { s with phase := .digits 3 x } (by simp) (by simp [Spelling.step?, ha]),
    next { s with phase := .digits 2 (x * 16 + y) } (by simp) (by simp [Spelling.step?, hb]),
    next { s with phase := .digits 1 ((x * 16 + y) * 16 + z) } (by simp)
      (by simp [Spelling.step?, hc])]
  exact next _ (by simp) (by simp [Spelling.step?, hd]; rfl)

theorem codeUnit_single {n : Nat} (apart : n < 0xD800 ∨ 0xDFFF < n) (chars : List Char) :
    Spelling.codeUnit ⟨chars, true, none, .plain⟩ n = ⟨Char.ofNat n :: chars, true, none, .plain⟩ := by
  have high : ¬ (0xD800 ≤ n ∧ n ≤ 0xDBFF) := by omega
  have low : ¬ (0xDC00 ≤ n ∧ n ≤ 0xDFFF) := by omega
  simp [Spelling.codeUnit, high, low, Spelling.push]

/-- The three forms of a character inside quotes. -/
theorem escape_cases (c : Char) :
    (∃ a, escape c = ['\\', a] ∧ a ≠ 'u' ∧ Spelling.shorthand? a = some c) ∨
    (c.toNat < 0x20 ∧ escape c =
      ['\\', 'u', '0', '0', Text.Hex.digit (c.toNat / 16), Text.Hex.digit (c.toNat % 16)]) ∨
    (escape c = [c] ∧ c ≠ '"' ∧ c ≠ '\\' ∧ ¬ c.toNat < 0x20) := by
  unfold escape
  by_cases quote : c = '"'
  · exact .inl ⟨'"', by simp [quote, Spelling.shorthand?]⟩
  by_cases backslash : c = '\\'
  · exact .inl ⟨'\\', by simp [backslash, Spelling.shorthand?]⟩
  by_cases backspace : c = '\x08'
  · exact .inl ⟨'b', by simp [backspace, Spelling.shorthand?]⟩
  by_cases feed : c = '\x0c'
  · exact .inl ⟨'f', by simp [feed, Spelling.shorthand?]⟩
  by_cases line : c = '\n'
  · exact .inl ⟨'n', by simp [line, Spelling.shorthand?]⟩
  by_cases back : c = '\r'
  · exact .inl ⟨'r', by simp [back, Spelling.shorthand?]⟩
  by_cases tab : c = '\t'
  · exact .inl ⟨'t', by simp [tab, Spelling.shorthand?]⟩
  by_cases control : c.toNat < 0x20
  · exact .inr (.inl ⟨control, by simp [*]⟩)
  · exact .inr (.inr ⟨by simp [*], quote, backslash, control⟩)

theorem foldl_escape (c : Char) (chars : List Char) (ts : List Token) :
    ((escape c).map some).foldl Lexer.step ⟨.string ⟨chars, true, none, .plain⟩, ts⟩ =
      ⟨.string ⟨c :: chars, true, none, .plain⟩, ts⟩ := by
  rcases escape_cases c with ⟨a, eq, letter, short⟩ | ⟨control, eq⟩ | ⟨eq, quote, backslash, control⟩
  · rw [eq, List.map_cons, List.foldl_cons, step_escape rfl]
    refine step_string (.inr (by simp)) ?_
    simp [Spelling.step?, letter, short, Spelling.push]
  · rw [eq, foldl_code (x := 0) (y := 0) rfl rfl (value?_digit (by omega)) (value?_digit (by omega)) rfl,
      show ((0 * 16 + 0) * 16 + c.toNat / 16) * 16 + c.toNat % 16 = c.toNat by omega,
      codeUnit_single (.inl (by omega)), Char.ofNat_toNat]
  · rw [eq]
    refine step_string (.inl quote) ?_
    simp [Spelling.step?, backslash, control, Spelling.push]

theorem foldl_escapes (cs chars : List Char) (ts : List Token) :
    ((cs.flatMap escape).map some).foldl Lexer.step ⟨.string ⟨chars, true, none, .plain⟩, ts⟩ =
      ⟨.string ⟨cs.reverse ++ chars, true, none, .plain⟩, ts⟩ := by
  induction cs generalizing chars with
  | nil => rfl
  | cons c rest ih =>
    rw [List.flatMap_cons, List.map_append, List.foldl_append, foldl_escape, ih]
    simp

/-- A string is what has been spelled when its closing quote comes. -/
theorem Closes.string {inside : List Char} {s : Spelling} (plain : s.phase = .plain)
    (spells : ∀ ts, (inside.map some).foldl Lexer.step ⟨.string .start, ts⟩ = ⟨.string s, ts⟩) :
    Closes ('"' :: inside ++ ['"']) [.string s.text?] := by
  intro before
  have opening : Lexer.step ⟨.between, before.reverse⟩ (some '"') =
      ⟨.string .start, before.reverse⟩ := by
    simp [Lexer.step, Lexer.first]
  simp only [List.cons_append, List.map_cons, List.map_append, List.foldl_cons,
    List.foldl_append, List.map_nil, List.foldl_nil]
  rw [opening, spells]
  simp [Lexer.step, plain, Lexer.push]

theorem Closes.text (s : String) : Closes (quoted s) [.string (some s)] := by
  have closes := Closes.string rfl (foldl_escapes s.toList [])
  simpa [Spelling.text?, quoted] using closes

end Telemetry.Json
