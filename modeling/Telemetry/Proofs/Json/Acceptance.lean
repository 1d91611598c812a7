/-
Well-formed texts are read to their end.

A value of the grammar is read as a whole tree, whatever is nested in it and however it is
spaced (`IsValue.spells`); an object with named keys is read as the object of these names and of the trees
that its values are read as alone (`IsObject.document`). So what a reader makes of an object depends
on its members and on nothing else in the text.
-/
import Mathlib.Tactic.Choose
import Telemetry.Proofs.Json.Grammar

namespace Telemetry.Json

theorem IsFraction.eq_chars {cs : List Char} (h : IsFraction cs) :
    ∃ ds, AllDigits ds ∧ cs = Parts.fractionChars ds := by
  cases h with
  | none => exact ⟨[], fun _ mem => absurd mem List.not_mem_nil, rfl⟩
  | @digits ds digits some =>
    obtain ⟨c, rest, rfl⟩ := List.exists_cons_of_ne_nil some
    exact ⟨_, digits, rfl⟩

/-- Behind a number's whole part or its fraction, an exponent may be read. -/
theorem IsExponent.reached {cs : List Char} (h : IsExponent cs) : ∃ below exponent,
    ∀ (ts : List Token) {stage : Stage}, stage = .zero ∨ stage = .whole ∨ stage = .fraction →
      ∀ (negative : Bool) (whole fraction : List Nat), ∃ stage', stage'.complete = true ∧
        (cs.map some).foldl Lexer.step ⟨.number stage ⟨negative, whole, fraction, false, []⟩, ts⟩ =
          ⟨.number stage' ⟨negative, whole, fraction, below, exponent⟩, ts⟩ := by
  cases h with
  | none =>
    refine ⟨false, [], fun ts stage begun negative whole fraction => ⟨stage, ?_, rfl⟩⟩
    rcases begun with rfl | rfl | rfl <;> rfl
  | @digits mark sign ds marked signed digits some =>
    have below : ∃ below, (sign = [] ∨ sign = ['+']) ∧ below = false ∨ sign = ['-'] ∧ below = true := by
      rcases signed with none | plus | minus
      · exact ⟨false, .inl ⟨.inl none, rfl⟩⟩
      · exact ⟨false, .inl ⟨.inr plus, rfl⟩⟩
      · exact ⟨true, .inr ⟨minus, rfl⟩⟩
    obtain ⟨below, signed⟩ := below
    exact ⟨below, _, fun ts stage begun negative whole fraction => ⟨.exponent, rfl,
      Lexer.reaches_power ts begun marked signed digits some negative whole fraction⟩⟩

theorem IsNumber.lexes {cs : List Char} (h : IsNumber cs) : ∃ n, Lexes cs [.number n] := by
  obtain ⟨negative, isWhole, isFraction, isExponent⟩ := h
  rename_i whole fraction exponent
  obtain ⟨ds, digits, rfl⟩ := isFraction.eq_chars
  obtain ⟨below, es, reached⟩ := isExponent.reached
  let read : Numeral := ⟨negative, (digitValues whole).reverse, (digitValues ds).reverse, below, es⟩
  refine ⟨read.inOrder, fun before => ?_⟩
  have valid : Parts.Valid ⟨negative, whole, [], none⟩ :=
    ⟨isWhole, fun _ mem => absurd mem List.not_mem_nil, fun _ mem => by cases mem⟩
  obtain ⟨_, begun, first⟩ := Lexer.reaches_whole before.reverse valid
  obtain ⟨_, begun', second⟩ := Lexer.reaches_fraction before.reverse begun digits negative _
  obtain ⟨stage, complete, third⟩ := reached before.reverse begun' negative _ _
  rw [List.map_append, List.foldl_append, List.map_append, List.foldl_append, first, second, third]
  exact Lexer.number_amounts complete read before

/-! ## Strings -/

theorem codeUnit_plain (s : Spelling) (n : Nat) : (s.codeUnit n).phase = .plain := by
  unfold Spelling.codeUnit
  repeat' split
  all_goals rfl

theorem foldl_unit {ds : List Char} {n : Nat} (h : IsCode ds n) {s : Spelling}
    (plain : s.phase = .plain) (ts : List Token) :
    (('\\' :: 'u' :: ds).map some).foldl Lexer.step ⟨.string s, ts⟩ = ⟨.string (s.codeUnit n), ts⟩ := by
  cases h with
  | mk a b c d => exact foldl_code a b c d plain ts

theorem step_short {a c : Char} (h : (a, c) ∈ shortForms) {s : Spelling} (plain : s.phase = .plain)
    (ts : List Token) :
    Lexer.step (Lexer.step ⟨.string s, ts⟩ (some '\\')) (some a) = ⟨.string (s.push c), ts⟩ := by
  have short := mem_shortForms.1 h
  have letter : a ≠ 'u' := by
    rintro rfl
    cases short
  rw [step_escape plain]
  refine step_string (.inr (by simp)) ?_
  simp [Spelling.step?, letter, short, Spelling.push]

theorem step_plain {c : Char} (quote : c ≠ '"') (backslash : c ≠ '\\') (control : 0x20 ≤ c.toNat)
    {s : Spelling} (plain : s.phase = .plain) (ts : List Token) :
    Lexer.step ⟨.string s, ts⟩ (some c) = ⟨.string (s.push c), ts⟩ := by
  refine step_string (.inl quote) ?_
  simp [Spelling.step?, plain, backslash, Nat.not_lt.2 control]

/-- A string goes on among plain characters, whatever has been read of it. -/
theorem IsInside.reaches {cs : List Char} (h : IsInside cs) :
    ∀ {s : Spelling}, s.phase = .plain → ∃ s', s'.phase = .plain ∧
      ∀ ts, (cs.map some).foldl Lexer.step ⟨.string s, ts⟩ = ⟨.string s', ts⟩ := by
  induction h with
  | nil => exact fun {s} plain => ⟨s, plain, fun _ => rfl⟩
  | @plain c cs quote backslash control _ ih =>
    intro s plain
    obtain ⟨s', plain', reaches⟩ := ih (show (s.push c).phase = .plain from rfl)
    refine ⟨s', plain', fun ts => ?_⟩
    rw [List.map_cons, List.foldl_cons, step_plain quote backslash control plain, reaches]
  | @short a c cs form _ ih =>
    intro s plain
    obtain ⟨s', plain', reaches⟩ := ih (show (s.push c).phase = .plain from rfl)
    refine ⟨s', plain', fun ts => ?_⟩
    rw [List.map_cons, List.map_cons, List.foldl_cons, List.foldl_cons, step_short form plain, reaches]
  | code code _ ih =>
    intro s plain
    obtain ⟨s', plain', reaches⟩ := ih (codeUnit_plain s _)
    refine ⟨s', plain', fun ts => ?_⟩
    rw [List.map_append, List.foldl_append, foldl_unit code plain, reaches]

theorem codeUnit_pair {h l : Nat} (h₁ : 0xD800 ≤ h) (h₂ : h ≤ 0xDBFF) (l₁ : 0xDC00 ≤ l)
    (l₂ : l ≤ 0xDFFF) (chars : List Char) :
    (Spelling.codeUnit ⟨chars, true, none, .plain⟩ h).codeUnit l =
      ⟨Char.ofNat (0x10000 + (h - 0xD800) * 0x400 + (l - 0xDC00)) :: chars, true, none, .plain⟩ := by
  simp [Spelling.codeUnit, h₁, h₂, l₁, l₂]

/-- What spells a text is read as the text. -/
theorem Denotes.reads {cs text : List Char} (h : Denotes cs text) (ts : List Token) :
    ∀ chars : List Char,
      (cs.map some).foldl Lexer.step ⟨.string ⟨chars, true, none, .plain⟩, ts⟩ =
        ⟨.string ⟨text.reverse ++ chars, true, none, .plain⟩, ts⟩ := by
  induction h with
  | nil => exact fun _ => rfl
  | plain quote backslash control _ ih =>
    intro chars
    rw [List.map_cons, List.foldl_cons, step_plain quote backslash control rfl, List.reverse_cons,
      List.append_assoc]
    exact ih _
  | short form _ ih =>
    intro chars
    rw [List.map_cons, List.map_cons, List.foldl_cons, List.foldl_cons, step_short form rfl,
      List.reverse_cons, List.append_assoc]
    exact ih _
  | code code apart _ ih =>
    intro chars
    rw [List.map_append, List.foldl_append, foldl_unit code rfl, codeUnit_single apart,
      List.reverse_cons, List.append_assoc]
    exact ih _
  | pair high h₁ h₂ low l₁ l₂ _ ih =>
    intro chars
    rw [List.map_append, List.foldl_append, List.map_append, List.foldl_append, foldl_unit high rfl,
      foldl_unit low (codeUnit_plain _ _), codeUnit_pair h₁ h₂ l₁ l₂, List.reverse_cons,
      List.append_assoc]
    exact ih _

theorem IsString.closes {cs : List Char} (h : IsString cs) : ∃ text, Closes cs [.string text] := by
  cases h with
  | mk inside =>
    obtain ⟨s, plain, reaches⟩ := inside.reaches (show Spelling.start.phase = .plain from rfl)
    exact ⟨_, .string plain reaches⟩

theorem IsKey.closes {cs : List Char} {name : String} (h : IsKey cs name) :
    Closes cs [.string (some name)] := by
  cases h with
  | mk spells =>
    have closes := Closes.string rfl fun ts => spells.reads ts []
    simpa [Spelling.text?] using closes

/-! ## Values -/

/-- The text is read as the tree, wherever it stands. -/
structure Spells (cs : List Char) (t : Tree) : Prop where
  lexes : Lexes cs (tokens (cs.map some))
  builds : Builds (tokens (cs.map some)) t

/-- What the text is read as alone. -/
def treeOf (cs : List Char) : Tree :=
  (Document.ofUnits (cs.map some)).tree

namespace Spells

variable {cs : List Char} {t : Tree}

theorem of {ts : List Token} (lexes : Lexes cs ts) (builds : Builds ts t) : Spells cs t := by
  rw [← lexes.tokens_eq] at builds
  exact ⟨lexes.tokens_eq.symm ▸ lexes, builds⟩

theorem document (h : Spells cs t) : Document.ofUnits (cs.map some) = ⟨t, false⟩ :=
  h.builds.document

theorem treeOf_eq (h : Spells cs t) : treeOf cs = t := by
  rw [treeOf, h.document]

theorem single {token : Token} (lexes : Lexes cs [token]) (opens : token ≠ .closeArray)
    (begins : ∀ frames, Builder.begin frames token = Builder.deliver t frames) : Spells cs t :=
  .of lexes (.single opens begins)

/-- A text with blanks around it is read as it is alone. -/
theorem padded {before after : List Char} (h₁ : Gap before) (h : Spells cs t) (h₂ : Gap after) :
    Spells (before ++ cs ++ after) t :=
  .of (.padded h₁ h.lexes h₂) h.builds

theorem array {items : List Padded} {gap : List Char} (spaced : ∀ i ∈ items, i.Spaced)
    (h : ∀ i ∈ items, Spells i.text (treeOf i.text)) (blank : Gap gap) :
    Spells (arrayChars (items.map Padded.chars) gap)
      (.array (items.map fun i => treeOf i.text) true) := by
  refine .of (.array (fun i mem => ?_) blank) (.array fun i mem => (h i mem).builds)
  exact .padded (spaced i mem).1 (h i mem).lexes (spaced i mem).2

theorem object {α : Type} {pieces : List α} {key : α → Option String} {member : α → Member}
    {gap : List Char} (spaced : ∀ p ∈ pieces, (member p).Spaced)
    (keys : ∀ p ∈ pieces, Closes (member p).key.text [.string (key p)])
    (h : ∀ p ∈ pieces, Spells (member p).value.text (treeOf (member p).value.text))
    (blank : Gap gap) : Spells (objectChars (pieces.map fun p => (member p).chars) gap)
      (.object (pieces.map fun p => (key p, treeOf (member p).value.text)) .closed) := by
  refine .of (.object (fun p mem => ?_) blank) (.object fun p mem => (h p mem).builds)
  obtain ⟨before, after⟩ := spaced p mem
  exact .member (.padded before.1 (keys p mem).lexes before.2)
    (.padded after.1 (h p mem).lexes after.2)

end Spells

/-- **A well-formed value is read as a whole tree**, wherever it stands. -/
theorem IsValue.spells {cs : List Char} (h : IsValue cs) :
    Spells cs (treeOf cs) ∧ (treeOf cs).isWhole = true := by
  -- A text spells one tree at most, so any that it spells is the one that it is read as alone.
  suffices ∃ t, Spells cs t ∧ t.isWhole = true by
    obtain ⟨t, spells, whole⟩ := this
    rw [spells.treeOf_eq]
    exact ⟨spells, whole⟩
  induction h with
  | null => exact ⟨.null, .single Closes.null.lexes (by simp) fun _ => rfl, rfl⟩
  | boolean b => exact ⟨.boolean b, .single (Closes.boolean b).lexes (by simp) fun _ => rfl, rfl⟩
  | number number =>
    obtain ⟨n, lexes⟩ := number.lexes
    exact ⟨.number n, .single lexes (by simp) fun _ => rfl, rfl⟩
  | string string =>
    obtain ⟨text, closes⟩ := string.closes
    exact ⟨.string text, .single closes.lexes (by simp) fun _ => rfl, rfl⟩
  | array spaced _ blank ih =>
    refine ⟨_, .array spaced (fun i mem => ?_) blank, rfl⟩
    obtain ⟨t, spells, -⟩ := ih i mem
    exact spells.treeOf_eq ▸ spells
  | object spaced keys _ blank ih =>
    choose! key closes using fun m mem => (keys m mem).closes
    refine ⟨_, .object spaced closes (fun m mem => ?_) blank, rfl⟩
    obtain ⟨t, spells, -⟩ := ih m mem
    exact spells.treeOf_eq ▸ spells

/-- What the members of an object are read as. -/
def memberTreesOf (members : List (String × List Char)) : List (Option String × Tree) :=
  members.map fun (key, value) => (some key, treeOf value)

/-- **An object is read as its members**, each by its name and with what its value is read as. -/
theorem IsObject.document {cs : List Char} {members : List (String × List Char)}
    (h : IsObject cs members) :
    Document.ofUnits (cs.map some) = ⟨.object (memberTreesOf members) .closed, false⟩ := by
  cases h with
  | @mk pieces _ _ _ spaced keys values before gap after =>
    have names : ∀ m ∈ pieces, Closes m.2.key.text [.string (some m.1)] :=
      fun m mem => (keys m mem).closes
    have object := Spells.object spaced names (fun m mem => (values m mem).spells.1) gap
    simpa only [memberTreesOf, List.map_map, Function.comp_def]
      using (object.padded before after).document

theorem IsObject.whole {cs : List Char} {members : List (String × List Char)}
    (h : IsObject cs members) : ∀ m ∈ members, (treeOf m.2).isWhole = true := by
  cases h with
  | mk _ _ values _ _ _ => exact List.forall_mem_map.2 fun m mem => (values m mem).spells.2

end Telemetry.Json
