/-
Well-formed JSON texts.

The grammar of the format as predicates on texts, none of which mentions a reader: numbers, strings,
and the values built of them to any depth (`IsValue`). A string may spell half a surrogate pair, which is
well-formed and no text; so a key that is asked for by its name is one that spells text (`IsKey`), and
`IsObject` is an object with such keys. Whatever is written is well-formed, on one line and on a
page (`isValue_compact`, `isValue_pretty`).
-/
import Telemetry.Proofs.Json.Documents

namespace Telemetry.Json

/-- A point and digits, or nothing. -/
inductive IsFraction : List Char → Prop where
  | none : IsFraction []
  | digits {ds : List Char} : AllDigits ds → ds ≠ [] → IsFraction ('.' :: ds)

/-- A mark, a sign that may be left out, and digits, or nothing. -/
inductive IsExponent : List Char → Prop where
  | none : IsExponent []
  | digits {mark : Char} {sign ds : List Char} : mark = 'e' ∨ mark = 'E' →
      sign = [] ∨ sign = ['+'] ∨ sign = ['-'] → AllDigits ds → ds ≠ [] →
      IsExponent (mark :: (sign ++ ds))

/-- A number: digits, before which only a minus may stand. -/
inductive IsNumber : List Char → Prop where
  | mk (negative : Bool) {whole fraction exponent : List Char} : Parts.IsWhole whole →
      IsFraction fraction → IsExponent exponent →
      IsNumber (Binary64.signChars negative ++ whole ++ fraction ++ exponent)

/-- The letters that stand for a character behind a backslash. -/
def shortForms : List (Char × Char) :=
  [('"', '"'), ('\\', '\\'), ('/', '/'), ('b', '\x08'), ('f', '\x0c'), ('n', '\n'), ('r', '\r'),
    ('t', '\t')]

theorem mem_shortForms {a c : Char} : (a, c) ∈ shortForms ↔ Spelling.shorthand? a = some c := by
  simp only [shortForms, List.mem_cons, Prod.mk.injEq, List.not_mem_nil, or_false,
    Spelling.shorthand?]
  grind

/-- The four hexadecimal digits of a code unit. -/
inductive IsCode : List Char → Nat → Prop where
  | mk {a b c d : Char} {x y z w : Nat} : Text.Hex.value? a = some x → Text.Hex.value? b = some y →
      Text.Hex.value? c = some z → Text.Hex.value? d = some w →
      IsCode [a, b, c, d] (((x * 16 + y) * 16 + z) * 16 + w)

/-- What may stand between quotes. A code unit may be any, half a pair as well. -/
inductive IsInside : List Char → Prop where
  | nil : IsInside []
  | plain {c : Char} {cs : List Char} : c ≠ '"' → c ≠ '\\' → 0x20 ≤ c.toNat → IsInside cs →
      IsInside (c :: cs)
  | short {a c : Char} {cs : List Char} : (a, c) ∈ shortForms → IsInside cs →
      IsInside ('\\' :: a :: cs)
  | code {ds cs : List Char} {n : Nat} : IsCode ds n → IsInside cs →
      IsInside ('\\' :: 'u' :: ds ++ cs)

/-- What stands between quotes, and the text that it spells. A character past 16 bits is itself, or a
pair of code units. -/
inductive Denotes : List Char → List Char → Prop where
  | nil : Denotes [] []
  | plain {c : Char} {cs text : List Char} : c ≠ '"' → c ≠ '\\' → 0x20 ≤ c.toNat → Denotes cs text →
      Denotes (c :: cs) (c :: text)
  | short {a c : Char} {cs text : List Char} : (a, c) ∈ shortForms → Denotes cs text →
      Denotes ('\\' :: a :: cs) (c :: text)
  | code {ds cs text : List Char} {n : Nat} : IsCode ds n → n < 0xD800 ∨ 0xDFFF < n →
      Denotes cs text → Denotes ('\\' :: 'u' :: ds ++ cs) (Char.ofNat n :: text)
  | pair {ds es cs text : List Char} {h l : Nat} : IsCode ds h → 0xD800 ≤ h → h ≤ 0xDBFF →
      IsCode es l → 0xDC00 ≤ l → l ≤ 0xDFFF → Denotes cs text →
      Denotes ('\\' :: 'u' :: ds ++ '\\' :: 'u' :: es ++ cs)
        (Char.ofNat (0x10000 + (h - 0xD800) * 0x400 + (l - 0xDC00)) :: text)

/-- A string. -/
inductive IsString : List Char → Prop where
  | mk {inside : List Char} : IsInside inside → IsString ('"' :: inside ++ ['"'])

/-- A string that spells a name. -/
inductive IsKey : List Char → String → Prop where
  | mk {inside : List Char} {name : String} : Denotes inside name.toList →
      IsKey ('"' :: inside ++ ['"']) name

theorem Denotes.inside {cs text : List Char} (h : Denotes cs text) : IsInside cs := by
  induction h with
  | nil => exact .nil
  | plain quote backslash control _ ih => exact .plain quote backslash control ih
  | short form _ ih => exact .short form ih
  | code code _ _ ih => exact .code code ih
  | pair high _ _ low _ _ _ ih =>
    rw [List.append_assoc]
    exact .code high (.code low ih)

theorem IsKey.isString {cs : List Char} {name : String} (h : IsKey cs name) : IsString cs := by
  cases h with
  | mk spells => exact .mk spells.inside

/-! ## Values -/

/-- A piece of a text and the blanks around it. -/
structure Padded where
  before : List Char
  text : List Char
  after : List Char

def Padded.chars (p : Padded) : List Char :=
  p.before ++ p.text ++ p.after

def Padded.Spaced (p : Padded) : Prop :=
  Gap p.before ∧ Gap p.after

/-- A key and a value. -/
structure Member where
  key : Padded
  value : Padded

def Member.chars (m : Member) : List Char :=
  m.key.chars ++ ':' :: m.value.chars

def Member.Spaced (m : Member) : Prop :=
  m.key.Spaced ∧ m.value.Spaced

/-- Items in brackets. -/
def arrayChars (items : List (List Char)) (gap : List Char) : List Char :=
  '[' :: joined ',' true items ++ gap ++ [']']

/-- Members in braces. -/
def objectChars (members : List (List Char)) (gap : List Char) : List Char :=
  '{' :: joined ',' true members ++ gap ++ ['}']

/-- A value, with no blanks around it. -/
inductive IsValue : List Char → Prop where
  | null : IsValue nullChars
  | boolean (b : Bool) : IsValue (booleanChars b)
  | number {cs : List Char} : IsNumber cs → IsValue cs
  | string {cs : List Char} : IsString cs → IsValue cs
  | array {items : List Padded} {gap : List Char} : (∀ i ∈ items, i.Spaced) →
      (∀ i ∈ items, IsValue i.text) → Gap gap → IsValue (arrayChars (items.map Padded.chars) gap)
  | object {members : List Member} {gap : List Char} : (∀ m ∈ members, m.Spaced) →
      (∀ m ∈ members, IsString m.key.text) → (∀ m ∈ members, IsValue m.value.text) → Gap gap →
      IsValue (objectChars (members.map Member.chars) gap)

/-- An object in a text of its own: its keys, and the text of the value that each one has. -/
inductive IsObject : List Char → List (String × List Char) → Prop where
  | mk {members : List (String × Member)} {before gap after : List Char} :
      (∀ m ∈ members, m.2.Spaced) → (∀ m ∈ members, IsKey m.2.key.text m.1) →
      (∀ m ∈ members, IsValue m.2.value.text) → Gap before → Gap gap → Gap after →
      IsObject (before ++ objectChars (members.map fun m => m.2.chars) gap ++ after)
        (members.map fun m => (m.1, m.2.value.text))

/-! ## Written texts -/

theorem Parts.Valid.isNumber {p : Parts} (h : p.Valid) : IsNumber p.chars := by
  refine .mk p.negative h.whole ?_ ?_
  · cases eq : p.fraction with
    | nil => exact .none
    | cons c rest => exact .digits (eq ▸ h.fraction) (List.cons_ne_nil _ _)
  · cases eq : p.exponent with
    | none => exact .none
    | some e =>
      obtain ⟨below, ds⟩ := e
      obtain ⟨digits, some⟩ := h.exponent _ eq
      cases below
      · exact .digits (.inl rfl) (.inr (.inl rfl)) digits some
      · exact .digits (.inl rfl) (.inr (.inr rfl)) digits some

theorem isNumber_integer (i : Int) : IsNumber (integerChars i) := by
  have valid := (integerParts_valid i).isNumber
  simpa [Parts.chars, integerParts, integerChars, Parts.fractionChars, Parts.exponentChars]
    using valid

theorem isValue_double (x : Binary64) : IsValue (doubleChars x) := by
  cases x with
  | finite s m =>
    have valid := (m.wireParts_valid s).isNumber
    rw [m.wireParts_chars s] at valid
    exact .number valid
  | infinite s => exact .null
  | nan => exact .null

theorem isKey_quoted (s : String) : IsKey (quoted s) s := by
  refine .mk ?_
  induction s.toList with
  | nil => exact .nil
  | cons c rest ih =>
    rw [List.flatMap_cons]
    rcases escape_cases c with ⟨a, eq, letter, short⟩ | ⟨control, eq⟩ | ⟨eq, quote, backslash, control⟩
    · rw [eq]
      exact .short (mem_shortForms.2 short) ih
    · rw [eq]
      have zero : Text.Hex.value? '0' = some 0 := rfl
      have code := IsCode.mk zero zero (value?_digit (show c.toNat / 16 < 16 by omega))
        (value?_digit (show c.toNat % 16 < 16 by omega))
      rw [show ((0 * 16 + 0) * 16 + c.toNat / 16) * 16 + c.toNat % 16 = c.toNat by omega] at code
      have here := Denotes.code code (.inl (by omega)) ih
      rwa [Char.ofNat_toNat] at here
    · rw [eq]
      exact .plain quote backslash (by omega) ih

/-- A piece with nothing around it. -/
def bare (cs : List Char) : Padded :=
  ⟨[], cs, []⟩

theorem bare_spaced (cs : List Char) : (bare cs).Spaced :=
  ⟨Gap.nil, Gap.nil⟩

/-- A member on one line. -/
def compactMember (m : String × Value) : Member :=
  ⟨bare (quoted m.1), bare m.2.compactChars⟩

/-- An item on a line of its own. -/
def prettyItem (level : Nat) (v : Value) : Padded :=
  ⟨lineStart level, v.prettyChars level, []⟩

theorem prettyItem_spaced (level : Nat) (v : Value) : (prettyItem level v).Spaced :=
  ⟨gap_lineStart level, Gap.nil⟩

/-- A member on a line of its own, and a blank before its value. -/
def prettyMember (level : Nat) (m : String × Value) : Member :=
  ⟨⟨lineStart level, quoted m.1, []⟩, ⟨[' '], m.2.prettyChars level, []⟩⟩

theorem prettyMember_spaced (level : Nat) (m : String × Value) : (prettyMember level m).Spaced :=
  ⟨⟨gap_lineStart level, Gap.nil⟩, gap_blank, Gap.nil⟩

theorem compactMember_spaced (m : String × Value) : (compactMember m).Spaced :=
  ⟨bare_spaced _, bare_spaced _⟩

theorem compactChars_array (items : List Value) : (Value.array items).compactChars =
    arrayChars (items.map fun v => (bare v.compactChars).chars) [] := by
  simp [Value.compactChars, compactItems_eq, arrayChars, Padded.chars, bare]

theorem compactChars_object (members : List (String × Value)) :
    (Value.object members).compactChars =
      objectChars (members.map fun m => (compactMember m).chars) [] := by
  simp [Value.compactChars, compactMembers_eq, objectChars, compactMember, Member.chars, Padded.chars,
    bare]

theorem prettyChars_array (level : Nat) (items : List Value) :
    ∃ gap, Gap gap ∧ (Value.array items).prettyChars level =
      arrayChars (items.map fun v => (prettyItem (level + 1) v).chars) gap := by
  cases items with
  | nil => exact ⟨[], Gap.nil, rfl⟩
  | cons v rest =>
    refine ⟨lineStart level, gap_lineStart level, ?_⟩
    simp [Value.prettyChars, prettyItems_eq, arrayChars, prettyItem, Padded.chars]

theorem prettyChars_object (level : Nat) (members : List (String × Value)) :
    ∃ gap, Gap gap ∧ (Value.object members).prettyChars level =
      objectChars (members.map fun m => (prettyMember (level + 1) m).chars) gap := by
  cases members with
  | nil => exact ⟨[], Gap.nil, rfl⟩
  | cons m rest =>
    refine ⟨lineStart level, gap_lineStart level, ?_⟩
    simp [Value.prettyChars, prettyMembers_eq, objectChars, prettyMember, Member.chars, Padded.chars]

namespace IsValue

variable {α : Type} {pieces : List α} {gap : List Char}

theorem arrayOf {item : α → Padded} (spaced : ∀ p ∈ pieces, (item p).Spaced)
    (values : ∀ p ∈ pieces, IsValue (item p).text) (blank : Gap gap) :
    IsValue (arrayChars (pieces.map fun p => (item p).chars) gap) := by
  have all := array (List.forall_mem_map.2 spaced) (List.forall_mem_map.2 values) blank
  rwa [List.map_map] at all

theorem objectOf {member : α → Member} (spaced : ∀ p ∈ pieces, (member p).Spaced)
    (keys : ∀ p ∈ pieces, IsString (member p).key.text)
    (values : ∀ p ∈ pieces, IsValue (member p).value.text) (blank : Gap gap) :
    IsValue (objectChars (pieces.map fun p => (member p).chars) gap) := by
  have all := object (List.forall_mem_map.2 spaced) (List.forall_mem_map.2 keys)
    (List.forall_mem_map.2 values) blank
  rwa [List.map_map] at all

end IsValue

/-- **A value on one line is well-formed.** -/
theorem isValue_compact (v : Value) : IsValue v.compactChars := by
  induction v using Value.byParts with
  | null => exact .null
  | boolean b => exact .boolean b
  | integer i => exact .number (isNumber_integer i)
  | double x => exact isValue_double x
  | text s => exact .string (isKey_quoted s).isString
  | array items ih =>
    rw [compactChars_array]
    exact .arrayOf (fun v _ => bare_spaced _) ih Gap.nil
  | object members ih =>
    rw [compactChars_object]
    exact .objectOf (fun m _ => compactMember_spaced m) (fun m _ => (isKey_quoted m.1).isString) ih
      Gap.nil

/-- **A value on a page is well-formed.** -/
theorem isValue_pretty (level : Nat) (v : Value) : IsValue (v.prettyChars level) := by
  induction v using Value.byParts generalizing level with
  | null => exact .null
  | boolean b => exact .boolean b
  | integer i => exact .number (isNumber_integer i)
  | double x => exact isValue_double x
  | text s => exact .string (isKey_quoted s).isString
  | array items ih =>
    obtain ⟨gap, blank, eq⟩ := prettyChars_array level items
    rw [eq]
    exact .arrayOf (fun v _ => prettyItem_spaced _ v) (fun v mem => ih v mem _) blank
  | object members ih =>
    obtain ⟨gap, blank, eq⟩ := prettyChars_object level members
    rw [eq]
    exact .objectOf (fun m _ => prettyMember_spaced _ m) (fun m _ => (isKey_quoted m.1).isString)
      (fun m mem => ih m mem _) blank

/-- An object with nothing around it, whose members are given one by one. -/
theorem IsObject.of {α : Type} {pieces : List α} {name : α → String} {member : α → Member}
    {gap : List Char} (spaced : ∀ p ∈ pieces, (member p).Spaced)
    (keys : ∀ p ∈ pieces, IsKey (member p).key.text (name p))
    (values : ∀ p ∈ pieces, IsValue (member p).value.text) (blank : Gap gap) :
    IsObject (objectChars (pieces.map fun p => (member p).chars) gap)
      (pieces.map fun p => (name p, (member p).value.text)) := by
  let members := pieces.map fun p => (name p, member p)
  have spaced : ∀ m ∈ members, m.2.Spaced := List.forall_mem_map.2 spaced
  have keys : ∀ m ∈ members, IsKey m.2.key.text m.1 := List.forall_mem_map.2 keys
  have values : ∀ m ∈ members, IsValue m.2.value.text := List.forall_mem_map.2 values
  have all := IsObject.mk spaced keys values Gap.nil blank Gap.nil
  simpa only [members, List.map_map, Function.comp_def, List.nil_append, List.append_nil] using all

theorem isObject_compact (members : List (String × Value)) :
    IsObject (Value.object members).compact.toList
      (members.map fun m => (m.1, m.2.compactChars)) := by
  rw [Value.compact, String.toList_ofList, compactChars_object]
  exact .of (fun m _ => compactMember_spaced m) (fun m _ => isKey_quoted m.1)
    (fun m _ => isValue_compact m.2) Gap.nil

theorem isObject_pretty (members : List (String × Value)) :
    IsObject (Value.object members).pretty.toList
      (members.map fun m => (m.1, m.2.prettyChars 1)) := by
  obtain ⟨gap, blank, eq⟩ := prettyChars_object 0 members
  rw [Value.pretty, String.toList_ofList, eq]
  exact .of (fun m _ => prettyMember_spaced 1 m) (fun m _ => isKey_quoted m.1)
    (fun m _ => isValue_pretty 1 m.2) blank

end Telemetry.Json
