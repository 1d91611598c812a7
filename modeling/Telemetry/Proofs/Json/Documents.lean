/-
Written values are read as trees.

A value is written on one line or on a page, and both are read as the same tokens
(`compact_lexes`, `pretty_lexes`); the tokens build the value's tree (`builds`). So a
value's bytes spell its tree and nothing more, whatever doubles are in it.
-/
import Telemetry.Proofs.Json.Building
import Telemetry.Proofs.Json.Doubles
import Telemetry.Proofs.Text.Utf8

namespace Telemetry.Json

/-- What holds of a value as soon as it holds of all that is in it holds of every value. -/
@[elab_as_elim]
theorem Value.byParts {P : Value → Prop} (null : P .null) (boolean : ∀ b, P (.boolean b))
    (integer : ∀ i, P (.integer i)) (double : ∀ x, P (.double x)) (text : ∀ s, P (.text s))
    (array : ∀ items, (∀ v ∈ items, P v) → P (.array items))
    (object : ∀ members, (∀ m ∈ members, P m.2) → P (.object members)) (v : Value) : P v :=
  @Value.rec P (fun items => ∀ v ∈ items, P v) (fun members => ∀ m ∈ members, P m.2)
    (fun m => P m.2) null boolean integer double text array object
    (fun _ mem => absurd mem List.not_mem_nil) (fun _ _ here there => List.forall_mem_cons.2 ⟨here, there⟩)
    (fun _ mem => absurd mem List.not_mem_nil) (fun _ _ here there => List.forall_mem_cons.2 ⟨here, there⟩)
    (fun _ _ h => h) v

mutual

/-- What a written value is read as. -/
def Value.tokens : Value → List Token
  | .null => [.null]
  | .boolean b => [.boolean b]
  | .integer i => [.number (integerParts i).numeral]
  | .double x => [x.token]
  | .text s => [.string (some s)]
  | .array items => .openArray :: Value.itemTokens true items ++ [.closeArray]
  | .object members => .openObject :: Value.memberTokens true members ++ [.closeObject]

/-- Items, with a comma before each but the first. -/
def Value.itemTokens : Bool → List Value → List Token
  | _, [] => []
  | first, v :: rest =>
    (if first then [] else [.comma]) ++ v.tokens ++ Value.itemTokens false rest

/-- Members, with a comma before each but the first. -/
def Value.memberTokens : Bool → List (String × Value) → List Token
  | _, [] => []
  | first, (k, v) :: rest =>
    (if first then [] else [.comma]) ++ .string (some k) :: .colon :: v.tokens ++
      Value.memberTokens false rest

end

/-- The tree of a written double. -/
def doubleTree : Binary64 → Tree
  | .finite s m => .number (m.wireParts s).numeral
  | _ => .null

mutual

/-- The tree of a written value. -/
def Value.tree : Value → Tree
  | .null => .null
  | .boolean b => .boolean b
  | .integer i => .number (integerParts i).numeral
  | .double x => doubleTree x
  | .text s => .string (some s)
  | .array items => .array (Value.itemTrees items) true
  | .object members => .object (Value.memberTrees members) .closed

/-- The trees of written items. -/
def Value.itemTrees : List Value → List Tree
  | [] => []
  | v :: rest => v.tree :: Value.itemTrees rest

/-- The trees of written members. -/
def Value.memberTrees : List (String × Value) → List (Option String × Tree)
  | [] => []
  | (k, v) :: rest => (some k, v.tree) :: Value.memberTrees rest

end

theorem itemTokens_eq (first : Bool) (items : List Value) :
    Value.itemTokens first items = joined .comma first (items.map Value.tokens) := by
  induction items generalizing first with
  | nil => rfl
  | cons v rest ih => rw [Value.itemTokens, ih, List.map_cons, joined]

theorem memberTokens_eq (first : Bool) (members : List (String × Value)) :
    Value.memberTokens first members =
      joined .comma first (members.map fun m => .string (some m.1) :: .colon :: m.2.tokens) := by
  induction members generalizing first with
  | nil => rfl
  | cons m rest ih => rw [Value.memberTokens, ih, List.map_cons, joined]

theorem itemTrees_eq (items : List Value) : Value.itemTrees items = items.map Value.tree := by
  induction items with
  | nil => rfl
  | cons v rest ih => rw [Value.itemTrees, ih, List.map_cons]

theorem memberTrees_eq (members : List (String × Value)) :
    Value.memberTrees members = members.map fun (k, v) => (some k, v.tree) := by
  induction members with
  | nil => rfl
  | cons m rest ih =>
    obtain ⟨k, v⟩ := m
    rw [Value.memberTrees, ih, List.map_cons]

theorem compactItems_eq (first : Bool) (items : List Value) :
    Value.compactItems first items = joined ',' first (items.map Value.compactChars) := by
  induction items generalizing first with
  | nil => rfl
  | cons v rest ih => rw [Value.compactItems, ih, List.map_cons, joined]

theorem compactMembers_eq (first : Bool) (members : List (String × Value)) :
    Value.compactMembers first members =
      joined ',' first (members.map fun m => quoted m.1 ++ ':' :: m.2.compactChars) := by
  induction members generalizing first with
  | nil => rfl
  | cons m rest ih => simp [Value.compactMembers, ih, joined]

theorem prettyItems_eq (level : Nat) (first : Bool) (items : List Value) :
    Value.prettyItems level first items =
      joined ',' first (items.map fun v => lineStart level ++ v.prettyChars level) := by
  induction items generalizing first with
  | nil => rfl
  | cons v rest ih => simp [Value.prettyItems, ih, joined]

theorem prettyMembers_eq (level : Nat) (first : Bool) (members : List (String × Value)) :
    Value.prettyMembers level first members = joined ',' first
      (members.map fun m => lineStart level ++ quoted m.1 ++ ':' :: ' ' :: m.2.prettyChars level) := by
  induction members generalizing first with
  | nil => rfl
  | cons m rest ih => simp [Value.prettyMembers, ih, joined]

theorem gap_lineStart (level : Nat) : Gap (lineStart level) := by
  intro c mem
  rcases List.mem_cons.1 mem with rfl | mem
  · rfl
  · rw [List.eq_of_mem_replicate mem]
    rfl

theorem gap_blank : Gap [' '] := by
  intro c mem
  rw [List.mem_singleton.1 mem]
  rfl

/-! ## Tokens -/

theorem compact_lexes (v : Value) : Lexes v.compactChars v.tokens := by
  induction v using Value.byParts with
  | null => exact Closes.null.lexes
  | boolean b => exact (Closes.boolean b).lexes
  | integer i => exact .integer i
  | double x => exact .double x
  | text s => exact (Closes.text s).lexes
  | array items ih =>
    have all := Lexes.array ih Gap.nil
    simpa [Value.compactChars, compactItems_eq, Value.tokens, itemTokens_eq] using all
  | object members ih =>
    have each : ∀ m ∈ members, Lexes (quoted m.1 ++ ':' :: m.2.compactChars)
        (.string (some m.1) :: .colon :: m.2.tokens) :=
      fun m mem => .member (Closes.text m.1).lexes (ih m mem)
    have all := Lexes.object each Gap.nil
    simpa [Value.compactChars, compactMembers_eq, Value.tokens, memberTokens_eq] using all

theorem pretty_lexes (level : Nat) (v : Value) : Lexes (v.prettyChars level) v.tokens := by
  induction v using Value.byParts generalizing level with
  | null => exact Closes.null.lexes
  | boolean b => exact (Closes.boolean b).lexes
  | integer i => exact .integer i
  | double x => exact .double x
  | text s => exact (Closes.text s).lexes
  | array items ih =>
    cases items with
    | nil => exact compact_lexes (.array [])
    | cons v rest =>
      have each : ∀ v' ∈ v :: rest,
          Lexes (lineStart (level + 1) ++ v'.prettyChars (level + 1)) v'.tokens :=
        fun v' mem => .after_closed (.gap (gap_lineStart _)) (ih v' mem _)
      have all := Lexes.array each (gap_lineStart level)
      simpa [Value.prettyChars, prettyItems_eq, Value.tokens, itemTokens_eq] using all
  | object members ih =>
    cases members with
    | nil => exact compact_lexes (.object [])
    | cons m rest =>
      have each : ∀ m' ∈ m :: rest, Lexes
          (lineStart (level + 1) ++ quoted m'.1 ++ ':' :: ' ' :: m'.2.prettyChars (level + 1))
          (.string (some m'.1) :: .colon :: m'.2.tokens) := fun m' mem =>
        have key := Lexes.after_closed (.gap (gap_lineStart _)) (Closes.text m'.1).lexes
        .member key (.after_closed (.gap gap_blank) (ih m' mem _))
      have all := Lexes.object each (gap_lineStart level)
      simpa [Value.prettyChars, prettyMembers_eq, Value.tokens, memberTokens_eq] using all

theorem builds (v : Value) : Builds v.tokens v.tree := by
  induction v using Value.byParts with
  | null => exact .single (by simp) fun _ => rfl
  | boolean b => exact .single (by simp) fun _ => rfl
  | integer i => exact .single (by simp) fun _ => rfl
  | double x => cases x <;> exact .single (by simp [Binary64.token]) fun _ => rfl
  | text s => exact .single (by simp) fun _ => rfl
  | array items ih =>
    rw [Value.tokens, itemTokens_eq, Value.tree, itemTrees_eq]
    exact .array ih
  | object members ih =>
    rw [Value.tokens, memberTokens_eq, Value.tree, memberTrees_eq]
    exact .object ih

theorem ofUnits_of_lexes {cs : List Char} {v : Value} (h : Lexes cs v.tokens) :
    Document.ofUnits (cs.map some) = ⟨v.tree, false⟩ := by
  rw [Document.ofUnits, h.tokens_eq, (builds v).document]

/-- **The bytes of a written value spell its tree.** -/
theorem ofBytes_compact (v : Value) :
    Document.ofBytes (Text.Utf8.encode v.compact) = ⟨v.tree, false⟩ := by
  rw [Document.ofBytes, Text.Utf8.units_encode, Value.compact, String.toList_ofList]
  exact ofUnits_of_lexes (compact_lexes v)

theorem ofBytes_pretty (v : Value) :
    Document.ofBytes (Text.Utf8.encode v.pretty) = ⟨v.tree, false⟩ := by
  rw [Document.ofBytes, Text.Utf8.units_encode, Value.pretty, String.toList_ofList]
  exact ofUnits_of_lexes (pretty_lexes 0 v)

end Telemetry.Json
