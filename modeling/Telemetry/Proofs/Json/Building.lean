/-
Trees from tokens, container by container.

`Builds ts t` says of the tokens of a value that they build its tree and leave the
containers around it as they were. Items and members are built one after another, so an
array or an object is built whatever is in it.
-/
import Telemetry.Json.Tree
import Telemetry.Proofs.Json.Lexing

namespace Telemetry.Json

/-- The tokens begin a value, and behind them stands the tree, delivered where the stack says. -/
structure Builds (ts : List Token) (t : Tree) : Prop where
  begun : ∃ first rest, ts = first :: rest ∧ first ≠ .closeArray
  delivers : ∀ frames, ts.foldl Builder.step ⟨.value, frames⟩ = Builder.deliver t frames

namespace Builds

variable {ts : List Token} {t : Tree}

theorem single {token : Token} (opens : token ≠ .closeArray)
    (h : ∀ frames, Builder.begin frames token = Builder.deliver t frames) : Builds [token] t :=
  ⟨⟨token, [], rfl, opens⟩, h⟩

/-- In an array a value begins as it begins anywhere. -/
theorem item (h : Builds ts t) (items : List Tree) (first : Bool) (frames : List Frame) :
    ts.foldl Builder.step ⟨.item items first, frames⟩ = ⟨.afterItem (t :: items), frames⟩ := by
  have here := h.delivers (.array items :: frames)
  obtain ⟨token, rest, rfl, opens⟩ := h.begun
  -- Of all tokens only a closing bracket is taken otherwise where a first item may begin.
  rw [List.foldl_cons] at here ⊢
  rw [show Builder.step ⟨.item items first, frames⟩ token =
      Builder.step ⟨.value, .array items :: frames⟩ token by
    cases first with
    | false => rfl
    | true =>
      cases token with
      | closeArray => exact absurd rfl opens
      | _ => rfl]
  exact here

/-- The value of a member, behind its key and the colon. -/
theorem member (h : Builds ts t) (key : Option String) (members : List (Option String × Tree))
    (first : Bool) (frames : List Frame) :
    (.string key :: .colon :: ts).foldl Builder.step ⟨.key members first, frames⟩ =
      ⟨.afterMember ((key, t) :: members), frames⟩ := by
  rw [List.foldl_cons, List.foldl_cons, show Builder.step (Builder.step ⟨.key members first, frames⟩
    (.string key)) .colon = ⟨.value, .member members key :: frames⟩ by cases first <;> rfl, h.delivers]
  rfl

variable {α : Type} {toks : α → List Token} {tree : α → Tree} {key : α → Option String}

theorem items : ∀ {pieces : List α}, (∀ p ∈ pieces, Builds (toks p) (tree p)) →
    ∀ (before : List Tree) (frames : List Frame),
      (joined .comma false (pieces.map toks)).foldl Builder.step ⟨.afterItem before, frames⟩ =
        ⟨.afterItem ((pieces.map tree).reverse ++ before), frames⟩
  | [], _, _, _ => rfl
  | p :: rest, h, before, frames => by
    obtain ⟨piece, others⟩ := List.forall_mem_cons.1 h
    simp only [List.map_cons, joined, Bool.false_eq_true, if_false, List.cons_append,
      List.nil_append, List.foldl_cons, List.foldl_append]
    rw [show Builder.step ⟨.afterItem before, frames⟩ .comma = ⟨.item before false, frames⟩ from rfl,
      piece.item, items others]
    simp

theorem members : ∀ {pieces : List α}, (∀ p ∈ pieces, Builds (toks p) (tree p)) →
    ∀ (before : List (Option String × Tree)) (frames : List Frame),
      (joined .comma false (pieces.map fun p => .string (key p) :: .colon :: toks p)).foldl
          Builder.step ⟨.afterMember before, frames⟩ =
        ⟨.afterMember ((pieces.map fun p => (key p, tree p)).reverse ++ before), frames⟩
  | [], _, _, _ => rfl
  | p :: rest, h, before, frames => by
    obtain ⟨piece, others⟩ := List.forall_mem_cons.1 h
    rw [List.map_cons, joined, if_neg Bool.false_ne_true, List.cons_append, List.nil_append,
      List.cons_append, List.foldl_cons, List.foldl_append]
    rw [show Builder.step ⟨.afterMember before, frames⟩ .comma = ⟨.key before false, frames⟩ from rfl,
      piece.member, members others]
    simp

theorem array {pieces : List α} (h : ∀ p ∈ pieces, Builds (toks p) (tree p)) :
    Builds (.openArray :: joined .comma true (pieces.map toks) ++ [.closeArray])
      (.array (pieces.map tree) true) := by
  refine ⟨⟨_, _, rfl, by simp⟩, fun frames => ?_⟩
  cases pieces with
  | nil => rfl
  | cons p rest =>
    obtain ⟨piece, others⟩ := List.forall_mem_cons.1 h
    simp only [List.map_cons, joined, if_true, List.nil_append, List.cons_append, List.foldl_cons,
      List.foldl_append, List.foldl_nil]
    rw [show Builder.step ⟨.value, frames⟩ .openArray = ⟨.item [] true, frames⟩ from rfl,
      piece.item, items others]
    simp [Builder.step]

theorem object {pieces : List α} (h : ∀ p ∈ pieces, Builds (toks p) (tree p)) :
    Builds (.openObject :: joined .comma true
        (pieces.map fun p => .string (key p) :: .colon :: toks p) ++ [.closeObject])
      (.object (pieces.map fun p => (key p, tree p)) .closed) := by
  refine ⟨⟨_, _, rfl, by simp⟩, fun frames => ?_⟩
  cases pieces with
  | nil => rfl
  | cons p rest =>
    obtain ⟨piece, others⟩ := List.forall_mem_cons.1 h
    rw [List.map_cons, joined, if_pos rfl, List.nil_append, List.cons_append, List.foldl_cons,
      List.foldl_append, List.foldl_append]
    rw [show Builder.step ⟨.value, frames⟩ .openObject = ⟨.key [] true, frames⟩ from rfl,
      piece.member, members others]
    simp [Builder.step]

theorem document (h : Builds ts t) : Document.ofTokens ts = ⟨t, false⟩ := by
  rw [Document.ofTokens, Builder.start, h.delivers]
  rfl

end Builds

end Telemetry.Json
