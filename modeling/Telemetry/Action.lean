/-
Actions on a state: each ends with a value or a failure, and the state afterwards.

What an action did before it failed stays done. An action on a part of a state is an
action on the whole (`Action.on`), and a failure can be looked at and passed over
(`Action.attempt`).
-/
import Telemetry.Failure

namespace Telemetry

/-- What is done to a state `σ`, with a value or a failure at the end. -/
def Action (σ α : Type) :=
  σ → Outcome α × σ

namespace Action

variable {σ τ α β : Type}

def run (a : Action σ α) (s : σ) : Outcome α × σ :=
  a s

instance : Monad (Action σ) where
  pure x := fun s => (.ok x, s)
  bind a f := fun s =>
    match a s with
    | (.ok x, s) => f x s
    | (.error e, s) => (.error e, s)

def get : Action σ σ :=
  fun s => (.ok s, s)

def modify (f : σ → σ) : Action σ Unit :=
  fun s => (.ok (), f s)

def fail (e : Failure) : Action σ α :=
  fun s => (.error e, s)

def ofOutcome (x : Outcome α) : Action σ α :=
  fun s => (x, s)

def attempt (a : Action σ α) : Action σ (Outcome α) :=
  fun s =>
    let (x, s) := a s
    (.ok x, s)

/-- An action on a part of the state. -/
def on (part : σ → τ) (put : σ → τ → σ) (a : Action τ α) : Action σ α :=
  fun s =>
    let (x, t) := a (part s)
    (x, put s t)

theorem run_pure (x : α) (s : σ) : (pure x : Action σ α) s = (.ok x, s) := rfl

theorem run_bind (a : Action σ α) (f : α → Action σ β) (s : σ) :
    (a >>= f) s =
      match a s with
      | (.ok x, s) => f x s
      | (.error e, s) => (.error e, s) := rfl

theorem run_fail (e : Failure) (s : σ) : (fail e : Action σ α) s = (.error e, s) := rfl

end Action

end Telemetry
