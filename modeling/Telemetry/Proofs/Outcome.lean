/-
Chains of steps taken apart: what each step gave when a chain ended well, and
which one failed when it did not.

The first half is about outcomes of any kind of failure, the second about actions,
whose chains are opened at a given state.
-/
import Telemetry.Action

namespace Except

variable {ε α β : Type}

@[simp] theorem ok_bind (x : α) (f : α → Except ε β) : (Except.ok x >>= f) = f x := rfl

@[simp] theorem error_bind (e : ε) (f : α → Except ε β) : (Except.error e >>= f) = .error e := rfl

theorem bind_eq_ok {x : Except ε α} {f : α → Except ε β} {y : β} :
    (x >>= f) = .ok y ↔ ∃ a, x = .ok a ∧ f a = .ok y := by
  cases x with
  | ok a => simp
  | error e => simp

theorem map_eq_ok {x : Except ε α} {f : α → β} {y : β} :
    x.map f = .ok y ↔ ∃ a, x = .ok a ∧ f a = y := by
  cases x with
  | ok a => simp [Except.map]
  | error e => simp [Except.map]

theorem toOption_eq_some {x : Except ε α} {y : α} : x.toOption = some y ↔ x = .ok y := by
  cases x with
  | ok a => simp [Except.toOption]
  | error e => simp [Except.toOption]

variable {ε' : Type} {g : ε → ε'}

@[simp] theorem mapError_ok (x : α) : (Except.ok x : Except ε α).mapError g = .ok x := rfl

@[simp] theorem mapError_error (e : ε) :
    (Except.error e : Except ε α).mapError g = .error (g e) := rfl

theorem mapError_eq_ok {x : Except ε α} {y : α} : x.mapError g = .ok y ↔ x = .ok y := by
  cases x with
  | ok a => simp
  | error e => simp

theorem mapError_eq_error {x : Except ε α} {e' : ε'} :
    x.mapError g = .error e' ↔ ∃ e, x = .error e ∧ g e = e' := by
  cases x with
  | ok a => simp
  | error e => simp

end Except

namespace Telemetry.Action

variable {σ α β : Type} {a : Action σ α} {f : α → Action σ β} {s t : σ}

theorem bind_of_ok {x : α} (h : a s = (.ok x, t)) : (a >>= f) s = f x t := by
  rw [run_bind, h]

theorem bind_of_error {e : Failure} (h : a s = (.error e, t)) : (a >>= f) s = (.error e, t) := by
  rw [run_bind, h]

theorem bind_ofOutcome_ok (x : α) (f : α → Action σ β) (s : σ) :
    (ofOutcome (.ok x) >>= f) s = f x s := rfl

theorem bind_ofOutcome_error (e : Failure) (f : α → Action σ β) (s : σ) :
    (ofOutcome (.error e) >>= f) s = (.error e, s) := rfl

theorem bind_assoc {γ : Type} (a : Action σ α) (f : α → Action σ β) (g : β → Action σ γ) :
    a >>= f >>= g = a >>= fun x => f x >>= g := by
  funext s
  rw [run_bind, run_bind, run_bind]
  cases a s with
  | mk x t => cases x <;> rfl

/-- Whatever comes of the action, what held before holds afterwards. -/
def Preserves (P : σ → Prop) (a : Action σ α) : Prop :=
  ∀ s, P s → P (a s).2

namespace Preserves

variable {P : σ → Prop}

theorem pure (x : α) : Preserves P (Pure.pure x : Action σ α) :=
  fun _ h => h

theorem bind (ha : Preserves P a) (hf : ∀ x, Preserves P (f x)) : Preserves P (a >>= f) := by
  intro s h
  rw [run_bind]
  have step := ha s h
  cases result : a s with
  | mk outcome t =>
    rw [result] at step
    cases outcome with
    | ok x => exact hf x t step
    | error e => exact step

theorem attempt (ha : Preserves P a) : Preserves P a.attempt :=
  fun s h => ha s h

end Preserves

/-- Wherever `P` holds the action gives `x`, and `Q` holds afterwards. -/
def Gives (P : σ → Prop) (a : Action σ α) (x : Outcome α) (Q : σ → Prop) : Prop :=
  ∀ s, P s → (a s).1 = x ∧ Q (a s).2

namespace Gives

variable {P Q R : σ → Prop} {x : Outcome β}

theorem pure (y : α) : Gives P (Pure.pure y) (.ok y) P :=
  fun _ h => ⟨rfl, h⟩

theorem ofOutcome (y : Outcome α) : Gives P (ofOutcome y) y P :=
  fun _ h => ⟨rfl, h⟩

theorem bind {y : α} (ha : Gives P a (.ok y) Q) (hf : Gives Q (f y) x R) :
    Gives P (a >>= f) x R := by
  intro s h
  obtain ⟨gives, leaves⟩ := ha s h
  rw [bind_of_ok (show a s = (.ok y, (a s).2) from Prod.ext gives rfl)]
  exact hf _ leaves

theorem andThen {a : Action σ Unit} {b : Action σ β} (ha : Gives P a (.ok ()) Q)
    (hb : Gives Q b x R) : Gives P (do a; b) x R :=
  ha.bind hb

theorem bind_error {e : Failure} (ha : Gives P a (.error e) Q) :
    Gives P (a >>= f) (.error e) Q := by
  intro s h
  obtain ⟨gives, leaves⟩ := ha s h
  rw [bind_of_error (show a s = (.error e, (a s).2) from Prod.ext gives rfl)]
  exact ⟨rfl, leaves⟩

/-- A chain of steps that leave what holds leaves it, wherever the chain breaks off. -/
theorem chain {y : Outcome α} (ha : Gives P a y P) (hf : ∀ z, ∃ x, Gives P (f z) x P) :
    ∃ x, Gives P (a >>= f) x P := by
  cases y with
  | error e => exact ⟨.error e, ha.bind_error⟩
  | ok z =>
    obtain ⟨x, done⟩ := hf z
    exact ⟨x, ha.bind done⟩

/-- A failure that is passed over, with whatever follows it. -/
theorem attempt_bind {f : Outcome α → Action σ β} (ha : ∀ s, P s → Q (a s).2)
    (hf : ∀ y, Gives Q (f y) x R) : Gives P (a.attempt >>= f) x R :=
  fun s h => hf (a s).1 _ (ha s h)

end Gives

end Telemetry.Action
