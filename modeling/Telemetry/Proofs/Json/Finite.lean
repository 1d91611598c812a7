/-
What every record that is read has.

A reading sets one field after another, so what the initial draft has and no field takes away,
the record has (`Shape.Keeps.read`). A number that is read is in range; so a snapshot that is read
has finite gauges only, whatever its text (`finite_of_document`).
-/
import Telemetry.Proofs.Json.Snapshots

namespace Telemetry

namespace Json

theorem value_of_readMembers {α : Type} {read : Tree → Except Fault α} {closed : Bool} :
    ∀ {members : List (Option String × Tree)} {es : List (String × α)},
      Tree.readMembers read closed members = .ok es → ∀ e ∈ es, ∃ t, read t = .ok e.2
  | [], es, h => by
    cases closed with
    | true => rw [← Except.ok.inj h]; exact fun _ mem => absurd mem List.not_mem_nil
    | false => cases h
  | (none, _) :: _, _, h => nomatch h
  | (some key, t) :: rest, es, h => by
    simp only [Tree.readMembers, Except.bind_eq_ok] at h
    obtain ⟨x, read, xs, others, h⟩ := h
    rw [← Except.ok.inj h]
    intro e mem
    rcases List.mem_cons.1 mem with rfl | mem
    · exact ⟨t, read⟩
    · exact value_of_readMembers others e mem

theorem value_of_asMap {α : Type} {read : Tree → Except Fault α} {t : Tree} {es : List (String × α)}
    (h : t.asMap read = .ok es) : ∀ e ∈ es, ∃ u, read u = .ok e.2 := by
  cases t with
  | object members ending => exact value_of_readMembers h
  | _ => cases h

namespace Shape

variable {δ : Type} {shape : Shape δ} {P : δ → Prop}

/-- What every field keeps. -/
def Keeps (shape : Shape δ) (P : δ → Prop) : Prop :=
  ∀ field ∈ shape.fields, ∀ draft t draft', P draft → field.set draft t = .ok draft' → P draft'

theorem Keeps.readObject (keeps : shape.Keeps P) {closed : Bool} :
    ∀ {members : List (Option String × Tree)} {seen seen' : List String} {draft draft' : δ}, P draft →
      shape.readObject closed members seen draft = .ok (seen', draft') → P draft'
  | [], _, _, draft, draft', holds, h => by
    cases closed with
    | true =>
      rw [← (Prod.mk.inj (Except.ok.inj h)).2]
      exact holds
    | false => cases h
  | (none, _) :: _, _, _, _, _, _, h => nomatch h
  | (some key, t) :: rest, seen, seen', draft, draft', holds, h => by
    unfold Shape.readObject at h
    split at h
    · split at h
      · exact keeps.readObject holds h
      · cases h
    · rename_i field found
      split at h
      · cases h
      · obtain ⟨next, set, h⟩ := Except.bind_eq_ok.1 h
        exact keeps.readObject (keeps field (List.mem_of_find?_eq_some found) _ _ _ holds set) h

theorem Keeps.readArray (keeps : shape.Keeps P) {closed : Bool} :
    ∀ {fields : List (Field δ)} {items : List Tree} {n : Nat} {draft draft' : δ},
      (∀ field ∈ fields, field ∈ shape.fields) → P draft →
        shape.readArray closed fields items n draft = .ok draft' → P draft'
  | [], [], _, draft, draft', _, holds, h => by
    cases closed with
    | true =>
      rw [← Except.ok.inj h]
      exact holds
    | false => cases h
  | [], _ :: _, _, _, _, _, _, h => nomatch h
  | field :: fields, [], n, draft, draft', sub, holds, h => by
    unfold Shape.readArray at h
    split at h
    · cases h
    · split at h
      · cases h
      · exact keeps.readArray (fun f mem => sub f (List.mem_cons_of_mem _ mem)) holds h
  | field :: fields, t :: rest, n, draft, draft', sub, holds, h => by
    obtain ⟨next, set, h⟩ := Except.bind_eq_ok.1 h
    exact keeps.readArray (fun f mem => sub f (List.mem_cons_of_mem _ mem))
      (keeps field (sub field List.mem_cons_self) _ _ _ holds set) h

/-- What the initial draft has and every field keeps, a record that is read has. -/
theorem Keeps.read (keeps : shape.Keeps P) (initial : P shape.initial) {t : Tree} {x : δ}
    (h : shape.read t = .ok x) : P x := by
  cases t with
  | object members ending =>
    obtain ⟨⟨seen, draft⟩, read, h⟩ := Except.bind_eq_ok.1 h
    simp only at h
    split at h
    · cases h
    · rw [← Except.ok.inj h]
      exact keeps.readObject initial read
  | array items closed => exact keeps.readArray (fun _ mem => mem) initial h
  | _ => cases h

end Shape

end Json

namespace Snapshot

theorem finite_of_read {t : Json.Tree} {s : Snapshot} (h : shape.read t = .ok s) :
    s.checkFinite = .ok () := by
  have keeps : shape.Keeps fun s => s.checkFinite = .ok () := by
    intro field mem draft t draft' finite set
    rcases List.mem_cons.1 mem with rfl | mem
    · obtain ⟨es, read, set⟩ := Except.bind_eq_ok.1 set
      rw [← Except.ok.inj set]
      refine checkFinite_eq_ok.2 fun name x get => ?_
      rcases NameMap.mem_of_get?_insertAll get with mem | none
      · obtain ⟨u, double⟩ := Json.value_of_asMap read _ mem
        exact Json.asDouble_finite double
      · cases none
    · rw [List.mem_singleton.1 mem] at set
      obtain ⟨es, -, set⟩ := Except.bind_eq_ok.1 set
      rw [← Except.ok.inj set]
      exact finite
  exact keeps.read rfl h

theorem finite_of_document {d : Json.Document} {s : Snapshot} (h : ofDocument d = .ok s) :
    s.checkFinite = .ok () := by
  obtain ⟨t, read, h⟩ := Except.bind_eq_ok.1 h
  split at h
  · cases h
  · rw [← Except.ok.inj h]
    exact finite_of_read read

end Snapshot

end Telemetry
