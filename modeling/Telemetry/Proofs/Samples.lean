/-
A snapshot's own values, in whatever order they are written.

No two values of a snapshot are of one kind and name. So written where nothing was, none
of them meets another: a gauge replaces nothing and a counter is added to nothing.
The result is the snapshot, whatever the order (`mergeSamples_of_perm`).
-/
import Mathlib.Data.List.Nodup
import Mathlib.Data.List.Perm.Basic
import Mathlib.Data.Prod.Basic
import Telemetry.Proofs.Merge

namespace Telemetry

/-- Items in another order are the same things in another order. -/
theorem perm_map_iff {α β : Type} {f : α → β} {l : List α} {m : List β} :
    m.Perm (l.map f) ↔ ∃ l' : List α, l'.Perm l ∧ m = l'.map f := by
  have comp := congrFun (congrFun (List.eq_map_comp_perm f) m) l
  rw [← comp]
  exact exists_congr fun l' => and_comm

theorem perm_toList {α : Type} {x : Option α} {l : List α} (h : l.Perm x.toList) : l = x.toList := by
  cases x with
  | none => exact h.eq_nil
  | some y => exact List.perm_singleton.1 h

namespace Snapshot

variable {s t : Snapshot} {l : List (String × Sample)}

theorem mem_samples {name : String} {x : Sample} :
    (name, x) ∈ s.samples ↔ s.get? x.kind name = some x := by
  rw [samples, List.mem_append, List.mem_map, List.mem_map]
  cases x with
  | gauge y => simp [NameMap.mem_entries, get?, Sample.kind]
  | counter d => simp [NameMap.mem_entries, get?, Sample.kind]

theorem kind_of_get? {kind : Kind} {name : String} {x : Sample} (h : s.get? kind name = some x) :
    x.kind = kind := by
  cases kind with
  | gauge =>
    obtain ⟨y, -, rfl⟩ := Option.map_eq_some_iff.1 h
    rfl
  | counter =>
    obtain ⟨d, -, rfl⟩ := Option.map_eq_some_iff.1 h
    rfl

theorem mem_samples_of_get? {kind : Kind} {name : String} {x : Sample}
    (h : s.get? kind name = some x) : (name, x) ∈ s.samples := by
  rw [mem_samples, kind_of_get? h, h]

theorem gauge_mem_samples {name : String} {x : Binary64} :
    (name, .gauge x) ∈ s.samples ↔ s.gauges.get? name = some x := by
  rw [mem_samples]
  simp [get?, Sample.kind]

theorem finite_of_mem (s : Snapshot) (finite : s.checkFinite = .ok ()) {w : String × Sample}
    (mem : w ∈ s.samples) (x : Binary64) (eq : w.2 = .gauge x) : x.isFinite = true := by
  obtain ⟨name, y⟩ := w
  subst eq
  exact checkFinite_eq_ok.1 finite name x (gauge_mem_samples.1 mem)

/-- A value's place: its kind and its name. -/
def place (w : String × Sample) : Kind × String :=
  (w.2.kind, w.1)

theorem nodup_places (s : Snapshot) : (s.samples.map place).Nodup := by
  have places : s.samples.map place = (s.gauges.entries.map (·.1)).map (Prod.mk Kind.gauge) ++
      (s.counters.entries.map (·.1)).map (Prod.mk Kind.counter) := by
    rw [samples, List.map_append, List.map_map, List.map_map, List.map_map, List.map_map]
    rfl
  rw [places, List.nodup_append]
  refine ⟨s.gauges.nodup_names.map (Prod.mk_right_injective _),
    s.counters.nodup_names.map (Prod.mk_right_injective _), ?_⟩
  intro p left q right same
  obtain ⟨_, -, rfl⟩ := List.mem_map.1 left
  obtain ⟨_, -, rfl⟩ := List.mem_map.1 right
  cases same

theorem mem_samples_setSample {name : String} {y : Sample} {w : String × Sample} :
    w ∈ (s.setSample name y).samples ↔ w = (name, y) ∨ w ∈ s.samples ∧ place w ≠ place (name, y) := by
  obtain ⟨other, x⟩ := w
  rw [mem_samples, mem_samples, get?_setSample]
  by_cases here : (x.kind, other) = (y.kind, name)
  · have at_name : other = name := (Prod.mk.inj here).2
    rw [if_pos here]
    constructor
    · intro same
      exact .inl (by rw [at_name, Option.some.inj same])
    · rintro (same | ⟨-, apart⟩)
      · rw [(Prod.mk.inj same).2]
      · exact absurd here apart
  · rw [if_neg here]
    constructor
    · exact fun held => .inr ⟨held, here⟩
    · rintro (same | ⟨held, -⟩)
      · obtain ⟨rfl, rfl⟩ := Prod.mk.inj same
        exact absurd rfl here
      · exact held

/-! ## Written where nothing was -/

/-- A finite gauge is always written, and a counter that starts with its delta. -/
theorem mergeSample_fresh {name : String} {x : Sample}
    (finite : ∀ y, x = .gauge y → y.isFinite = true) (fresh : s.get? x.kind name = none) :
    ∃ t, s.mergeSample name x = .ok t := by
  cases x with
  | gauge y =>
    have here : finiteGauge name y = .ok y := finiteGauge_eq_ok.2 ⟨finite y rfl, rfl⟩
    exact ⟨s.setGauge name y, by rw [mergeSample, here, Except.ok_bind]⟩
  | counter d =>
    have none : s.total name = 0 := by rw [total, Option.map_eq_none_iff.1 fresh, Option.getD_none]
    have fits : InRange ((0 : Int64).toInt + d.toInt) := by simpa using inRange_toInt d
    exact ⟨_, by rw [mergeSample, none, checkedTotal_eq, if_pos fits, Except.ok_bind]⟩

theorem mergeSamples_fresh : ∀ {l : List (String × Sample)} {s : Snapshot}, (l.map place).Nodup →
    (∀ w ∈ l, ∀ y, w.2 = .gauge y → y.isFinite = true) →
      (∀ w ∈ l, s.get? w.2.kind w.1 = none) → ∃ t, s.mergeSamples l = .ok t
  | [], s, _, _, _ => ⟨s, rfl⟩
  | (name, x) :: rest, s, nodup, finite, fresh => by
    simp only [List.map_cons, List.nodup_cons] at nodup
    obtain ⟨mid, first⟩ := mergeSample_fresh (finite _ List.mem_cons_self) (fresh _ List.mem_cons_self)
    have still : ∀ w ∈ rest, mid.get? w.2.kind w.1 = none := by
      intro w mem
      have apart : place w ≠ place (name, x) := by
        intro same
        rw [← same] at nodup
        exact nodup.1 (List.mem_map_of_mem mem)
      rw [get?_mergeSample first apart]
      exact fresh w (List.mem_cons_of_mem _ mem)
    obtain ⟨t, others⟩ := mergeSamples_fresh nodup.2
      (fun w mem => finite w (List.mem_cons_of_mem _ mem)) still
    exact ⟨t, by rw [mergeSamples, first, Except.ok_bind, others]⟩

theorem written_of_perm (perm : l.Perm s.samples) : Written empty l s := by
  have gauges (name : String) : gaugeWrites name l = (s.gauges.get? name).toList :=
    perm_toList (gaugeWrites_samples s name ▸ perm.filterMap _)
  have counters (name : String) : counterWrites name l = (s.counters.get? name).toList :=
    perm_toList (counterWrites_samples s name ▸ perm.filterMap _)
  refine ⟨fun name => ?_, fun name none => ?_, fun name some => ?_⟩
  · rw [gauges]
    cases s.gauges.get? name <;> simp [empty]
  · rw [counters, Option.toList_eq_nil_iff] at none
    rw [none]
    rfl
  · rw [counters] at some ⊢
    cases get : s.counters.get? name with
    | none => simp [get] at some
    | some d => exact ⟨d, rfl, by simp [deltaSum, total, empty]⟩

/-- **A snapshot of finite gauges is its own values in any order**, written where nothing was. -/
theorem mergeSamples_of_perm (finite : s.checkFinite = .ok ()) (perm : l.Perm s.samples) :
    empty.mergeSamples l = .ok s := by
  have apart : (l.map place).Nodup := (perm.map place).nodup_iff.2 s.nodup_places
  obtain ⟨t, merged⟩ := mergeSamples_fresh (s := empty) apart
    (fun w mem => s.finite_of_mem finite (perm.mem_iff.1 mem)) fun w _ => by cases w.2.kind <;> rfl
  rw [merged, (mergeSamples_written merged).unique (written_of_perm perm)]

theorem merge_empty (finite : s.checkFinite = .ok ()) : empty.merge s = .ok s :=
  mergeSamples_of_perm finite (List.Perm.refl _)

end Snapshot

end Telemetry
