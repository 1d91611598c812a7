/-
Merging as an action of batches on snapshots, which is partial.

A batch is taken exactly when all its gauges are finite and each of its counters fits on top of
the total that stands (`Snapshot.exists_merge_iff`). What it makes is said name by name (`Merged`).
The merge is made on a copy, value by value, and only a copy with the whole batch takes the
snapshot's place (`mergeInPlace_eq`), so a refused batch leaves what was there.

Two batches one after the other are their own merge, and they may change places if they share no
gauge (`merge_acts`). Both laws are about merges that are accepted: a sum may leave 64 bits on the way
to a total that does not, so the order of the batches decides what is refused.
-/
import Telemetry.Proofs.Merge

namespace Telemetry

namespace Snapshot

/-- The batch can be merged: its gauges are finite, and its counters fit on top of the totals. -/
structure Admits (s batch : Snapshot) : Prop where
  finite : ∀ name x, batch.gauges.get? name = some x → x.isFinite = true
  fits : ∀ name d, batch.counters.get? name = some d → InRange ((s.total name).toInt + d.toInt)

/-- `t` is `s` with a batch merged into it: gauges overwrite, counters add, and the rest stays. -/
structure Merged (s batch t : Snapshot) : Prop where
  gauge : ∀ name x, batch.gauges.get? name = some x → t.gauges.get? name = some x
  otherGauge : ∀ name, batch.gauges.get? name = none → t.gauges.get? name = s.gauges.get? name
  counter : ∀ name d, batch.counters.get? name = some d → ∃ total,
    t.counters.get? name = some total ∧ total.toInt = (s.total name).toInt + d.toInt
  otherCounter : ∀ name, batch.counters.get? name = none →
    t.counters.get? name = s.counters.get? name

/-- No gauge is in both. -/
def Apart (b c : Snapshot) : Prop :=
  ∀ name, b.gauges.get? name = none ∨ c.gauges.get? name = none

/-- **What a merge asks for.** -/
theorem exists_merge_iff (s batch : Snapshot) : (∃ t, s.merge batch = .ok t) ↔ s.Admits batch := by
  have merged : s.merge batch = (Store.putBatch ⟨s.gauges, s.counters⟩ batch).map Store.snapshot :=
    (putBatch_eq_merge ⟨s.gauges, s.counters⟩ batch).symm
  have totals : (∃ totals, Store.newTotals s.counters batch.counters.entries = .ok totals) ↔
      ∀ name d, batch.counters.get? name = some d → InRange ((s.total name).toInt + d.toInt) := by
    rw [Store.exists_newTotals_iff]
    exact ⟨fun fits name d get => fits (name, d) (NameMap.mem_entries.2 get),
      fun fits e mem => fits e.1 e.2 (NameMap.mem_entries.1 mem)⟩
  simp only [merged, Except.map_eq_ok, Store.putBatch, Store.putCounters, Except.bind_eq_ok]
  constructor
  · rintro ⟨_, _, ⟨_, finite, _, ⟨new, made, -⟩, -⟩, -⟩
    exact ⟨checkFinite_eq_ok.1 finite, totals.1 ⟨new, made⟩⟩
  · intro admits
    obtain ⟨new, made⟩ := totals.2 admits.fits
    exact ⟨_, _, ⟨(), checkFinite_eq_ok.2 admits.finite, _, ⟨new, made, rfl⟩, rfl⟩, rfl⟩

/-! ## Merging in place -/

/-- One value written into a snapshot in place. -/
def mergeSampleInPlace (name : String) : Sample → Action Snapshot Unit
  | .gauge x => do
    let x ← .ofOutcome (finiteGauge name x)
    .modify (·.setGauge name x)
  | .counter d => do
    let s ← Action.get
    let total ← .ofOutcome (checkedTotal name (s.total name) d)
    .modify (·.setCounter name total)

/-- Values written in place one after another, up to the first refusal. -/
def mergeSamplesInPlace : List (String × Sample) → Action Snapshot Unit
  | [] => pure ()
  | (name, sample) :: rest => do
    mergeSampleInPlace name sample
    mergeSamplesInPlace rest

/-- A batch written into a copy, which takes the snapshot's place if none of it was refused. -/
def mergeInPlace (batch : Snapshot) : Action Snapshot Unit := do
  let s ← Action.get
  let (outcome, copy) := mergeSamplesInPlace batch.samples s
  .ofOutcome outcome
  .modify fun _ => copy

theorem mergeSampleInPlace_eq (s : Snapshot) (name : String) (x : Sample) :
    mergeSampleInPlace name x s =
      match s.mergeSample name x with
      | .ok t => (.ok (), t)
      | .error e => (.error e, s) := by
  cases x with
  | gauge x =>
    simp only [mergeSampleInPlace, mergeSample]
    cases finiteGauge name x <;> rfl
  | counter d =>
    simp only [mergeSampleInPlace, mergeSample]
    rw [Action.bind_of_ok (show Action.get s = (.ok s, s) from rfl)]
    cases checkedTotal name (s.total name) d <;> rfl

/-- What the copy holds after a refusal is not said: it has the values before the refused one. -/
theorem mergeSamplesInPlace_eq : ∀ (l : List (String × Sample)) (s : Snapshot),
    match s.mergeSamples l with
    | .ok t => mergeSamplesInPlace l s = (.ok (), t)
    | .error e => (mergeSamplesInPlace l s).1 = .error e
  | [], _ => rfl
  | (name, x) :: rest, s => by
    have first := mergeSampleInPlace_eq s name x
    simp only [mergeSamplesInPlace, mergeSamples]
    cases written : s.mergeSample name x with
    | error e =>
      rw [written] at first
      rw [Action.bind_of_error first]
      rfl
    | ok mid =>
      rw [written] at first
      rw [Action.bind_of_ok first]
      exact mergeSamplesInPlace_eq rest mid

/-- In place, a merge does what `merge` says, and nothing when it is refused. -/
theorem mergeInPlace_eq (batch s : Snapshot) :
    mergeInPlace batch s =
      match s.merge batch with
      | .ok t => (.ok (), t)
      | .error e => (.error e, s) := by
  have copied := mergeSamplesInPlace_eq batch.samples s
  rw [mergeInPlace, Action.bind_of_ok (show Action.get s = (.ok s, s) from rfl), merge]
  cases result : s.mergeSamples batch.samples with
  | error e =>
    rw [result] at copied
    simp only [copied, Action.bind_ofOutcome_error]
  | ok t =>
    rw [result] at copied
    simp only [copied, Action.bind_ofOutcome_ok]
    rfl

end Snapshot

/-! ## Values merged more than once -/

namespace Written

variable {s t u : Snapshot} {b c : Snapshot}

theorem own (s : Snapshot) : Written .empty s.samples s where
  gauges name := by
    rw [gaugeWrites_samples]
    cases s.gauges.get? name <;> rfl
  untouched name none := by
    rw [counterWrites_samples] at none
    rw [Option.toList_eq_nil_iff.1 none]
    rfl
  added name some := by
    rw [counterWrites_samples] at some ⊢
    cases get : s.counters.get? name with
    | none => exact absurd (congrArg Option.toList get) some
    | some total => exact ⟨total, rfl, by simp [deltaSum, Snapshot.total, Snapshot.empty]⟩

theorem merged (h : Written s b.samples t) : s.Merged b t where
  gauge name x get := by
    rw [h.gauges, gaugeWrites_samples, get]
    rfl
  otherGauge name get := by
    rw [h.gauges, gaugeWrites_samples, get]
    rfl
  counter name d get := by
    have once : counterWrites name b.samples = [d] := by
      rw [counterWrites_samples, get, Option.toList_some]
    obtain ⟨total, found, sum⟩ := h.added name (by simp [once])
    exact ⟨total, found, by rw [sum, once, deltaSum_cons, deltaSum_nil, Int.add_zero]⟩
  otherCounter name get := h.untouched name (by rw [counterWrites_samples, get, Option.toList_none])

/-- Of two snapshots without a common gauge, it does not matter which is written first. -/
theorem swap (apart : b.Apart c) (h : Written s (b.samples ++ c.samples) t) :
    Written s (c.samples ++ b.samples) t where
  gauges name := by
    rw [h.gauges]
    simp only [gaugeWrites_append, gaugeWrites_samples]
    rcases apart name with none | none <;> simp [none]
  untouched name none := by
    refine h.untouched name ?_
    rw [counterWrites_append, List.append_eq_nil_iff] at none ⊢
    exact none.symm
  added name some := by
    rw [counterWrites_append, deltaSum_append, Int.add_comm (deltaSum _), ← deltaSum_append,
      ← counterWrites_append]
    refine h.added name fun none => some ?_
    rw [counterWrites_append, List.append_eq_nil_iff] at none ⊢
    exact none.symm

end Written

namespace Snapshot

variable {a b c x y : Snapshot}

theorem merge_written (h : a.merge b = .ok x) : Written a b.samples x :=
  mergeSamples_written h

theorem written_of_both (h : (a.merge b >>= (·.merge c)) = .ok x) :
    Written a (b.samples ++ c.samples) x := by
  obtain ⟨mid, first, second⟩ := Except.bind_eq_ok.1 h
  exact (merge_written first).append (merge_written second)

/-- Batches merged into one write what they write one after the other. -/
theorem written_of_joined (h : (b.merge c >>= a.merge) = .ok y) :
    Written a (b.samples ++ c.samples) y := by
  obtain ⟨joined, made, merged⟩ := Except.bind_eq_ok.1 h
  exact ((Written.own b).append (merge_written made)).through (merge_written merged)

end Snapshot

/-- **Batches act on snapshots.** A merge in place is accepted exactly when the snapshot admits the
batch; then gauges are overwritten, counters added and the rest kept, and else the snapshot is as
it was. A batch and then another is their merge at once, and the two commute if they
share no gauge, wherever both ways are accepted. -/
theorem merge_acts (a b c : Snapshot) :
    (match Snapshot.mergeInPlace b a with
      | (.ok (), t) => a.merge b = .ok t ∧ a.Admits b ∧ a.Merged b t
      | (.error e, t) => a.merge b = .error e ∧ ¬ a.Admits b ∧ t = a) ∧
    (∀ x y, (a.merge b >>= (·.merge c)) = .ok x → (b.merge c >>= a.merge) = .ok y → x = y) ∧
    (b.Apart c → ∀ x y, (a.merge b >>= (·.merge c)) = .ok x →
      (a.merge c >>= (·.merge b)) = .ok y → x = y) := by
  refine ⟨?_, fun x y one joined => ?_, fun apart x y one other => ?_⟩
  · have accepted := Snapshot.exists_merge_iff a b
    rw [Snapshot.mergeInPlace_eq]
    cases result : a.merge b with
    | ok t => exact ⟨rfl, accepted.1 ⟨t, result⟩, (Snapshot.merge_written result).merged⟩
    | error e =>
      refine ⟨rfl, fun admits => ?_, rfl⟩
      obtain ⟨t, made⟩ := accepted.2 admits
      rw [result] at made
      cases made
  · exact (Snapshot.written_of_both one).unique (Snapshot.written_of_joined joined)
  · exact ((Snapshot.written_of_both one).swap apart).unique (Snapshot.written_of_both other)

/-- A counter that comes to its limit in one of the orders, and a gauge that is overwritten. -/
theorem merge_acts_at_limit :
    let a : Snapshot :=
      ⟨NameMap.empty.insert "load" (.ofNat 1), NameMap.empty.insert "hits" 9223372036854775800⟩
    let b : Snapshot := ⟨NameMap.empty.insert "load" (.ofNat 2), NameMap.empty.insert "hits" (-5)⟩
    let c : Snapshot :=
      ⟨NameMap.empty.insert "heap" (.ofNat 3), (NameMap.empty.insert "hits" 7).insert "errors" 1⟩
    b.Apart c ∧ ∃ x, (a.merge b >>= (·.merge c)) = .ok x ∧ (b.merge c >>= a.merge) = .ok x ∧
      (a.merge c >>= (·.merge b)) = .ok x := by
  intro a b c
  have apart : b.Apart c := by
    intro name
    by_cases load : name = "load"
    · exact .inr (by rw [load]; decide)
    · exact .inl (NameMap.get?_insert_other _ load _)
  have accepted {m : Outcome Snapshot} (some : m.toOption.isSome = true) : ∃ x, m = .ok x := by
    obtain ⟨x, here⟩ := Option.isSome_iff_exists.1 some
    exact ⟨x, Except.toOption_eq_some.1 here⟩
  obtain ⟨x, one⟩ := accepted (m := a.merge b >>= (·.merge c)) (by decide +kernel)
  obtain ⟨y, joined⟩ := accepted (m := b.merge c >>= a.merge) (by decide +kernel)
  obtain ⟨z, other⟩ := accepted (m := a.merge c >>= (·.merge b)) (by decide +kernel)
  obtain ⟨-, assoc, comm⟩ := merge_acts a b c
  refine ⟨apart, x, one, ?_, ?_⟩
  · rw [assoc x y one joined, joined]
  · rw [comm apart x z one other, other]

/-- One more and one less fit together on top of the greatest total, and not one after the other. -/
example :
    let a : Snapshot := ⟨.empty, NameMap.empty.insert "hits" 9223372036854775807⟩
    let b : Snapshot := ⟨.empty, NameMap.empty.insert "hits" 1⟩
    let c : Snapshot := ⟨.empty, NameMap.empty.insert "hits" (-1)⟩
    (a.merge b).toOption = none ∧ (b.merge c >>= a.merge).toOption = some a := by
  decide +kernel

end Telemetry
