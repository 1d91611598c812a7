/-
Calls to one store whose sections come in any order.

A write of one value is one section of the store, a batch is its counter section and then its gauge
section, and a copy of all metrics reads the gauges and then the counters. Between two sections of
a call any sections of others may come. Which batches are refused depends on that order, but what
is counted does not: every refusal comes before or in a call's first section, so a call
is refused as a whole, and each counter is what it was at first plus the deltas of the
calls that were not (`sections_account`).
-/
import Mathlib.Algebra.BigOperators.Group.Finset.Basic
import Mathlib.Data.Fintype.Defs
import Mathlib.Logic.Function.Basic
import Telemetry.Proofs.Batch

namespace Telemetry.Store

/-- A write of one value, of a batch, or a copy of all metrics. -/
inductive Call where
  | put (name : String) (x : Sample)
  | batch (b : Snapshot)
  | all

/-- What a call returns. -/
inductive Answer where
  | written
  | refused (e : Failure)
  | seen (s : Snapshot)
  deriving DecidableEq

/-- How far a call is: before its first section, between the sections of a batch or of a copy, or
returned. -/
inductive Stage where
  | waiting
  | half
  | halfRead (gauges : NameMap Binary64)
  | returned (answer : Answer)
  deriving DecidableEq

namespace Stage

/-- The counters that the call writes are in the store. -/
def hasCounted : Stage → Bool
  | half | returned .written => true
  | _ => false

/-- The call has returned and was not refused, so all that it writes is in the store. A copy writes
nothing, and is not counted here. -/
def hasWritten : Stage → Bool
  | returned .written => true
  | _ => false

variable {t : Stage}

theorem eq_of_hasWritten (h : t.hasWritten = true) : t = .returned .written := by
  cases t with
  | returned a => cases a <;> first | rfl | cases h
  | _ => cases h

theorem hasCounted_of_hasWritten (h : t.hasWritten = true) : t.hasCounted = true := by
  rw [eq_of_hasWritten h]
  rfl

end Stage

namespace Call

/-- The next section of a call, with all that it does before and after it. A call that has returned
does nothing more. -/
def move : Call → Stage → Store → Stage × Store
  | .put name x, .waiting, s =>
    match s.put name x with
    | .ok s => (.returned .written, s)
    | .error e => (.returned (.refused e), s)
  | .batch b, .waiting, s =>
    match (do b.checkFinite; putCounters s.counters b.counters) with
    | .ok counters => (.half, { s with counters })
    | .error e => (.returned (.refused e), s)
  | .batch b, .half, s => (.returned .written, { s with gauges := putGauges s.gauges b.gauges })
  | .all, .waiting, s => (.halfRead s.gauges, s)
  | .all, .halfRead gauges, s => (.returned (.seen ⟨gauges, s.counters⟩), s)
  | _, t, s => (t, s)

/-- What a call does as one operation of the store. -/
def whole : Call → Store → Stage × Store
  | .put name x, s =>
    match s.put name x with
    | .ok t => (.returned .written, t)
    | .error e => (.returned (.refused e), s)
  | .batch b, s =>
    match s.putBatch b with
    | .ok t => (.returned .written, t)
    | .error e => (.returned (.refused e), s)
  | .all, s => (.returned (.seen s.snapshot), s)

/-- **A call whose two sections follow each other is the operation of the store.** -/
theorem move_twice (c : Call) (s : Store) :
    c.move (c.move .waiting s).1 (c.move .waiting s).2 = c.whole s := by
  cases c with
  | put name x =>
    simp only [move, whole]
    cases s.put name x <;> rfl
  | batch b =>
    simp only [move, whole, putBatch]
    cases b.checkFinite with
    | error e => rfl
    | ok _ =>
      simp only [Except.ok_bind]
      cases putCounters s.counters b.counters <;> rfl
  | all => rfl

/-- The values that a call writes. -/
def writes : Call → List (String × Sample)
  | .put name x => [(name, x)]
  | .batch b => b.samples
  | .all => []

/-- What a call adds to a counter. -/
def delta (c : Call) (name : String) : Int :=
  deltaSum (counterWrites name c.writes)

/-- What a call sets a gauge to, if it writes that gauge. -/
def gauge? (c : Call) (name : String) : Option Binary64 :=
  (gaugeWrites name c.writes).getLast?

/-! ## What a section does -/

variable {c : Call} {t : Stage} {s : Store} {name : String}

theorem gauge?_batch (b : Snapshot) (name : String) : (batch b).gauge? name = b.gauges.get? name := by
  rw [gauge?, writes, gaugeWrites_samples]
  cases b.gauges.get? name <;> rfl

theorem put_written {u : Store} {x : Sample} (h : s.put name x = .ok u) :
    Written s.snapshot [(name, x)] u.snapshot := by
  have merged := put_eq_mergeSample s name x
  rw [h] at merged
  exact mergeSample_written merged.symm

theorem total_putCounters {b : Snapshot} {counters : NameMap Int64}
    (h : putCounters s.counters b.counters = .ok counters) (name : String) :
    (Snapshot.total ⟨s.gauges, counters⟩ name).toInt =
      (s.snapshot.total name).toInt + (batch b).delta name := by
  have alone : s.putBatch ⟨.empty, b.counters⟩ = .ok ⟨s.gauges, counters⟩ := by
    rw [putBatch, h]
    rfl
  have added := (putBatch_written alone).total name
  rw [counterWrites_samples] at added
  rw [delta, writes, counterWrites_samples]
  exact added

/-- A section leaves the counters, or it adds all that the call adds to them. -/
theorem move_counters (c : Call) (t : Stage) (s : Store) :
    ((c.move t s).1.hasCounted = t.hasCounted ∧ (c.move t s).2.counters = s.counters) ∨
      (t.hasCounted = false ∧ (c.move t s).1.hasCounted = true ∧ ∀ name,
        ((c.move t s).2.snapshot.total name).toInt = (s.snapshot.total name).toInt + c.delta name) := by
  cases t with
  | waiting =>
    cases c with
    | put name x =>
      rw [move]
      cases put : s.put name x with
      | error e => exact .inl ⟨rfl, rfl⟩
      | ok u => exact .inr ⟨rfl, rfl, (put_written put).total⟩
    | batch b =>
      rw [move]
      cases finite : b.checkFinite with
      | error e => exact .inl ⟨rfl, rfl⟩
      | ok _ =>
        rw [Except.ok_bind]
        cases counted : putCounters s.counters b.counters with
        | error e => exact .inl ⟨rfl, rfl⟩
        | ok counters => exact .inr ⟨rfl, rfl, total_putCounters counted⟩
    | all => exact .inl ⟨rfl, rfl⟩
  | half => cases c <;> exact .inl ⟨rfl, rfl⟩
  | halfRead gauges => cases c <;> exact .inl ⟨rfl, rfl⟩
  | returned answer => cases c <;> exact .inl ⟨rfl, rfl⟩

/-- A section leaves the gauges, or it sets all that the call sets, which is then done. -/
theorem move_gauges (c : Call) (t : Stage) (s : Store) :
    ((c.move t s).1.hasWritten = t.hasWritten ∧ (c.move t s).2.gauges = s.gauges) ∨
      (t.hasWritten = false ∧ (c.move t s).1.hasWritten = true ∧ ∀ name,
        (c.move t s).2.gauges.get? name = (c.gauge? name).or (s.gauges.get? name)) := by
  cases t with
  | waiting =>
    cases c with
    | put name x =>
      rw [move]
      cases put : s.put name x with
      | error e => exact .inl ⟨rfl, rfl⟩
      | ok u => exact .inr ⟨rfl, rfl, (put_written put).gauges⟩
    | batch b =>
      rw [move]
      cases finite : b.checkFinite with
      | error e => exact .inl ⟨rfl, rfl⟩
      | ok _ =>
        rw [Except.ok_bind]
        cases counted : putCounters s.counters b.counters <;> exact .inl ⟨rfl, rfl⟩
    | all => exact .inl ⟨rfl, rfl⟩
  | half =>
    cases c with
    | batch b =>
      refine .inr ⟨rfl, rfl, fun name => ?_⟩
      rw [gauge?_batch]
      exact NameMap.get?_insertAll name s.gauges b.gauges.nodup_names
    | _ => exact .inl ⟨rfl, rfl⟩
  | halfRead gauges => cases c <;> exact .inl ⟨rfl, rfl⟩
  | returned answer => cases c <;> exact .inl ⟨rfl, rfl⟩

@[simp] theorem move_returned (c : Call) (a : Answer) (s : Store) :
    c.move (.returned a) s = (.returned a, s) := by
  cases c <;> rfl

theorem gauges_of_halfRead {gauges : NameMap Binary64} (h : (c.move t s).1 = .halfRead gauges) :
    t = .halfRead gauges ∨ gauges = s.gauges := by
  cases t with
  | waiting =>
    cases c with
    | put name x =>
      rw [move] at h
      split at h <;> cases h
    | batch b =>
      rw [move] at h
      split at h <;> cases h
    | all => exact .inr (Stage.halfRead.inj h).symm
  | half => cases c <;> cases h
  | halfRead read =>
    cases c with
    | all => cases h
    | _ => exact .inl h
  | returned answer =>
    rw [move_returned] at h
    exact .inl h

theorem counters_of_seen {u : Snapshot} (h : (c.move t s).1 = .returned (.seen u)) :
    t = .returned (.seen u) ∨ t = .halfRead u.gauges ∧ u.counters = s.counters := by
  cases t with
  | waiting =>
    cases c with
    | put name x =>
      rw [move] at h
      split at h <;> cases h
    | batch b =>
      rw [move] at h
      split at h <;> cases h
    | all => cases h
  | half => cases c <;> cases h
  | halfRead gauges =>
    cases c with
    | all =>
      obtain rfl := Answer.seen.inj (Stage.returned.inj h)
      exact .inr ⟨rfl, rfl⟩
    | _ => cases h
  | returned answer =>
    rw [move_returned] at h
    exact .inl h

end Call

/-! ## Interleavings -/

section Interleavings

variable {ι : Type} [DecidableEq ι]

/-- The store, and how far each call on it is. -/
structure Shared (ι : Type) where
  live : Store
  stages : ι → Stage

/-- The next section of one of the calls. -/
def Shared.move (calls : ι → Call) (st : Shared ι) (i : ι) : Shared ι :=
  let moved := (calls i).move (st.stages i) st.live
  ⟨moved.2, Function.update st.stages i moved.1⟩

/-- The state after so many sections, of the calls that the schedule names. -/
def after (calls : ι → Call) (s : Store) (schedule : Nat → ι) : Nat → Shared ι
  | 0 => ⟨s, fun _ => .waiting⟩
  | m + 1 => (after calls s schedule m).move calls (schedule m)

variable {calls : ι → Call} {s : Store} {schedule : Nat → ι}

variable (calls s schedule) in
theorem stages_moved (m : Nat) : (after calls s schedule (m + 1)).stages (schedule m) =
    ((calls (schedule m)).move ((after calls s schedule m).stages (schedule m))
      (after calls s schedule m).live).1 :=
  Function.update_self _ _ _

theorem stages_other {i : ι} {m : Nat} (ne : i ≠ schedule m) :
    (after calls s schedule (m + 1)).stages i = (after calls s schedule m).stages i :=
  Function.update_of_ne ne _ _

/-- A call whose two sections follow each other does what the operation of the store does. -/
theorem whole_of_adjacent {i : ι} {k : Nat} (waiting : (after calls s schedule k).stages i = .waiting)
    (first : schedule k = i) (second : schedule (k + 1) = i) :
    ((after calls s schedule (k + 2)).stages i, (after calls s schedule (k + 2)).live) =
      (calls i).whole (after calls s schedule k).live := by
  subst first
  have stage := stages_moved calls s schedule k
  have stage' := stages_moved calls s schedule (k + 1)
  have live : (after calls s schedule (k + 1)).live =
      ((calls (schedule k)).move .waiting (after calls s schedule k).live).2 := by
    rw [← waiting]
    rfl
  rw [waiting] at stage
  rw [second, stage, live, Call.move_twice] at stage'
  refine Prod.ext stage' ?_
  rw [← Call.move_twice, ← stage, ← live, ← second]
  rfl

/-- What no section of a call undoes, later sections leave. -/
theorem stays {holds : Stage → Bool}
    (kept : ∀ (c : Call) (t : Stage) (s : Store), holds t = true → holds (c.move t s).1 = true)
    {i : ι} {k m : Nat} (le : k ≤ m) (h : holds ((after calls s schedule k).stages i) = true) :
    holds ((after calls s schedule m).stages i) = true := by
  induction m, le using Nat.le_induction with
  | base => exact h
  | succ m _ ih =>
    by_cases own : i = schedule m
    · subst own
      rw [stages_moved]
      exact kept _ _ _ ih
    · rw [stages_other own, ih]

theorem hasCounted_mono {i : ι} {k m : Nat} (le : k ≤ m)
    (h : ((after calls s schedule k).stages i).hasCounted = true) :
    ((after calls s schedule m).stages i).hasCounted = true := by
  refine stays (fun c t s before => ?_) le h
  rcases c.move_counters t s with ⟨same, -⟩ | ⟨-, counted, -⟩
  · exact same.trans before
  · exact counted

theorem hasWritten_mono {i : ι} {k m : Nat} (le : k ≤ m)
    (h : ((after calls s schedule k).stages i).hasWritten = true) :
    ((after calls s schedule m).stages i).hasWritten = true := by
  refine stays (fun c t s before => ?_) le h
  rcases c.move_gauges t s with ⟨same, -⟩ | ⟨-, written, -⟩
  · exact same.trans before
  · exact written

/-- What the calls have added to a counter that have their counters in the store. -/
def counted [Fintype ι] (calls : ι → Call) (st : Shared ι) (name : String) : Int :=
  ∑ i, if (st.stages i).hasCounted then (calls i).delta name else 0

variable (calls s schedule) in
/-- Only the call that moves can change what is added. -/
theorem counted_succ [Fintype ι] (m : Nat) (name : String) :
    counted calls (after calls s schedule (m + 1)) name +
        (if ((after calls s schedule m).stages (schedule m)).hasCounted then
          (calls (schedule m)).delta name else 0) =
      counted calls (after calls s schedule m) name +
        (if ((after calls s schedule (m + 1)).stages (schedule m)).hasCounted then
          (calls (schedule m)).delta name else 0) := by
  have others : (∑ i ∈ Finset.univ.erase (schedule m),
        if ((after calls s schedule (m + 1)).stages i).hasCounted then (calls i).delta name else 0) =
      ∑ i ∈ Finset.univ.erase (schedule m),
        if ((after calls s schedule m).stages i).hasCounted then (calls i).delta name else 0 := by
    refine Finset.sum_congr rfl fun i mem => ?_
    rw [stages_other (Finset.ne_of_mem_erase mem)]
  rw [counted, counted, ← Finset.add_sum_erase _ _ (Finset.mem_univ (schedule m)), others,
    ← Finset.add_sum_erase _ _ (Finset.mem_univ (schedule m))]
  omega

/-- **At every moment a counter is what it was at first, with the deltas of the calls added that have
had their counter section.** -/
theorem total_after [Fintype ι] (m : Nat) (name : String) :
    ((after calls s schedule m).live.snapshot.total name).toInt =
      (s.snapshot.total name).toInt + counted calls (after calls s schedule m) name := by
  induction m with
  | zero =>
    have none : counted calls (after calls s schedule 0) name = 0 := by
      simp [counted, after, Stage.hasCounted]
    rw [none, Int.add_zero]
    rfl
  | succ m ih =>
    have sum := counted_succ calls s schedule m name
    simp only [stages_moved] at sum
    have live : (after calls s schedule (m + 1)).live =
        ((calls (schedule m)).move ((after calls s schedule m).stages (schedule m))
          (after calls s schedule m).live).2 := rfl
    rw [live]
    rcases Call.move_counters (calls (schedule m)) ((after calls s schedule m).stages (schedule m))
      (after calls s schedule m).live with ⟨still, left⟩ | ⟨before, now, added⟩
    · rw [still] at sum
      rw [add_right_cancel sum, ← ih, Snapshot.total, Snapshot.total]
      simp only [Store.snapshot, left]
    · simp only [before, now, Bool.false_eq_true, if_false, if_true] at sum
      rw [added, ih]
      omega

/-- With its move at `k` a call has written all that it writes. For a call that writes gauges this is its
gauge section. -/
def Completes (calls : ι → Call) (s : Store) (schedule : Nat → ι) (k : Nat) : Prop :=
  ((after calls s schedule k).stages (schedule k)).hasWritten = false ∧
    ((after calls s schedule (k + 1)).stages (schedule k)).hasWritten = true

/-- The value of a gauge after `m` moves: that of the last gauge section that wrote it, or if there was
none, the value at first. -/
def LastSet (calls : ι → Call) (s : Store) (schedule : Nat → ι) (m : Nat) (name : String)
    (x : Option Binary64) : Prop :=
  (∃ k < m, Completes calls s schedule k ∧ (calls (schedule k)).gauge? name = x ∧ x ≠ none ∧
      ∀ j < m, k < j → Completes calls s schedule j → (calls (schedule j)).gauge? name = none) ∨
    (∀ k < m, Completes calls s schedule k → (calls (schedule k)).gauge? name = none) ∧
      x = s.gauges.get? name

variable (calls s schedule) in
/-- A move completes its call and sets its gauges, or it completes none and leaves the gauges. -/
theorem gauges_succ (m : Nat) :
    (Completes calls s schedule m ∧ ∀ name, (after calls s schedule (m + 1)).live.gauges.get? name =
        ((calls (schedule m)).gauge? name).or ((after calls s schedule m).live.gauges.get? name)) ∨
      ¬ Completes calls s schedule m ∧
        (after calls s schedule (m + 1)).live.gauges = (after calls s schedule m).live.gauges := by
  have next := stages_moved calls s schedule m
  rcases Call.move_gauges (calls (schedule m)) ((after calls s schedule m).stages (schedule m))
    (after calls s schedule m).live with ⟨still, left⟩ | ⟨before, now, set⟩
  · refine .inr ⟨?_, left⟩
    rintro ⟨before, now⟩
    rw [next, still, before] at now
    cases now
  · exact .inl ⟨⟨before, by rw [next, now]⟩, set⟩

variable (calls s schedule) in
/-- **At every moment each gauge holds the value of the last gauge section that wrote it.** -/
theorem gauges_after (m : Nat) (name : String) :
    LastSet calls s schedule m name ((after calls s schedule m).live.gauges.get? name) := by
  induction m with
  | zero => exact .inr ⟨fun k lt => absurd lt (Nat.not_lt_zero k), rfl⟩
  | succ m ih =>
    -- A move that does not write the gauge adds nothing to the history of it.
    have still (same : (after calls s schedule (m + 1)).live.gauges.get? name =
          (after calls s schedule m).live.gauges.get? name)
        (quiet : Completes calls s schedule m → (calls (schedule m)).gauge? name = none) :
        LastSet calls s schedule (m + 1) name
          ((after calls s schedule (m + 1)).live.gauges.get? name) := by
      rw [same]
      rcases ih with ⟨k, lt, completes, sets, some, later⟩ | ⟨quiet_before, first⟩
      · refine .inl ⟨k, by omega, completes, sets, some, fun j lt' after_k done => ?_⟩
        rcases Nat.lt_succ_iff_lt_or_eq.1 lt' with earlier | rfl
        · exact later j earlier after_k done
        · exact quiet done
      · refine .inr ⟨fun k lt done => ?_, first⟩
        rcases Nat.lt_succ_iff_lt_or_eq.1 lt with earlier | rfl
        · exact quiet_before k earlier done
        · exact quiet done
    rcases gauges_succ calls s schedule m with
      ⟨completes, set⟩ | ⟨incomplete, left⟩
    · cases sets : (calls (schedule m)).gauge? name with
      | none =>
        refine still ?_ fun _ => sets
        rw [set, sets, Option.none_or]
      | some x =>
        rw [set, sets, Option.some_or]
        exact .inl ⟨m, by omega, completes, sets, by simp, fun j lt after_m => by omega⟩
    · exact still (by rw [left]) fun completes => absurd completes incomplete

theorem completed_of_written {i : ι} {m : Nat}
    (h : ((after calls s schedule m).stages i).hasWritten = true) :
    ∃ k < m, schedule k = i ∧ Completes calls s schedule k := by
  induction m with
  | zero => cases h
  | succ m ih =>
    cases before : ((after calls s schedule m).stages i).hasWritten with
    | true =>
      obtain ⟨k, lt, own, completes⟩ := ih before
      exact ⟨k, by omega, own, completes⟩
    | false =>
      by_cases own : i = schedule m
      · subst own
        exact ⟨m, by omega, rfl, before, h⟩
      · rw [stages_other own, before] at h
        cases h

/-- **A call that is refused has changed nothing**, at none of its moves. -/
theorem live_of_refused {i : ι} {e : Failure} {m : Nat}
    (refused : (after calls s schedule m).stages i = .returned (.refused e)) {k : Nat} (lt : k < m)
    (own : schedule k = i) : (after calls s schedule (k + 1)).live = (after calls s schedule k).live := by
  subst own
  have uncounted : ((after calls s schedule (k + 1)).stages (schedule k)).hasCounted ≠ true := by
    intro counted
    have at_last := hasCounted_mono lt counted
    rw [refused] at at_last
    cases at_last
  have unwritten : ((after calls s schedule (k + 1)).stages (schedule k)).hasWritten ≠ true :=
    fun written => uncounted (Stage.hasCounted_of_hasWritten written)
  rw [stages_moved] at uncounted unwritten
  have counters : (after calls s schedule (k + 1)).live.counters =
      (after calls s schedule k).live.counters := by
    rcases Call.move_counters (calls (schedule k)) _ (after calls s schedule k).live with
      ⟨-, left⟩ | ⟨-, counted, -⟩
    · exact left
    · exact absurd counted uncounted
  have gauges : (after calls s schedule (k + 1)).live.gauges =
      (after calls s schedule k).live.gauges := by
    rcases Call.move_gauges (calls (schedule k)) _ (after calls s schedule k).live with
      ⟨-, left⟩ | ⟨-, written, -⟩
    · exact left
    · exact absurd written unwritten
  exact snapshot_inj (by rw [Store.snapshot, Store.snapshot, counters, gauges])

theorem halfRead_after {i : ι} {m : Nat} {gauges : NameMap Binary64}
    (h : (after calls s schedule m).stages i = .halfRead gauges) :
    ∃ k ≤ m, gauges = (after calls s schedule k).live.gauges := by
  induction m with
  | zero => cases h
  | succ m ih =>
    by_cases own : i = schedule m
    · subst own
      rw [stages_moved] at h
      rcases Call.gauges_of_halfRead h with before | read
      · obtain ⟨k, le, same⟩ := ih before
        exact ⟨k, by omega, same⟩
      · exact ⟨m, by omega, read⟩
    · rw [stages_other own] at h
      obtain ⟨k, le, same⟩ := ih h
      exact ⟨k, by omega, same⟩

/-- A copy holds the gauges of one moment and the counters of one moment, which is no earlier. -/
theorem seen_after {i : ι} {m : Nat} {t : Snapshot}
    (h : (after calls s schedule m).stages i = .returned (.seen t)) :
    ∃ k k', k ≤ k' ∧ k' ≤ m ∧ t.gauges = (after calls s schedule k).live.gauges ∧
      t.counters = (after calls s schedule k').live.counters := by
  induction m with
  | zero => cases h
  | succ m ih =>
    by_cases own : i = schedule m
    · subst own
      rw [stages_moved] at h
      rcases Call.counters_of_seen h with before | ⟨half, counters⟩
      · obtain ⟨k, k', le, le', same⟩ := ih before
        exact ⟨k, k', le, by omega, same⟩
      · obtain ⟨k, le, gauges⟩ := halfRead_after half
        exact ⟨k, m, le, by omega, gauges, counters⟩
    · rw [stages_other own] at h
      obtain ⟨k, k', le, le', same⟩ := ih h
      exact ⟨k, k', le, by omega, same⟩

/-! ## Accounting -/

/-- **What any calls make of a store, in whatever order their sections come.** When all have returned,
each counter is what it was at first plus the deltas of the calls that were not refused. A gauge
that one of these wrote holds what the last gauge section set that wrote it, and that was
the section of such a call. A call that was refused has left the store at each of its moves, and one
whose two sections follow each other does what the operation of the store does. And a
copy of all metrics has the gauges of one moment and the counters of one moment: each batch
is in its gauges, under all its names, or it is not, and so with its counters. -/
theorem sections_account [Fintype ι] (calls : ι → Call) (s : Store) (schedule : Nat → ι) (m : Nat)
    (ended : ∀ i, ∃ a, (after calls s schedule m).stages i = .returned a) :
    let last := after calls s schedule m
    (∀ name, (last.live.snapshot.total name).toInt = (s.snapshot.total name).toInt +
        ∑ i, if (last.stages i).hasWritten then (calls i).delta name else 0) ∧
      (∀ i name, (last.stages i).hasWritten = true → (calls i).gauge? name ≠ none →
        ∃ k < m, ∃ x, Completes calls s schedule k ∧ (last.stages (schedule k)).hasWritten = true ∧
          (calls (schedule k)).gauge? name = some x ∧ last.live.gauges.get? name = some x ∧
          ∀ j < m, k < j → Completes calls s schedule j → (calls (schedule j)).gauge? name = none) ∧
      (∀ i e, last.stages i = .returned (.refused e) → ∀ k < m, schedule k = i →
        (after calls s schedule (k + 1)).live = (after calls s schedule k).live) ∧
      (∀ i k, (after calls s schedule k).stages i = .waiting → schedule k = i → schedule (k + 1) = i →
        ((after calls s schedule (k + 2)).stages i, (after calls s schedule (k + 2)).live) =
          (calls i).whole (after calls s schedule k).live) ∧
      ∀ i t, last.stages i = .returned (.seen t) → ∃ k k', k ≤ k' ∧ k' ≤ m ∧
        (∀ name, LastSet calls s schedule k name (t.gauges.get? name)) ∧
        ∀ name, (t.total name).toInt =
          (s.snapshot.total name).toInt + counted calls (after calls s schedule k') name := by
  intro last
  refine ⟨fun name => ?_, fun i name written writes => ?_, fun i e refused k lt own => ?_,
    fun i k waiting first second => ?_, fun i t seen => ?_⟩
  · have same : counted calls last name =
        ∑ i, if (last.stages i).hasWritten then (calls i).delta name else 0 := by
      refine Finset.sum_congr rfl fun i _ => ?_
      obtain ⟨a, returned⟩ := ended i
      have alike : (last.stages i).hasCounted = (last.stages i).hasWritten := by
        rw [show last.stages i = .returned a from returned]
        cases a <;> rfl
      rw [alike]
    rw [← same]
    exact total_after m name
  · rcases gauges_after calls s schedule m name with
      ⟨k, lt, completes, sets, some, later⟩ | ⟨quiet, -⟩
    · obtain ⟨x, value⟩ := Option.ne_none_iff_exists'.1 some
      exact ⟨k, lt, x, completes, hasWritten_mono lt completes.2, sets.trans value, value, later⟩
    · obtain ⟨k, lt, rfl, completes⟩ := completed_of_written written
      exact absurd (quiet k lt completes) writes
  · exact live_of_refused refused lt own
  · exact whole_of_adjacent waiting first second
  · obtain ⟨k, k', le, le', gauges, counters⟩ := seen_after seen
    refine ⟨k, k', le, le', fun name => ?_, fun name => ?_⟩
    · rw [gauges]
      exact gauges_after calls s schedule k name
    · rw [← total_after, Snapshot.total, Snapshot.total, counters]
      rfl

/-- A batch whose sections come between those of a copy: the copy has the batch's counter and not
its gauge, and the store has both in the end. -/
theorem sections_account_between :
    let one : Binary64 := .finite false ⟨4503599627370496, 1022, by decide, by decide, by decide⟩
    let b : Snapshot := ⟨NameMap.empty.insert "load" one, NameMap.empty.insert "jobs" 2⟩
    let calls : Bool → Call := fun writes => if writes then .batch b else .all
    let schedule : Nat → Bool := fun k => k % 2 = 1
    (∀ i, ∃ a, (after calls .empty schedule 4).stages i = .returned a) ∧
      (after calls .empty schedule 4).stages false =
        .returned (.seen ⟨.empty, NameMap.empty.insert "jobs" 2⟩) ∧
      ((after calls .empty schedule 4).live.snapshot.total "jobs").toInt = 2 ∧
      (after calls .empty schedule 4).live.gauges.get? "load" = some one := by
  intro one b calls schedule
  have copied : (after calls .empty schedule 4).stages false =
      .returned (.seen ⟨.empty, NameMap.empty.insert "jobs" 2⟩) := by decide +kernel
  have batched : (after calls .empty schedule 4).stages true = .returned .written := by
    decide +kernel
  have ended : ∀ i, ∃ a, (after calls .empty schedule 4).stages i = .returned a := by
    intro i
    cases i with
    | false => exact ⟨_, copied⟩
    | true => exact ⟨_, batched⟩
  obtain ⟨totals, gauges, -, -, -⟩ := sections_account calls .empty schedule 4 ended
  refine ⟨ended, copied, ?_, ?_⟩
  · rw [totals]
    decide +kernel
  · have writes : (calls true).gauge? "load" ≠ none := by decide +kernel
    obtain ⟨k, lt, x, -, written, sets, holds, -⟩ := gauges true "load" (by rw [batched]; rfl) writes
    cases own : schedule k with
    | false =>
      rw [own, copied] at written
      cases written
    | true =>
      have value : (calls true).gauge? "load" = some one := by decide +kernel
      rw [own, value] at sets
      rw [holds, sets]

end Interleavings

end Telemetry.Store
