/-
What writing a list of values makes of a snapshot, name by name.

`Written s l t` says that `t` is `s` with the values `l` written to it: a gauge has
its last value, a counter the sum of its deltas on top of its old total, and a name
that is not in `l` what it had. It says everything (`Written.unique`), and lists
written one after another are their concatenation written (`Written.append`), so two
ways of writing the same values agree without a look at how either went.

One value and a list of values write in this sense when they are accepted:
`mergeSample_written`, `mergeSamples_written`. A batch is checked first and written then,
but with the same result and the same refusal as its values one by one
(`putBatch_eq_merge`).
-/
import Telemetry.Proofs.NameMap
import Telemetry.Proofs.Outcome

namespace Telemetry

/-- The values that some writes give a gauge, in their order. -/
def gaugeWrites (name : String) (l : List (String × Sample)) : List Binary64 :=
  l.filterMap fun (n, sample) =>
    match sample with
    | .gauge x => if n = name then some x else none
    | .counter _ => none

/-- The deltas that some writes give a counter, in their order. -/
def counterWrites (name : String) (l : List (String × Sample)) : List Int64 :=
  l.filterMap fun (n, sample) =>
    match sample with
    | .gauge _ => none
    | .counter d => if n = name then some d else none

/-- The sum of some deltas, which may be too large for a total. -/
def deltaSum (ds : List Int64) : Int :=
  ds.foldr (fun d sum => d.toInt + sum) 0

/-- A sum that 64 bits hold. -/
def InRange (i : Int) : Prop :=
  Int64.minValue.toInt ≤ i ∧ i ≤ Int64.maxValue.toInt

instance (i : Int) : Decidable (InRange i) :=
  inferInstanceAs (Decidable (_ ∧ _))

/-- `t` is `s` with the values `l` written to it. -/
structure Written (s : Snapshot) (l : List (String × Sample)) (t : Snapshot) : Prop where
  gauges : ∀ name, t.gauges.get? name = (gaugeWrites name l).getLast?.or (s.gauges.get? name)
  untouched : ∀ name, counterWrites name l = [] → t.counters.get? name = s.counters.get? name
  added : ∀ name, counterWrites name l ≠ [] → ∃ total, t.counters.get? name = some total ∧
    total.toInt = (s.total name).toInt + deltaSum (counterWrites name l)

theorem gaugeWrites_append (name : String) (l₁ l₂ : List (String × Sample)) :
    gaugeWrites name (l₁ ++ l₂) = gaugeWrites name l₁ ++ gaugeWrites name l₂ :=
  List.filterMap_append

theorem counterWrites_append (name : String) (l₁ l₂ : List (String × Sample)) :
    counterWrites name (l₁ ++ l₂) = counterWrites name l₁ ++ counterWrites name l₂ :=
  List.filterMap_append

@[simp] theorem deltaSum_nil : deltaSum [] = 0 := rfl

theorem deltaSum_cons (d : Int64) (ds : List Int64) : deltaSum (d :: ds) = d.toInt + deltaSum ds := rfl

theorem deltaSum_append (ds es : List Int64) : deltaSum (ds ++ es) = deltaSum ds + deltaSum es := by
  induction ds with
  | nil => simp
  | cons d rest ih => rw [List.cons_append, deltaSum_cons, deltaSum_cons, ih, Int.add_assoc]

theorem gaugeWrites_counters (name : String) (es : List (String × Int64)) :
    gaugeWrites name (es.map fun (n, d) => (n, .counter d)) = [] := by
  simp [gaugeWrites]

theorem counterWrites_gauges (name : String) (es : List (String × Binary64)) :
    counterWrites name (es.map fun (n, x) => (n, .gauge x)) = [] := by
  simp [counterWrites]

theorem gaugeWrites_samples (s : Snapshot) (name : String) :
    gaugeWrites name s.samples = (s.gauges.get? name).toList := by
  rw [Snapshot.samples, gaugeWrites_append, gaugeWrites_counters, List.append_nil, gaugeWrites,
    List.filterMap_map]
  exact NameMap.filterMap_lookup name s.gauges.nodup_names

theorem counterWrites_samples (s : Snapshot) (name : String) :
    counterWrites name s.samples = (s.counters.get? name).toList := by
  rw [Snapshot.samples, counterWrites_append, counterWrites_gauges, List.nil_append, counterWrites,
    List.filterMap_map]
  exact NameMap.filterMap_lookup name s.counters.nodup_names

theorem toInt_ofInt {i : Int} (h : InRange i) : (Int64.ofInt i).toInt = i := by
  obtain ⟨low, high⟩ := h
  exact Int64.toInt_ofInt_of_le low (Int.lt_add_one_of_le high)

theorem inRange_toInt (d : Int64) : InRange d.toInt :=
  ⟨Int64.le_toInt d, Int.le_of_lt_add_one (Int64.toInt_lt d)⟩

/-- A total is refused exactly when 64 bits do not hold it. -/
theorem checkedTotal_eq (name : String) (total delta : Int64) :
    checkedTotal name total delta =
      if InRange (total.toInt + delta.toInt) then .ok (Int64.ofInt (total.toInt + delta.toInt))
      else .error (.rejected (.overflow name total delta)) := rfl

theorem toInt_of_checkedTotal {name : String} {total delta sum : Int64}
    (h : checkedTotal name total delta = .ok sum) :
    InRange (total.toInt + delta.toInt) ∧ sum.toInt = total.toInt + delta.toInt := by
  rw [checkedTotal_eq] at h
  split at h
  · rename_i fits
    rw [← Except.ok.inj h]
    exact ⟨fits, toInt_ofInt fits⟩
  · cases h

theorem finiteGauge_eq_ok {name : String} {x y : Binary64} :
    finiteGauge name x = .ok y ↔ x.isFinite = true ∧ y = x := by
  unfold finiteGauge
  split <;> rename_i h <;> simp [h, eq_comm]

namespace Snapshot

theorem checkGauges_eq_ok : ∀ {es : List (String × Binary64)},
    checkGauges es = .ok () ↔ ∀ e ∈ es, e.2.isFinite = true
  | [] => by simp [checkGauges]
  | (name, x) :: rest => by
    simp only [checkGauges, Except.bind_eq_ok, finiteGauge_eq_ok, List.mem_cons, forall_eq_or_imp]
    rw [checkGauges_eq_ok]
    constructor
    · rintro ⟨_, ⟨finite, rfl⟩, others⟩
      exact ⟨finite, others⟩
    · rintro ⟨finite, others⟩
      exact ⟨x, ⟨finite, rfl⟩, others⟩

/-- What may be written as JSON, gauge by gauge. -/
theorem checkFinite_eq_ok {s : Snapshot} :
    s.checkFinite = .ok () ↔ ∀ name x, s.gauges.get? name = some x → x.isFinite = true := by
  rw [checkFinite, checkGauges_eq_ok]
  exact ⟨fun h name x get => h (name, x) (NameMap.mem_entries.2 get),
    fun h e mem => h e.1 e.2 (NameMap.mem_entries.1 mem)⟩

/-! ## One value written -/

/-- The value that stands under a name when a value was written there. -/
def result (s : Snapshot) (name : String) : Sample → Outcome Sample
  | .gauge x => (finiteGauge name x).map .gauge
  | .counter d => (checkedTotal name (s.total name) d).map .counter

/-- The value set in its namespace, unchecked. -/
def setSample (s : Snapshot) (name : String) : Sample → Snapshot
  | .gauge x => s.setGauge name x
  | .counter d => s.setCounter name d

theorem mergeSample_eq (s : Snapshot) (name : String) (x : Sample) :
    s.mergeSample name x = (s.result name x).map (s.setSample name) := by
  cases x with
  | gauge y =>
    simp only [mergeSample, result]
    cases finiteGauge name y <;> rfl
  | counter d =>
    simp only [mergeSample, result]
    cases checkedTotal name (s.total name) d <;> rfl

theorem kind_of_result {s : Snapshot} {name : String} {x y : Sample} (h : s.result name x = .ok y) :
    y.kind = x.kind := by
  cases x with
  | gauge x =>
    obtain ⟨_, -, rfl⟩ := Except.map_eq_ok.1 h
    rfl
  | counter d =>
    obtain ⟨_, -, rfl⟩ := Except.map_eq_ok.1 h
    rfl

theorem get?_setSample (s : Snapshot) (name other : String) (y : Sample) (kind : Kind) :
    (s.setSample name y).get? kind other =
      if (kind, other) = (y.kind, name) then some y else s.get? kind other := by
  cases y with
  | gauge x =>
    cases kind with
    | gauge =>
      simp only [setSample, setGauge, get?, NameMap.get?_insert, Sample.kind, Prod.mk.injEq, true_and]
      split <;> rfl
    | counter => simp [setSample, setGauge, get?, Sample.kind]
  | counter d =>
    cases kind with
    | gauge => simp [setSample, setCounter, get?, Sample.kind]
    | counter =>
      simp only [setSample, setCounter, get?, NameMap.get?_insert, Sample.kind, Prod.mk.injEq,
        true_and]
      split <;> rfl

/-- Gauges that all have a property still do when one more is written that has it. -/
theorem gauges_mergeSample {P : Binary64 → Prop} {s t : Snapshot} {name : String} {sample : Sample}
    (all : ∀ other x, s.gauges.get? other = some x → P x)
    (own : ∀ x, sample = .gauge x → x.isFinite = true → P x)
    (h : s.mergeSample name sample = .ok t) : ∀ other x, t.gauges.get? other = some x → P x := by
  intro other x get
  cases sample with
  | gauge y =>
    simp only [mergeSample, Except.bind_eq_ok, finiteGauge_eq_ok] at h
    obtain ⟨_, ⟨finite, rfl⟩, h⟩ := h
    rw [← Except.ok.inj h, setGauge, NameMap.get?_insert] at get
    split at get
    · rw [← Option.some.inj get]
      exact own _ rfl finite
    · exact all other x get
  | counter d =>
    simp only [mergeSample, Except.bind_eq_ok] at h
    obtain ⟨_, -, h⟩ := h
    rw [← Except.ok.inj h] at get
    exact all other x get

theorem checkFinite_mergeSample {s t : Snapshot} {name : String} {sample : Sample}
    (finite : s.checkFinite = .ok ()) (h : s.mergeSample name sample = .ok t) :
    t.checkFinite = .ok () := by
  rw [checkFinite_eq_ok] at finite ⊢
  exact gauges_mergeSample finite (fun _ _ finite => finite) h

theorem checkFinite_mergeSamples : ∀ {l : List (String × Sample)} {s t : Snapshot},
    s.checkFinite = .ok () → s.mergeSamples l = .ok t → t.checkFinite = .ok ()
  | [], _, _, finite, h => by
    rw [← Except.ok.inj h]
    exact finite
  | (name, x) :: rest, s, t, finite, h => by
    simp only [mergeSamples, Except.bind_eq_ok] at h
    obtain ⟨mid, first, others⟩ := h
    exact checkFinite_mergeSamples (checkFinite_mergeSample finite first) others

theorem get?_mergeSample {s t : Snapshot} {name other : String} {sample : Sample} {kind : Kind}
    (h : s.mergeSample name sample = .ok t) (ne : (kind, other) ≠ (sample.kind, name)) :
    t.get? kind other = s.get? kind other := by
  rw [mergeSample_eq] at h
  obtain ⟨y, result, rfl⟩ := Except.map_eq_ok.1 h
  rw [get?_setSample, kind_of_result result, if_neg ne]

end Snapshot

/-! ## What `Written` says -/

namespace Written

variable {s t u : Snapshot} {l l₁ l₂ : List (String × Sample)}

theorem nil (s : Snapshot) : Written s [] s :=
  ⟨fun _ => by simp [gaugeWrites], fun _ _ => rfl, fun _ h => absurd rfl h⟩

theorem total (h : Written s l t) (name : String) :
    (t.total name).toInt = (s.total name).toInt + deltaSum (counterWrites name l) := by
  by_cases none : counterWrites name l = []
  · simp [Snapshot.total, h.untouched name none, none]
  · obtain ⟨total, get, sum⟩ := h.added name none
    rw [← sum, Snapshot.total, get, Option.getD_some]

/-- **The writes determine the result.** -/
theorem unique (ht : Written s l t) (hu : Written s l u) : t = u := by
  have gauges : t.gauges = u.gauges :=
    NameMap.ext_get? fun name => (ht.gauges name).trans (hu.gauges name).symm
  have counters : t.counters = u.counters := by
    refine NameMap.ext_get? fun name => ?_
    by_cases none : counterWrites name l = []
    · rw [ht.untouched name none, hu.untouched name none]
    · obtain ⟨a, getA, sumA⟩ := ht.added name none
      obtain ⟨b, getB, sumB⟩ := hu.added name none
      rw [getA, getB, Int64.toInt_inj.1 (sumA.trans sumB.symm)]
  cases t
  cases u
  simp_all

theorem append (h₁ : Written s l₁ t) (h₂ : Written t l₂ u) : Written s (l₁ ++ l₂) u where
  gauges name := by
    rw [h₂.gauges, h₁.gauges, gaugeWrites_append, List.getLast?_append, Option.or_assoc]
  untouched name none := by
    rw [counterWrites_append, List.append_eq_nil_iff] at none
    rw [h₂.untouched name none.2, h₁.untouched name none.1]
  added name some := by
    rw [counterWrites_append, deltaSum_append, ← Int.add_assoc, ← h₁.total name]
    by_cases none : counterWrites name l₂ = []
    · have some₁ : counterWrites name l₁ ≠ [] := by
        intro none₁
        exact some (by rw [counterWrites_append, none₁, none, List.append_nil])
      obtain ⟨total, get, sum⟩ := h₁.added name some₁
      refine ⟨total, by rw [h₂.untouched name none, get], ?_⟩
      rw [none, deltaSum_nil, Int.add_zero, Snapshot.total, get, Option.getD_some]
    · exact h₂.added name none

/-- Writing a snapshot that some values make is writing the values. -/
theorem through (h : Written .empty l t) (w : Written s t.samples u) : Written s l u where
  gauges name := by
    rw [w.gauges, gaugeWrites_samples, h.gauges]
    cases (gaugeWrites name l).getLast? <;> simp [Snapshot.empty]
  untouched name none := by
    refine w.untouched name ?_
    rw [counterWrites_samples, h.untouched name none]
    rfl
  added name some := by
    obtain ⟨sum, get, eq⟩ := h.added name some
    have once : counterWrites name t.samples = [sum] := by
      rw [counterWrites_samples, get, Option.toList_some]
    obtain ⟨total, get', eq'⟩ := w.added name (by simp [once])
    refine ⟨total, get', ?_⟩
    rw [eq', once]
    simp only [deltaSum_cons, deltaSum_nil] at eq ⊢
    rw [eq]
    simp [Snapshot.total, Snapshot.empty]

end Written

theorem mergeSample_written {s t : Snapshot} {name : String} {sample : Sample}
    (h : s.mergeSample name sample = .ok t) : Written s [(name, sample)] t := by
  cases sample with
  | gauge x =>
    simp only [Snapshot.mergeSample, Except.bind_eq_ok, finiteGauge_eq_ok] at h
    obtain ⟨y, ⟨-, rfl⟩, h⟩ := h
    rw [← Except.ok.inj h]
    refine ⟨fun other => ?_, fun _ _ => rfl, fun other some => absurd rfl some⟩
    simp only [gaugeWrites, Snapshot.setGauge, NameMap.get?_insert, List.filterMap_cons,
      List.filterMap_nil]
    by_cases e : other = name
    · simp [e]
    · simp [e, Ne.symm e]
  | counter d =>
    simp only [Snapshot.mergeSample, Except.bind_eq_ok] at h
    obtain ⟨total, checked, h⟩ := h
    obtain ⟨-, sum⟩ := toInt_of_checkedTotal checked
    rw [← Except.ok.inj h]
    refine ⟨fun _ => rfl, fun other none => ?_, fun other some => ?_⟩
    · have ne : other ≠ name := by
        rintro rfl
        simp [counterWrites] at none
      exact NameMap.get?_insert_other _ ne _
    · have e : name = other := by
        refine Decidable.byContradiction fun ne => some ?_
        simp [counterWrites, ne]
      subst e
      exact ⟨total, NameMap.get?_insert_self _ _ _, by simp [sum, counterWrites, deltaSum]⟩

theorem mergeSamples_written : ∀ {l : List (String × Sample)} {s t : Snapshot},
    s.mergeSamples l = .ok t → Written s l t
  | [], s, t, h => by
    rw [← Except.ok.inj h]
    exact .nil s
  | (name, sample) :: rest, s, t, h => by
    simp only [Snapshot.mergeSamples, Except.bind_eq_ok] at h
    obtain ⟨mid, first, others⟩ := h
    exact (mergeSample_written first).append (mergeSamples_written others)

/-! ## Batches -/

/-- New totals depend on the totals under the names that are written, and no others. -/
theorem Store.newTotals_congr {m m' : NameMap Int64} : ∀ {es : List (String × Int64)},
    (∀ e ∈ es, m.get? e.1 = m'.get? e.1) → newTotals m es = newTotals m' es
  | [], _ => rfl
  | (n, d) :: rest, same => by
    have here : m.get? n = m'.get? n := same (n, d) List.mem_cons_self
    have others : newTotals m rest = newTotals m' rest :=
      newTotals_congr fun e mem => same e (List.mem_cons_of_mem _ mem)
    rw [newTotals, newTotals, here, others]

theorem Store.exists_newTotals_iff {counters : NameMap Int64} : ∀ {es : List (String × Int64)},
    (∃ totals, newTotals counters es = .ok totals) ↔
      ∀ e ∈ es, InRange (((counters.get? e.1).getD 0).toInt + e.2.toInt)
  | [] => by simp [newTotals]
  | (n, d) :: rest => by
    have others : (∃ totals, newTotals counters rest = .ok totals) ↔ _ := exists_newTotals_iff
    simp only [newTotals, Except.bind_eq_ok, List.mem_cons, forall_eq_or_imp]
    constructor
    · rintro ⟨_, total, checked, totals, made, -⟩
      exact ⟨(toInt_of_checkedTotal checked).1, others.1 ⟨totals, made⟩⟩
    · rintro ⟨fits, rest⟩
      obtain ⟨totals, made⟩ := others.2 rest
      exact ⟨_, _, by rw [checkedTotal_eq, if_pos fits], totals, made, rfl⟩

namespace Snapshot

theorem mergeSamples_one (s : Snapshot) (name : String) (x : Sample) :
    s.mergeSamples [(name, x)] = s.mergeSample name x := by
  simp only [mergeSamples]
  cases s.mergeSample name x <;> rfl

theorem mergeSamples_append : ∀ (l₁ l₂ : List (String × Sample)) (s : Snapshot),
    s.mergeSamples (l₁ ++ l₂) = (s.mergeSamples l₁ >>= fun t => t.mergeSamples l₂)
  | [], _, _ => rfl
  | (name, x) :: rest, l₂, s => by
    simp only [List.cons_append, mergeSamples]
    cases s.mergeSample name x with
    | error e => rfl
    | ok t => exact mergeSamples_append rest l₂ t

theorem mergeSamples_gauges (s : Snapshot) (es : List (String × Binary64)) :
    s.mergeSamples (es.map fun (n, x) => (n, .gauge x)) =
      (checkGauges es).map fun _ => { s with gauges := Store.insertAll s.gauges es } := by
  induction es generalizing s with
  | nil => rfl
  | cons e rest ih =>
    obtain ⟨n, x⟩ := e
    simp only [List.map_cons, mergeSamples, mergeSample, checkGauges]
    cases finite : finiteGauge n x with
    | error f => rfl
    | ok y =>
      obtain ⟨-, rfl⟩ := finiteGauge_eq_ok.1 finite
      simp only [Except.ok_bind, ih]
      rfl

/-- Counters under different names are added to the totals before the first of them. -/
theorem mergeSamples_counters (s : Snapshot) {es : List (String × Int64)}
    (nodup : (es.map (·.1)).Nodup) :
    s.mergeSamples (es.map fun (n, d) => (n, .counter d)) =
      (Store.newTotals s.counters es).map fun totals =>
        { s with counters := Store.insertAll s.counters totals } := by
  induction es generalizing s with
  | nil => rfl
  | cons e rest ih =>
    obtain ⟨n, d⟩ := e
    simp only [List.map_cons, List.nodup_cons] at nodup
    simp only [List.map_cons, mergeSamples, mergeSample, Store.newTotals, total]
    cases checkedTotal n ((s.counters.get? n).getD 0) d with
    | error f => rfl
    | ok sum =>
      have others : Store.newTotals (s.setCounter n sum).counters rest =
          Store.newTotals s.counters rest := Store.newTotals_congr fun e mem => by
        have ne : e.1 ≠ n := fun same => nodup.1 (same ▸ List.mem_map_of_mem mem)
        rw [setCounter, NameMap.get?_insert_other _ ne]
      simp only [Except.ok_bind, ih (s.setCounter n sum) nodup.2, others]
      cases Store.newTotals s.counters rest with
      | error f => rfl
      | ok totals => rfl

end Snapshot

theorem put_eq_mergeSample (s : Store) (name : String) (sample : Sample) :
    (s.put name sample).map Store.snapshot = s.snapshot.mergeSample name sample := by
  cases sample with
  | gauge x =>
    simp only [Store.put, Snapshot.mergeSample]
    cases finiteGauge name x <;> rfl
  | counter d =>
    simp only [Store.put, Snapshot.mergeSample, Snapshot.total, Store.snapshot]
    cases checkedTotal name ((s.counters.get? name).getD 0) d <;> rfl

/-- **A batch is checked as a whole and written as if value by value.** The store and the first
refusal are the same as for one value after another. -/
theorem putBatch_eq_merge (s : Store) (batch : Snapshot) :
    (s.putBatch batch).map Store.snapshot = s.snapshot.merge batch := by
  rw [Snapshot.merge, Snapshot.samples, Snapshot.mergeSamples_append, Snapshot.mergeSamples_gauges]
  simp only [Store.putBatch, Store.putCounters, Snapshot.checkFinite]
  cases Snapshot.checkGauges batch.gauges.entries with
  | error e => rfl
  | ok _ =>
    simp only [Except.map, Except.ok_bind,
      Snapshot.mergeSamples_counters _ batch.counters.nodup_names, Store.snapshot]
    cases Store.newTotals s.counters batch.counters.entries with
    | error e => rfl
    | ok totals => rfl

theorem putBatch_written {s t : Store} {batch : Snapshot} (h : s.putBatch batch = .ok t) :
    Written s.snapshot batch.samples t.snapshot := by
  have merged := putBatch_eq_merge s batch
  rw [h] at merged
  exact mergeSamples_written merged.symm

end Telemetry
