/-
The metrics that a backend holds, and what its operations do to them.

A store in memory and a database hold different things, and the database may lie on
the disk. `Contents` is what is held, wherever that is, with the operations on it.
A metric that was just written is found again in its kind (`getTyped_after`), in
whatever state a database was before. A snapshot of finite gauges is taken whole when
none of its counters overflows (`putMetrics_ok`).
-/
import Telemetry.Backend
import Telemetry.Proofs.Merge

namespace Telemetry

namespace Table

variable {rows rows' : List Row} {name : String} {row : Row} {d d' : Database} {sample : Sample}

/-- The rows of a name are its new row. -/
theorem find?_replaceRow (h : row.hasId name = true) (p : Row → Bool) :
    (replaceRow rows name row).find? (fun r => r.hasId name && p r) =
      if p row then some row else none := by
  unfold replaceRow
  split
  · rename_i some
    induction rows with
    | nil => simp at some
    | cons r rest ih =>
      rw [List.any_cons, Bool.or_eq_true] at some
      rw [List.map_cons, List.find?_cons]
      by_cases wanted : p row = true
      · by_cases own : r.hasId name = true
        · simp [own, h, wanted]
        · simp only [own, Bool.false_eq_true, if_false, Bool.false_and]
          exact ih (some.resolve_left own)
      · simp only [wanted, Bool.false_eq_true, if_false]
        rw [show ((if r.hasId name = true then row else r).hasId name &&
          p (if r.hasId name = true then row else r)) = false by split <;> simp_all]
        rw [List.find?_eq_none]
        intro r' mem
        obtain ⟨r, -, rfl⟩ := List.mem_map.1 mem
        split <;> simp_all
  · rename_i none
    rw [List.find?_append, List.find?_eq_none.2]
    · simp [h]
    · intro r mem found
      simp only [Bool.and_eq_true] at found
      exact none (List.any_eq_true.2 ⟨r, mem, found.1⟩)

theorem addCounter_eq_ok {delta : Int64} (h : addCounter rows name delta = .ok rows') :
    ∃ total, rows' = replaceRow rows name (.counter name total) := by
  unfold addCounter at h
  cases found : rows.find? (Row.hasId name) with
  | none =>
    have absent : ¬ rows.any (Row.hasId name) = true := by
      rw [List.find?_eq_none] at found
      simpa using found
    simp only [found] at h
    exact ⟨delta, by rw [← Except.ok.inj h, replaceRow, if_neg absent]⟩
  | some r =>
    simp only [found] at h
    cases base : baseTotal r with
    | error fault => simp [base] at h
    | ok b =>
      cases sum : checkedTotal name b delta with
      | error e => simp [base, sum] at h
      | ok total =>
        simp only [base, sum] at h
        exact ⟨total, (Except.ok.inj h).symm⟩

theorem onRows_eq_ok {change : List Row → Answer (List Row)} :
    d.onRows change = .ok d' ↔ ∃ rows rows', d.metrics = some rows ∧ change rows = .ok rows' ∧
      { d with metrics := some rows' } = d' := by
  unfold Database.onRows Database.rows
  cases d.metrics with
  | none => simp
  | some rows => simp [Except.bind_eq_ok]

/-- What a write leaves in the table: the name's row, of the kind that was written. -/
theorem put_eq_ok (h : d.put name sample = .ok d') :
    ∃ rows row held, d.metrics = some rows ∧
      d' = { d with metrics := some (replaceRow rows name row) } ∧
      row.hasId name = true ∧ row.kind = sample.kind.name ∧ row.sample 0 = .ok (some held) := by
  cases sample with
  | gauge x =>
    simp only [Database.put] at h
    cases finite : finiteGauge name x with
    | error e => simp [finite] at h
    | ok y =>
      simp only [finite] at h
      obtain ⟨rows, rows', table, changed, rfl⟩ := onRows_eq_ok.1 h
      obtain ⟨isFinite, rfl⟩ := finiteGauge_eq_ok.1 finite
      have number : y ≠ .nan := fun e => by simp [e, Binary64.isFinite] at isFinite
      refine ⟨rows, .gauge name y, .gauge y.plainZero, table, ?_, ?_, rfl, ?_⟩
      · rw [← Except.ok.inj changed]
      · simp [Row.hasId, Row.gauge]
      · simp [Row.sample, Row.gauge, Cell.asReal, number, Cell.readReal, Cell.readInteger,
          Kind.ofName?_name]
  | counter delta =>
    obtain ⟨rows, rows', table, changed, rfl⟩ := onRows_eq_ok.1 h
    obtain ⟨total, rfl⟩ := addCounter_eq_ok changed
    refine ⟨rows, .counter name total, .counter total, table, rfl, ?_, rfl, ?_⟩
    · simp [Row.hasId, Row.counter]
    · simp [Row.sample, Row.counter, Cell.readReal, Cell.readInteger, Kind.ofName?_name]

theorem get_after_put (h : d.put name sample = .ok d') :
    ∃ x, d'.get (some sample.kind) name = .ok (some x) := by
  obtain ⟨rows, row, held, -, rfl, own, kind, holds⟩ := put_eq_ok h
  refine ⟨held, ?_⟩
  simp only [Database.get, Database.rows, Except.ok_bind, find, Option.all_some]
  rw [find?_replaceRow own]
  simp [kind, holds]

/-- The total that a counter's delta is added to: nothing where the name has no row. -/
def heldTotal (rows : List Row) (name : String) : Except DatabaseFault Int64 :=
  match rows.find? (Row.hasId name) with
  | none => .ok 0
  | some r => baseTotal r

theorem heldTotal_replaceRow_self (rows : List Row) (h : row.hasId name = true) :
    heldTotal (replaceRow rows name row) name = baseTotal row := by
  have found : (replaceRow rows name row).find? (Row.hasId name) = some row := by
    simpa using find?_replaceRow h fun _ => true
  rw [heldTotal, found]

theorem heldTotal_replaceRow_other {other : String} (rows : List Row) (ne : other ≠ name)
    (h : row.hasId name = true) : heldTotal (replaceRow rows name row) other = heldTotal rows other := by
  have own {r : Row} (is : r.hasId name = true) : r.hasId other = false := by
    simp only [Row.hasId, decide_eq_true_eq] at is
    simp [Row.hasId, is, Ne.symm ne]
  have found : (replaceRow rows name row).find? (Row.hasId other) = rows.find? (Row.hasId other) := by
    unfold replaceRow
    split
    · rename_i some
      clear some
      induction rows with
      | nil => rfl
      | cons r rest ih =>
        rw [List.map_cons, List.find?_cons, List.find?_cons, ih]
        by_cases is : r.hasId name = true
        · simp [is, own is, own h]
        · simp [is]
    · rw [List.find?_append]
      simp [own h]
  rw [heldTotal, heldTotal, found]

/-- A counter is written by adding to the total that is held, wherever it comes from. -/
theorem addCounter_eq {base delta : Int64} (held : heldTotal rows name = .ok base) :
    addCounter rows name delta = ((checkedTotal name base delta).map fun total =>
      replaceRow rows name (.counter name total)).mapError .rejected := by
  unfold heldTotal at held
  unfold addCounter
  cases found : rows.find? (Row.hasId name) with
  | none =>
    simp only [found, Except.ok.injEq] at held
    subst held
    have absent : ¬ rows.any (Row.hasId name) = true := by
      rw [List.find?_eq_none] at found
      simpa using found
    have fits : InRange ((0 : Int64).toInt + delta.toInt) := by simpa using inRange_toInt delta
    have begun : Int64.ofInt ((0 : Int64).toInt + delta.toInt) = delta :=
      Int64.toInt_inj.1 (by rw [toInt_ofInt fits]; simp)
    simp only [checkedTotal_eq, if_pos fits, begun, Except.map, Except.mapError_ok, replaceRow,
      if_neg absent]
  | some r =>
    simp only [found] at held
    simp only [held]
    cases checkedTotal name base delta <;> rfl

theorem addCounter_ok {base delta : Int64} (held : heldTotal rows name = .ok base)
    (fits : InRange (base.toInt + delta.toInt)) :
    ∃ total, addCounter rows name delta = .ok (replaceRow rows name (.counter name total)) := by
  refine ⟨Int64.ofInt (base.toInt + delta.toInt), ?_⟩
  rw [addCounter_eq held, checkedTotal_eq, if_pos fits]
  rfl

/-- Finite gauges are written, and leave a counter nothing to add to under their names. -/
theorem putSamples_gauges : ∀ {es : List (String × Binary64)} {d : Database} {rows : List Row},
    d.metrics = some rows → (∀ e ∈ es, e.2.isFinite = true) → ∃ d' rows',
      d.putSamples (es.map fun (n, x) => (n, .gauge x)) = .ok d' ∧ d'.metrics = some rows' ∧
        ∀ name, heldTotal rows' name = if name ∈ es.map (·.1) then .ok 0 else heldTotal rows name
  | [], d, rows, table, _ => ⟨d, rows, rfl, table, fun _ => by simp⟩
  | (n, x) :: rest, d, rows, table, finite => by
    have here : finiteGauge n x = .ok x := finiteGauge_eq_ok.2 ⟨finite _ List.mem_cons_self, rfl⟩
    have put : d.put n (.gauge x) =
        .ok { d with metrics := some (replaceRow rows n (.gauge n x)) } := by
      simp only [Database.put, here]
      exact onRows_eq_ok.2 ⟨rows, _, table, rfl, rfl⟩
    obtain ⟨d', rows', others, table', held⟩ :=
      putSamples_gauges (d := { d with metrics := some (replaceRow rows n (.gauge n x)) }) rfl
        fun e mem => finite e (List.mem_cons_of_mem _ mem)
    refine ⟨d', rows', by simp [Database.putSamples, put, others], table', fun name => ?_⟩
    have own : (Row.gauge n x).hasId n = true := by simp [Row.hasId, Row.gauge]
    rw [held]
    by_cases later : name ∈ rest.map (·.1)
    · simp [later]
    · by_cases e : name = n
      · -- The row is a gauge's now, whatever total it held before.
        subst e
        rw [if_neg later, heldTotal_replaceRow_self rows own, List.map_cons,
          if_pos List.mem_cons_self]
        rfl
      · simp [later, e, heldTotal_replaceRow_other rows e own]

theorem putSamples_append : ∀ (l₁ l₂ : List (String × Sample)) (d : Database),
    d.putSamples (l₁ ++ l₂) = (d.putSamples l₁ >>= fun d' => d'.putSamples l₂)
  | [], _, _ => rfl
  | (name, sample) :: rest, l₂, d => by
    simp only [List.cons_append, Database.putSamples]
    cases d.put name sample with
    | error e => rfl
    | ok d' => exact putSamples_append rest l₂ d'

theorem putSamples_counters : ∀ {es : List (String × Int64)} {d : Database} {rows : List Row},
    d.metrics = some rows → (es.map (·.1)).Nodup →
      (∀ e ∈ es, ∃ base, heldTotal rows e.1 = .ok base ∧ InRange (base.toInt + e.2.toInt)) →
        ∃ d', d.putSamples (es.map fun (n, i) => (n, .counter i)) = .ok d'
  | [], d, _, _, _, _ => ⟨d, rfl⟩
  | (n, i) :: rest, d, rows, table, nodup, fits => by
    simp only [List.map_cons, List.nodup_cons] at nodup
    obtain ⟨base, held, range⟩ := fits _ List.mem_cons_self
    obtain ⟨total, added⟩ := addCounter_ok held range
    have put : d.put n (.counter i) =
        .ok { d with metrics := some (replaceRow rows n (.counter n total)) } :=
      onRows_eq_ok.2 ⟨rows, _, table, added, rfl⟩
    have own : (Row.counter n total).hasId n = true := by simp [Row.hasId, Row.counter]
    obtain ⟨d', others⟩ := putSamples_counters
      (d := { d with metrics := some (replaceRow rows n (.counter n total)) }) rfl nodup.2
      fun e mem => by
        have ne : e.1 ≠ n := fun same => nodup.1 (same ▸ List.mem_map_of_mem mem)
        rw [heldTotal_replaceRow_other rows ne own]
        exact fits e (List.mem_cons_of_mem _ mem)
    exact ⟨d', by simp [Database.putSamples, put, others]⟩

theorem putSamples_empty {l : List (String × Sample)} (h : Database.empty.putSamples l = .ok d) :
    d = .empty := by
  cases l with
  | nil => exact (Except.ok.inj h).symm
  | cons w rest =>
    obtain ⟨name, sample⟩ := w
    simp only [Database.putSamples, Except.bind_eq_ok] at h
    obtain ⟨mid, first, -⟩ := h
    obtain ⟨rows, _, _, table, -⟩ := put_eq_ok first
    cases table

end Table

/-- The metrics that a backend holds, as it holds them. -/
inductive Contents where
  | store (store : Store)
  | database (database : Table.Database)
  deriving DecidableEq, Repr

namespace Contents

/-- One value written. -/
def put (c : Contents) (name : String) (sample : Sample) : Outcome Contents :=
  match c with
  | .store s => (s.put name sample).map .store
  | .database d => ((d.put name sample).mapError (·.failure "metric write failed")).map .database

/-- A whole snapshot written, or nothing of it. -/
def putMetrics (c : Contents) (batch : Snapshot) : Outcome Contents :=
  match c with
  | .store s => (s.putBatch batch).map .store
  | .database d => ((d.putAll batch).mapError (·.failure "batch write failed")).map .database

/-- The value under a name in one namespace. -/
def getTyped (c : Contents) (kind : Kind) (name : String) : Outcome Sample :=
  match c with
  | .store s => s.getTyped kind name
  | .database d => do
    match ← (d.get (some kind) name).mapError (·.failure "metric query failed") with
    | some x => .ok x
    | none => .error (.notFound (some kind) name)

/-- All metrics. -/
def getMetrics (c : Contents) : Outcome Snapshot :=
  match c with
  | .store s => .ok s.snapshot
  | .database d => d.list.mapError (·.failure "metric listing failed")

theorem samples_of_one {name : String} {sample : Sample} {batch : Snapshot}
    (h : Snapshot.empty.mergeSample name sample = .ok batch) : batch.samples = [(name, sample)] := by
  cases sample with
  | gauge x =>
    simp only [Snapshot.mergeSample, Except.bind_eq_ok, finiteGauge_eq_ok] at h
    obtain ⟨y, ⟨-, rfl⟩, h⟩ := h
    rw [← Except.ok.inj h]
    rfl
  | counter d =>
    simp only [Snapshot.mergeSample, Except.bind_eq_ok] at h
    obtain ⟨total, checked, h⟩ := h
    obtain ⟨-, sum⟩ := toInt_of_checkedTotal checked
    have same : total = d := Int64.toInt_inj.1 (by simpa [Snapshot.total, Snapshot.empty] using sum)
    rw [← Except.ok.inj h, same]
    rfl

/-- **A metric that was just written is found again.** No state of a database stands in
the way: what the name's row held before is gone. -/
theorem getTyped_after {c c' : Contents} {name : String} {sample : Sample} {batch : Snapshot}
    (one : Snapshot.empty.mergeSample name sample = .ok batch)
    (h : c.putMetrics batch = .ok c') : ∃ x, c'.getTyped sample.kind name = .ok x := by
  have samples := samples_of_one one
  cases c with
  | store s =>
    simp only [putMetrics, Except.map_eq_ok] at h
    obtain ⟨t, put, rfl⟩ := h
    have written := putBatch_written put
    rw [samples] at written
    cases sample with
    | gauge x =>
      have get : t.gauges.get? name = some x := by
        simpa [gaugeWrites, Store.snapshot] using written.gauges name
      exact ⟨.gauge x, by simp [getTyped, Store.getTyped, Sample.kind, Snapshot.get?,
        Store.snapshot, get]⟩
    | counter d =>
      obtain ⟨total, get, -⟩ := written.added name (by simp [counterWrites])
      have get : t.counters.get? name = some total := get
      exact ⟨.counter total, by simp [getTyped, Store.getTyped, Sample.kind, Snapshot.get?,
        Store.snapshot, get]⟩
  | database d =>
    simp only [putMetrics, Except.map_eq_ok, Table.Database.putAll, samples,
      Table.Database.putSamples] at h
    obtain ⟨d', put, rfl⟩ := h
    cases first : d.put name sample with
    | error e => simp [first] at put
    | ok d₁ =>
      obtain ⟨x, found⟩ := Table.get_after_put first
      simp only [first, Except.ok_bind, Except.mapError_ok, Except.ok.injEq] at put
      subst put
      exact ⟨x, by simp [getTyped, found]⟩

/-- No counter of the snapshot overflows on what is held. In a database a name has one row, so
a counter whose name is a gauge of the snapshot too begins anew. -/
def HasRoomFor (c : Contents) (s : Snapshot) : Prop :=
  match c with
  | .store held => ∀ name d, s.counters.get? name = some d →
      InRange ((held.snapshot.total name).toInt + d.toInt)
  | .database held => ∃ rows, held.metrics = some rows ∧ ∀ name d,
      s.counters.get? name = some d → s.gauges.get? name = none →
        ∃ base, Table.heldTotal rows name = .ok base ∧ InRange (base.toInt + d.toInt)

/-- Room is a matter of the counters and of the gauges' names. -/
theorem HasRoomFor.of_same {c : Contents} {s t : Snapshot} (room : c.HasRoomFor s)
    (counters : t.counters = s.counters)
    (gauges : ∀ name, t.gauges.get? name = none → s.gauges.get? name = none) : c.HasRoomFor t := by
  cases c with
  | store held => exact fun name d get => room name d (counters ▸ get)
  | database held =>
    obtain ⟨rows, table, fits⟩ := room
    exact ⟨rows, table, fun name d get none => fits name d (counters ▸ get) (gauges name none)⟩

/-- **A snapshot of finite gauges is taken whole when no counter of it overflows.** -/
theorem putMetrics_ok {c : Contents} {s : Snapshot} (room : c.HasRoomFor s)
    (finite : s.checkFinite = .ok ()) : ∃ c', c.putMetrics s = .ok c' := by
  cases c with
  | store held =>
    have fits : ∀ e ∈ s.counters.entries,
        InRange (((held.counters.get? e.1).getD 0).toInt + e.2.toInt) := fun e mem =>
      room e.1 e.2 (NameMap.mem_entries.1 mem)
    obtain ⟨totals, new⟩ := Store.exists_newTotals_iff.2 fits
    refine ⟨.store ⟨Store.putGauges held.gauges s.gauges, Store.insertAll held.counters totals⟩, ?_⟩
    simp only [putMetrics, Store.putBatch, finite, Store.putCounters, new, Except.ok_bind]
    rfl
  | database held =>
    obtain ⟨rows, table, fits⟩ := room
    obtain ⟨d, rows', gauges, table', totals⟩ :=
      Table.putSamples_gauges table (Snapshot.checkGauges_eq_ok.1 finite)
    obtain ⟨d', counters⟩ := Table.putSamples_counters table' s.counters.nodup_names fun e mem => by
      rw [totals]
      split
      · -- The name was just written as a gauge, so the counter begins anew.
        exact ⟨0, rfl, by simpa using inRange_toInt e.2⟩
      · rename_i gauge
        exact fits e.1 e.2 (NameMap.mem_entries.1 mem) (NameMap.lookup_of_not_mem gauge)
    refine ⟨.database d', ?_⟩
    rw [putMetrics, Table.Database.putAll, Snapshot.samples, Table.putSamples_append, gauges,
      Except.ok_bind, counters]
    rfl

end Contents

end Telemetry
