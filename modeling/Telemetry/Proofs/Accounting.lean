/-
What an agent counts, and what its collector makes of it.

An agent sends its totals, not what was added since the last report, and a collector adds
what it is sent. So the agent's own counters are the sums of the readings that it took, and
a collector's are the sums of the agent's totals at each report that was accepted
(`run_accounts`): ticks, lost batches and lost answers come in any order. The agent takes
a batch for undelivered or not by the answer alone; whether it reached the collector is
another matter (`Fate`).
-/
import Telemetry.Agent.Schedule
import Telemetry.Backend
import Telemetry.Proofs.Exchange

namespace Telemetry

/-- The sum of a counter's totals in some snapshots. -/
def Snapshot.sumOf (name : String) (ss : List Snapshot) : Int :=
  deltaSum (ss.map fun s => s.total name)

namespace Snapshot

theorem deltaSum_samples (name : String) (s : Snapshot) :
    deltaSum (counterWrites name s.samples) = (s.total name).toInt := by
  rw [counterWrites_samples, total]
  cases s.counters.get? name <;> simp [deltaSum]

theorem deltaSum_flatMap (name : String) (ss : List Snapshot) :
    deltaSum (counterWrites name (ss.flatMap samples)) = sumOf name ss := by
  induction ss with
  | nil => rfl
  | cons s rest ih =>
    rw [List.flatMap_cons, counterWrites_append, deltaSum_append, ih, deltaSum_samples]
    rfl

theorem gaugeWrites_flatMap (name : String) (ss : List Snapshot) :
    gaugeWrites name (ss.flatMap samples) = ss.filterMap fun s => s.gauges.get? name := by
  induction ss with
  | nil => rfl
  | cons s rest ih =>
    rw [List.flatMap_cons, gaugeWrites_append, gaugeWrites_samples, ih, List.filterMap_cons]
    cases s.gauges.get? name <;> rfl

theorem sumOf_append (name : String) (ss ts : List Snapshot) :
    sumOf name (ss ++ ts) = sumOf name ss + sumOf name ts := by
  rw [sumOf, List.map_append, deltaSum_append, sumOf, sumOf]

theorem sumOf_absent {name : String} {ss : List Snapshot}
    (absent : ∀ s ∈ ss, s.counters.get? name = none) : sumOf name ss = 0 := by
  induction ss with
  | nil => rfl
  | cons s rest ih =>
    have here : s.total name = 0 := by rw [total, absent s List.mem_cons_self, Option.getD_none]
    have others := ih fun t mem => absent t (List.mem_cons_of_mem _ mem)
    rw [sumOf, List.map_cons, deltaSum_cons, here]
    rw [sumOf] at others
    rw [others]
    rfl

end Snapshot

theorem Store.total_putBatch {s t : Store} {batch : Snapshot} (h : s.putBatch batch = .ok t)
    (name : String) :
    (t.snapshot.total name).toInt = (s.snapshot.total name).toInt + (batch.total name).toInt := by
  rw [(putBatch_written h).total name, Snapshot.deltaSum_samples]

namespace Sync.Codec

variable {codec own : Codec}

theorem writes?_sent (codec : Codec) (l : List (String × Sample)) :
    Record.writes? (l.map (.sent codec)) = some l := by
  induction l with
  | nil => rfl
  | cons w rest ih =>
    obtain ⟨id, x⟩ := w
    have write : (Record.sent codec (id, x)).write? = some (id, x) := by
      have payload : (Record.sent codec (id, x)).sample = .ok x := Record.sample_carrying id x _
      rw [Record.write?_of_sample payload, Record.sent, Record.carrying_id]
    simp [Record.writes?, write, ih]

/-- Whoever takes a snapshot that was sent takes that snapshot, whatever the keys of the two. -/
theorem eq_of_decode_encode {s t : Snapshot} {rs : List Record} (encoded : own.encode s = .ok rs)
    (decoded : codec.decode rs = .ok t) : t = s := by
  rw [encode_eq, Except.ok.injEq] at encoded
  subst encoded
  obtain ⟨l, writes, written⟩ := foldAll_written decoded
  rw [writes?_sent, Option.some.injEq] at writes
  subst writes
  exact written.unique (Snapshot.written_of_perm (List.Perm.refl _))

/-- A batch decoded and merged into a backend; gives the number of its records. -/
def applyTo (codec : Codec) (rs : List Record) : Action Site Nat := do
  let batch ← .ofOutcome (codec.decode rs)
  Backend.putMetrics batch
  pure rs.length

theorem applyTo_memory (codec : Codec) (rs : List Record) (store : Store) (host : Host) :
    codec.applyTo rs ⟨.memory store, host⟩ =
      match codec.apply store rs with
      | .ok (after, n) => (.ok n, ⟨.memory after, host⟩)
      | .error e => (.error e, ⟨.memory store, host⟩) := by
  rw [applyTo, apply]
  cases codec.decode rs with
  | error e => rfl
  | ok batch =>
    rw [Action.bind_ofOutcome_ok, Except.ok_bind]
    cases put : store.putBatch batch with
    | error e =>
      have step : Backend.putMetrics batch ⟨.memory store, host⟩ =
          (.error e, ⟨.memory store, host⟩) := by
        simp only [Backend.putMetrics, Backend.perform, Backend.onStore, Backend.writing, put,
          Except.map]
      rw [Action.bind_of_error step]
      rfl
    | ok after =>
      have step : Backend.putMetrics batch ⟨.memory store, host⟩ =
          (.ok (), ⟨.memory after, host⟩) := by
        simp only [Backend.putMetrics, Backend.perform, Backend.onStore, Backend.writing, put,
          Except.map]
      rw [Action.bind_of_ok step]
      rfl

end Sync.Codec

namespace Agent

/-! ## An agent and its collector -/

/-- What becomes of a batch: it does not arrive, or it arrives and its sender learns so, or it arrives
and its sender is told of a failure. -/
inductive Fate where
  | lost (fault : Failure)
  | acknowledged
  | unacknowledged (fault : Failure)

namespace Fate

def arrives : Fate → Bool
  | .lost _ => false
  | .acknowledged | .unacknowledged _ => true

/-- What the sender is told. -/
def outcome : Fate → Outcome Unit
  | .acknowledged => .ok ()
  | .lost fault | .unacknowledged fault => .error fault

end Fate

/-- The readings of each poll and the fate of each batch, both counted from 0. -/
structure Course where
  readings : Nat → List Reading
  fates : Nat → Fate

def Course.surroundings (c : Course) : Surroundings :=
  ⟨c.readings, fun n => (c.fates n).outcome⟩

namespace State

/-- The batch that a report hands over: what arrives of it where all that is sent arrives. -/
def handed? (s : State) : Option (List Record) :=
  ({ s with arrived := [] }.report ⟨fun _ => [], fun _ => .ok ()⟩).2.arrived.head?

/-- The readings that are taken, of those that are offered one after another. -/
def takenOf (s : State) : List Reading → List Snapshot
  | [] => []
  | r :: rest =>
    (if (s.take r).1 then r.result.toOption.toList else []) ++ (s.take r).2.takenOf rest

/-- The readings that the next poll takes. -/
def takes (w : Surroundings) (s : State) : List Snapshot :=
  { s with polls := s.polls + 1 }.takenOf (w.readings s.polls)

end State

/-- An agent and the collector that it reports to, which checks batches its own way. -/
structure Link where
  agent : State
  codec : Sync.Codec
  collector : Site

namespace Link

/-- The answer to a report that is due and what it leaves of the collector, if its batch arrives. -/
def received? (c : Course) (l : Link) : Option (Outcome Nat × Site) :=
  match l.agent.handed? with
  | some rs =>
    if (c.fates l.agent.sends).arrives then some (l.codec.applyTo rs l.collector) else none
  | none => none

/-- The agent's metrics in a report that is due, if the collector accepts it. -/
def accepted? (c : Course) (l : Link) : Option Snapshot :=
  match l.received? c with
  | some (.ok _, _) => some l.agent.store.snapshot
  | _ => none

def tick (c : Course) (l : Link) : Tick → Link
  | .poll => { l with agent := l.agent.tick c.surroundings .poll }
  | .report =>
    { l with
      agent := l.agent.tick c.surroundings .report
      collector := ((l.received? c).map (·.2)).getD l.collector }

def run (c : Course) (l : Link) (ticks : List Tick) : Link :=
  ticks.foldl (tick c) l

/-- The readings that the agent takes in a run, in order. -/
def taken (c : Course) (l : Link) : List Tick → List Snapshot
  | [] => []
  | .poll :: rest => l.agent.takes c.surroundings ++ (l.tick c .poll).taken c rest
  | .report :: rest => (l.tick c .report).taken c rest

/-- The agent's metrics at each report of a run that the collector accepts, in order. -/
def accepted (c : Course) (l : Link) : List Tick → List Snapshot
  | [] => []
  | .poll :: rest => (l.tick c .poll).accepted c rest
  | .report :: rest => (l.accepted? c).toList ++ (l.tick c .report).accepted c rest

/-- What comes of a report that is due. -/
structure Reports (c : Course) (l : Link) : Prop where
  /-- With nothing to report, nothing is handed over. -/
  nothing : l.agent.store.isEmpty = true → l.agent.handed? = none ∧
    l.agent.report c.surroundings = (.ok 0, l.agent) ∧
    l.tick c .report = { l with agent := l.agent.enter (.reportSent 0) }
  /-- Else all metrics are handed over, and the agent is told of them what their fate tells it. -/
  all : l.agent.store.isEmpty = false → ∃ rs, l.agent.codec.encode l.agent.store.snapshot = .ok rs ∧
    l.agent.handed? = some rs ∧
    let sent := { l.agent with sends := l.agent.sends + 1 }
    match c.fates l.agent.sends with
    | .lost fault => l.agent.report c.surroundings = (.error fault, sent) ∧
        l.tick c .report = { l with agent := sent.enter (.reportDropped fault) }
    | .acknowledged =>
      let told := { sent with arrived := rs :: l.agent.arrived }
      l.agent.report c.surroundings = (.ok rs.length, told) ∧ l.tick c .report =
        { l with agent := told.enter (.reportSent rs.length), collector := (l.codec.applyTo rs l.collector).2 }
    | .unacknowledged fault => l.agent.report c.surroundings = (.error fault, sent) ∧ l.tick c .report =
        { l with agent := sent.enter (.reportDropped fault), collector := (l.codec.applyTo rs l.collector).2 }
  /-- A report is accepted if it hands over a batch that arrives and is applied. -/
  accepted : ∀ t, l.accepted? c = some t ↔ t = l.agent.store.snapshot ∧
    (c.fates l.agent.sends).arrives = true ∧
    ∃ rs n, l.agent.handed? = some rs ∧ (l.codec.applyTo rs l.collector).1 = .ok n

end Link

/-! ## The agent's own counters -/

/-- No reading has a counter of the name that polls are counted under. -/
def Surroundings.LeavePollCount (w : Surroundings) : Prop :=
  ∀ n, ∀ r ∈ w.readings n, ∀ t, r.result = .ok t → t.counters.get? pollCount = none

namespace State

variable {s : State} {w : Surroundings} {name : String}

/-- The total that the agent holds. -/
def total (s : State) (name : String) : Int :=
  (s.store.snapshot.total name).toInt

theorem take_cases (s : State) (r : Reading) :
    (∃ batch store, r.result = .ok batch ∧ s.store.putBatch batch = .ok store ∧
      s.take r = (true, { s with store := store })) ∨
      (s.take r).1 = false ∧ (s.take r).2.store = s.store := by
  cases result : r.result with
  | error e =>
    right
    simp only [take, result]
    exact ⟨trivial, rfl⟩
  | ok batch =>
    cases put : s.store.putBatch batch with
    | error e =>
      right
      simp only [take, result, put]
      exact ⟨trivial, rfl⟩
    | ok store =>
      left
      exact ⟨batch, store, rfl, put, by simp only [take, result, put]⟩

theorem total_take (s : State) (r : Reading) (name : String) : (s.take r).2.total name =
    s.total name + Snapshot.sumOf name (if (s.take r).1 then r.result.toOption.toList else []) := by
  rcases s.take_cases r with ⟨batch, store, read, put, taken⟩ | ⟨left, same⟩
  · rw [taken, if_pos rfl, read]
    have added := Store.total_putBatch put name
    simpa [total, Snapshot.sumOf, deltaSum_cons, Except.toOption] using added
  · rw [left, total, same]
    simp [total, Snapshot.sumOf]

theorem total_takeAll (rs : List Reading) : ∀ s : State,
    (s.takeAll rs).2.total name = s.total name + Snapshot.sumOf name (s.takenOf rs) := by
  induction rs with
  | nil =>
    intro s
    simp [takeAll, takenOf, Snapshot.sumOf]
  | cons r rest ih =>
    intro s
    rw [takenOf, Snapshot.sumOf_append, ← Int.add_assoc, ← total_take]
    exact ih (s.take r).2

theorem takeAll_taken (rs : List Reading) : ∀ s : State,
    (s.takeAll rs).1 = (s.takenOf rs).length := by
  induction rs with
  | nil => exact fun _ => rfl
  | cons r rest ih =>
    intro s
    have rest := ih (s.take r).2
    simp only [takeAll, takenOf, List.length_append, rest]
    rcases s.take_cases r with ⟨batch, store, read, -, taken⟩ | ⟨left, -⟩
    · simp only [taken, read, Except.toOption, if_true, Option.toList_some, List.length_singleton]
      omega
    · simp [left]

theorem read_of_mem_takenOf {t : Snapshot} : ∀ {rs : List Reading} {s : State}, t ∈ s.takenOf rs →
    ∃ r ∈ rs, r.result = .ok t
  | r :: rest, s, mem => by
    rw [takenOf, List.mem_append] at mem
    rcases mem with here | later
    · refine ⟨r, List.mem_cons_self, ?_⟩
      split at here
      · exact Except.toOption_eq_some.1 (Option.mem_toList.1 here)
      · cases here
    · obtain ⟨q, among, read⟩ := read_of_mem_takenOf later
      exact ⟨q, List.mem_cons_of_mem _ among, read⟩

theorem total_countPoll_other (s : State) (ne : name ≠ pollCount) :
    s.countPoll.total name = s.total name := by
  unfold countPoll
  cases put : s.store.put pollCount (.counter 1) with
  | error e => rfl
  | ok after =>
    have merged := put_eq_mergeSample s.store pollCount (.counter 1)
    rw [put] at merged
    have written := mergeSample_written merged.symm
    have apart : counterWrites name [(pollCount, .counter 1)] = [] := by
      simp [counterWrites, Ne.symm ne]
    simp only [total, written.total name, apart, deltaSum_nil, Int.add_zero]

/-- A poll is counted as long as the count is within 64 bits. -/
theorem total_countPoll (s : State) (room : InRange (s.total pollCount + 1)) :
    s.countPoll.total pollCount = s.total pollCount + 1 := by
  have one : (1 : Int64).toInt = 1 := rfl
  have checked : checkedTotal pollCount (s.store.snapshot.total pollCount) 1 =
      .ok (Int64.ofInt (s.total pollCount + 1)) := by
    rw [total] at room
    rw [checkedTotal_eq, one, if_pos room]
    rfl
  have put : s.store.put pollCount (.counter 1) = .ok { s.store with
      counters := s.store.counters.insert pollCount (Int64.ofInt (s.total pollCount + 1)) } := by
    have held : s.store.snapshot.total pollCount = (s.store.counters.get? pollCount).getD 0 := rfl
    rw [Store.put, ← held, checked]
    rfl
  unfold countPoll
  rw [put]
  simp only [total, Snapshot.total, Store.snapshot, NameMap.get?_insert_self, Option.getD_some]
  exact toInt_ofInt room

theorem total_pollTick_other (w : Surroundings) (s : State) (ne : name ≠ pollCount) :
    (s.tick w .poll).total name = s.total name + Snapshot.sumOf name (s.takes w) := by
  have polled : s.tick w .poll =
      ({ s with polls := s.polls + 1 }.takeAll (w.readings s.polls)).2.countPoll := rfl
  rw [polled, total_countPoll_other _ ne, total_takeAll]
  rfl

theorem total_pollTick (leave : w.LeavePollCount) (s : State)
    (room : InRange (s.total pollCount + 1)) :
    (s.tick w .poll).total pollCount = s.total pollCount + 1 := by
  have polled : s.tick w .poll =
      ({ s with polls := s.polls + 1 }.takeAll (w.readings s.polls)).2.countPoll := rfl
  have none : Snapshot.sumOf pollCount
      ({ s with polls := s.polls + 1 }.takenOf (w.readings s.polls)) = 0 := by
    refine Snapshot.sumOf_absent fun t taken => ?_
    obtain ⟨r, among, read⟩ := read_of_mem_takenOf taken
    exact leave s.polls r among t read
  have kept : ({ s with polls := s.polls + 1 }.takeAll (w.readings s.polls)).2.total pollCount =
      s.total pollCount := by
    rw [total_takeAll, none, Int.add_zero]
    rfl
  rw [polled, total_countPoll _ (by rwa [kept]), kept]

theorem report_empty (w : Surroundings) (empty : s.store.isEmpty = true) : s.report w = (.ok 0, s) := by
  rw [report, if_pos empty]

theorem report_all (w : Surroundings) {rs : List Record} (filled : s.store.isEmpty = false)
    (encoded : s.codec.encode s.store.snapshot = .ok rs) :
    s.report w = match w.delivery s.sends with
      | .ok () => (.ok rs.length, { s with sends := s.sends + 1, arrived := rs :: s.arrived })
      | .error e => (.error e, { s with sends := s.sends + 1 }) := by
  simp only [report, filled, encoded, Bool.false_eq_true, if_false]
  cases w.delivery s.sends <;> rfl

/-- A report hands over all metrics, if there are any. -/
theorem handed?_eq_some {rs : List Record} : s.handed? = some rs ↔
    s.store.isEmpty = false ∧ s.codec.encode s.store.snapshot = .ok rs := by
  cases empty : s.store.isEmpty with
  | true =>
    have none : s.handed? = none := by
      rw [handed?, report_empty (s := { s with arrived := [] }) _ empty]
      rfl
    simp [none]
  | false =>
    have encoded := Sync.Codec.encode_eq s.codec s.store.snapshot
    have some : s.handed? = some (s.store.snapshot.samples.map (.sent s.codec)) := by
      rw [handed?, report_all (s := { s with arrived := [] }) _ empty encoded]
      rfl
    simp [some, encoded]

/-- A report never changes the agent's metrics, whatever becomes of it. -/
theorem store_reportTick (w : Surroundings) (s : State) : (s.tick w .report).store = s.store := by
  have reported : (s.report w).2.store = s.store := by
    cases empty : s.store.isEmpty with
    | true => rw [report_empty w empty]
    | false =>
      rw [report_all w empty (Sync.Codec.encode_eq _ _)]
      split <;> rfl
  show (s.reportTick w).store = s.store
  unfold reportTick
  cases outcome : s.report w with
  | mk x t =>
    rw [outcome] at reported
    cases x <;> exact reported

end State

/-! ## Runs -/

namespace Link

variable {c : Course} {l : Link} {name : String} {held : Store}

theorem agent_run (ticks : List Tick) : ∀ l : Link,
    (l.run c ticks).agent = ticks.foldl (State.tick c.surroundings) l.agent := by
  induction ticks with
  | nil => exact fun _ => rfl
  | cons tick rest ih =>
    intro l
    cases tick with
    | poll => exact ih (l.tick c .poll)
    | report => exact ih (l.tick c .report)

theorem total_run (ne : name ≠ pollCount) (ticks : List Tick) : ∀ l : Link,
    (l.run c ticks).agent.total name =
      l.agent.total name + Snapshot.sumOf name (l.taken c ticks) := by
  induction ticks with
  | nil =>
    intro l
    simp [run, taken, Snapshot.sumOf]
  | cons tick rest ih =>
    intro l
    have later := ih (l.tick c tick)
    cases tick with
    | poll =>
      rw [taken, Snapshot.sumOf_append, ← Int.add_assoc, ← State.total_pollTick_other _ _ ne]
      exact later
    | report =>
      have same : (l.tick c .report).agent.total name = l.agent.total name := by
        rw [State.total, State.total, tick, State.store_reportTick]
      rw [same] at later
      exact later

/-- Polls are counted as long as their number stays within 64 bits. -/
theorem pollCount_run (leave : c.surroundings.LeavePollCount) (ticks : List Tick) : ∀ (l : Link)
    (n : Nat), l.agent.total pollCount = n → n + ticks.count .poll < 2 ^ 63 →
      (l.run c ticks).agent.total pollCount = n + ticks.count .poll := by
  induction ticks with
  | nil =>
    intro l n counted _
    simpa [run] using counted
  | cons tick rest ih =>
    intro l n counted few
    cases tick with
    | poll =>
      have more : (Tick.poll :: rest).count .poll = rest.count .poll + 1 := by simp
      have room : InRange (l.agent.total pollCount + 1) := by
        have low : Int64.minValue.toInt = -2 ^ 63 := rfl
        have high : Int64.maxValue.toInt = 2 ^ 63 - 1 := rfl
        rw [InRange, low, high, counted]
        omega
      have next : (l.tick c .poll).agent.total pollCount = (n + 1 : Nat) := by
        rw [tick, State.total_pollTick leave _ room, counted]
        rfl
      have later := ih (l.tick c .poll) (n + 1) next (by omega)
      rw [more]
      push_cast at later ⊢
      rw [← Int.add_assoc, Int.add_right_comm]
      exact later
    | report =>
      have same : (l.tick c .report).agent.total pollCount = n := by
        rw [State.total, tick, State.store_reportTick]
        exact counted
      have fewer : (Tick.report :: rest).count .poll = rest.count .poll := by simp
      rw [fewer] at few ⊢
      exact ih (l.tick c .report) n same few

theorem received?_eq_some {a : Outcome Nat × Site} : l.received? c = some a ↔
    (c.fates l.agent.sends).arrives = true ∧
    ∃ rs, l.agent.handed? = some rs ∧ l.codec.applyTo rs l.collector = a := by
  rw [received?]
  cases l.agent.handed? with
  | none => simp
  | some rs => cases (c.fates l.agent.sends).arrives <;> simp

theorem accepted?_eq_some {t : Snapshot} : l.accepted? c = some t ↔ t = l.agent.store.snapshot ∧
    (c.fates l.agent.sends).arrives = true ∧
    ∃ rs n, l.agent.handed? = some rs ∧ (l.codec.applyTo rs l.collector).1 = .ok n := by
  rw [accepted?, received?]
  cases l.agent.handed? with
  | none => simp
  | some rs =>
    cases (c.fates l.agent.sends).arrives with
    | false => simp
    | true =>
      cases applied : l.codec.applyTo rs l.collector with
      | mk answer site => cases answer <;> simp [applied, eq_comm (b := t)]

/-- **What comes of a report, in any state of the two.** -/
theorem reports (c : Course) (l : Link) : l.Reports c where
  nothing empty := by
    have none : l.agent.handed? = none := by
      refine Option.eq_none_iff_forall_ne_some.2 fun rs some => ?_
      rw [(State.handed?_eq_some.1 some).1] at empty
      cases empty
    have reported := State.report_empty c.surroundings empty
    refine ⟨none, reported, ?_⟩
    simp only [tick, received?, none, State.tick, State.reportTick, reported]
    rfl
  all filled := by
    have encoded := Sync.Codec.encode_eq l.agent.codec l.agent.store.snapshot
    have some := State.handed?_eq_some.2 ⟨filled, encoded⟩
    have reported := State.report_all c.surroundings filled encoded
    refine ⟨_, encoded, some, ?_⟩
    simp only [tick, received?, some, State.tick, State.reportTick, reported]
    simp only [Course.surroundings]
    cases c.fates l.agent.sends <;> exact ⟨rfl, rfl⟩
  accepted _ := accepted?_eq_some

/-- A report is accepted by a collector in memory, which has then taken the agent's metrics as a
batch; or the collector is left as it was. -/
theorem report_cases (holds : l.collector.backend = .memory held) :
    l.accepted? c = none ∧ (l.tick c .report).collector = l.collector ∨
      ∃ held', l.accepted? c = some l.agent.store.snapshot ∧
        held.putBatch l.agent.store.snapshot = .ok held' ∧
        (l.tick c .report).collector = ⟨.memory held', l.collector.host⟩ := by
  have here : l.collector = ⟨.memory held, l.collector.host⟩ := by rw [← holds]
  simp only [accepted?, tick]
  cases received : l.received? c with
  | none => exact .inl ⟨rfl, rfl⟩
  | some a =>
    obtain ⟨-, rs, sent, rfl⟩ := received?_eq_some.1 received
    rw [here, l.codec.applyTo_memory rs held]
    cases applied : l.codec.apply held rs with
    | error e => exact .inl ⟨rfl, rfl⟩
    | ok result =>
      right
      obtain ⟨held', n⟩ := result
      have encoded := (State.handed?_eq_some.1 sent).2
      simp only [Sync.Codec.apply, Except.bind_eq_ok] at applied
      obtain ⟨batch, decoded, after, put, same⟩ := applied
      obtain rfl := Sync.Codec.eq_of_decode_encode encoded decoded
      obtain ⟨rfl, -⟩ := Prod.mk.inj (Except.ok.inj same)
      exact ⟨after, rfl, put, rfl⟩

/-- What a run leaves of a collector in memory is what the accepted reports write. -/
theorem collector_run (ticks : List Tick) : ∀ {l : Link} {held : Store},
    l.collector.backend = .memory held → ∃ held', (l.run c ticks).collector.backend = .memory held' ∧
      Written held.snapshot ((l.accepted c ticks).flatMap Snapshot.samples) held'.snapshot := by
  induction ticks with
  | nil =>
    intro l held holds
    exact ⟨held, holds, .nil _⟩
  | cons tick rest ih =>
    intro l held holds
    cases tick with
    | poll => exact ih holds
    | report =>
      rcases l.report_cases (c := c) holds with ⟨none, same⟩ | ⟨mid, some, put, next⟩
      · obtain ⟨held', at_last, written⟩ := ih (l := l.tick c .report) (same ▸ holds)
        refine ⟨held', at_last, ?_⟩
        rw [accepted, none]
        exact written
      · have there : (l.tick c .report).collector.backend = .memory mid := by rw [next]
        obtain ⟨held', at_last, written⟩ := ih there
        refine ⟨held', at_last, ?_⟩
        rw [accepted, some, List.flatMap_append, Option.toList_some, List.flatMap_singleton]
        exact (putBatch_written put).append written

/-- **What an agent and its collector have counted after any ticks.** The agent starts with an empty
store, no reading has a counter `PollCount`, and there are fewer than 2⁶³ polls; the collector
starts with any store in memory. Then the agent's `PollCount` is the number of polls, and each other
counter of it is the sum over the readings that it took. A further report hands over all that the
agent has (`Reports`), leaves the agent's metrics, and the collector unless it accepts the report.
Each of the collector's counters is what it was at first with the agent's total at each accepted
report added, and each gauge is that of the last accepted report that had it. -/
theorem run_accounts (leave : c.surroundings.LeavePollCount) (own codec : Sync.Codec)
    (held : Store) (host : Host) {ticks : List Tick} (few : ticks.count .poll < 2 ^ 63) :
    let first : Link := ⟨.new .empty own, codec, ⟨.memory held, host⟩⟩
    let last := first.run c ticks
    last.agent.total pollCount = ticks.count .poll ∧
      (∀ name, name ≠ pollCount →
        last.agent.total name = Snapshot.sumOf name (first.taken c ticks)) ∧
      last.Reports c ∧ (last.tick c .report).agent.store = last.agent.store ∧
      (last.accepted? c = none → (last.tick c .report).collector = last.collector) ∧
      ∃ held', last.collector.backend = .memory held' ∧
        (∀ name, (held'.snapshot.total name).toInt =
          (held.snapshot.total name).toInt + Snapshot.sumOf name (first.accepted c ticks)) ∧
        ∀ name, held'.gauges.get? name =
          ((first.accepted c ticks).filterMap fun s => s.gauges.get? name).getLast?.or
            (held.gauges.get? name) := by
  intro first last
  have begun : first.collector.backend = .memory held := rfl
  obtain ⟨held', holds, written⟩ := collector_run (c := c) ticks begun
  refine ⟨?_, fun name ne => ?_, reports c last, State.store_reportTick _ _, fun refused => ?_, held',
    holds, fun name => ?_, fun name => ?_⟩
  · have counted := pollCount_run leave ticks first 0 rfl (by omega)
    simpa using counted
  · have summed := total_run (c := c) ne ticks first
    have begun : first.agent.total name = 0 := rfl
    rw [summed, begun, Int.zero_add]
  · rcases last.report_cases (c := c) holds with ⟨-, same⟩ | ⟨_, some, -, -⟩
    · exact same
    · rw [refused] at some
      cases some
  · rw [written.total name, Snapshot.deltaSum_flatMap]
  · rw [← Snapshot.gaugeWrites_flatMap]
    exact written.gauges name

/-- Three polls, each reported: the first report is acknowledged, the second lost, and the third
arrives but is taken for undelivered. The collector has counted 1 and 3 polls, and 2 and 6 jobs. -/
theorem run_accounts_thrice :
    let reading : Reading := ⟨"queue", .ok ⟨.empty, NameMap.empty.insert "jobs" 2⟩⟩
    let down : Failure := .undelivered .requestFailed
    let c : Course := ⟨fun _ => [reading], fun n =>
      if n = 0 then .acknowledged else if n = 1 then .lost down else .unacknowledged down⟩
    let first : Link := ⟨.new .empty .plain, .plain, ⟨.memory .empty, ⟨⟨.empty, "/home"⟩, []⟩⟩⟩
    let ticks : List Tick := [.poll, .report, .poll, .report, .poll, .report]
    c.surroundings.LeavePollCount ∧ ticks.count .poll < 2 ^ 63 ∧
      (first.run c ticks).agent.total pollCount = 3 ∧
      ∃ held, (first.run c ticks).collector.backend = .memory held ∧
        (held.snapshot.total pollCount).toInt = 4 ∧ (held.snapshot.total "jobs").toInt = 8 := by
  intro reading down c first ticks
  have leave : c.surroundings.LeavePollCount := by
    intro n r among t read
    rw [List.mem_singleton.1 among] at read
    rw [← Except.ok.inj read]
    exact NameMap.get?_insert_other _ (by decide) _
  have few : ticks.count .poll < 2 ^ 63 := by decide
  obtain ⟨polls, -, -, -, -, held, holds, totals, -⟩ :=
    run_accounts leave .plain .plain .empty ⟨⟨.empty, "/home"⟩, []⟩ few
  have counted : Snapshot.sumOf pollCount (first.accepted c ticks) = 4 := by decide +kernel
  have jobs : Snapshot.sumOf "jobs" (first.accepted c ticks) = 8 := by decide +kernel
  refine ⟨leave, few, polls, held, holds, ?_, ?_⟩
  · rw [totals, counted]
    rfl
  · rw [totals, jobs]
    rfl

end Link

end Agent

end Telemetry
