/-
The first deadline of a run, and a clock that cannot show it.

The scheduler of a collector waits one interval for its first tick, and so does the report loop of an
agent. A clock counts seconds in 64 bits with a sign, and a deadline beyond its end breaks the task down:
the scheduler never drains, so the whole run leaves the disk as it was, and nothing is ever reported.
Settings are not refused for that. What they ask for is kept exactly when the interval ends before
the clock does (`deadlines_kept`).
-/
import Telemetry.Command.Agent
import Telemetry.Proofs.Flush.FileRun
import Telemetry.Proofs.Flush.Life

namespace Telemetry

open Telemetry.Action (Preserves Gives)

/-- The last second that a clock shows is the one before `2 ^ 63`. -/
theorem Interval.overflows_ofSeconds (uptime n : Nat) :
    (ofSeconds n).overflows uptime = true ↔ ¬ uptime + n < 2 ^ 63 := by
  have whole : (ofSeconds n).seconds = n := Nat.mul_div_cancel n (by decide)
  rw [overflows, whole, decide_eq_true_eq, Nat.not_lt]
  rfl

theorem Interval.isZero_ofSeconds (n : Nat) : (ofSeconds n).isZero = true ↔ n = 0 := by
  simp only [isZero, ofSeconds, beq_iff_eq]
  omega

/-- How a scheduler that waits for its first tick goes on; one that flushes every write waits for none. -/
def Interval.course (uptime : Nat) (i : Interval) : Course :=
  if i.isZero ∨ ¬ i.overflows uptime then .running else .collapsed .clockOverflow

namespace Collector

variable {P : Collector → Prop} {s : Collector}

/-- What holds of a collector whatever its handlers do to its backend, tell its scheduler and enter. -/
structure Untouched (P : Collector → Prop) : Prop where
  performed {α : Type} {operation : Operation} {onMemory : Store → Outcome (α × Store)}
    {onFile : SnapshotFile → Action Host α} {onSession : Action Session α} :
    Preserves P (onBackend (Backend.perform operation onMemory onFile onSession))
  told : Preserves P afterWrite
  entered (e : Event) : Preserves P (log e)

namespace Untouched

theorem updatePath (h : Untouched P) (kind name value : String) :
    Preserves P (updatePath kind name value) :=
  .bind (fun _ p => p) fun _ => .bind (fun _ p => p) fun _ => .bind h.performed fun _ =>
    .bind h.told fun _ => .pure _

theorem signedRecord (id : String) (sample : Sample) : Preserves P (signedRecord id sample) :=
  .bind (fun _ p => p) fun _ => .bind (fun _ p => p) fun _ => .pure _

theorem updateRecord (h : Untouched P) (body : Text.Bytes) : Preserves P (updateRecord body) :=
  .bind (fun _ p => p) fun _ => .bind (fun _ p => p) fun _ => .bind (fun _ p => p) fun _ =>
    .bind h.performed fun _ => .bind h.told fun _ => .bind h.performed fun _ =>
      signedRecord _ _

theorem decodeInbound (body : Text.Bytes) : Preserves P (decodeInbound body) := by
  intro s p
  unfold Collector.decodeInbound
  cases s.inbound with
  | none => exact p
  | some c => exact p

theorem updateBatch (h : Untouched P) (body : Text.Bytes) : Preserves P (updateBatch body) :=
  .bind (decodeInbound body) fun _ => .bind (fun _ p => p) fun _ => .bind (fun _ p => p) fun _ =>
    .bind (fun _ p => p) fun _ => .bind h.performed fun _ => .bind h.told fun _ =>
      .bind (h.entered _) fun _ => .pure _

theorem ping (h : Untouched P) : Preserves P ping := by
  intro s p
  have pinged : P (onBackend Backend.ping s).2 := h.performed s p
  unfold Collector.ping
  cases result : onBackend Backend.ping s with
  | mk x t =>
    rw [result] at pinged
    cases x with
    | ok _ => exact pinged
    | error e => exact pinged

theorem handle (h : Untouched P) (e : Service.Endpoint) (body : Text.Bytes) :
    Preserves P (handle e body) := by
  cases e with
  | listing => exact .bind h.performed fun _ => .pure _
  | ping => exact h.ping
  | updatePath kind name value => exact h.updatePath kind name value
  | updateRecord => exact h.updateRecord body
  | updateBatch => exact h.updateBatch body
  | valuePath kind name => exact .bind (fun _ p => p) fun _ => .bind h.performed fun _ => .pure _
  | valueRecord => exact .bind (fun _ p => p) fun _ => .bind h.performed fun _ => signedRecord _ _

theorem serve (h : Untouched P) (e : Service.Endpoint) (body : Text.Bytes) (p : P s) :
    P (serve e body s).2 := by
  have handled := h.handle e body s p
  unfold Collector.serve
  cases result : Collector.handle e body s with
  | mk x t =>
    rw [result] at handled
    cases x with
    | ok r => exact handled
    | error failure =>
      simp only [refuse]
      split
      · exact h.entered _ t handled
      · exact handled

theorem answerAt (h : Untouched P) (e : Service.Endpoint) (form : Service.BodyForm)
    (body : Text.Bytes) (p : P s) : P (answerAt e form body s).2 := by
  unfold Collector.answerAt
  split
  · exact p
  · split
    · split
      · exact p
      · exact h.serve _ _ p
    · exact h.serve _ _ p

theorem respond (h : Untouched P) (r : Service.Request) (p : P s) : P (respond r s).2 := by
  show P (answer r s).2
  unfold answer
  split
  · exact p
  · split
    · exact p
    · split
      · exact h.answerAt _ _ _ p
      · exact p

/-- What no handler touches stays as it is while a collector serves, if no tick changes it either. -/
theorem pass (h : Untouched P) {course : Option Course}
    (ticks : course = some .running → Preserves P (onScheduler Flushing.tick)) :
    ∀ (happenings : List Happening) {s : Collector}, P s → P (pass course happenings s).2
  | [], _, p => p
  | .request r :: rest, _, p => h.pass ticks rest (h.respond r p)
  | .tick :: rest, s, p => by
    refine h.pass ticks rest ?_
    unfold Collector.tick
    split
    · rename_i due
      exact ticks due.1 s p
    · exact p

end Untouched

/-- There is a scheduler. -/
def HasScheduler (s : Collector) : Prop :=
  s.scheduler.isSome

theorem onScheduler_hasScheduler (a : Action Flushing Unit) : Preserves HasScheduler (onScheduler a) := by
  intro s has
  obtain ⟨scheduler, some⟩ := Option.isSome_iff_exists.1 has
  simp only [onScheduler, some]
  rfl

theorem untouched_hasScheduler : Untouched HasScheduler where
  performed := fun _ has => has
  told := onScheduler_hasScheduler _
  entered _ := fun _ has => has

/-- The metrics are in memory beside a scheduler, and the disk is this one. -/
structure Beside (scheduler : Scheduler) (d : Disk) (s : Collector) : Prop where
  scheduled : s.scheduler = some scheduler
  memory : ∃ store, s.backend = .memory store
  disk : s.host.disk = d

/-- A scheduler that waits for its ticks does nothing when it is told of a write. -/
theorem untouched_beside {scheduler : Scheduler} (waits : scheduler.isSynchronous = false) (d : Disk) :
    Untouched (Beside scheduler d) where
  performed := by
    rintro _ _ onMemory _ _ s ⟨scheduled, ⟨store, memory⟩, disk⟩
    simp only [onBackend, Action.on, Backend.perform, memory]
    exact ⟨scheduled, ⟨_, rfl⟩, disk⟩
  told := by
    rintro s ⟨scheduled, memory, disk⟩
    have idle : ¬ (scheduler.isSynchronous ∧ scheduler.phase = .running) := by simp [waits]
    simp only [afterWrite, onScheduler, scheduled,
      Flushing.notifyWrite_idle (s := ⟨s.backend, scheduler, s.host⟩) idle]
    exact ⟨rfl, memory, disk⟩
  entered _ := fun _ ⟨scheduled, memory, disk⟩ => ⟨scheduled, memory, disk⟩

end Collector

/-! ## The beginning and the end of a scheduler -/

namespace Flushing

/-- The scheduler has this interval. -/
def At (interval : Interval) (s : Flushing) : Prop :=
  s.scheduler.interval = interval

theorem restore_at (interval : Interval) : Preserves (At interval) restore :=
  .bind (fun _ h => h) fun _ => by
    split
    · exact .bind (fun _ h => h) fun _ _ h => h
    · exact .bind (fun _ h => h) fun _ => .pure _

/-- A scheduler that has started runs at the interval that it was given, restored or not. -/
theorem start_runs (s : Flushing) : (start s).2.scheduler.phase = .running ∧
    (start s).2.scheduler.interval = s.scheduler.interval := by
  unfold start
  rw [Action.bind_of_ok (show scheduler? s = (.ok s.scheduler, s) from rfl)]
  split
  · have kept := restore_at s.scheduler.interval (enterPhase .restoring s).2 rfl
    rw [Action.bind_of_ok (show enterPhase .restoring s = (.ok (), (enterPhase .restoring s).2) from rfl)]
    cases restored : restore (enterPhase .restoring s).2 with
    | mk x t =>
      rw [restored] at kept
      rw [Action.bind_of_ok (show Action.attempt restore (enterPhase .restoring s).2 = (.ok x, t) by
        rw [Action.attempt, restored])]
      cases x with
      | ok n => exact ⟨rfl, kept⟩
      | error e => exact ⟨rfl, kept⟩
  · exact ⟨rfl, rfl⟩

/-- A drain comes to its end, whatever fails on the way. -/
theorem drain_stops :
    Gives (fun _ => True) drain (.ok ()) fun s => s.scheduler.phase = .stopped := by
  have closed {f : Outcome Unit → Action Flushing Unit} (report : Event)
      (ended : ∀ x, Gives (fun _ => True) (f x) (.ok ()) fun s => s.scheduler.phase = .stopped) :
      Gives (fun _ => True) (log report >>= fun _ => Action.attempt (onDurable Backend.shutdown) >>= f)
        (.ok ()) fun s => s.scheduler.phase = .stopped :=
    .bind (Q := fun _ => True) (fun _ _ => ⟨rfl, trivial⟩) (.attempt_bind (fun _ _ => trivial) ended)
  refine .andThen (Q := fun _ => True) (fun _ _ => ⟨rfl, trivial⟩) ?_
  refine .attempt_bind (Q := fun _ => True) (fun _ _ => trivial) fun flushed => ?_
  cases flushed with
  | ok _ =>
    refine closed .lastFlushDone fun outcome => ?_
    cases outcome with
    | ok _ => exact fun _ _ => ⟨rfl, rfl⟩
    | error e => exact fun _ _ => ⟨rfl, rfl⟩
  | error e =>
    refine closed (.lastFlushFailed e) fun outcome => ?_
    cases outcome with
    | ok _ => exact fun _ _ => ⟨rfl, rfl⟩
    | error e => exact fun _ _ => ⟨rfl, rfl⟩

theorem begin_course {s : Flushing} (running : s.scheduler.phase = .running) (uptime : Nat) :
    ∃ e, begin uptime false s =
      (.ok (s.scheduler.interval.course uptime), { s with host := s.host.enter e }) := by
  have look : scheduler? s = (.ok s.scheduler, s) := rfl
  have started : ¬ s.scheduler.phase = .stopped := by simp [running]
  unfold begin
  rw [Action.bind_of_ok look, if_neg started, Interval.course]
  show ∃ e, (if s.scheduler.interval.isZero = true then _ else _ : Action Flushing Course) s = _
  cases s.scheduler.interval.isZero with
  | true => exact ⟨.flushingEveryWrite, rfl⟩
  | false =>
    refine ⟨.flushingEvery s.scheduler.interval, ?_⟩
    show (if s.scheduler.interval.overflows uptime = true then _ else _ : Action Flushing Course) _ = _
    cases s.scheduler.interval.overflows uptime with
    | true => rfl
    | false => rfl

end Flushing

namespace Collector

variable {settings : CollectorSettings} {h : Host} {c : Collector} {scheduler : Scheduler} {d : Disk}
  {uptime : Nat}

theorem ofSettings_beside (made : (ofSettings settings h).1 = .ok c) (has : c.HasScheduler) :
    ∃ scheduler, Beside scheduler c.host.disk c ∧ scheduler.phase = .running ∧
      scheduler.interval = settings.storeInterval := by
  unfold ofSettings at made
  split at made
  · unfold openDatabase at made
    split at made
    · exact nomatch made
    · obtain rfl := Except.ok.inj made
      exact nomatch has
  · unfold openFile at made
    split at made
    · exact nomatch made
    · obtain rfl := Except.ok.inj made
      obtain ⟨running, interval⟩ := Flushing.start_runs _
      exact ⟨_, ⟨rfl, Flushing.start_preserves _ ⟨.empty, rfl⟩, rfl⟩, running, interval⟩
  · obtain rfl := Except.ok.inj made
    exact nomatch has

theorem Beside.beginRun (beside : Beside scheduler d c) (running : scheduler.phase = .running)
    (uptime : Nat) : (beginRun uptime c).1 = some (scheduler.interval.course uptime) ∧
      Beside scheduler d (beginRun uptime c).2 := by
  obtain ⟨scheduled, memory, disk⟩ := beside
  obtain ⟨e, begun⟩ := Flushing.begin_course (s := ⟨c.backend, scheduler, c.host⟩) running uptime
  simp only [Collector.beginRun, scheduled, begun]
  exact ⟨rfl, rfl, memory, disk⟩

/-- The collector that is told to stop, after all that happened to it. -/
def served (uptime : Nat) (ending : Ending) (happenings : List Happening) (c : Collector) : Collector :=
  stopServing ending (pass (beginRun uptime c).1 happenings (beginRun uptime c).2).2

theorem Untouched.served {P : Collector → Prop} (u : Untouched P)
    (ticks : (beginRun uptime c).1 = some .running → Preserves P (onScheduler Flushing.tick))
    (begun : P (beginRun uptime c).2) (ending : Ending) (happenings : List Happening) :
    P (served uptime ending happenings c) := by
  have passed := u.pass ticks happenings begun
  cases ending with
  | signalled => exact u.entered _ _ (u.entered .shutdownReceived _ passed)
  | dropped => exact u.entered _ _ passed

/-- A run that ends with the scheduler's drain, and so with a last flush. -/
structure Drains (uptime task : Nat) (ending : Ending) (happenings : List Happening) (c : Collector) :
    Prop where
  last : (runThrough uptime task ending happenings c).2 =
    (onScheduler Flushing.drain (served uptime ending happenings c)).2
  stopped : (runThrough uptime task ending happenings c).2.scheduler.map Scheduler.phase = some .stopped

/-- A run whose scheduler broke down: it never stops, and nothing is ever flushed. -/
structure BreaksDown (uptime task : Nat) (ending : Ending) (happenings : List Happening)
    (c : Collector) : Prop where
  reported : (runThrough uptime task ending happenings c).2.host.journal =
    .flushTaskEnded task .clockOverflow :: (served uptime ending happenings c).host.journal
  running : (runThrough uptime task ending happenings c).2.scheduler.map Scheduler.phase = some .running
  unflushed : (runThrough uptime task ending happenings c).2.host.disk = c.host.disk

theorem Beside.drains (beside : Beside scheduler d c) (running : scheduler.phase = .running)
    (goesOn : scheduler.interval.course uptime = .running) (task : Nat) (ending : Ending)
    (happenings : List Happening) : c.Drains uptime task ending happenings := by
  obtain ⟨course, begun⟩ := beside.beginRun running uptime
  rw [goesOn] at course
  have last : (runThrough uptime task ending happenings c).2 =
      (onScheduler Flushing.drain (served uptime ending happenings c)).2 := by
    simp only [runThrough, served, course]
    rfl
  refine ⟨last, ?_⟩
  have has : HasScheduler (served uptime ending happenings c) :=
    untouched_hasScheduler.served (fun _ => onScheduler_hasScheduler _)
      (by simp [HasScheduler, begun.scheduled]) ending happenings
  obtain ⟨own, scheduled⟩ := Option.isSome_iff_exists.1 has
  rw [last]
  simp only [onScheduler, scheduled]
  exact congrArg some (Flushing.drain_stops _ trivial).2

theorem Beside.breaksDown (beside : Beside scheduler d c) (running : scheduler.phase = .running)
    (collapses : scheduler.interval.course uptime = .collapsed .clockOverflow) (task : Nat)
    (ending : Ending) (happenings : List Happening) : c.BreaksDown uptime task ending happenings := by
  obtain ⟨course, begun⟩ := beside.beginRun running uptime
  rw [collapses] at course
  -- With no time between flushes there is no deadline, hence no clock that could overflow.
  have waits : scheduler.isSynchronous = false := by
    by_contra zero
    rw [Interval.course, if_pos (.inl (Bool.not_eq_false _ ▸ zero))] at collapses
    exact nomatch collapses
  have ended : (runThrough uptime task ending happenings c).2 =
      (log (.flushTaskEnded task .clockOverflow) (served uptime ending happenings c)).2 := by
    simp only [runThrough, served, course]
    rfl
  obtain ⟨scheduled, -, disk⟩ := (untouched_beside waits d).served
    (fun goesOn => nomatch course.symm.trans goesOn) begun ending happenings
  rw [← beside.disk] at disk
  refine ⟨?_, ?_, ?_⟩
  · rw [ended]
    rfl
  · rw [ended]
    exact (congrArg (Option.map Scheduler.phase) scheduled).trans (congrArg some running)
  · rw [ended]
    exact disk

end Collector

/-! ## The loops of an agent -/

namespace Clock

theorem mem_timesFrom {period ending fuel first t : Nat} :
    t ∈ timesFrom period ending fuel first ↔ ∃ k < fuel, t = first + k * period ∧ t < ending := by
  induction fuel generalizing first with
  | zero => simp [timesFrom]
  | succ fuel ih =>
    rw [timesFrom]
    split
    · rename_i early
      rw [List.mem_cons, ih]
      constructor
      · rintro (rfl | ⟨k, less, rfl, within⟩)
        · exact ⟨0, Nat.succ_pos _, by simp, early⟩
        · exact ⟨k + 1, by omega, by rw [Nat.succ_mul]; omega, within⟩
      · rintro ⟨k, less, rfl, within⟩
        cases k with
        | zero => exact .inl (by simp)
        | succ k => exact .inr ⟨k, by omega, by rw [Nat.succ_mul]; omega, within⟩
    · rename_i late
      refine iff_of_false List.not_mem_nil ?_
      rintro ⟨k, -, rfl, within⟩
      omega

/-- A clock with a period ticks at every multiple of it behind the first time. -/
theorem mem_times {first period ending t : Nat} (positive : 0 < period) :
    t ∈ times first period ending ↔ ∃ k, t = first + k * period ∧ t < ending := by
  rw [times, mem_timesFrom]
  constructor
  · rintro ⟨k, -, at_, within⟩
    exact ⟨k, at_, within⟩
  · rintro ⟨k, at_, within⟩
    have below := Nat.le_mul_of_pos_right k positive
    exact ⟨k, by omega, at_, within⟩

end Clock

namespace Agent

open Command.Agent (intervals)

variable {settings : AgentSettings} {uptime : Nat}

namespace State

/-- What was sent so far: the number of reports, and those that arrived. -/
def sent (s : State) : Nat × List (List Record) :=
  (s.sends, s.arrived)

theorem sent_take (s : State) (r : Reading) : (s.take r).2.sent = s.sent := by
  unfold take
  cases r.result with
  | error e => rfl
  | ok batch =>
    simp only
    cases s.store.putBatch batch <;> rfl

theorem sent_takeAll (s : State) (rs : List Reading) : (s.takeAll rs).2.sent = s.sent := by
  induction rs generalizing s with
  | nil => rfl
  | cons r rest ih => exact (ih (s.take r).2).trans (s.sent_take r)

theorem sent_pollTick (w : Surroundings) (s : State) : (s.pollTick w).sent = s.sent := by
  have taken := sent_takeAll { s with polls := s.polls + 1 } (w.readings s.polls)
  show (countPoll _).sent = _
  unfold countPoll
  split
  · exact taken
  · exact taken

theorem sent_ticks (w : Surroundings) {l : List (Nat × Tick)} (polls : ∀ t ∈ l, t.2 = .poll)
    (s : State) : (l.foldl (fun s t => s.tick w t.2) s).sent = s.sent := by
  induction l generalizing s with
  | nil => rfl
  | cons t rest ih =>
    obtain ⟨first, others⟩ := List.forall_mem_cons.1 polls
    rw [List.foldl_cons, ih others, first]
    exact s.sent_pollTick w

end State

/-- The report loop runs: it has a tick at every multiple of its interval, and is stopped in the end. -/
structure Reports (uptime : Nat) (settings : AgentSettings) : Prop where
  ticks (span t : Nat) : (t, .report) ∈ ticks uptime (intervals settings) span ↔
    ∃ k, t = (k + 1) * (settings.reportSeconds.toNat * 1000) ∧ t < span
  stopped (task : Nat) (a : State) : (a.stop uptime task (intervals settings)).journal =
    .agentStopped :: .reportLoopStopped :: .pollLoopStopped :: a.journal

/-- The report loop broke down before its first tick: nothing is ever sent. -/
structure NeverReports (uptime : Nat) (settings : AgentSettings) : Prop where
  unsent (w : Surroundings) (span sources : Nat) (a : State) :
    (a.runFor w uptime span (intervals settings) sources).sent = a.sent
  reported (task : Nat) (a : State) : (a.stop uptime task (intervals settings)).journal =
    .agentStopped :: .reportTaskEnded task .clockOverflow :: .pollLoopStopped :: a.journal

theorem positive_of_validate (valid : settings.validate = .ok ()) :
    settings.pollSeconds.toNat ≠ 0 ∧ settings.reportSeconds.toNat ≠ 0 := by
  unfold AgentSettings.validate at valid
  split_ifs at valid with blank polls reports timeout
  exact ⟨fun zero => polls (UInt64.toNat_inj.1 zero), fun zero => reports (UInt64.toNat_inj.1 zero)⟩

theorem collapses_of_validate (valid : settings.validate = .ok ()) (uptime : Nat) :
    (intervals settings).pollCollapse? = none ∧
      (intervals settings).reportCollapse? uptime =
        if uptime + settings.reportSeconds.toNat < 2 ^ 63 then none else some .clockOverflow := by
  obtain ⟨polls, reports⟩ := positive_of_validate valid
  have nonzero {n : Nat} (ne : n ≠ 0) : (Interval.ofSeconds n).isZero = false :=
    Bool.eq_false_iff.2 (mt (Interval.isZero_ofSeconds n).1 ne)
  constructor
  · exact if_neg (Bool.eq_false_iff.1 (nonzero polls))
  · show (if (Interval.ofSeconds settings.reportSeconds.toNat).overflows uptime = true then _
      else if (Interval.ofSeconds settings.reportSeconds.toNat).isZero = true then _ else _) = _
    rw [nonzero reports]
    by_cases shown : uptime + settings.reportSeconds.toNat < 2 ^ 63
    · rw [if_neg (mt (Interval.overflows_ofSeconds _ _).1 (not_not.2 shown)), if_pos shown]
      rfl
    · rw [if_pos ((Interval.overflows_ofSeconds _ _).2 shown), if_neg shown]

theorem report_mem_together {polls reports : List Nat} {t : Nat} :
    (t, .report) ∈ Clock.together (Clock.stamped .poll polls) (Clock.stamped Tick.report reports) ↔
      t ∈ reports := by
  simp [Clock.together, Clock.stamped, List.mem_merge]

theorem reports_of_shown (valid : settings.validate = .ok ())
    (shown : uptime + settings.reportSeconds.toNat < 2 ^ 63) : Reports uptime settings := by
  obtain ⟨polls, reports⟩ := collapses_of_validate valid uptime
  rw [if_pos shown] at reports
  have positive : 0 < settings.reportInterval.milliseconds :=
    Nat.mul_pos (Nat.pos_of_ne_zero (positive_of_validate valid).2) (by decide)
  constructor
  · intro span t
    have shift (k : Nat) : (k + 1) * (settings.reportSeconds.toNat * 1000) =
        settings.reportInterval.milliseconds + k * settings.reportInterval.milliseconds := by
      rw [Nat.succ_mul, Nat.add_comm]
      rfl
    simp only [ticks, polls, reports, report_mem_together, shift]
    exact Clock.mem_times positive
  · intro task a
    simp only [State.stop, polls, reports]
    rfl

theorem neverReports_of_hidden (valid : settings.validate = .ok ())
    (hidden : ¬ uptime + settings.reportSeconds.toNat < 2 ^ 63) : NeverReports uptime settings := by
  obtain ⟨polls, reports⟩ := collapses_of_validate valid uptime
  rw [if_neg hidden] at reports
  constructor
  · intro w span sources a
    refine State.sent_ticks w ?_ _
    rintro ⟨t, tick⟩ mem
    cases tick with
    | poll => rfl
    | report =>
      simp only [ticks, polls, reports, report_mem_together, List.not_mem_nil] at mem
  · intro task a
    simp only [State.stop, polls, reports]
    rfl

end Agent

/-! ## Both programs -/

/-- **What a clock has to show.** A collector with a scheduler reaches its drain and its last flush exactly
when the clock can show a moment one flush interval after the start of the run, or the interval is
zero. The report loop of an agent with valid settings runs exactly when the clock can show its
first report. Otherwise the task is over before its first tick: nothing is flushed, or sent, in the whole run. -/
theorem deadlines_kept (uptime : Nat) :
    (∀ (settings : CollectorSettings) (h : Host) (c : Collector),
      (Collector.ofSettings settings h).1 = .ok c → c.HasScheduler →
        ∀ task ending happenings,
          if settings.storeSeconds.toNat = 0 ∨ uptime + settings.storeSeconds.toNat < 2 ^ 63 then
            c.Drains uptime task ending happenings
          else c.BreaksDown uptime task ending happenings) ∧
      ∀ settings : AgentSettings, settings.validate = .ok () →
        if uptime + settings.reportSeconds.toNat < 2 ^ 63 then Agent.Reports uptime settings
        else Agent.NeverReports uptime settings := by
  constructor
  · intro settings h c made has task ending happenings
    obtain ⟨scheduler, beside, running, interval⟩ := Collector.ofSettings_beside made has
    have course : scheduler.interval.course uptime =
        if settings.storeSeconds.toNat = 0 ∨ uptime + settings.storeSeconds.toNat < 2 ^ 63 then .running
        else .collapsed .clockOverflow := by
      rw [interval, Interval.course]
      simp only [CollectorSettings.storeInterval, Interval.isZero_ofSeconds,
        Interval.overflows_ofSeconds, not_not]
    split_ifs at course ⊢
    · exact beside.drains running course task ending happenings
    · exact beside.breaksDown running course task ending happenings
  · intro settings valid
    split_ifs with shown
    · exact Agent.reports_of_shown valid shown
    · exact Agent.neverReports_of_hidden valid shown

/-- With the intervals that both programs have by default, on a machine that has been up for a day; and with
the longest ones. -/
theorem deadlines_kept_by_default :
    let settings : CollectorSettings := .default "/tmp"
    let longest : CollectorSettings := { settings with storeSeconds := 18446744073709551615 }
    ∃ c d, (Collector.ofSettings settings (.fresh "/home")).1 = .ok c ∧
      c.Drains 86400 0 .signalled [.tick] ∧
      (Collector.ofSettings longest (.fresh "/home")).1 = .ok d ∧
      d.BreaksDown 86400 0 .signalled [.tick] ∧
      AgentSettings.default.validate = .ok () ∧ Agent.Reports 86400 .default := by
  intro settings longest
  have starts {s : CollectorSettings} (made : ((Collector.ofSettings s (.fresh "/home")).1.toOption.bind
      Collector.scheduler).isSome) :
      ∃ c, (Collector.ofSettings s (.fresh "/home")).1 = .ok c ∧ c.HasScheduler := by
    obtain ⟨scheduler, some⟩ := Option.isSome_iff_exists.1 made
    obtain ⟨c, started, scheduled⟩ := Option.bind_eq_some_iff.1 some
    exact ⟨c, Except.toOption_eq_some.1 started, by simp [Collector.HasScheduler, scheduled]⟩
  obtain ⟨c, made, has⟩ := starts (s := settings) (by decide +kernel)
  obtain ⟨d, made', has'⟩ := starts (s := longest) (by decide +kernel)
  have valid : AgentSettings.default.validate = .ok () := by decide
  exact ⟨c, d, made, (deadlines_kept 86400).1 settings _ c made has 0 .signalled [.tick], made',
    (deadlines_kept 86400).1 longest _ d made' has' 0 .signalled [.tick], valid,
    (deadlines_kept 86400).2 .default valid⟩

/-- The longest interval is accepted, and so is a write; but the scheduler is not stopped when the run
ends, and the snapshot file is not there. -/
theorem deadline_missed :
    let settings : CollectorSettings :=
      { CollectorSettings.default "/tmp" with storeSeconds := 18446744073709551615 }
    let write : Service.Request := ⟨"POST", "/update/counter/PollCount/2", [], []⟩
    settings.validate = .ok () ∧
      ∃ c, (Collector.ofSettings settings (.fresh "/home")).1 = .ok c ∧
        let run := Collector.runThrough 0 0 .signalled [.request write] c
        run.1.all Collector.isAccepted = true ∧ run.2.scheduler.map Scheduler.phase = some .running ∧
          run.2.host.disk.isFile "/tmp/tally-metrics.json" = false := by
  intro settings write
  refine ⟨by decide, ?_⟩
  have lost : (Collector.ofSettings settings (.fresh "/home")).1.toOption.any (fun c =>
      let run := Collector.runThrough 0 0 .signalled [.request write] c
      run.1.all Collector.isAccepted ∧ run.2.scheduler.map Scheduler.phase = some .running ∧
        run.2.host.disk.isFile "/tmp/tally-metrics.json" = false) = true := by
    decide +kernel
  obtain ⟨c, started, missed⟩ := Option.any_eq_true _ _ |>.1 lost
  exact ⟨c, Except.toOption_eq_some.1 started, of_decide_eq_true missed⟩

end Telemetry
