/-
What a scheduler does between a store in memory and a durable side.

A durable side is known by what it keeps: how it answers a reading and a replacement of its
contents, and what it keeps then (`Durable`). Beside such a side a scheduler is known by a few
values (`View`), and each of its actions is a function of them (`start_shows`, `flush_shows`,
`notifyWrite_shows`, `begin_shows`, `drain_shows`).
-/
import Telemetry.Flush.Scheduler
import Telemetry.Proofs.Calls
import Telemetry.Proofs.Outcome

namespace Telemetry

/-- The phase that an event enters. -/
def Event.phase? : Event → Option Phase
  | .phaseEntered p => some p
  | _ => none

/-- The event is a flush that was done. -/
def Event.isFlush : Event → Bool
  | .flushed _ _ => true
  | _ => false

namespace Host

/-- The phases entered so far, the first one first. -/
def phases (h : Host) : List Phase :=
  h.events.filterMap Event.phase?

/-- How many flushes were done. -/
def flushes (h : Host) : Nat :=
  h.journal.countP Event.isFlush

theorem phases_enter (h : Host) (e : Event) : (h.enter e).phases = h.phases ++ e.phase?.toList := by
  simp only [phases, events, enter, List.reverse_cons, List.filterMap_append, List.filterMap_cons,
    List.filterMap_nil]
  cases e.phase? <;> rfl

theorem flushes_enter (h : Host) (e : Event) :
    (h.enter e).flushes = h.flushes + if e.isFlush then 1 else 0 :=
  List.countP_cons

/-- Nothing of a scheduler was entered between the two. -/
structure Alike (h h' : Host) : Prop where
  phases : h'.phases = h.phases
  flushes : h'.flushes = h.flushes

theorem Alike.refl (h : Host) : Alike h h :=
  ⟨rfl, rfl⟩

theorem Alike.trans {h h' h'' : Host} (first : Alike h h') (second : Alike h' h'') : Alike h h'' :=
  ⟨second.phases.trans first.phases, second.flushes.trans first.flushes⟩

theorem alike_disk (h : Host) (d : Disk) : Alike h { h with disk := d } :=
  ⟨rfl, rfl⟩

theorem alike_enter (h : Host) {e : Event} (phase : e.phase? = none) (flush : e.isFlush = false) :
    Alike h (h.enter e) :=
  ⟨by rw [phases_enter, phase]; exact List.append_nil _, by rw [flushes_enter, flush]; rfl⟩

end Host

/-! ## Durable sides -/

/-- A kind of backend that is flushed to, by what it keeps. -/
structure Durable (δ : Type) where
  /-- The backend keeps this, together with the disk. -/
  Holds : δ → Backend → Disk → Prop
  get : δ → Outcome Snapshot × δ
  put : δ → Snapshot → Outcome Unit × δ
  gets : ∀ {d site}, Holds d site.backend site.host.disk →
    let after := Backend.getMetrics site
    after.1 = (get d).1 ∧ Holds (get d).2 after.2.backend after.2.host.disk ∧
      site.host.Alike after.2.host
  puts : ∀ {d site} (s : Snapshot), Holds d site.backend site.host.disk →
    let after := Backend.restore s site
    after.1 = (put d s).1 ∧ Holds (put d s).2 after.2.backend after.2.host.disk ∧
      site.host.Alike after.2.host
  closes : ∀ {d site}, Holds d site.backend site.host.disk →
    let after := Backend.shutdown site
    Holds d after.2.backend after.2.host.disk ∧ site.host.Alike after.2.host

/-! ## Views -/

/-- What is to be known of a scheduler between a store in memory and a durable side: what both keep,
the settings, how far its life has gone, and what the journal says of that. -/
structure View (δ : Type) where
  live : Store
  side : δ
  interval : Interval
  restoring : Bool
  phase : Phase
  flushed : Bool
  phases : List Phase
  flushes : Nat

namespace View

variable {δ : Type} (D : Durable δ) (v : View δ)

def enter (p : Phase) : View δ :=
  { v with phase := p, phases := v.phases ++ [p] }

/-- A flush: what was put is there, or the failure left what the side then keeps. -/
def copy : Outcome Unit × View δ :=
  match D.put v.side v.live.snapshot with
  | (.ok (), d) => (.ok (), { v with side := d, flushed := true, flushes := v.flushes + 1 })
  | (.error e, d) => (.error e, { v with side := d })

/-- A restore: what the side gives is live, unless it is empty. -/
def load : View δ :=
  match D.get v.side with
  | (.ok s, d) =>
    if s.isEmpty then { v with side := d }
    else { v with side := d, live := ⟨s.gauges, s.counters⟩ }
  | (.error _, d) => { v with side := d }

def start : View δ :=
  if v.restoring then ((v.enter .restoring).load D).enter .running else v.enter .running

/-- The flush after a write, which a scheduler that is running makes if its interval is zero. -/
def notice : View δ :=
  if v.interval.isZero ∧ v.phase = .running then (v.copy D).2 else v

def drain : View δ :=
  ((v.enter .draining).copy D).2.enter .stopped

/-- The view when a run begins: a scheduler that was never started is running then. -/
def entered : View δ :=
  if v.phase = .stopped then v.enter .running else v

def begin (uptime : Nat) (alreadyDown : Bool) : Course × View δ :=
  if v.interval.isZero then
    if alreadyDown then (.drained, v.entered.drain D) else (.running, v.entered)
  else (if v.interval.overflows uptime then .collapsed .clockOverflow else .running, v.entered)

/-- The flushes that are counted are the ones that succeed. -/
theorem copy_counts : (v.copy D).1 = .ok () ↔ v.flushes < (v.copy D).2.flushes := by
  rw [copy]
  split <;> simp

@[simp] theorem live_copy : (v.copy D).2.live = v.live := by
  rw [copy]
  split <;> rfl

@[simp] theorem interval_copy : (v.copy D).2.interval = v.interval := by
  rw [copy]
  split <;> rfl

@[simp] theorem restoring_copy : (v.copy D).2.restoring = v.restoring := by
  rw [copy]
  split <;> rfl

@[simp] theorem phase_copy : (v.copy D).2.phase = v.phase := by
  rw [copy]
  split <;> rfl

@[simp] theorem phases_copy : (v.copy D).2.phases = v.phases := by
  rw [copy]
  split <;> rfl

@[simp] theorem live_notice : (v.notice D).live = v.live := by
  rw [notice]
  split
  · exact live_copy D v
  · rfl

@[simp] theorem interval_notice : (v.notice D).interval = v.interval := by
  rw [notice]
  split
  · exact interval_copy D v
  · rfl

@[simp] theorem phase_notice : (v.notice D).phase = v.phase := by
  rw [notice]
  split
  · exact phase_copy D v
  · rfl

@[simp] theorem interval_entered : v.entered.interval = v.interval := by
  rw [entered]
  split <;> rfl

@[simp] theorem live_entered : v.entered.live = v.live := by
  rw [entered]
  split <;> rfl

@[simp] theorem restoring_entered : v.entered.restoring = v.restoring := by
  rw [entered]
  split <;> rfl

theorem entered_eq (started : v.phase ≠ .stopped) : v.entered = v :=
  if_neg started

@[simp] theorem restoring_load : (v.load D).restoring = v.restoring := by
  rw [load]
  split
  · split <;> rfl
  · rfl

@[simp] theorem interval_load : (v.load D).interval = v.interval := by
  rw [load]
  split
  · split <;> rfl
  · rfl

@[simp] theorem flushed_load : (v.load D).flushed = v.flushed := by
  rw [load]
  split
  · split <;> rfl
  · rfl

@[simp] theorem phases_load : (v.load D).phases = v.phases := by
  rw [load]
  split
  · split <;> rfl
  · rfl

@[simp] theorem restoring_start : (v.start D).restoring = v.restoring := by
  rw [start]
  split
  · simp [enter]
  · rfl

@[simp] theorem interval_start : (v.start D).interval = v.interval := by
  rw [start]
  split
  · simp [enter]
  · rfl

theorem phase_start : (v.start D).phase = .running := by
  rw [start]
  split <;> rfl

theorem phases_start : (v.start D).phases =
    v.phases ++ ((if v.restoring then [.restoring] else []) ++ [.running]) := by
  rw [start]
  split <;> simp [enter]

@[simp] theorem live_drain : (v.drain D).live = v.live := by
  simp [drain, enter]

@[simp] theorem restoring_drain : (v.drain D).restoring = v.restoring := by
  simp [drain, enter]

theorem phases_drain : (v.drain D).phases = v.phases ++ [.draining, .stopped] := by
  simp [drain, enter]

end View

/-- A scheduler as it is seen. -/
structure Shows {δ : Type} (D : Durable δ) (v : View δ) (s : Flushing) : Prop where
  live : s.live = .memory v.live
  side : D.Holds v.side s.scheduler.durable s.host.disk
  interval : s.scheduler.interval = v.interval
  restoring : s.scheduler.restoreOnStart = v.restoring
  phase : s.scheduler.phase = v.phase
  flushed : s.scheduler.flushed = v.flushed
  phases : s.host.phases = v.phases
  flushes : s.host.flushes = v.flushes

namespace Flushing

open Telemetry.Action (Gives)

variable {δ : Type} {D : Durable δ} {v : View δ}

/-! ## Steps -/

theorem scheduler?_bind {β : Type} {x : Outcome β} {P Q : Flushing → Prop}
    {f : Scheduler → Action Flushing β} (rest : ∀ s, P s → (f s.scheduler s).1 = x ∧ Q (f s.scheduler s).2) :
    Gives P (scheduler? >>= f) x Q :=
  rest

theorem durableName_bind {β : Type} {x : Outcome β} {P Q : Flushing → Prop}
    {f : String → Action Flushing β} (rest : ∀ name, Gives P (f name) x Q) :
    Gives P (durableName >>= f) x Q :=
  fun s => rest s.scheduler.durable.name s

theorem log_shows {e : Event} (phase : e.phase? = none) (flush : e.isFlush = false) :
    Gives (Shows D v) (log e) (.ok ()) (Shows D v) := by
  intro s shows
  have alike := s.host.alike_enter phase flush
  exact ⟨rfl, { shows with
    phases := alike.phases.trans shows.phases
    flushes := alike.flushes.trans shows.flushes }⟩

theorem enterPhase_shows (p : Phase) :
    Gives (Shows D v) (enterPhase p) (.ok ()) (Shows D (v.enter p)) := by
  intro s shows
  refine ⟨rfl, { shows with phase := rfl, phases := ?_, flushes := ?_ }⟩
  · exact (s.host.phases_enter _).trans (congrArg (· ++ [p]) shows.phases)
  · exact (s.host.flushes_enter _).trans shows.flushes

section Steps

variable {α : Type} {a : Action Site α} {x : Outcome α} {d : δ}

theorem onDurable_leaves
    (leaves : ∀ site, D.Holds v.side site.backend site.host.disk →
      D.Holds d (a site).2.backend (a site).2.host.disk ∧ site.host.Alike (a site).2.host)
    (s : Flushing) (shows : Shows D v s) : Shows D { v with side := d } (onDurable a s).2 := by
  obtain ⟨holds, alike⟩ := leaves ⟨s.scheduler.durable, s.host⟩ shows.side
  exact { shows with
    side := holds
    phases := alike.phases.trans shows.phases
    flushes := alike.flushes.trans shows.flushes }

theorem onDurable_shows
    (does : ∀ site, D.Holds v.side site.backend site.host.disk → (a site).1 = x ∧
      D.Holds d (a site).2.backend (a site).2.host.disk ∧ site.host.Alike (a site).2.host) :
    Gives (Shows D v) (onDurable a) x (Shows D { v with side := d }) :=
  fun s shows => ⟨(does _ shows.side).1, onDurable_leaves (fun _ holds => (does _ holds).2) s shows⟩

end Steps

theorem readLive_shows :
    Gives (Shows D v) (onLive Backend.getMetrics) (.ok v.live.snapshot) (Shows D v) := by
  intro s shows
  obtain ⟨live, scheduler, host⟩ := s
  obtain rfl : live = .memory v.live := shows.live
  exact ⟨rfl, shows⟩

theorem restoreLive_shows (s : Snapshot) : Gives (Shows D v) (onLive (Backend.restore s)) (.ok ())
    (Shows D { v with live := ⟨s.gauges, s.counters⟩ }) := by
  intro t shows
  obtain ⟨live, scheduler, host⟩ := t
  obtain rfl : live = .memory v.live := shows.live
  exact ⟨rfl, { shows with live := rfl }⟩

theorem flush_shows : Gives (Shows D v) flush (v.copy D).1 (Shows D (v.copy D).2) := by
  have put := onDurable_shows (D := D) (v := v) fun _ holds => D.puts v.live.snapshot holds
  refine readLive_shows.bind ?_
  rw [View.copy]
  cases result : D.put v.side v.live.snapshot with
  | mk x d =>
    rw [result] at put
    cases x with
    | error e => exact put.bind_error
    | ok _ =>
      refine put.bind ?_
      intro s shows
      refine ⟨rfl, { shows with flushed := rfl, phases := ?_, flushes := ?_ }⟩
      · exact (s.host.phases_enter _).trans ((List.append_nil _).trans shows.phases)
      · exact (s.host.flushes_enter _).trans (congrArg (· + 1) shows.flushes)

theorem tryFlush_shows {report : Failure → Event} (phase : ∀ e, (report e).phase? = none)
    (flush : ∀ e, (report e).isFlush = false) :
    Gives (Shows D v) (tryFlush report) (.ok ()) (Shows D (v.copy D).2) :=
  .attempt_bind (fun s shows => (flush_shows s shows).2) fun
    | .ok () => .pure ()
    | .error e => log_shows (phase e) (flush e)

theorem tick_shows : Gives (Shows D v) tick (.ok ()) (Shows D (v.copy D).2) :=
  tryFlush_shows (fun _ => rfl) fun _ => rfl

theorem notifyWrite_shows : Gives (Shows D v) notifyWrite (.ok ()) (Shows D (v.notice D)) := by
  refine scheduler?_bind fun s shows => ?_
  have same : (s.scheduler.isSynchronous ∧ s.scheduler.phase = .running) ↔
      (v.interval.isZero ∧ v.phase = .running) := by
    rw [Scheduler.isSynchronous, shows.interval, shows.phase]
  rw [View.notice]
  by_cases due : v.interval.isZero ∧ v.phase = .running
  · rw [if_pos (same.2 due), if_pos due]
    exact tryFlush_shows (fun _ => rfl) (fun _ => rfl) s shows
  · rw [if_neg (mt same.1 due), if_neg due]
    exact ⟨rfl, shows⟩

/-- What a restore leaves, whether it gave something or failed. -/
theorem restore_shows (s : Flushing) (shows : Shows D v s) : Shows D (v.load D) (restore s).2 := by
  have got := onDurable_shows (D := D) (v := v) fun _ holds => D.gets holds
  rw [View.load]
  cases result : D.get v.side with
  | mk x d =>
    rw [result] at got
    cases x with
    | error e => exact (got.bind_error s shows).2
    | ok t =>
      obtain ⟨gives, next⟩ := got s shows
      rw [restore, Action.bind_of_ok (Prod.ext gives rfl)]
      simp only
      split
      · exact next
      · exact ((restoreLive_shows t).bind (.pure t.size) _ next).2

theorem start_shows (s : Flushing) (shows : Shows D v s) : Shows D (v.start D) (start s).2 := by
  rw [View.start, start, Action.bind_of_ok (show scheduler? s = (.ok s.scheduler, s) from rfl),
    shows.restoring]
  cases v.restoring with
  | false => exact ((enterPhase_shows .running).bind (.pure false) s shows).2
  | true =>
    have entered := (enterPhase_shows .restoring s shows).2
    have loaded := restore_shows _ entered
    have running (b : Bool) : Gives (Shows D ((v.enter .restoring).load D))
        (do enterPhase .running; pure b) (.ok b)
        (Shows D (((v.enter .restoring).load D).enter .running)) :=
      (enterPhase_shows .running).bind (.pure b)
    have tried : Action.attempt restore (enterPhase .restoring s).2 =
      (.ok (restore (enterPhase .restoring s).2).1, (restore (enterPhase .restoring s).2).2) := rfl
    rw [if_pos rfl, if_pos rfl,
      Action.bind_of_ok (show enterPhase .restoring s = (.ok (), (enterPhase .restoring s).2) from rfl),
      Action.bind_of_ok tried]
    cases (restore (enterPhase .restoring s).2).1 with
    | ok n => exact (durableName_bind (fun _ => (log_shows rfl rfl).andThen (running true)) _ loaded).2
    | error e => exact ((log_shows rfl rfl).andThen (running false) _ loaded).2

theorem drain_shows : Gives (Shows D v) drain (.ok ()) (Shows D (v.drain D)) := by
  -- Between its two phases a drain stands where the flush has left it.
  have ended : Gives (Shows D ((v.enter .draining).copy D).2)
      (do enterPhase .stopped; log .schedulerStopped) (.ok ()) (Shows D (v.drain D)) :=
    (enterPhase_shows .stopped).andThen (log_shows rfl rfl)
  have closed := onDurable_leaves (D := D) (v := ((v.enter .draining).copy D).2)
    fun _ holds => D.closes holds
  refine (enterPhase_shows .draining).andThen ?_
  refine .attempt_bind (fun s shows => (flush_shows s shows).2) fun flushed => ?_
  cases flushed with
  | ok _ =>
    refine (log_shows rfl rfl).andThen (.attempt_bind closed fun outcome => ?_)
    cases outcome with
    | ok _ => exact ended
    | error e => exact durableName_bind fun _ => (log_shows rfl rfl).andThen ended
  | error e =>
    refine (log_shows rfl rfl).andThen (.attempt_bind closed fun outcome => ?_)
    cases outcome with
    | ok _ => exact ended
    | error e => exact durableName_bind fun _ => (log_shows rfl rfl).andThen ended

/-- What begins a run begins it in a scheduler that is running. -/
theorem entered_shows {β : Type} {a : Action Flushing β} {x : Outcome β} {Q : Flushing → Prop}
    (rest : Gives (Shows D v.entered) a x Q) {s : Flushing} (shows : Shows D v s) :
    let begun := if s.scheduler.phase = .stopped then (do enterPhase .running; a) else a
    (begun s).1 = x ∧ Q (begun s).2 := by
  rw [View.entered, ← shows.phase] at rest
  split at rest
  · rename_i stopped
    rw [if_pos stopped]
    exact (enterPhase_shows .running).andThen rest s shows
  · rename_i started
    rw [if_neg started]
    exact rest s shows

theorem begin_shows (uptime : Nat) (alreadyDown : Bool) :
    Gives (Shows D v) (begin uptime alreadyDown) (.ok (v.begin D uptime alreadyDown).1)
      (Shows D (v.begin D uptime alreadyDown).2) := by
  refine scheduler?_bind fun s shows => entered_shows (scheduler?_bind fun t shows => ?_) shows
  have interval : t.scheduler.interval = v.interval := shows.interval.trans v.interval_entered
  simp only [View.begin, Scheduler.isSynchronous, interval]
  cases v.interval.isZero with
  | false =>
    simp only [Bool.false_eq_true, if_false]
    refine (log_shows rfl rfl).andThen ?_ t shows
    cases v.interval.overflows uptime with
    | false => exact .pure _
    | true => exact .pure _
  | true =>
    simp only [if_true]
    refine (log_shows rfl rfl).andThen ?_ t shows
    cases alreadyDown with
    | false => exact .pure _
    | true => exact drain_shows.andThen (.pure _)

end Flushing

end Telemetry
