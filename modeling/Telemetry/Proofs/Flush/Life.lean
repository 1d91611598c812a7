/-
The whole life of a scheduler, with every refusal of its durable side.

A life is what happens one after another: writes to the store and their announcements, ticks, and the
scheduler's own start, run and end, each while the durable side refuses whatever it likes. The
durable side always holds a copy of the live metrics, that of the last flush which was done
(`life_kept`).
-/
import Telemetry.Proofs.Flush.View

namespace Telemetry

/-- A backend on trial as a durable side. -/
def Durable.trial : Durable Trial where
  Holds t backend _ := backend = .trial t
  get t :=
    (if t.refused.contains .getMetrics then .error (.unavailable (.stated "down"))
      else .ok t.store.snapshot, t)
  put t s :=
    if t.refused.contains .restore then (.error (.unavailable (.stated "down")), t)
    else (.ok (), { t with store := ⟨s.gauges, s.counters⟩ })
  gets := by
    rintro t ⟨_, host⟩ rfl
    have alike : host.Alike (host.enter (.called t.label .getMetrics)) := host.alike_enter rfl rfl
    simp only [Backend.getMetrics, Backend.perform]
    split
    · exact ⟨rfl, rfl, alike⟩
    · exact ⟨rfl, rfl, alike⟩
  puts := by
    rintro t ⟨_, host⟩ s rfl
    have alike : host.Alike (host.enter (.called t.label .restore)) := host.alike_enter rfl rfl
    simp only [Backend.restore, Backend.perform]
    split
    · exact ⟨rfl, rfl, alike⟩
    · exact ⟨rfl, rfl, alike⟩
  closes := by
    rintro t ⟨_, host⟩ rfl
    have alike : host.Alike (host.enter (.called t.label .shutdown)) := host.alike_enter rfl rfl
    simp only [Backend.shutdown, Backend.perform]
    split
    · exact ⟨rfl, alike⟩
    · exact ⟨rfl, alike⟩

namespace Flushing

/-! ## Lives -/

/-- What can happen to a scheduler and its store. -/
inductive Occasion where
  | start
  | begin (uptime : Nat) (alreadyDown : Bool)
  | call (c : Backend.Call)
  | notice
  | tick
  | stop

/-- How far a scheduler has been used: it was made, it was started, it has a run. -/
inductive Stage where
  | made
  | started
  | run (course : Course)
  deriving DecidableEq

/-- Something happens while the durable side refuses some operations. -/
structure Turn where
  occasion : Occasion
  refused : List Operation

/-- A scheduler at some time of its life, with the live metrics at the last flush that was done. -/
structure Life where
  state : Flushing
  stage : Stage
  copied : Option Snapshot

/-- What happens, as a collector lets it: there is one start and one run after it, ticks come at an
interval that is not zero and only as long as the run goes on, and the end ends the run. -/
def Occasion.act (o : Occasion) (stage : Stage) (s : Flushing) : Stage × Flushing :=
  match o, stage with
  | .start, .made => (.started, (Flushing.start s).2)
  | .begin uptime alreadyDown, .started =>
    match Flushing.begin uptime alreadyDown s with
    | (.ok course, s) => (.run course, s)
    | (.error _, s) => (.started, s)
  | .call c, stage => (stage, (onLive c.run s).2)
  | .notice, stage => (stage, (notifyWrite s).2)
  | .tick, .run .running => (.run .running, if s.scheduler.isSynchronous then s else (Flushing.tick s).2)
  | .stop, .run .running => (.run .drained, (conclude .running s).2)
  | _, stage => (stage, s)

/-- From now on the durable side refuses these operations. -/
def refusing (refused : List Operation) (s : Flushing) : Flushing :=
  match s.scheduler.durable with
  | .trial t => { s with scheduler := { s.scheduler with durable := .trial { t with refused } } }
  | _ => s

namespace Life

/-- The live metrics. -/
def live (l : Life) : Option Snapshot :=
  Site.held? ⟨l.state.live, l.state.host⟩

/-- The metrics of the durable side. -/
def durable (l : Life) : Option Snapshot :=
  Site.held? ⟨l.state.scheduler.durable, l.state.host⟩

/-- A turn. If a flush was done in it, that copied what is live afterwards. -/
def take (l : Life) (t : Turn) : Life :=
  let (stage, s) := t.occasion.act l.stage (l.state.refusing t.refused)
  ⟨s, stage, if l.state.host.flushes < s.host.flushes then Site.held? ⟨s.live, s.host⟩ else l.copied⟩

end Life

/-- The phases of a start. -/
def opening (restoring : Bool) : List Phase :=
  (if restoring then [.restoring] else []) ++ [.running]

/-- The phases of a whole life. -/
def phasesOfLife (restoring : Bool) : List Phase :=
  opening restoring ++ [.draining, .stopped]

@[simp] theorem getLastD_opening (restoring : Bool) (p : Phase) :
    (opening restoring).getLastD p = .running := by
  cases restoring <;> rfl

@[simp] theorem getLastD_phasesOfLife (restoring : Bool) (p : Phase) :
    (phasesOfLife restoring).getLastD p = .stopped := by
  cases restoring <;> rfl

/-- The phases of a life up to a stage. -/
def Stage.passed (restoring : Bool) : Stage → List Phase
  | .made => []
  | .run .drained => phasesOfLife restoring
  | _ => opening restoring

theorem passed_isPrefix (restoring : Bool) (stage : Stage) :
    stage.passed restoring <+: phasesOfLife restoring := by
  cases stage with
  | made => exact List.nil_prefix
  | started => exact List.prefix_append _ _
  | run course =>
    cases course with
    | drained => exact List.prefix_rfl
    | running => exact List.prefix_append _ _
    | collapsed cause => exact List.prefix_append _ _

/-- What holds of a life however it has gone on. -/
structure Life.Kept (first l : Life) : Prop where
  /-- The durable side holds the last copy, or what it held at first. -/
  copy : l.durable = l.copied.or first.durable
  flushed : l.state.scheduler.flushed = l.copied.isSome
  /-- A flush is done, for the journal, when it succeeds. -/
  counted : ∀ refused, let s := l.state.refusing refused
    (Flushing.flush s).1 = .ok () ↔ s.host.flushes < (Flushing.flush s).2.host.flushes
  /-- The phases have been those of a life, up to the one that it is in. -/
  phases : ∃ passed, passed <+: phasesOfLife first.state.scheduler.restoreOnStart ∧
    l.state.host.phases = first.state.host.phases ++ passed ∧
    l.state.scheduler.phase = passed.getLastD .stopped

/-- What holds of a turn. -/
structure Life.Passes (l : Life) (t : Turn) : Prop where
  /-- The live metrics change by a call and by a start that restores. -/
  live : (l.take t).live =
    match t.occasion with
    | .call c => l.live.map fun s => (c.on s).2
    | .start =>
      if l.stage = .made ∧ l.state.scheduler.restoreOnStart ∧ .getMetrics ∉ t.refused ∧
        l.durable.any (!·.isEmpty) then l.durable else l.live
    | _ => l.live
  /-- An announcement does nothing if writes are not flushed or the scheduler is not running. -/
  notice : t.occasion = .notice →
    ¬ (l.state.scheduler.isSynchronous ∧ l.state.scheduler.phase = .running) →
      (l.take t).state = l.state.refusing t.refused
  /-- With the last flush done the durable side holds what is live. -/
  last : l.state.scheduler.phase ≠ .stopped → (l.take t).state.scheduler.phase = .stopped →
    .restore ∉ t.refused → (l.take t).durable = (l.take t).live

end Flushing

namespace View

open Flushing (Occasion Stage)

variable {δ : Type} (D : Durable δ)

/-- What happens, as it is seen. -/
def act (o : Occasion) (stage : Stage) (v : View δ) : Stage × View δ :=
  match o, stage with
  | .start, .made => (.started, v.start D)
  | .begin uptime alreadyDown, .started =>
    (.run (v.begin D uptime alreadyDown).1, (v.begin D uptime alreadyDown).2)
  | .call c, stage =>
    let s := (c.on v.live.snapshot).2
    (stage, { v with live := ⟨s.gauges, s.counters⟩ })
  | .notice, stage => (stage, v.notice D)
  | .tick, .run .running => (.run .running, if v.interval.isZero then v else (v.copy D).2)
  | .stop, .run .running => (.run .drained, v.drain D)
  | _, stage => (stage, v)

end View

namespace Flushing

open Telemetry.Action (Gives)

variable {δ : Type} {D : Durable δ} {v : View δ}

theorem call_host (c : Backend.Call) (store : Store) (host : Host) :
    (c.run ⟨.memory store, host⟩).2.host = host := by
  cases c with
  | put name x => rw [Backend.Call.run, Backend.map_run]; rfl
  | putMetrics batch => rw [Backend.Call.run, Backend.map_run]; rfl
  | restore s => rw [Backend.Call.run, Backend.map_run]; rfl
  | get name => rw [Backend.Call.run, Backend.map_run]; rfl
  | getTyped kind name => rw [Backend.Call.run, Backend.map_run]; rfl
  | getMetrics => rw [Backend.Call.run, Backend.map_run]; rfl

theorem call_shows (c : Backend.Call) (stage : Stage) {s : Flushing} (shows : Shows D v s) :
    Shows D (v.act D (.call c) stage).2 (onLive c.run s).2 := by
  obtain ⟨live, scheduler, host⟩ := s
  obtain rfl : live = .memory v.live := shows.live
  have stands : Backend.StoreOf ⟨.memory v.live, host⟩ v.live.snapshot := rfl
  have called := (Backend.store_step c stands).2
  have same := call_host c v.live host
  exact { shows with
    live := called
    side := by
      show D.Holds v.side scheduler.durable (c.run ⟨.memory v.live, host⟩).2.host.disk
      rw [same]
      exact shows.side
    phases := (congrArg Host.phases same).trans shows.phases
    flushes := (congrArg Host.flushes same).trans shows.flushes }

theorem act_shows (o : Occasion) (stage : Stage) {s : Flushing} (shows : Shows D v s) :
    (o.act stage s).1 = (v.act D o stage).1 ∧ Shows D (v.act D o stage).2 (o.act stage s).2 := by
  cases o with
  | start =>
    cases stage with
    | made => exact ⟨rfl, start_shows s shows⟩
    | started => exact ⟨rfl, shows⟩
    | run course => exact ⟨rfl, shows⟩
  | begin uptime alreadyDown =>
    cases stage with
    | made => exact ⟨rfl, shows⟩
    | started =>
      obtain ⟨gives, begun⟩ := begin_shows uptime alreadyDown s shows
      have result : Flushing.begin uptime alreadyDown s = (.ok (v.begin D uptime alreadyDown).1,
          (Flushing.begin uptime alreadyDown s).2) := Prod.ext gives rfl
      rw [Occasion.act, result]
      exact ⟨rfl, begun⟩
    | run course => exact ⟨rfl, shows⟩
  | call c => exact ⟨rfl, call_shows c stage shows⟩
  | notice => exact ⟨rfl, (notifyWrite_shows s shows).2⟩
  | tick =>
    cases stage with
    | made => exact ⟨rfl, shows⟩
    | started => exact ⟨rfl, shows⟩
    | run course =>
      cases course with
      | drained => exact ⟨rfl, shows⟩
      | collapsed cause => exact ⟨rfl, shows⟩
      | running =>
        simp only [Occasion.act, View.act, Scheduler.isSynchronous, shows.interval]
        cases v.interval.isZero with
        | true => exact ⟨trivial, shows⟩
        | false => exact ⟨trivial, (tick_shows s shows).2⟩
  | stop =>
    cases stage with
    | made => exact ⟨rfl, shows⟩
    | started => exact ⟨rfl, shows⟩
    | run course =>
      cases course with
      | drained => exact ⟨rfl, shows⟩
      | collapsed cause => exact ⟨rfl, shows⟩
      | running => exact ⟨rfl, (drain_shows s shows).2⟩

end Flushing

namespace View

open Flushing

/-! ## What a turn does -/

section Turns

variable {δ : Type} {D : Durable δ} {v w : View δ} {stage stage' : Stage} {o : Occasion}

/-- What comes of something that happens: the stage and the view afterwards. -/
inductive Comes (D : Durable δ) (v : View δ) : Occasion → Stage → Stage → View δ → Prop where
  | nothing {o : Occasion} {stage : Stage} (noCall : ∀ c, o ≠ .call c)
      (late : o = .start → stage ≠ .made) : Comes D v o stage stage v
  | started : Comes D v .start .made .started (v.start D)
  | begun {uptime : Nat} {alreadyDown : Bool} {course : Course} (goesOn : course ≠ .drained) :
      Comes D v (.begin uptime alreadyDown) .started (.run course) v.entered
  | passed {uptime : Nat} (every : v.interval.isZero = true) :
      Comes D v (.begin uptime true) .started (.run .drained) (v.entered.drain D)
  | called {c : Backend.Call} {stage : Stage} :
      Comes D v (.call c) stage stage (v.act D (.call c) stage).2
  | noticed {stage : Stage} (every : v.interval.isZero = true) :
      Comes D v .notice stage stage (v.copy D).2
  | ticked (timed : v.interval.isZero = false) :
      Comes D v .tick (.run .running) (.run .running) (v.copy D).2
  | drained : Comes D v .stop (.run .running) (.run .drained) (v.drain D)

theorem act_comes (D : Durable δ) (v : View δ) (o : Occasion) (stage : Stage) :
    Comes D v o stage (v.act D o stage).1 (v.act D o stage).2 := by
  cases o with
  | start =>
    cases stage with
    | made => exact .started
    | started => exact .nothing (by simp) (by simp)
    | run course => exact .nothing (by simp) (by simp)
  | begin uptime alreadyDown =>
    cases stage with
    | made => exact .nothing (by simp) (by simp)
    | run course => exact .nothing (by simp) (by simp)
    | started =>
      simp only [act, begin]
      cases every : v.interval.isZero with
      | false => exact .begun (by simp; split <;> simp)
      | true =>
        cases alreadyDown with
        | false => exact .begun (by simp)
        | true => exact .passed every
  | call c => exact .called
  | notice =>
    simp only [act, notice]
    split
    · rename_i due
      exact .noticed due.1
    · exact .nothing (by simp) (by simp)
  | tick =>
    cases stage with
    | made => exact .nothing (by simp) (by simp)
    | started => exact .nothing (by simp) (by simp)
    | run course =>
      cases course with
      | drained => exact .nothing (by simp) (by simp)
      | collapsed cause => exact .nothing (by simp) (by simp)
      | running =>
        simp only [act]
        cases every : v.interval.isZero with
        | false => exact .ticked every
        | true => exact .nothing (by simp) (by simp)
  | stop =>
    cases stage with
    | made => exact .nothing (by simp) (by simp)
    | started => exact .nothing (by simp) (by simp)
    | run course =>
      cases course with
      | drained => exact .nothing (by simp) (by simp)
      | collapsed cause => exact .nothing (by simp) (by simp)
      | running => exact .drained

namespace Comes

theorem interval_eq (comes : Comes D v o stage stage' w) : w.interval = v.interval := by
  cases comes with
  | nothing => rfl
  | started => exact interval_start D v
  | begun => exact v.interval_entered
  | passed => exact (interval_copy D _).trans v.interval_entered
  | called => rfl
  | noticed => exact interval_copy D v
  | ticked => exact interval_copy D v
  | drained => exact interval_copy D _

theorem restoring_eq (comes : Comes D v o stage stage' w) : w.restoring = v.restoring := by
  cases comes with
  | nothing => rfl
  | started => exact restoring_start D v
  | begun => exact v.restoring_entered
  | passed => rw [restoring_drain, restoring_entered]
  | called => rfl
  | noticed => exact restoring_copy D v
  | ticked => exact restoring_copy D v
  | drained => exact restoring_drain D v

end Comes

end Turns

section Trials

variable {v w : View Trial} {stage : Stage} {o : Occasion}

theorem copy_trial (v : View Trial) : (v.copy .trial).2 =
    if .restore ∈ v.side.refused then v
    else { v with
      side := { v.side with store := v.live }, flushed := true, flushes := v.flushes + 1 } := by
  simp only [copy, Durable.trial, List.contains_iff_mem]
  by_cases refuses : .restore ∈ v.side.refused
  · simp only [if_pos refuses]
  · simp only [if_neg refuses]
    rfl

/-- A copy of the live metrics is at the side unless it refuses to be replaced. -/
theorem side_copy (accepts : .restore ∉ v.side.refused) :
    (v.copy .trial).2.side.store = v.live := by
  rw [copy_trial, if_neg accepts]

/-- From one view to the next no flush was done, or one that copied what is live then. -/
def Copies (v w : View Trial) : Prop :=
  (w.side.store = v.side.store ∧ w.flushed = v.flushed ∧ w.flushes = v.flushes) ∨
    (w.side.store = w.live ∧ w.flushed = true ∧ v.flushes < w.flushes)

theorem load_trial (v : View Trial) : v.load .trial =
    if .getMetrics ∉ v.side.refused ∧ v.side.store.snapshot.isEmpty = false then
      { v with live := v.side.store }
    else v := by
  by_cases refuses : .getMetrics ∈ v.side.refused
  · have got : Durable.trial.get v.side = (.error (.unavailable (.stated "down")), v.side) := by
      simp [Durable.trial, refuses]
    rw [load, got, if_neg fun accepts => accepts.1 refuses]
  · have got : Durable.trial.get v.side = (.ok v.side.store.snapshot, v.side) := by
      simp [Durable.trial, refuses]
    simp only [load, got]
    cases v.side.store.snapshot.isEmpty with
    | true => simp
    | false => simp [refuses, Store.snapshot]

/-- The phases since `before` are those of the stage, and the last of them is the view's. -/
structure Stands (before : List Phase) (v : View Trial) (stage : Stage) : Prop where
  phases : v.phases = before ++ stage.passed v.restoring
  phase : v.phase = (stage.passed v.restoring).getLastD .stopped

/-- The live metrics change by a call and by a start that restores. -/
def liveAfter (v : View Trial) (stage : Stage) : Occasion → Store
  | .call c => ⟨(c.on v.live.snapshot).2.gauges, (c.on v.live.snapshot).2.counters⟩
  | .start =>
    if stage = .made ∧ v.restoring ∧ .getMetrics ∉ v.side.refused ∧
      v.side.store.snapshot.isEmpty = false then v.side.store else v.live
  | _ => v.live

namespace Comes

variable {stage' : Stage}

theorem copies (comes : Comes .trial v o stage stage' w) : Copies v w := by
  have quiet (u : View Trial) : Copies u u := .inl ⟨rfl, rfl, rfl⟩
  have copy (u : View Trial) : Copies u (u.copy .trial).2 := by
    rw [copy_trial]
    split
    · exact quiet u
    · exact .inr ⟨rfl, rfl, Nat.lt_succ_self _⟩
  have entered (u : View Trial) : u.entered = u ∨ u.entered = u.enter .running := by
    rw [View.entered]
    split
    · exact .inr rfl
    · exact .inl rfl
  cases comes with
  | nothing => exact quiet v
  | started =>
    rw [View.start, load_trial]
    split
    · split <;> exact .inl ⟨rfl, rfl, rfl⟩
    · exact .inl ⟨rfl, rfl, rfl⟩
  | begun =>
    rcases entered v with same | same
    · rw [same]
      exact quiet v
    · rw [same]
      exact .inl ⟨rfl, rfl, rfl⟩
  | passed =>
    rcases entered v with same | same
    · rw [same]
      exact copy (v.enter .draining)
    · rw [same]
      exact copy ((v.enter .running).enter .draining)
  | called => exact .inl ⟨rfl, rfl, rfl⟩
  | noticed => exact copy v
  | ticked => exact copy v
  | drained => exact copy (v.enter .draining)

theorem live_eq (comes : Comes .trial v o stage stage' w) : w.live = v.liveAfter stage o := by
  cases comes with
  | nothing noCall late =>
    cases o with
    | call c => exact absurd rfl (noCall c)
    | start => exact (if_neg fun made => late rfl made.1).symm
    | _ => rfl
  | started =>
    simp only [View.start, load_trial, enter, liveAfter, true_and]
    cases v.restoring with
    | false => simp
    | true =>
      simp only [if_true, true_and]
      split <;> rfl
  | begun => exact v.live_entered
  | passed => exact (live_drain _ _).trans v.live_entered
  | called => rfl
  | noticed => exact live_copy _ v
  | ticked => exact live_copy _ v
  | drained => exact live_drain _ v

/-- The phases go on with the stage. -/
theorem stands {before : List Phase} (comes : Comes .trial v o stage stage' w)
    (stands : Stands before v stage) : Stands before w stage' := by
  have same := comes.restoring_eq
  obtain ⟨phases, phase⟩ := stands
  have drained (passed : stage.passed v.restoring = opening v.restoring) :
      Stands before (v.drain .trial) (.run .drained) := by
    constructor
    · rw [phases_drain, restoring_drain, phases, passed, List.append_assoc]
      rfl
    · rw [restoring_drain]
      exact (getLastD_phasesOfLife v.restoring _).symm
  have entered (passed : stage.passed v.restoring = opening v.restoring) : v.entered = v := by
    refine entered_eq v ?_
    rw [phase, passed, getLastD_opening]
    decide
  cases comes with
  | nothing => exact ⟨phases, phase⟩
  | started =>
    constructor
    · rw [phases_start, restoring_start, phases, Stage.passed, List.append_nil]
      rfl
    · rw [restoring_start, phase_start]
      exact (getLastD_opening v.restoring _).symm
  | begun goesOn =>
    rw [entered rfl]
    rename_i course
    cases course with
    | drained => exact absurd rfl goesOn
    | running => exact ⟨phases, phase⟩
    | collapsed cause => exact ⟨phases, phase⟩
  | passed =>
    rw [entered rfl]
    exact drained rfl
  | called => exact ⟨phases, phase⟩
  | noticed => exact ⟨by simp [phases], by simp [phase]⟩
  | ticked => exact ⟨by simp [phases], by simp [phase]⟩
  | drained => exact drained rfl

/-- With the last flush done the side holds what is live. -/
theorem last (comes : Comes .trial v o stage stage' w) (going : v.phase ≠ .stopped)
    (ended : w.phase = .stopped) (accepts : .restore ∉ v.side.refused) : w.side.store = w.live := by
  have drained : (v.drain .trial).side.store = (v.drain .trial).live := by
    rw [live_drain]
    exact side_copy (v := v.enter .draining) accepts
  cases comes with
  | nothing => exact absurd ended going
  | started =>
    rw [start] at ended
    split at ended <;> cases ended
  | begun =>
    rw [entered_eq v going] at ended
    exact absurd ended going
  | passed =>
    rw [entered_eq v going]
    exact drained
  | called => exact absurd ended going
  | noticed | ticked =>
    rw [phase_copy] at ended
    exact absurd ended going
  | drained => exact drained

end Comes

/-- The view when the side has been told what to refuse. -/
def refusing (refused : List Operation) (v : View Trial) : View Trial :=
  { v with side := { v.side with refused } }

end Trials

end View

namespace Flushing

open View

/-! ## Lives as they are seen -/

variable {v w first : View Trial} {s : Flushing} {l : Life}

theorem notifyWrite_idle (idle : ¬ (s.scheduler.isSynchronous ∧ s.scheduler.phase = .running)) :
    notifyWrite s = (.ok (), s) := by
  rw [notifyWrite, Action.bind_of_ok (show scheduler? s = (.ok s.scheduler, s) from rfl), if_neg idle]
  rfl

theorem refusing_shows (refused : List Operation) (shows : Shows .trial v s) :
    Shows .trial (v.refusing refused) (s.refusing refused) := by
  have durable : s.scheduler.durable = .trial v.side := shows.side
  simp only [refusing, durable]
  exact { shows with side := rfl }

namespace Life

/-- What is seen of a life, against what was seen at first. -/
structure Seen (first v : View Trial) (l : Life) : Prop where
  shows : Shows .trial v l.state
  stands : Stands first.phases v l.stage
  restoring : v.restoring = first.restoring
  copy : some v.side.store.snapshot = l.copied.or (some first.side.store.snapshot)
  flushed : v.flushed = l.copied.isSome

theorem Seen.live_eq (seen : l.Seen first v) : l.live = some v.live.snapshot := by
  rw [live, seen.shows.live]
  rfl

theorem Seen.durable_eq (seen : l.Seen first v) : l.durable = some v.side.store.snapshot := by
  rw [durable, show l.state.scheduler.durable = .trial v.side from seen.shows.side]
  rfl

theorem Seen.take (seen : l.Seen first v) (t : Turn) :
    ∃ w, Comes .trial (v.refusing t.refused) t.occasion l.stage (l.take t).stage w ∧
      (l.take t).Seen first w := by
  obtain ⟨stage, shows⟩ := act_shows t.occasion l.stage (refusing_shows t.refused seen.shows)
  have comes := (v.refusing t.refused).act_comes .trial t.occasion l.stage
  rw [← stage] at comes
  generalize ((v.refusing t.refused).act .trial t.occasion l.stage).2 = w at shows comes
  have copied : (l.take t).copied =
      if v.flushes < w.flushes then some w.live.snapshot else l.copied := by
    have now := congrArg (Site.held? ⟨·, (t.occasion.act l.stage (l.state.refusing t.refused)).2.host⟩)
      shows.live
    rw [← seen.shows.flushes, ← shows.flushes]
    exact congrArg (ite _ · l.copied) now
  refine ⟨w, comes, shows, comes.stands ⟨seen.stands.phases, seen.stands.phase⟩,
    comes.restoring_eq.trans seen.restoring, ?_, ?_⟩
  · rcases comes.copies with ⟨store, -, flushes⟩ | ⟨store, -, grew⟩
    · rw [copied, if_neg (by rw [flushes]; exact Nat.lt_irrefl _), store]
      exact seen.copy
    · rw [copied, if_pos (show v.flushes < w.flushes from grew), store]
      rfl
  · rcases comes.copies with ⟨-, flushed, flushes⟩ | ⟨-, flushed, grew⟩
    · rw [copied, if_neg (by rw [flushes]; exact Nat.lt_irrefl _), flushed]
      exact seen.flushed
    · rw [copied, if_pos (show v.flushes < w.flushes from grew), flushed]
      rfl

theorem Seen.run : ∀ (turns : List Turn) {l : Life} {v : View Trial}, l.Seen first v →
    ∃ w, (turns.foldl Life.take l).Seen first w
  | [], _, v, seen => ⟨v, seen⟩
  | t :: rest, _, _, seen => by
    obtain ⟨_, -, next⟩ := seen.take t
    exact next.run rest

theorem Seen.kept {l₀ : Life} (seen₀ : l₀.Seen first first) (seen : l.Seen first v) : l₀.Kept l where
  copy := by rw [seen.durable_eq, seen.copy, seen₀.durable_eq]
  flushed := seen.shows.flushed.trans seen.flushed
  counted := by
    intro refused s
    have shows := refusing_shows refused seen.shows
    obtain ⟨gives, flushed⟩ := flush_shows s shows
    rw [gives, show s.host.flushes = _ from shows.flushes, flushed.flushes]
    exact copy_counts _ _
  phases := by
    refine ⟨l.stage.passed first.restoring, ?_, ?_, ?_⟩
    · rw [seen₀.shows.restoring]
      exact passed_isPrefix _ _
    · rw [seen.shows.phases, seen₀.shows.phases, seen.stands.phases, seen.restoring]
    · rw [seen.shows.phase, seen.stands.phase, seen.restoring]

theorem Seen.passes (seen : l.Seen first v) (t : Turn) : l.Passes t where
  live := by
    obtain ⟨w, comes, next⟩ := seen.take t
    rw [next.live_eq, comes.live_eq, seen.live_eq]
    cases t.occasion with
    | call c => rfl
    | start =>
      rw [seen.durable_eq, seen.shows.restoring]
      simp only [liveAfter, Option.any_some, Bool.not_eq_true', apply_ite Store.snapshot, apply_ite some]
      rfl
    | _ => rfl
  notice := by
    intro notice idle
    have same : (l.state.refusing t.refused).scheduler.isSynchronous = l.state.scheduler.isSynchronous ∧
        (l.state.refusing t.refused).scheduler.phase = l.state.scheduler.phase := by
      rw [refusing]
      split <;> exact ⟨rfl, rfl⟩
    rw [← same.1, ← same.2] at idle
    rw [Life.take, notice]
    exact congrArg Prod.snd (notifyWrite_idle idle)
  last := by
    intro going ended accepts
    obtain ⟨w, comes, next⟩ := seen.take t
    rw [next.durable_eq, next.live_eq]
    rw [seen.shows.phase] at going
    rw [next.shows.phase] at ended
    rw [comes.last going ended accepts]

end Life

/-- **The durable side holds a copy of the live metrics, the last one that was made.** -/
theorem life_kept (name label : String) (live durable : Store) (refused : List Operation)
    (interval : Interval) (restoring : Bool) (h : Host) (turns : List Turn) :
    let first : Life := ⟨⟨.memory live, .new (.trial ⟨name, label, durable, refused⟩) interval restoring, h⟩,
      .made, none⟩
    let l := turns.foldl Life.take first
    first.Kept l ∧ ∀ t, l.Passes t := by
  intro first l
  let v : View Trial := ⟨live, ⟨name, label, durable, refused⟩, interval, restoring, .stopped, false,
    h.phases, h.flushes⟩
  have seen₀ : first.Seen v v :=
    ⟨⟨rfl, rfl, rfl, rfl, rfl, rfl, rfl, rfl⟩, ⟨(List.append_nil _).symm, rfl⟩, rfl, rfl, rfl⟩
  obtain ⟨w, seen⟩ := seen₀.run turns
  exact ⟨seen₀.kept seen, seen.passes⟩

end Flushing

end Telemetry
