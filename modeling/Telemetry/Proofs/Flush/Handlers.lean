/-
Handlers that call the store and flush it, any number of them at once.

A handler goes step by step: it makes its call, one section of the store at a time
(`Store.Call.move`), and when that has written it takes the lock, reads the gauges, reads the
counters, replaces the durable contents, and gives the lock back. Between two of its
steps any others may come. Still the durable gauges are the live ones of some moment and the
durable counters are the live ones of some moment, neither is before a write whose flush has
succeeded, and neither goes back (`flushed_writes_kept`). A handler that is left alone does what
its call does and the announcement of a write after it (`LeftAlone`).
-/
import Mathlib.Logic.Function.Basic
import Mathlib.Order.Monotone.Basic
import Telemetry.Proofs.Flush.Life
import Telemetry.Proofs.Sections

namespace Telemetry

namespace Store

/-- The call as a backend takes it. -/
def Call.onBackend : Call → Backend.Call
  | .put name x => .put name x
  | .batch b => .putMetrics b
  | .all => .getMetrics

/-- The answer as a backend gives it. -/
def Answer.outcome : Answer → Outcome Backend.Returned
  | .written => .ok .nothing
  | .refused e => .error e
  | .seen s => .ok (.metrics s)

end Store

namespace Flushing

/-- How far a handler is: in its call, or in the flush after it. A flush reads the gauges before the
counters. -/
inductive Progress where
  | calling (stage : Store.Stage)
  | locked
  | halfRead (gauges : NameMap Binary64)
  | read (s : Snapshot)
  | flushed (succeeded : Bool)
  | done (succeeded : Bool)

/-- What the handlers share, and how far each of them is. -/
structure Shared where
  live : Store
  durable : Snapshot
  holder : Option Nat
  progress : Nat → Progress

/-- A handler is to take its next step; one that replaces the durable contents may fail. -/
structure Move where
  who : Nat
  fails : Bool

namespace Shared

/-- Handlers that have done nothing yet. -/
def first (live : Store) (durable : Snapshot) : Shared :=
  ⟨live, durable, none, fun _ => .calling .waiting⟩

def advance (s : Shared) (who : Nat) (p : Progress) : Shared :=
  { s with progress := Function.update s.progress who p }

/-- The next step of a handler: the next section of its call, or if that has written, of the flush.
One that needs the lock waits for it. -/
def step (calls : Nat → Store.Call) (s : Shared) (m : Move) : Shared :=
  match s.progress m.who with
  | .calling stage =>
    if stage.hasWritten then
      match s.holder with
      | none => { s with holder := some m.who }.advance m.who .locked
      | some _ => s
    else
      let moved := (calls m.who).move stage s.live
      { s with live := moved.2 }.advance m.who (.calling moved.1)
  | .locked => s.advance m.who (.halfRead s.live.gauges)
  | .halfRead gauges => s.advance m.who (.read ⟨gauges, s.live.counters⟩)
  | .read t =>
    if m.fails then s.advance m.who (.flushed false)
    else { s with durable := t }.advance m.who (.flushed true)
  | .flushed succeeded => { s with holder := none }.advance m.who (.done succeeded)
  | .done _ => s

/-- The state after so many moves. -/
def after (calls : Nat → Store.Call) (s : Shared) (schedule : Nat → Move) : Nat → Shared
  | 0 => s
  | n + 1 => (after calls s schedule n).step calls (schedule n)

end Shared

namespace Progress

/-- All that the call writes is in the store. -/
def hasWritten : Progress → Prop
  | calling stage => stage.hasWritten = true
  | _ => True

/-- The lock is held. -/
def holds : Progress → Prop
  | locked | halfRead _ | read _ | flushed _ => True
  | _ => False

/-- The durable contents were replaced. -/
def hasCopied : Progress → Prop
  | flushed succeeded | done succeeded => succeeded = true
  | _ => False

variable {p : Progress}

theorem hasWritten_of_holds (holds : p.holds) : p.hasWritten := by
  cases p with
  | calling stage => exact holds.elim
  | _ => trivial

theorem hasWritten_of_hasCopied (copied : p.hasCopied) : p.hasWritten := by
  cases p with
  | calling stage => exact copied.elim
  | _ => trivial

end Progress

/-- The moments at which the durable gauges and counters were live, and those at which the holder of the
lock has read. -/
structure Moments where
  gauges : Nat
  counters : Nat
  readGauges : Nat
  readCounters : Nat

/-- The moments after the move that is made at `n`. -/
def Moments.next (k : Moments) (n : Nat) (fails : Bool) : Progress → Moments
  | .locked => { k with readGauges := n }
  | .halfRead _ => { k with readCounters := n }
  | .read _ => if fails then k else { k with gauges := k.readGauges, counters := k.readCounters }
  | _ => k

def moments (calls : Nat → Store.Call) (s : Shared) (schedule : Nat → Move) : Nat → Moments
  | 0 => ⟨0, 0, 0, 0⟩
  | n + 1 => (moments calls s schedule n).next n (schedule n).fails
      ((s.after calls schedule n).progress (schedule n).who)

/-- What a move at `n` does to the state and the moments. -/
inductive Moves (m : Move) (n : Nat) (s : Shared) (k : Moments) : Shared → Moments → Prop where
  | rests (free : ¬ (s.progress m.who).holds) : Moves m n s k s k
  | calls {live : Store} {stage : Store.Stage} (unwritten : ¬ (s.progress m.who).hasWritten) :
      Moves m n s k ({ s with live }.advance m.who (.calling stage)) k
  | locks {stage : Store.Stage} (called : s.progress m.who = .calling stage) (free : s.holder = none) :
      Moves m n s k ({ s with holder := some m.who }.advance m.who .locked) k
  | readsGauges (locked : s.progress m.who = .locked) :
      Moves m n s k (s.advance m.who (.halfRead s.live.gauges)) { k with readGauges := n }
  | readsCounters {gauges : NameMap Binary64} (read : s.progress m.who = .halfRead gauges) :
      Moves m n s k (s.advance m.who (.read ⟨gauges, s.live.counters⟩)) { k with readCounters := n }
  | fails {t : Snapshot} (read : s.progress m.who = .read t) :
      Moves m n s k (s.advance m.who (.flushed false)) k
  | copies {t : Snapshot} (read : s.progress m.who = .read t) :
      Moves m n s k ({ s with durable := t }.advance m.who (.flushed true))
        { k with gauges := k.readGauges, counters := k.readCounters }
  | releases {succeeded : Bool} (flushed : s.progress m.who = .flushed succeeded) :
      Moves m n s k ({ s with holder := none }.advance m.who (.done succeeded)) k

theorem step_calling {calls : Nat → Store.Call} {m : Move} {s : Shared} {stage : Store.Stage}
    (called : s.progress m.who = .calling stage) (unwritten : stage.hasWritten = false) :
    s.step calls m = { s with live := ((calls m.who).move stage s.live).2 }.advance m.who
      (.calling ((calls m.who).move stage s.live).1) := by
  simp only [Shared.step, called, unwritten, Bool.false_eq_true, if_false]

theorem step_moves (calls : Nat → Store.Call) (m : Move) (n : Nat) (s : Shared) (k : Moments) :
    Moves m n s k (s.step calls m) (k.next n m.fails (s.progress m.who)) := by
  cases here : s.progress m.who with
  | calling stage =>
    cases written : stage.hasWritten with
    | false =>
      rw [step_calling here written]
      refine .calls ?_
      rw [here, Progress.hasWritten, written]
      exact Bool.false_ne_true
    | true =>
      simp only [Shared.step, here, written, if_true]
      cases free : s.holder with
      | none => exact .locks here free
      | some _ => exact .rests (by rw [here]; exact id)
  | locked =>
    simp only [Shared.step, here]
    exact .readsGauges here
  | halfRead gauges =>
    simp only [Shared.step, here]
    exact .readsCounters here
  | read t =>
    simp only [Shared.step, here, Moments.next]
    cases m.fails with
    | true => exact .fails here
    | false => exact .copies here
  | flushed succeeded =>
    simp only [Shared.step, here]
    exact .releases here
  | done succeeded =>
    simp only [Shared.step, here]
    exact .rests (by rw [here]; exact id)

/-! ## What a move keeps -/

variable {m : Move} {n : Nat} {s s' : Shared} {k k' : Moments} {i : Nat}

theorem Shared.progress_advance (s : Shared) (who : Nat) (p : Progress) (i : Nat) :
    (s.advance who p).progress i = if i = who then p else s.progress i :=
  Function.update_apply _ _ _ _

namespace Moves

theorem other (moves : Moves m n s k s' k') (other : i ≠ m.who) : s'.progress i = s.progress i := by
  cases moves with
  | rests => rfl
  | _ => exact Function.update_of_ne other _ _

theorem hasWritten (moves : Moves m n s k s' k') (written : (s.progress i).hasWritten) :
    (s'.progress i).hasWritten := by
  by_cases mover : i = m.who
  · subst mover
    cases moves with
    | rests => exact written
    | calls unwritten => exact absurd written unwritten
    | _ => rw [Shared.progress_advance, if_pos rfl]; trivial
  · rw [moves.other mover]
    exact written

theorem hasCopied (moves : Moves m n s k s' k') (copied : (s.progress i).hasCopied) :
    (s'.progress i).hasCopied := by
  by_cases mover : i = m.who
  · subst mover
    cases moves with
    | rests => exact copied
    | calls unwritten => exact absurd (Progress.hasWritten_of_hasCopied copied) unwritten
    | copies =>
      rw [Shared.progress_advance, if_pos rfl]
      rfl
    | releases before =>
      rw [before] at copied
      rw [Shared.progress_advance, if_pos rfl]
      exact copied
    | locks before | readsGauges before | readsCounters before | fails before =>
      rw [before] at copied
      exact copied.elim
  · rw [moves.other mover]
    exact copied

theorem durable (moves : Moves m n s k s' k') :
    s'.durable = s.durable ∨ (s'.progress m.who).hasCopied := by
  cases moves with
  | copies =>
    right
    rw [Shared.progress_advance, if_pos rfl]
    rfl
  | _ => exact .inl rfl

end Moves

/-- Who holds the lock is in the part of its steps that needs it, and nobody else is. -/
def Exclusive (s : Shared) : Prop :=
  ∀ i, (s.progress i).holds ↔ s.holder = some i

theorem Moves.exclusive (moves : Moves m n s k s' k') (exclusive : Exclusive s) : Exclusive s' := by
  intro i
  by_cases mover : i = m.who
  · subst mover
    cases moves with
    | rests => exact exclusive _
    | calls unwritten =>
      rw [Shared.progress_advance, if_pos rfl]
      have nobody : ¬ (s.progress m.who).holds := mt Progress.hasWritten_of_holds unwritten
      exact iff_of_false id (mt (exclusive _).2 nobody)
    | locks =>
      rw [Shared.progress_advance, if_pos rfl]
      exact iff_of_true trivial rfl
    | releases =>
      rw [Shared.progress_advance, if_pos rfl]
      exact iff_of_false id (fun holder => nomatch holder)
    | readsGauges before | readsCounters before | fails before | copies before =>
      rw [Shared.progress_advance, if_pos rfl]
      exact iff_of_true trivial ((exclusive _).1 (by rw [before]; trivial))
  · rw [moves.other mover, exclusive]
    cases moves with
    | locks called free =>
      rw [free]
      simp [Shared.advance, Ne.symm mover]
    | releases flushed =>
      have holder : s.holder = some m.who := (exclusive _).1 (by rw [flushed]; trivial)
      rw [holder]
      simp [Shared.advance, Ne.symm mover]
    | _ => exact Iff.rfl

/-! ## A handler that is left alone -/

theorem onLive_call (c : Store.Call) (store : Store) (scheduler : Scheduler) (host : Host) :
    ∃ a, (c.whole store).1 = .returned a ∧ onLive c.onBackend.run ⟨.memory store, scheduler, host⟩ =
      (a.outcome, ⟨.memory (c.whole store).2, scheduler, host⟩) := by
  cases c with
  | put name x =>
    simp only [onLive, Action.on, Store.Call.onBackend, Backend.Call.run, Backend.map_run, Backend.put,
      Backend.perform, Backend.onStore, Backend.writing, Store.Call.whole]
    cases store.put name x with
    | ok _ => exact ⟨.written, rfl, rfl⟩
    | error e => exact ⟨.refused e, rfl, rfl⟩
  | batch b =>
    simp only [onLive, Action.on, Store.Call.onBackend, Backend.Call.run, Backend.map_run,
      Backend.putMetrics, Backend.perform, Backend.onStore, Backend.writing, Store.Call.whole]
    cases store.putBatch b with
    | ok _ => exact ⟨.written, rfl, rfl⟩
    | error e => exact ⟨.refused e, rfl, rfl⟩
  | all => exact ⟨.seen store.snapshot, rfl, rfl⟩

/-- A scheduler that flushes every write and runs, between what the handlers share. -/
structure Serves (s : Shared) (t : Trial) (f : Flushing) : Prop where
  live : f.live = .memory s.live
  durable : f.scheduler.durable = .trial t
  contents : t.store.snapshot = s.durable
  synchronous : f.scheduler.isSynchronous = true
  running : f.scheduler.phase = .running

/-- The announcement of a write copies what is live, if the durable side accepts it. -/
theorem Serves.notified {s s' : Shared} {t : Trial} {f : Flushing} (serves : Serves s t f)
    (live : s'.live = s.live)
    (durable : s'.durable = if .restore ∈ t.refused then s.durable else s.live.snapshot) :
    ∃ t', Serves s' t' (notifyWrite f).2 := by
  let v : View Trial := ⟨s.live, t, f.scheduler.interval, f.scheduler.restoreOnStart,
    f.scheduler.phase, f.scheduler.flushed, f.host.phases, f.host.flushes⟩
  have shows := (notifyWrite_shows (D := .trial) (v := v) f
    ⟨serves.live, serves.durable, rfl, rfl, rfl, rfl, rfl, rfl⟩).2
  rw [View.notice, if_pos ⟨serves.synchronous, serves.running⟩] at shows
  have live' : ((v.copy .trial).2.live : Store) = s'.live := (View.live_copy _ v).trans live.symm
  refine ⟨(v.copy .trial).2.side, shows.live.trans (congrArg _ live'), shows.side, ?_,
    (congrArg Interval.isZero (shows.interval.trans (View.interval_copy _ v))).trans serves.synchronous,
    shows.phase.trans ((View.phase_copy _ v).trans serves.running)⟩
  rw [View.copy_trial, durable]
  by_cases refuses : .restore ∈ t.refused
  · rw [if_pos refuses, if_pos (show .restore ∈ v.side.refused from refuses)]
    exact serves.contents
  · rw [if_neg refuses, if_neg (show .restore ∉ v.side.refused from refuses)]

/-- The moves of this handler alone make its call, and if that writes, they do what the announcement of
the write does. -/
def LeftAlone (calls : Nat → Store.Call) (s : Shared) (who : Nat) : Prop :=
  ∀ t f, Serves s t f → ∃ n,
    let last := s.after calls (fun _ => ⟨who, decide (.restore ∈ t.refused)⟩) n
    match onLive (calls who).onBackend.run f with
    | (.ok .nothing, f) =>
      last.progress who = .done (decide (.restore ∉ t.refused)) ∧ ∃ t, Serves last t (notifyWrite f).2
    | (x, f) =>
      ∃ a : Store.Answer, last.progress who = .calling (.returned a) ∧ a.outcome = x ∧ Serves last t f

section Alone

variable (calls : Nat → Store.Call) (fails : Bool) {who : Nat}

theorem after_add (n l : Nat) : s.after calls (fun _ => m) (n + l) =
    (s.after calls (fun _ => m) n).after calls (fun _ => m) l := by
  induction l with
  | zero => rfl
  | succ l ih => exact congrArg (Shared.step calls · m) ih

/-- The first moves of a handler make its call, as one operation of the store. -/
theorem after_waiting (waiting : s.progress who = .calling .waiting) :
    ∃ n, s.after calls (fun _ => ⟨who, fails⟩) n =
      { s with live := ((calls who).whole s.live).2 }.advance who
        (.calling ((calls who).whole s.live).1) := by
  have first : s.after calls (fun _ => ⟨who, fails⟩) 1 =
      { s with live := ((calls who).move .waiting s.live).2 }.advance who
        (.calling ((calls who).move .waiting s.live).1) :=
    step_calling (m := ⟨who, fails⟩) waiting rfl
  have twice := (calls who).move_twice s.live
  generalize (calls who).move .waiting s.live = moved at first twice
  obtain ⟨stage, live⟩ := moved
  cases written : stage.hasWritten with
  | true =>
    -- The next move is one of the flush already, and there was no other section.
    obtain rfl := Store.Stage.eq_of_hasWritten written
    rw [Store.Call.move_returned] at twice
    exact ⟨1, by rw [first, ← twice]⟩
  | false =>
    have called : ({ s with live }.advance who (.calling stage)).progress who = .calling stage :=
      Function.update_self _ _ _
    have second : s.after calls (fun _ => ⟨who, fails⟩) 2 =
        (s.after calls (fun _ => ⟨who, fails⟩) 1).step calls ⟨who, fails⟩ := rfl
    refine ⟨2, ?_⟩
    rw [second, first, step_calling called written, ← twice]
    simp only [Shared.advance, Function.update_idem]

/-- Left alone, a handler that has written goes through its flush. -/
theorem after_written (written : s.progress who = .calling (.returned .written))
    (free : s.holder = none) :
    s.after calls (fun _ => ⟨who, fails⟩) 5 =
      { s with durable := if fails then s.durable else s.live.snapshot }.advance who (.done !fails) := by
  cases fails <;>
    simp [Shared.after, Shared.step, Shared.advance, written, free, Store.snapshot, Store.Stage.hasWritten]

theorem leftAlone_of_waiting (waiting : s.progress who = .calling .waiting) (free : s.holder = none) :
    LeftAlone calls s who := by
  intro t f serves
  obtain ⟨backend, scheduler, host⟩ := f
  obtain rfl : backend = .memory s.live := serves.live
  obtain ⟨n, made⟩ := after_waiting calls (decide (.restore ∈ t.refused)) waiting
  obtain ⟨a, answered, ran⟩ := onLive_call (calls who) s.live scheduler host
  generalize ((calls who).whole s.live).2 = live at made ran
  rw [answered] at made
  have kept : Serves ({ s with live }.advance who (.calling (.returned a))) t
      ⟨.memory live, scheduler, host⟩ := { serves with live := rfl }
  have returned : ({ s with live }.advance who (.calling (.returned a))).progress who =
      .calling (.returned a) := Function.update_self _ _ _
  rw [ran]
  cases a with
  | refused e => exact ⟨n, _, by rw [made, returned], rfl, made ▸ kept⟩
  | seen u => exact ⟨n, _, by rw [made, returned], rfl, made ▸ kept⟩
  | written =>
    have flushed := after_written calls (decide (.restore ∈ t.refused)) returned free
    refine ⟨n + 5, ?_⟩
    simp only [Store.Answer.outcome, after_add, made, flushed]
    exact ⟨(Function.update_self _ _ _).trans (by simp), kept.notified rfl (by simp [Shared.advance])⟩

end Alone

/-! ## Runs -/

/-- What the holder of the lock has read of a part of the store was live at that moment: after its own
write, and not before the moment of what is durable. -/
structure ReadAt {β : Type} (σ : Nat → Shared) (part : Store → NameMap β) (n durable moment i : Nat)
    (x : NameMap β) : Prop where
  live : x = part (σ moment).live
  since : durable ≤ moment
  past : moment ≤ n
  written : ((σ moment).progress i).hasWritten

/-- What a handler has read so far. -/
def HasRead (σ : Nat → Shared) (n : Nat) (k : Moments) (i : Nat) : Progress → Prop
  | .halfRead gauges => ReadAt σ Store.gauges n k.gauges k.readGauges i gauges
  | .read t => ReadAt σ Store.gauges n k.gauges k.readGauges i t.gauges ∧
      ReadAt σ Store.counters n k.counters k.readCounters i t.counters
  | _ => True

/-- The durable contents after `n` moves, by their moments. They are known to be a copy when a flush
has succeeded, or if they were one at first. -/
structure Sound (σ : Nat → Shared) (n : Nat) (k : Moments) : Prop where
  exclusive : Exclusive (σ n)
  gauges_le : k.gauges ≤ n
  counters_le : k.counters ≤ n
  copy : (∃ i, ((σ n).progress i).hasCopied) ∨ (σ 0).durable = (σ 0).live.snapshot →
    (σ n).durable.gauges = (σ k.gauges).live.gauges ∧
      (σ n).durable.counters = (σ k.counters).live.counters
  written : ∀ i, ((σ n).progress i).hasCopied →
    ((σ k.gauges).progress i).hasWritten ∧ ((σ k.counters).progress i).hasWritten
  read : ∀ i, HasRead σ n k i ((σ n).progress i)

variable {σ : Nat → Shared}

theorem HasRead.later {p : Progress} (read : HasRead σ n k i p) : HasRead σ (n + 1) k i p := by
  cases p with
  | halfRead gauges => exact { read with past := Nat.le_succ_of_le read.past }
  | read t =>
    obtain ⟨gauges, counters⟩ := read
    exact ⟨{ gauges with past := Nat.le_succ_of_le gauges.past },
      { counters with past := Nat.le_succ_of_le counters.past }⟩
  | _ => trivial

/-- Who does not hold the lock has read nothing. -/
theorem hasRead_of_free {p : Progress} (free : ¬ p.holds) : HasRead σ n k i p := by
  cases p <;> first | trivial | exact absurd trivial free

/-- A move that does not copy: the mover is at `p` then, and has copied only if it had before. -/
theorem Sound.advance (sound : Sound σ n k) {t : Shared} {p : Progress}
    (next : σ (n + 1) = t.advance m.who p) (progress : t.progress = (σ n).progress)
    (durable : t.durable = (σ n).durable) (exclusive : Exclusive (σ (n + 1)))
    (gauges : k'.gauges = k.gauges) (counters : k'.counters = k.counters)
    (fresh : p.hasCopied → ((σ n).progress m.who).hasCopied)
    (mover : HasRead σ (n + 1) k' m.who p)
    (others : ∀ i, i ≠ m.who → HasRead σ (n + 1) k' i ((σ n).progress i)) : Sound σ (n + 1) k' := by
  have here (i : Nat) : (σ (n + 1)).progress i = if i = m.who then p else (σ n).progress i := by
    rw [next, Shared.progress_advance, progress]
  have before (i : Nat) (copied : ((σ (n + 1)).progress i).hasCopied) :
      ((σ n).progress i).hasCopied := by
    rw [here] at copied
    split at copied
    · rename_i same
      rw [same]
      exact fresh copied
    · exact copied
  have same : (σ (n + 1)).durable = (σ n).durable := by rw [next]; exact durable
  refine ⟨exclusive, ?_, ?_, fun copy => ?_, fun i copied => ?_, fun i => ?_⟩
  · rw [gauges]
    exact Nat.le_succ_of_le sound.gauges_le
  · rw [counters]
    exact Nat.le_succ_of_le sound.counters_le
  · rw [same, gauges, counters]
    exact sound.copy (copy.imp_left fun ⟨i, copied⟩ => ⟨i, before i copied⟩)
  · rw [gauges, counters]
    exact sound.written i (before i copied)
  · rw [here]
    split
    · rename_i same
      rw [same]
      exact mover
    · rename_i other
      exact others i other

/-- One move. The moments of the durable contents stay, or they become those of the last reading. -/
theorem Sound.step (sound : Sound σ n k) {t : Shared} (moves : Moves m n (σ n) k t k')
    (next : σ (n + 1) = t)
    (persists : ∀ i a b, a ≤ b → ((σ a).progress i).hasWritten → ((σ b).progress i).hasWritten) :
    Sound σ (n + 1) k' ∧ k.gauges ≤ k'.gauges ∧ k.counters ≤ k'.counters := by
  have exclusive : Exclusive (σ (n + 1)) := next ▸ moves.exclusive sound.exclusive
  have still (i : Nat) : HasRead σ (n + 1) k i ((σ n).progress i) := (sound.read i).later
  -- While the mover holds the lock nobody else has read anything.
  have alone (k' : Moments) {p : Progress} (here : (σ n).progress m.who = p) (holds : p.holds) (i : Nat)
      (other : i ≠ m.who) : HasRead σ (n + 1) k' i ((σ n).progress i) := by
    refine hasRead_of_free fun holds' => other ?_
    have holder := (sound.exclusive i).1 holds'
    rw [(sound.exclusive _).1 (here ▸ holds)] at holder
    exact (Option.some.inj holder).symm
  cases moves with
  | rests =>
    refine ⟨⟨exclusive, Nat.le_succ_of_le sound.gauges_le, Nat.le_succ_of_le sound.counters_le, ?_, ?_,
      ?_⟩, Nat.le_refl _, Nat.le_refl _⟩
    · rw [next]
      exact sound.copy
    · rw [next]
      exact sound.written
    · rw [next]
      exact still
  | calls =>
    exact ⟨sound.advance next rfl rfl exclusive rfl rfl (fun copied => copied.elim) trivial
      fun i _ => still i, Nat.le_refl _, Nat.le_refl _⟩
  | locks =>
    exact ⟨sound.advance next rfl rfl exclusive rfl rfl (fun copied => copied.elim) trivial
      fun i _ => still i, Nat.le_refl _, Nat.le_refl _⟩
  | readsGauges locked =>
    refine ⟨sound.advance next rfl rfl exclusive rfl rfl (fun copied => copied.elim) ?_
      (alone _ locked trivial), Nat.le_refl _, Nat.le_refl _⟩
    exact ⟨rfl, sound.gauges_le, Nat.le_succ n, by rw [locked]; trivial⟩
  | readsCounters read =>
    refine ⟨sound.advance next rfl rfl exclusive rfl rfl (fun copied => copied.elim) ?_
      (alone _ read trivial), Nat.le_refl _, Nat.le_refl _⟩
    have gauges := still m.who
    rw [read] at gauges
    exact ⟨⟨gauges.live, gauges.since, gauges.past, gauges.written⟩,
      rfl, sound.counters_le, Nat.le_succ n, by rw [read]; trivial⟩
  | fails read =>
    exact ⟨sound.advance next rfl rfl exclusive rfl rfl (fun copied => nomatch copied) trivial
      (alone _ read trivial), Nat.le_refl _, Nat.le_refl _⟩
  | releases flushed =>
    exact ⟨sound.advance next rfl rfl exclusive rfl rfl (fun copied => by rw [flushed]; exact copied)
      trivial (alone _ flushed trivial), Nat.le_refl _, Nat.le_refl _⟩
  | copies read =>
    have mine := sound.read m.who
    rw [read] at mine
    obtain ⟨gauges, counters⟩ := mine
    have here (i : Nat) : (σ (n + 1)).progress i =
        if i = m.who then .flushed true else (σ n).progress i := by
      rw [next, Shared.progress_advance]
    refine ⟨⟨exclusive, Nat.le_succ_of_le gauges.past, Nat.le_succ_of_le counters.past, fun _ => ?_,
      fun i copied => ?_, fun i => ?_⟩, gauges.since, counters.since⟩
    · rw [next]
      exact ⟨gauges.live, counters.live⟩
    · rw [here] at copied
      split at copied
      · rename_i same
        rw [same]
        exact ⟨gauges.written, counters.written⟩
      · obtain ⟨first, second⟩ := sound.written i copied
        exact ⟨persists i _ _ gauges.since first, persists i _ _ counters.since second⟩
    · rw [here]
      split
      · trivial
      · rename_i other
        exact alone _ read trivial i other

section Runs

variable (calls : Nat → Store.Call) (live : Store) (durable : Snapshot) (schedule : Nat → Move)

theorem hasWritten_after {a b : Nat} (le : a ≤ b)
    (written : (((Shared.first live durable).after calls schedule a).progress i).hasWritten) :
    (((Shared.first live durable).after calls schedule b).progress i).hasWritten := by
  induction le with
  | refl => exact written
  | step _ ih => exact (step_moves calls _ 0 _ ⟨0, 0, 0, 0⟩).hasWritten ih

/-- Before a flush has succeeded the durable contents are those of the beginning. -/
theorem durable_after (n : Nat)
    (uncopied : ∀ i, ¬ (((Shared.first live durable).after calls schedule n).progress i).hasCopied) :
    ((Shared.first live durable).after calls schedule n).durable = durable := by
  induction n with
  | zero => rfl
  | succ n ih =>
    have moves := step_moves calls (schedule n) n ((Shared.first live durable).after calls schedule n)
      ⟨0, 0, 0, 0⟩
    have before := ih fun i copied => uncopied i (moves.hasCopied copied)
    exact (moves.durable.resolve_right (uncopied _)).trans before

theorem sound_first : Sound ((Shared.first live durable).after calls schedule) 0 ⟨0, 0, 0, 0⟩ where
  exclusive _ := iff_of_false id fun holder => nomatch holder
  gauges_le := Nat.le_refl 0
  counters_le := Nat.le_refl 0
  copy
    | .inl ⟨_, copied⟩ => copied.elim
    | .inr same => ⟨congrArg Snapshot.gauges same, congrArg Snapshot.counters same⟩
  written _ copied := copied.elim
  read _ := trivial

theorem sound_after : ∀ n, Sound ((Shared.first live durable).after calls schedule) n
    (moments calls (Shared.first live durable) schedule n)
  | 0 => sound_first calls live durable schedule
  | n + 1 => ((sound_after n).step (step_moves calls (schedule n) n _ _) rfl fun _ _ _ le =>
      hasWritten_after calls live durable schedule le).1

/-- **No write whose flush has succeeded is lost from the durable side.** Once a flush has succeeded,
and from the beginning if the durable contents are the live ones then, the durable gauges are those of
one moment and the durable counters those of another, and each such write had been made at both.
The moments do not go back. Until a flush succeeds the durable contents are those of the beginning.
All that a handler does when it is left alone is its call and the announcement of a write. -/
theorem flushed_writes_kept :
    let run := (Shared.first live durable).after calls schedule
    (∃ G C : Nat → Nat, Monotone G ∧ Monotone C ∧ ∀ n,
      (∃ i, ((run n).progress i).hasCopied) ∨ durable = live.snapshot →
        G n ≤ n ∧ C n ≤ n ∧ (run n).durable.gauges = (run (G n)).live.gauges ∧
          (run n).durable.counters = (run (C n)).live.counters ∧
          ∀ i, ((run n).progress i).hasCopied →
            ((run (G n)).progress i).hasWritten ∧ ((run (C n)).progress i).hasWritten) ∧
      (∀ n, (∀ i, ¬ ((run n).progress i).hasCopied) → (run n).durable = durable) ∧
      ∀ n who, (run n).progress who = .calling .waiting → (run n).holder = none →
        LeftAlone calls (run n) who := by
  intro run
  have sound := sound_after calls live durable schedule
  have goesOn (n : Nat) := ((sound n).step (step_moves calls (schedule n) n _ _) rfl fun _ _ _ le =>
    hasWritten_after calls live durable schedule le).2
  refine ⟨⟨fun n => (moments calls (Shared.first live durable) schedule n).gauges,
    fun n => (moments calls (Shared.first live durable) schedule n).counters,
    monotone_nat_of_le_succ fun n => (goesOn n).1, monotone_nat_of_le_succ fun n => (goesOn n).2,
    fun n known => ?_⟩, durable_after calls live durable schedule,
    fun _ _ waiting free => leftAlone_of_waiting calls waiting free⟩
  obtain ⟨gauges, counters⟩ := (sound n).copy known
  exact ⟨(sound n).gauges_le, (sound n).counters_le, gauges, counters, (sound n).written⟩

end Runs

/-- A handler that writes before another one's flush and waits for its lock: when both are done the
counters that are durable have both deltas. -/
theorem flushed_writes_kept_waiting :
    let run := (Shared.first .empty .empty).after (fun i => .put "jobs" (.counter (Int64.ofNat i + 1)))
      fun n => ⟨[0, 1, 0, 1, 0, 0, 0, 0, 1, 1, 1, 1, 1].getD n 0, false⟩
    (run 4).holder = some 0 ∧ (run 4).progress 1 = .calling (.returned .written) ∧
      (run 4).durable = .empty ∧ (run 13).durable.counters.get? "jobs" = some 3 ∧
      ∃ c ≤ 13, (run 13).durable.counters = (run c).live.counters ∧
        ((run c).progress 0).hasWritten ∧ ((run c).progress 1).hasWritten := by
  intro run
  have first : ((run 13).progress 0).hasCopied := rfl
  have second : ((run 13).progress 1).hasCopied := rfl
  obtain ⟨⟨_, C, -, -, kept⟩, -, -⟩ := flushed_writes_kept
    (fun i => .put "jobs" (.counter (Int64.ofNat i + 1))) .empty .empty
    fun n => ⟨[0, 1, 0, 1, 0, 0, 0, 0, 1, 1, 1, 1, 1].getD n 0, false⟩
  obtain ⟨-, past, -, counters, written⟩ := kept 13 (.inl ⟨0, first⟩)
  exact ⟨rfl, rfl, rfl, by decide, C 13, past, counters, (written 0 first).2, (written 1 second).2⟩

/-- Without a restore and before any flush has succeeded, the durable gauges need not have been live at
any moment. -/
theorem seeded_never_live :
    let seed : Snapshot := ⟨NameMap.empty.insert "load" .zero, .empty⟩
    let run := (Shared.first .empty seed).after (fun _ => .put "jobs" (.counter 1)) fun _ => ⟨0, true⟩
    (run 0).holder = none ∧ (run 6).holder = none ∧ ∀ n ≤ 6,
      (run 0).durable.gauges ≠ (run n).live.gauges ∧ (run 6).durable.gauges ≠ (run n).live.gauges := by
  decide

end Flushing

end Telemetry
