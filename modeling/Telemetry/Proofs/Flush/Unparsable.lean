/-
A snapshot file that cannot be parsed, beside a live store that has nothing to save.

A start does not restore from such a file and leaves it, unless broken files are to be removed. A
flush does not look at it: it writes the empty store's text, or fails and leaves it
(`SnapshotFile.write_either`). So through whatever happens to the scheduler the file holds its own
text until the first flush that succeeds, and the empty store's from then on
(`Flushing.unparsable_kept`). There is such a flush in a plain start and stop
(`Flushing.unparsable_replaced`).

Nothing is assumed of the rest of the disk, so the durable side is the file with the disk that it is
on (`Durable.onDisk`): what a reading gives and a replacement leaves is decided by the disk, whatever
the journal says (`Host.Decided`).
-/
import Telemetry.Proofs.Crash.Sibling
import Telemetry.Proofs.Flush.Life
import Telemetry.Proofs.SnapshotFile

namespace Telemetry

namespace Host

/-- What the action gives and leaves on the disk is decided by the disk it finds, and nothing of a
scheduler is entered. -/
def Decided {α : Type} (a : Action Host α) : Prop :=
  ∀ h, (a h).1 = (a ⟨h.disk, []⟩).1 ∧ (a h).2.disk = (a ⟨h.disk, []⟩).2.disk ∧ h.Alike (a h).2

namespace Decided

variable {α β : Type} {a : Action Host α} {f : α → Action Host β}

theorem pure (x : α) : Decided (Pure.pure x : Action Host α) :=
  fun h => ⟨rfl, rfl, .refl h⟩

theorem ofOutcome (x : Outcome α) : Decided (.ofOutcome x : Action Host α) :=
  fun h => ⟨rfl, rfl, .refl h⟩

theorem fail (e : Failure) : Decided (.fail e : Action Host α) :=
  fun h => ⟨rfl, rfl, .refl h⟩

theorem log {e : Event} (phase : e.phase? = none) (flush : e.isFlush = false) : Decided (log e) :=
  fun h => ⟨rfl, rfl, h.alike_enter phase flush⟩

theorem change (f : Disk → Except FileFault Disk) : Decided (change f) := by
  intro h
  simp only [Host.change]
  cases f h.disk with
  | error fault => exact ⟨rfl, rfl, .refl h⟩
  | ok d => exact ⟨rfl, rfl, h.alike_disk d⟩

theorem bind (first : Decided a) (rest : ∀ x, Decided (f x)) : Decided (a >>= f) := by
  intro h
  obtain ⟨gives, disk, alike⟩ := first h
  rw [Action.run_bind, Action.run_bind]
  cases done : a h with
  | mk x t =>
    cases done' : a ⟨h.disk, []⟩ with
    | mk x' t' =>
      rw [done, done'] at gives disk
      rw [done] at alike
      obtain rfl : x = x' := gives
      have same : t.disk = t'.disk := disk
      cases x with
      | error e => exact ⟨rfl, same, alike⟩
      | ok x =>
        obtain ⟨gives, disk, alike'⟩ := rest x t
        obtain ⟨gives', disk', -⟩ := rest x t'
        rw [same] at gives disk
        exact ⟨gives.trans gives'.symm, disk.trans disk'.symm, alike.trans alike'⟩

end Decided

end Host

namespace SnapshotFile

open Host (Decided)

variable {f : SnapshotFile} {h : Host} {b : Text.Bytes} {s : Snapshot}

theorem discard_decided (f : SnapshotFile) (reason : String) :
    Decided (.modify (f.discard reason) : Action Host Unit) := by
  intro h
  refine ⟨rfl, ?_⟩
  simp only [Action.modify, discard]
  split
  · cases h.disk.remove f.path with
    | error fault => exact ⟨rfl, h.alike_enter rfl rfl⟩
    | ok d => exact ⟨rfl, (h.alike_disk d).trans (Host.alike_enter _ rfl rfl)⟩
  · exact ⟨rfl, .refl h⟩

theorem read_decided (f : SnapshotFile) : Decided f.read := by
  intro h
  unfold read
  dsimp only
  cases h.disk.read f.path with
  | error fault => cases fault <;> exact ⟨rfl, rfl, .refl h⟩
  | ok bytes =>
    dsimp only
    cases parse bytes with
    | ok s => exact ⟨rfl, rfl, .refl h⟩
    | error fault => exact ⟨rfl, (f.discard_decided "unparseable" h).2⟩

theorem getMetrics_decided (f : SnapshotFile) : Decided f.getMetrics := by
  refine f.read_decided.bind fun found => ?_
  cases found with
  | none => exact .fail _
  | some s =>
    simp only
    split
    · exact (f.discard_decided "empty").bind fun _ => .fail _
    · exact .pure s

theorem write_decided (f : SnapshotFile) (s : Snapshot) : Decided (f.write s) :=
  .bind (.ofOutcome _) fun _ => .bind (.change _) fun _ => .bind (.change _) fun _ => .log rfl rfl

end SnapshotFile

/-- A snapshot file on its disk as a durable side. -/
def Durable.onDisk (f : SnapshotFile) : Durable Disk where
  Holds d backend disk := backend = .file f ∧ disk = d
  get d := ((f.getMetrics ⟨d, []⟩).1, (f.getMetrics ⟨d, []⟩).2.disk)
  put d s := ((f.write s ⟨d, []⟩).1, (f.write s ⟨d, []⟩).2.disk)
  gets := by
    rintro d ⟨_, host⟩ ⟨rfl, rfl⟩
    obtain ⟨gives, disk, alike⟩ := f.getMetrics_decided host
    exact ⟨gives, ⟨rfl, disk⟩, alike⟩
  puts := by
    rintro d ⟨_, host⟩ s ⟨rfl, rfl⟩
    obtain ⟨gives, disk, alike⟩ := f.write_decided s host
    exact ⟨gives, ⟨rfl, disk⟩, alike⟩
  closes := by
    rintro d ⟨_, host⟩ ⟨rfl, rfl⟩
    exact ⟨⟨rfl, rfl⟩, .refl host⟩

/-! ## A file of no use -/

namespace SnapshotFile

variable {f : SnapshotFile} {h : Host} {b : Text.Bytes}

/-- No metric can be restored from the text. -/
def Useless (b : Text.Bytes) : Prop :=
  ∀ s, parse b = .ok s → s.isEmpty = true

theorem useless_of_unparsable {fault : Json.Fault} (broken : parse b = .error fault) : Useless b :=
  fun _ parsed => nomatch broken.symm.trans parsed

theorem useless_empty : Useless (bytes .empty) :=
  fun _ parsed => isEmpty_reread (parse_bytes_eq_ok.1 parsed)

/-- A file of no use gives nothing, and is left where none is to be removed. -/
theorem getMetrics_useless (stays : f.removeBroken = false) (holds : h.disk.read f.path = .ok b)
    (useless : Useless b) : ∃ e, f.getMetrics h = (.error e, h) := by
  have left (reason : String) : f.discard reason h = h := by
    rw [discard, stays]
    rfl
  cases parsed : parse b with
  | error fault =>
    have read : f.read h = (.error (.badSnapshot (.unparsable f.path fault)), h) := by
      simp only [SnapshotFile.read, holds, parsed, left]
    exact ⟨_, Action.bind_of_error read⟩
  | ok s =>
    have read : f.read h = (.ok (some s), h) := by
      simp only [SnapshotFile.read, holds, parsed]
    refine ⟨.badSnapshot (.empty f.path), ?_⟩
    rw [getMetrics, Action.bind_of_ok read]
    simp only [useless s parsed, if_true]
    exact congrArg (Prod.mk _) (left "empty")

/-- A file that is written holds the snapshot, or the writing fails and the file holds what it held. -/
theorem write_either (leads : h.disk.Leads f.path) (s : Snapshot) :
    ((f.write s h).1 = .ok () ∧ (f.write s h).2.disk.read f.path = .ok (bytes s)) ∨
      ∃ e, (f.write s h).1 = .error e ∧ (f.write s h).2.disk.read f.path = h.disk.read f.path := by
  cases finite : s.checkFinite with
  | error e =>
    rw [write, finite, Action.bind_ofOutcome_error]
    exact .inr ⟨e, rfl, rfl⟩
  | ok _ =>
    rw [f.write_of_finite h finite]
    cases written : h.disk.write f.temporary (bytes s) with
    | error fault => exact .inr ⟨_, rfl, rfl⟩
    | ok d =>
      obtain ⟨-, sibling, same⟩ := Disk.write_temporary leads written
      dsimp only
      cases renamed : d.rename f.temporary f.path with
      | error fault => exact .inr ⟨_, rfl, same⟩
      | ok d' => exact .inl ⟨rfl, (Disk.rename_temporary sibling renamed).2⟩

end SnapshotFile

namespace View

open SnapshotFile (Useless bytes)

variable {f : SnapshotFile} {b : Text.Bytes} {v : View Disk}

/-- The live store is empty, and the file holds its text, or the empty store's if one was flushed. -/
structure Kept (f : SnapshotFile) (b : Text.Bytes) (v : View Disk) : Prop where
  live : v.live = .empty
  file : v.side.read f.path = .ok (if v.flushed then bytes .empty else b)

namespace Kept

theorem enter (kept : Kept f b v) (p : Phase) : Kept f b (v.enter p) :=
  ⟨kept.live, kept.file⟩

theorem entered (kept : Kept f b v) : Kept f b v.entered := by
  rw [View.entered]
  split
  · exact kept.enter .running
  · exact kept

theorem copy (kept : Kept f b v) : Kept f b (v.copy (.onDisk f)).2 := by
  have leads : v.side.Leads f.path := by
    obtain ⟨t, leads, -⟩ := Except.bind_eq_ok.1 kept.file
    exact .inr ⟨t, leads⟩
  have either := SnapshotFile.write_either (h := ⟨v.side, []⟩) leads Snapshot.empty
  have put : (Durable.onDisk f).put v.side Snapshot.empty =
      ((f.write Snapshot.empty ⟨v.side, []⟩).1, (f.write Snapshot.empty ⟨v.side, []⟩).2.disk) := rfl
  have empty : v.live.snapshot = Snapshot.empty := congrArg Store.snapshot kept.live
  rw [View.copy, empty, put]
  -- Only what `write_either` says of the writing counts from here on.
  generalize f.write Snapshot.empty ⟨v.side, []⟩ = written at either ⊢
  rcases either with ⟨gives, read⟩ | ⟨e, gives, read⟩
  · rw [gives]
    exact ⟨kept.live, read⟩
  · rw [gives]
    exact ⟨kept.live, read.trans kept.file⟩

theorem drain (kept : Kept f b v) : Kept f b (v.drain (.onDisk f)) :=
  (kept.enter .draining).copy.enter .stopped

theorem load (kept : Kept f b v) (stays : f.removeBroken = false) (useless : Useless b) :
    v.load (.onDisk f) = v := by
  have same : Useless (if v.flushed then bytes .empty else b) := by
    split
    · exact SnapshotFile.useless_empty
    · exact useless
  obtain ⟨e, got⟩ := SnapshotFile.getMetrics_useless (h := ⟨v.side, []⟩) stays kept.file same
  have get : (Durable.onDisk f).get v.side = (.error e, v.side) := by
    simp only [Durable.onDisk, got]
  rw [View.load, get]

theorem start (kept : Kept f b v) (stays : f.removeBroken = false) (useless : Useless b) :
    Kept f b (v.start (.onDisk f)) := by
  rw [View.start]
  split
  · rw [(kept.enter .restoring).load stays useless]
    exact (kept.enter .restoring).enter .running
  · exact kept.enter .running

end Kept

end View

/-! ## Whatever happens -/

namespace Flushing

/-- A call that leaves an empty store empty, as far as this is a call. -/
def Occasion.Idle : Occasion → Prop
  | .call c => (c.on .empty).2 = .empty
  | _ => True

/-- A flush can come of this: of a tick at an interval, of the announcement of a write without one,
of the end of a run, and of its beginning where nothing is waited for. -/
def Occasion.mayFlush (interval : Interval) : Occasion → Bool
  | .tick => !interval.isZero
  | .notice => interval.isZero
  | .stop => true
  | .begin _ alreadyDown => interval.isZero && alreadyDown
  | .start => false
  | .call _ => false

/-- What happens one after another, each to a scheduler in a stage of any kind: so starts may come
late, runs may follow one another, and ticks may go on after the end. -/
def through (s : Flushing) (turns : List (Stage × Occasion)) : Flushing :=
  turns.foldl (fun s t => (t.2.act t.1 s).2) s

end Flushing

namespace View

open Flushing (Occasion Stage)

variable {stage stage' : Stage} {o : Occasion}

section Flushed

variable {δ : Type} {D : Durable δ} {v w : View δ}

/-- No flush is done where none can come of what happens. -/
theorem Comes.flushed_eq (comes : Comes D v o stage stage' w) (quiet : o.mayFlush v.interval = false) :
    w.flushed = v.flushed := by
  cases comes with
  | nothing => rfl
  | started =>
    rw [start]
    split
    · exact flushed_load D _
    · rfl
  | begun =>
    rw [View.entered]
    split <;> rfl
  | passed every => simp [Occasion.mayFlush, every] at quiet
  | called => rfl
  | noticed every => simp [Occasion.mayFlush, every] at quiet
  | ticked timed => simp [Occasion.mayFlush, timed] at quiet
  | drained => cases quiet

end Flushed

variable {f : SnapshotFile} {b : Text.Bytes} {v w : View Disk}

theorem Kept.comes (kept : Kept f b v) (stays : f.removeBroken = false)
    (useless : SnapshotFile.Useless b) (idle : o.Idle) (comes : Comes (.onDisk f) v o stage stage' w) :
    Kept f b w := by
  cases comes with
  | nothing => exact kept
  | started => exact kept.start stays useless
  | begun => exact kept.entered
  | passed => exact kept.entered.drain
  | called =>
    rename_i c
    refine ⟨?_, kept.file⟩
    have live : (c.on v.live.snapshot).2 = .empty := by
      rw [kept.live]
      exact idle
    show (⟨(c.on v.live.snapshot).2.gauges, (c.on v.live.snapshot).2.counters⟩ : Store) = .empty
    rw [live]
    rfl
  | noticed => exact kept.copy
  | ticked => exact kept.copy
  | drained => exact kept.drain

end View

namespace Flushing

open SnapshotFile (bytes parse)
open View (Kept)

variable {f : SnapshotFile} {b : Text.Bytes} {v : View Disk} {s : Flushing}

theorem through_kept (stays : f.removeBroken = false) (useless : SnapshotFile.Useless b) :
    ∀ (turns : List (Stage × Occasion)) {v : View Disk} {s : Flushing}, Shows (.onDisk f) v s →
      Kept f b v → (∀ t ∈ turns, t.2.Idle) →
      ∃ w, Shows (.onDisk f) w (s.through turns) ∧ Kept f b w ∧
        ((∀ t ∈ turns, t.2.mayFlush v.interval = false) → w.flushed = v.flushed)
  | [], v, s, shows, kept, _ => ⟨v, shows, kept, fun _ => rfl⟩
  | (stage, o) :: rest, v, s, shows, kept, idle => by
    have next := (act_shows o stage shows).2
    have comes := v.act_comes (.onDisk f) o stage
    generalize (v.act (.onDisk f) o stage).2 = u at next comes
    have kept' := kept.comes stays useless (idle _ List.mem_cons_self) comes
    obtain ⟨w, shows', kept'', flushed⟩ := through_kept stays useless rest next kept'
      fun t mem => idle t (List.mem_cons_of_mem _ mem)
    refine ⟨w, shows', kept'', fun quiet => ?_⟩
    rw [← comes.flushed_eq (quiet _ List.mem_cons_self)]
    refine flushed fun t mem => ?_
    rw [comes.interval_eq]
    exact quiet t (List.mem_cons_of_mem _ mem)

/-- **A snapshot file that cannot be parsed is kept until the first flush that succeeds.** Where broken
files are not removed and the live store is left empty, whatever happens to the scheduler: nothing is
restored, the file holds what it held as long as no flush has succeeded, and the empty store's text
from then on. No flush succeeds where none comes of what happens. -/
theorem unparsable_kept {fault : Json.Fault} {h : Host} (interval : Interval) (restoring : Bool)
    (stays : f.removeBroken = false) (holds : h.disk.read f.path = .ok b)
    (broken : parse b = .error fault) (turns : List (Stage × Occasion)) (idle : ∀ t ∈ turns, t.2.Idle) :
    let s := through ⟨.memory .empty, .new (.file f) interval restoring, h⟩ turns
    s.live = .memory .empty ∧
      s.host.disk.read f.path = .ok (if s.scheduler.flushed then bytes .empty else b) ∧
      ((∀ t ∈ turns, t.2.mayFlush interval = false) → s.scheduler.flushed = false) := by
  intro s
  let v : View Disk := ⟨.empty, h.disk, interval, restoring, .stopped, false, h.phases, h.flushes⟩
  have shows : Shows (.onDisk f) v ⟨.memory .empty, .new (.file f) interval restoring, h⟩ :=
    ⟨rfl, ⟨rfl, rfl⟩, rfl, rfl, rfl, rfl, rfl, rfl⟩
  obtain ⟨w, shows, kept, flushed⟩ := through_kept stays (SnapshotFile.useless_of_unparsable broken)
    turns shows ⟨rfl, holds⟩ idle
  refine ⟨?_, ?_, fun quiet => shows.flushed.trans (flushed quiet)⟩
  · rw [shows.live, kept.live]
  · rw [shows.side.2, shows.flushed]
    exact kept.file

/-- Started, running and read from, a collector leaves the file that it did not understand. -/
theorem unparsable_kept_reading :
    let garbage := Text.Utf8.encode "garbage"
    let h : Host := ⟨⟨NameMap.empty.insert "/metrics.json" (.file garbage), "/home"⟩, []⟩
    let s := through ⟨.memory .empty, .new (.file ⟨"/metrics.json", false⟩) (.ofSeconds 300) true, h⟩
      [(.made, .start), (.started, .begin 0 false), (.run .running, .call (.get "jobs")),
        (.run .running, .notice)]
    h.disk.read "/metrics.json" = .ok garbage ∧ parse garbage = .error .malformed ∧
      s.live = .memory .empty ∧ s.host.disk.read "/metrics.json" = .ok garbage := by
  intro garbage h s
  have holds : h.disk.read "/metrics.json" = .ok garbage := by decide +kernel
  have broken : parse garbage = .error .malformed := by rfl
  obtain ⟨live, file, quiet⟩ := unparsable_kept (f := ⟨"/metrics.json", false⟩) (.ofSeconds 300) true rfl
    holds broken [(.made, .start), (.started, .begin 0 false), (.run .running, .call (.get "jobs")),
      (.run .running, .notice)] (by simp [Occasion.Idle, Backend.Call.on])
  rw [quiet (by decide)] at file
  exact ⟨holds, broken, live, file⟩

/-- Started and stopped, it writes the empty store over that file. -/
theorem unparsable_replaced :
    let garbage := Text.Utf8.encode "garbage"
    let h : Host := ⟨⟨NameMap.empty.insert "/metrics.json" (.file garbage), "/home"⟩, []⟩
    let s := through ⟨.memory .empty, .new (.file ⟨"/metrics.json", false⟩) (.ofSeconds 300) true, h⟩
      [(.made, .start), (.started, .begin 0 false), (.run .running, .stop)]
    h.disk.read "/metrics.json" = .ok garbage ∧ parse garbage = .error .malformed ∧
      s.live = .memory .empty ∧ s.host.disk.read "/metrics.json" = .ok (bytes .empty) ∧
      bytes .empty ≠ garbage := by
  intro garbage h s
  have ended : s.host.disk.read "/metrics.json" = .ok (bytes .empty) := by decide +kernel
  exact ⟨by decide +kernel, by rfl, by decide +kernel, ended, by decide +kernel⟩

end Flushing

end Telemetry
