/-
What comes back from a snapshot file.

A file that was written holds all of its snapshot, at a place that can be written
again (`write_ok`). What is read from it is the snapshot's rereading: the names and
the counters are as they were, and a gauge is what a reader makes of its text. So the
round trip is exact for the snapshots whose gauges are read back as themselves and for
no others (`restored_iff_rereads`); there are gauges that are not.
-/
import Telemetry.Flush.Scheduler
import Telemetry.Proofs.Disk
import Telemetry.Proofs.Json.Rereading

namespace Telemetry

namespace SnapshotFile

variable {f : SnapshotFile} {h : Host} {s t : Snapshot}

/-- The file and its sibling can be written. -/
structure Writable (f : SnapshotFile) (d : Disk) : Prop where
  temporary : d.IsFilePlace f.temporary
  path : d.IsFilePlace f.path

theorem parse_bytes : parse (bytes s) = Snapshot.shape.read s.toJson.tree := by
  rw [parse, bytes, Json.ofBytes_pretty, Snapshot.ofDocument, Json.read_whole]

theorem parse_bytes_eq_ok : parse (bytes s) = .ok t ↔ s.Reread t := by
  rw [parse_bytes, Snapshot.read_tree_eq_ok]

/-- A snapshot of finite gauges is written beside the file and moved over it. -/
theorem write_of_finite (f : SnapshotFile) (h : Host) (finite : s.checkFinite = .ok ()) :
    f.write s h =
      match h.disk.write f.temporary (bytes s) with
      | .error fault => (.error (.file fault), h)
      | .ok d =>
        match d.rename f.temporary f.path with
        | .error fault => (.error (.file fault), { h with disk := d })
        | .ok d' => (.ok (), { h with disk := d' }.enter (.snapshotWritten f.path s.size)) := by
  rw [write, finite, Action.bind_ofOutcome_ok, Action.run_bind]
  simp only [Host.change]
  cases h.disk.write f.temporary (bytes s) with
  | error fault => rfl
  | ok d =>
    dsimp only
    rw [Action.run_bind]
    simp only [Host.change]
    cases d.rename f.temporary f.path <;> rfl

theorem write_eq (place : f.Writable h.disk) (finite : s.checkFinite = .ok ()) :
    ∃ d, f.write s h = (.ok (), { h with disk := d }.enter (.snapshotWritten f.path s.size)) ∧
      d.read f.path = .ok (bytes s) ∧ f.Writable d := by
  obtain ⟨d₁, d₂, written, renamed, read, same⟩ :=
    Disk.replace_file place.temporary place.path (bytes s)
  refine ⟨d₂, ?_, read, ⟨place.temporary.of_directories same, place.path.of_directories same⟩⟩
  simp only [f.write_of_finite h finite, written, renamed]

theorem write_ok (place : f.Writable h.disk) (finite : s.checkFinite = .ok ()) :
    ∃ h', f.write s h = (.ok (), h') ∧ h'.disk.read f.path = .ok (bytes s) ∧
      f.Writable h'.disk := by
  obtain ⟨d, written, read, place'⟩ := write_eq place finite
  exact ⟨_, written, read, place'⟩

/-- A file that is of no use is left, or it is missing then and can be written again. -/
theorem discard_cases {b : Text.Bytes} (place : f.Writable h.disk) (holds : h.disk.read f.path = .ok b)
    (reason : String) :
    f.removeBroken = false ∧ f.discard reason h = h ∨ f.removeBroken = true ∧
      ∃ d, f.discard reason h = { h with disk := d }.enter (.brokenRemoved f.path reason) ∧
        d.read f.path = .error .missing ∧ f.Writable d := by
  rw [discard]
  cases f.removeBroken with
  | false => exact .inl ⟨rfl, rfl⟩
  | true =>
    obtain ⟨d, removed, missing, same⟩ := Disk.remove_file place.path holds
    refine .inr ⟨rfl, d, ?_, missing,
      ⟨place.temporary.of_directories same, place.path.of_directories same⟩⟩
    simp only [removed, if_true]

theorem read_error {fault : Json.Fault} (holds : h.disk.read f.path = .ok (bytes s))
    (unparsable : parse (bytes s) = .error fault) :
    f.read h = (.error (.badSnapshot (.unparsable f.path fault)), f.discard "unparseable" h) := by
  simp only [read, holds, unparsable]

theorem read_ok (holds : h.disk.read f.path = .ok (bytes s)) (reads : s.Reread t) :
    f.read h = (.ok (some t), h) := by
  simp only [read, holds, parse_bytes_eq_ok.2 reads]

/-- The rereading of a snapshot has the same names, so it is empty only if that is. -/
theorem isEmpty_reread (reads : s.Reread t) : t.isEmpty = s.isEmpty := by
  have gauges : t.gauges.isEmpty = s.gauges.isEmpty := by
    rw [Bool.eq_iff_iff, NameMap.isEmpty_iff, NameMap.isEmpty_iff]
    refine forall_congr' fun name => ?_
    have same := reads.gauges name
    rw [← Option.map_eq_none_iff (f := some), same, Option.map_eq_none_iff]
  rw [Snapshot.isEmpty, Snapshot.isEmpty, gauges, reads.counters]

/-- All metrics of a file are the rereading of what was written, if there is one. -/
theorem getMetrics_eq_ok (holds : h.disk.read f.path = .ok (bytes s)) (some : s.isEmpty = false) :
    (f.getMetrics h).1 = .ok t ↔ s.Reread t := by
  constructor
  · intro got
    cases result : parse (bytes s) with
    | error fault =>
      rw [getMetrics, Action.bind_of_error (read_error holds result)] at got
      cases got
    | ok t' =>
      have reads := parse_bytes_eq_ok.1 result
      rw [getMetrics, Action.bind_of_ok (read_ok holds reads)] at got
      simp only [isEmpty_reread reads, some, Bool.false_eq_true, if_false] at got
      rw [← Except.ok.inj got]
      exact reads
  · intro reads
    rw [getMetrics, Action.bind_of_ok (read_ok holds reads)]
    simp only [isEmpty_reread reads, some, Bool.false_eq_true, if_false]
    rfl

/-- What one value written leaves in the file: the rereading of what was there, and the
value. -/
theorem put_ok {h' : Host} {name : String} {sample : Sample} (place : f.Writable h.disk)
    (holds : h.disk.read f.path = .ok (bytes s)) (put : f.put name sample h = (.ok (), h')) :
    ∃ t u, s.Reread t ∧ t.mergeSample name sample = .ok u ∧ h'.disk.read f.path = .ok (bytes u) := by
  cases result : parse (bytes s) with
  | error fault =>
    have current : f.current h = (.error (.badSnapshot (.unparsable f.path fault)),
        f.discard "unparseable" h) := Action.bind_of_error (read_error holds result)
    rw [SnapshotFile.put, Action.bind_of_error current] at put
    cases put
  | ok t =>
    have reads := parse_bytes_eq_ok.1 result
    have current : f.current h = (.ok t, h) := Action.bind_of_ok (read_ok holds reads)
    rw [SnapshotFile.put, Action.bind_of_ok current] at put
    cases merged : t.mergeSample name sample with
    | error e =>
      rw [merged, Action.bind_ofOutcome_error] at put
      cases put
    | ok u =>
      rw [merged, Action.bind_ofOutcome_ok] at put
      cases finite : u.checkFinite with
      | error e =>
        rw [write, finite, Action.bind_ofOutcome_error] at put
        cases put
      | ok _ =>
        obtain ⟨h'', written, read, -⟩ := write_ok place finite
        rw [written] at put
        obtain ⟨-, rfl⟩ := Prod.mk.inj put
        exact ⟨t, u, reads, merged, read⟩

end SnapshotFile

/-! ## Flushes and restarts -/

namespace Flushing

open SnapshotFile (bytes)

variable {s : Flushing} {f : SnapshotFile} {store : Store}

theorem flush_file (live : s.live = .memory store) (durable : s.scheduler.durable = .file f)
    (place : f.Writable s.host.disk) (finite : store.snapshot.checkFinite = .ok ()) :
    (flush s).1 = .ok () ∧ (flush s).2.host.disk.read f.path = .ok (bytes store.snapshot) := by
  obtain ⟨h, written, read, -⟩ := SnapshotFile.write_ok place finite
  have look : onLive Backend.getMetrics s = (.ok store.snapshot, s) := by
    obtain ⟨_, scheduler, host⟩ := s
    cases live
    rfl
  have write : onDurable (Backend.restore store.snapshot) s =
      (.ok (), { s with scheduler := { s.scheduler with durable := .file f }, host := h }) := by
    simp only [onDurable, Action.on, Backend.restore, Backend.perform, durable, SnapshotFile.restore,
      written]
  rw [flush, Action.bind_of_ok look, Action.bind_of_ok write]
  exact ⟨rfl, read⟩

theorem start_live (wanted : s.scheduler.restoreOnStart = true) :
    (start s).2.live = (restore (enterPhase .restoring s).2).2.live := by
  have entered : enterPhase .restoring s = (.ok (), (enterPhase .restoring s).2) := rfl
  have tried : Action.attempt restore (enterPhase .restoring s).2 =
      (.ok (restore (enterPhase .restoring s).2).1, (restore (enterPhase .restoring s).2).2) := rfl
  rw [start, Action.bind_of_ok (show scheduler? s = (.ok s.scheduler, s) from rfl), if_pos wanted,
    Action.bind_of_ok entered, Action.bind_of_ok tried]
  cases (restore (enterPhase .restoring s).2).1 <;> rfl

theorem restore_file (live : s.live = .memory store) (durable : s.scheduler.durable = .file f) :
    (restore s).2.live = match (f.getMetrics s.host).1 with
      | .ok t => if t.isEmpty then .memory store else .memory ⟨t.gauges, t.counters⟩
      | .error _ => .memory store := by
  obtain ⟨_, scheduler, host⟩ := s
  cases live
  cases got : f.getMetrics host with
  | mk outcome h =>
    have look : onDurable Backend.getMetrics ⟨.memory store, scheduler, host⟩ =
        (outcome, ⟨.memory store, { scheduler with durable := .file f }, h⟩) := by
      simp only at durable
      simp only [onDurable, Action.on, Backend.getMetrics, Backend.perform, durable, got]
    cases outcome with
    | error e =>
      rw [restore, Action.bind_of_error look]
    | ok t =>
      rw [restore, Action.bind_of_ok look]
      simp only
      split
      · rfl
      · rfl

end Flushing

/-! ## The round trip -/

namespace SnapshotFile

variable {f : SnapshotFile} {h : Host} {s : Snapshot}

theorem getMetrics_iff_rereads (holds : h.disk.read f.path = .ok (bytes s))
    (some : s.isEmpty = false) : (f.getMetrics h).1 = .ok s ↔ s.Rereads := by
  rw [getMetrics_eq_ok holds some, Snapshot.reread_self]

/-- A collector that starts from the file has the store again that was written, or another. -/
theorem start_iff_rereads (interval : Interval) (holds : h.disk.read f.path = .ok (bytes s))
    (some : s.isEmpty = false) :
    (Flushing.start ⟨.memory .empty, .new (.file f) interval true, h⟩).2.live =
      .memory ⟨s.gauges, s.counters⟩ ↔ s.Rereads := by
  have still : (h.enter (.phaseEntered .restoring)).disk.read f.path = .ok (bytes s) := holds
  have restored : (Flushing.start ⟨.memory .empty, .new (.file f) interval true, h⟩).2.live =
      match (f.getMetrics (h.enter (.phaseEntered .restoring))).1 with
        | .ok t => if t.isEmpty then .memory .empty else .memory ⟨t.gauges, t.counters⟩
        | .error _ => .memory .empty :=
    (Flushing.start_live rfl).trans (Flushing.restore_file rfl rfl)
  have different : Backend.memory .empty ≠ .memory ⟨s.gauges, s.counters⟩ := by
    intro same
    have same : Store.empty = ⟨s.gauges, s.counters⟩ := Backend.memory.inj same
    have gauges : NameMap.empty = s.gauges := congrArg Store.gauges same
    have counters : NameMap.empty = s.counters := congrArg Store.counters same
    rw [Snapshot.isEmpty, ← gauges, ← counters] at some
    cases some
  rw [restored, ← getMetrics_iff_rereads still some]
  cases got : (f.getMetrics (h.enter (.phaseEntered .restoring))).1 with
  | error e => simp [different]
  | ok t =>
    -- What came back is not empty, so it was restored and not passed over.
    have nonempty := isEmpty_reread ((getMetrics_eq_ok still some).1 got)
    rw [some] at nonempty
    obtain ⟨gauges, counters⟩ := s
    obtain ⟨gauges', counters'⟩ := t
    simp [nonempty]

/-- The metrics other than one are the same in both. -/
def SameBut (kind : Kind) (name : String) (s u : Snapshot) : Prop :=
  ∀ kind' other, (kind', other) ≠ (kind, name) → u.get? kind' other = s.get? kind' other

/-- One value written into the file leaves the metrics that are read back as themselves. -/
theorem put_keeps_iff {h' : Host} {name : String} {sample : Sample} (place : f.Writable h.disk)
    (holds : h.disk.read f.path = .ok (bytes s)) (put : f.put name sample h = (.ok (), h')) :
    ∃ u, h'.disk.read f.path = .ok (bytes u) ∧
      (SameBut sample.kind name s u ↔ ∀ other x, (Kind.gauge, other) ≠ (sample.kind, name) →
        s.gauges.get? other = some x → x.reread? = some x) := by
  obtain ⟨t, u, reads, merged, read⟩ := put_ok place holds put
  refine ⟨u, read, fun same other x ne get => ?_, fun rereads kind other ne => ?_⟩
  · have kept := same .gauge other ne
    rw [Snapshot.get?_mergeSample merged ne] at kept
    have gauge : t.gauges.get? other = some x := by
      simpa [Snapshot.get?, get] using kept
    have reread := reads.gauges other
    rw [gauge, get] at reread
    exact (Option.some.inj reread).symm
  · rw [Snapshot.get?_mergeSample merged ne]
    cases kind with
    | counter => rw [Snapshot.get?, Snapshot.get?, reads.counters]
    | gauge =>
      have reread := reads.gauges other
      cases get : s.gauges.get? other with
      | none =>
        rw [get, Option.map_none, Option.map_eq_none_iff] at reread
        simp [Snapshot.get?, get, reread]
      | some x =>
        rw [get, Option.map_some, rereads other x ne get] at reread
        obtain ⟨y, found, same⟩ := Option.map_eq_some_iff.1 reread
        rw [Snapshot.get?, Snapshot.get?, get, found, Option.some.inj same]

theorem put_accepted {name : String} {sample : Sample} {t : Snapshot} (place : f.Writable h.disk)
    (holds : h.disk.read f.path = .ok (bytes s)) (finite : s.checkFinite = .ok ())
    (rereads : s.Rereads) (merged : s.mergeSample name sample = .ok t) :
    ∃ h', f.put name sample h = (.ok (), h') := by
  have current : f.current h = (.ok s, h) :=
    Action.bind_of_ok (read_ok holds (Snapshot.reread_self.2 rereads))
  obtain ⟨h', written, -⟩ := write_ok place (Snapshot.checkFinite_mergeSample finite merged)
  refine ⟨h', ?_⟩
  rw [put, Action.bind_of_ok current, merged, Action.bind_ofOutcome_ok, written]

theorem restored_of_short (some : s.isEmpty = false) (place : f.Writable h.disk)
    (short : ∀ name x, s.gauges.get? name = .some x → x.Short) :
    ∃ h', f.restore s h = (.ok (), h') ∧ (f.getMetrics h').1 = .ok s := by
  have rereads : s.Rereads := Snapshot.rereads_of_short short
  have finite : s.checkFinite = .ok () :=
    Snapshot.checkFinite_eq_ok.2 fun name x get => Json.reread?_finite (rereads name x get)
  obtain ⟨h', written, read, -⟩ := write_ok place finite
  exact ⟨h', written, (getMetrics_iff_rereads read some).2 rereads⟩

/-- **The round trip through the file is exact for the snapshots whose gauges are read back as
themselves, and for no others.** A snapshot of finite gauges is always written. What is read is
the snapshot, a restart after a flush has the same store, and a value written beside the others
leaves them, exactly when each gauge concerned is the rereading of itself. -/
theorem restored_iff_rereads (some : s.isEmpty = false) (finite : s.checkFinite = .ok ())
    (place : f.Writable h.disk) :
    (∃ h', f.restore s h = (.ok (), h') ∧ ((f.getMetrics h').1 = .ok s ↔ s.Rereads) ∧
      (s.Rereads → ∀ name sample t, s.mergeSample name sample = .ok t →
        ∃ h'', f.put name sample h' = (.ok (), h'')) ∧
      ∀ name sample h'', f.put name sample h' = (.ok (), h'') →
        ∃ u, h''.disk.read f.path = .ok (bytes u) ∧
          (SameBut sample.kind name s u ↔ ∀ other x, (Kind.gauge, other) ≠ (sample.kind, name) →
            s.gauges.get? other = .some x → x.reread? = .some x)) ∧
    ∀ (scheduler : Scheduler) (interval : Interval), scheduler.durable = .file f →
      let flushed := Flushing.flush ⟨.memory ⟨s.gauges, s.counters⟩, scheduler, h⟩
      flushed.1 = .ok () ∧
        ((Flushing.start ⟨.memory .empty, .new (.file f) interval true, flushed.2.host⟩).2.live =
          .memory ⟨s.gauges, s.counters⟩ ↔ s.Rereads) := by
  obtain ⟨h', written, read, place'⟩ := write_ok place finite
  refine ⟨⟨h', written, getMetrics_iff_rereads read some,
    fun rereads name sample t merged => put_accepted place' read finite rereads merged,
    fun name sample h'' put => put_keeps_iff place' read put⟩, fun scheduler interval durable => ?_⟩
  obtain ⟨done, read⟩ := Flushing.flush_file
    (s := ⟨.memory ⟨s.gauges, s.counters⟩, scheduler, h⟩) rfl durable place finite
  exact ⟨done, start_iff_rereads interval read some⟩

theorem writable_empty : (⟨"/metrics.json", false⟩ : SnapshotFile).Writable ⟨.empty, "/home"⟩ :=
  ⟨⟨"/metrics.json.tmp", rfl, by decide⟩, ⟨"/metrics.json", rfl, by decide⟩⟩

/-- The double 0.25 comes back. -/
theorem restored_quarter :
    let s : Snapshot := ⟨NameMap.empty.insert "load"
      (.finite false ⟨4503599627370496, 1020, by decide, by decide, by decide⟩), .empty⟩
    s.Rereads ∧ ∃ h', SnapshotFile.restore ⟨"/metrics.json", false⟩ s ⟨⟨.empty, "/home"⟩, []⟩ =
      (.ok (), h') ∧ (SnapshotFile.getMetrics ⟨"/metrics.json", false⟩ h').1 = .ok s := by
  intro s
  have rereads : s.Rereads := by
    intro name x get
    rw [NameMap.get?_insert] at get
    split at get
    · rw [← Option.some.inj get]
      exact Binary64.reread_of_short (by decide +kernel)
    · cases get
  obtain ⟨⟨h', written, back, -, -⟩, -⟩ :=
    restored_iff_rereads (s := s) rfl rfl (h := ⟨⟨.empty, "/home"⟩, []⟩) writable_empty
  exact ⟨rereads, h', written, back.2 rereads⟩

/-- The double 0.48229429632556203 is read back as 0.482294296325562, its neighbour. -/
theorem restored_neighbour :
    let x : Binary64 := .finite false ⟨8688241652858867, 1020, by decide, by decide, by decide⟩
    let s : Snapshot := ⟨NameMap.empty.insert "load" x, .empty⟩
    let f : SnapshotFile := ⟨"/metrics.json", false⟩
    s.isEmpty = false ∧ s.checkFinite = .ok () ∧ ∃ h',
      f.restore s ⟨⟨.empty, "/home"⟩, []⟩ = (.ok (), h') ∧ (f.getMetrics h').1 ≠ .ok s := by
  intro x s f
  obtain ⟨h', written, read, -⟩ := write_ok (s := s) (h := ⟨⟨.empty, "/home"⟩, []⟩) writable_empty rfl
  refine ⟨rfl, rfl, h', written, fun back => ?_⟩
  have rereads := (getMetrics_iff_rereads read rfl).1 back
  have changed : x.reread? ≠ some x := by
    rw [Json.reread?_eq]
    decide +kernel
  exact changed (rereads "load" x (NameMap.get?_insert_self _ _ _))

end SnapshotFile

end Telemetry
