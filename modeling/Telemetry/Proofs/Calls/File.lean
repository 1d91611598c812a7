/-
Calls to a snapshot file, compared with calls to a store in memory.

Every write reads the whole file, merges and writes the file anew. As long as each gauge that
is written is read back as itself, the file holds what the store holds, and every answer is
the same but one: a file without metrics has no snapshot to give, and may be removed when
it is asked for one (`file_trace`).
-/
import Telemetry.Proofs.Calls
import Telemetry.Proofs.SnapshotFile

namespace Telemetry

/-- A gauge that is read back as itself, if it is finite at all; or a counter. -/
def Sample.Faithful (x : Sample) : Prop :=
  ∀ y, x = .gauge y → y.isFinite = true → y.reread? = some y

namespace Snapshot

variable {s t : Snapshot} {name : String}

theorem isEmpty_iff : s.isEmpty = true ↔ s = .empty := by
  constructor
  · intro none
    rw [isEmpty, Bool.and_eq_true, NameMap.isEmpty_iff, NameMap.isEmpty_iff] at none
    have gauges : s.gauges = .empty := NameMap.ext_get? none.1
    have counters : s.counters = .empty := NameMap.ext_get? none.2
    cases s
    simp_all [empty]
  · rintro rfl
    rfl

theorem rereads_empty : empty.Rereads :=
  fun _ _ get => nomatch get

theorem Rereads.finite (rereads : s.Rereads) : s.checkFinite = .ok () :=
  checkFinite_eq_ok.2 fun name x get => Json.reread?_finite (rereads name x get)

theorem Rereads.mergeSample (rereads : s.Rereads) {x : Sample} (faithful : x.Faithful)
    (merged : s.mergeSample name x = .ok t) : t.Rereads :=
  gauges_mergeSample rereads faithful merged

theorem Rereads.mergeSamples : ∀ {l : List (String × Sample)} {s : Snapshot}, s.Rereads →
    (∀ w ∈ l, w.2.Faithful) → s.mergeSamples l = .ok t → t.Rereads
  | [], _, rereads, _, merged => by
    rw [← Except.ok.inj merged]
    exact rereads
  | (name, x) :: rest, s, rereads, faithful, merged => by
    simp only [Snapshot.mergeSamples, Except.bind_eq_ok] at merged
    obtain ⟨mid, first, others⟩ := merged
    have next := rereads.mergeSample (faithful _ List.mem_cons_self) first
    exact next.mergeSamples (fun w mem => faithful w (List.mem_cons_of_mem _ mem)) others

theorem rereads_of_faithful (finite : s.checkFinite = .ok ())
    (faithful : ∀ w ∈ s.samples, w.2.Faithful) : s.Rereads := by
  intro name x get
  exact faithful _ (gauge_mem_samples.2 get) x rfl (checkFinite_eq_ok.1 finite name x get)

end Snapshot

namespace Backend

open SnapshotFile (bytes)

variable {f : SnapshotFile} {site : Site} {s : Snapshot} {h : Host}

/-! ## The file of a snapshot -/

/-- The file can be written, and holds the snapshot; without metrics it may be missing. -/
structure FileHolds (f : SnapshotFile) (h : Host) (s : Snapshot) : Prop where
  place : f.Writable h.disk
  rereads : s.Rereads
  content : h.disk.read f.path = .ok (bytes s) ∨ h.disk.read f.path = .error .missing ∧ s = .empty

theorem FileHolds.current (holds : FileHolds f h s) : f.current h = (.ok s, h) := by
  rcases holds.content with written | ⟨missing, rfl⟩
  · exact Action.bind_of_ok (SnapshotFile.read_ok written (Snapshot.reread_self.2 holds.rereads))
  · have none : f.read h = (.ok none, h) := by simp only [SnapshotFile.read, missing]
    exact Action.bind_of_ok none

theorem FileHolds.write {t : Snapshot} (holds : FileHolds f h s) (rereads : t.Rereads) :
    ∃ h', f.write t h = (.ok (), h') ∧ FileHolds f h' t := by
  obtain ⟨h', written, read, place⟩ := SnapshotFile.write_ok holds.place rereads.finite
  exact ⟨h', written, place, rereads, .inl read⟩

/-- A file without metrics is left or removed, and has none either way. -/
theorem FileHolds.discard (holds : FileHolds f h .empty)
    (written : h.disk.read f.path = .ok (bytes .empty)) (reason : String) :
    FileHolds f (f.discard reason h) .empty := by
  rcases SnapshotFile.discard_cases holds.place written reason with
    ⟨-, same⟩ | ⟨-, d, left, missing, place⟩
  · rw [same]
    exact holds
  · rw [left]
    exact ⟨place, Snapshot.rereads_empty, .inr ⟨missing, rfl⟩⟩

theorem FileHolds.getMetrics (holds : FileHolds f h s) (some : s ≠ .empty) :
    f.getMetrics h = (.ok s, h) := by
  rcases holds.content with written | ⟨-, none⟩
  · have read := SnapshotFile.read_ok written (Snapshot.reread_self.2 holds.rereads)
    have nonempty : ¬ s.isEmpty = true := fun none => some (Snapshot.isEmpty_iff.1 none)
    rw [SnapshotFile.getMetrics, Action.bind_of_ok read]
    simp only [if_neg nonempty]
    rfl
  · exact absurd none some

theorem FileHolds.getMetrics_empty (holds : FileHolds f h .empty) : ∃ fault,
    (f.getMetrics h).1 = .error (.badSnapshot fault) ∧ FileHolds f (f.getMetrics h).2 .empty := by
  rcases holds.content with written | ⟨missing, -⟩
  · have read := SnapshotFile.read_ok written (Snapshot.reread_self.2 holds.rereads)
    have refused : f.getMetrics h = (.error (.badSnapshot (.empty f.path)), f.discard "empty" h) := by
      rw [SnapshotFile.getMetrics, Action.bind_of_ok read]
      rfl
    rw [refused]
    exact ⟨_, rfl, holds.discard written _⟩
  · have read : f.read h = (.ok none, h) := by simp only [SnapshotFile.read, missing]
    have refused : f.getMetrics h = (.error (.badSnapshot (.missing f.path)), h) := by
      rw [SnapshotFile.getMetrics, Action.bind_of_ok read]
      rfl
    rw [refused]
    exact ⟨_, rfl, holds⟩

/-- The site is a file that holds the snapshot. -/
def FileOf (f : SnapshotFile) (site : Site) (s : Snapshot) : Prop :=
  site.backend = .file f ∧ FileHolds f site.host s

theorem held?_of_file (stands : FileOf f site s) : site.held? = some s := by
  obtain ⟨backend, holds⟩ := stands
  rcases holds.content with written | ⟨missing, rfl⟩
  · have parsed := SnapshotFile.parse_bytes_eq_ok.2 (Snapshot.reread_self.2 holds.rereads)
    simp only [Site.held?, backend, written, parsed]
    rfl
  · simp only [Site.held?, backend, missing]

theorem file_reads {α : Type} {operation : Operation} {onMemory : Store → Outcome (α × Store)}
    {onFile : SnapshotFile → Action Host α} {onSession : Action Session α} {x : Outcome α}
    (same : ∀ h, FileHolds f h s → onFile f h = (x, h)) (stands : FileOf f site s) :
    perform operation onMemory onFile onSession site = (x, site) := by
  obtain ⟨backend, host⟩ := site
  obtain ⟨rfl, holds⟩ := stands
  simp only [perform, same host holds]

/-- A write merges what the file holds and writes all of it, or leaves the file. -/
theorem file_writes {operation : Operation} {onMemory : Store → Outcome (Unit × Store)}
    (onFile : SnapshotFile → Action Host Unit) {onSession : Action Session Unit}
    (change : Snapshot → Outcome Snapshot)
    (same : ∀ h, FileHolds f h s → onFile f h = (Action.ofOutcome (change s) >>= f.write) h)
    (rereads : ∀ t, change s = .ok t → t.Rereads) (stands : FileOf f site s) :
    let after := (do perform operation onMemory onFile onSession; pure Returned.nothing) site
    after.1 = (Call.changing change s).1 ∧ FileOf f after.2 (Call.changing change s).2 := by
  obtain ⟨backend, host⟩ := site
  obtain ⟨rfl, holds⟩ := stands
  rw [map_run]
  simp only [perform, same host holds, Call.changing]
  cases result : change s with
  | error e =>
    rw [Action.bind_ofOutcome_error]
    exact ⟨rfl, rfl, holds⟩
  | ok t =>
    obtain ⟨h', written, next⟩ := holds.write (rereads t result)
    rw [Action.bind_ofOutcome_ok, written]
    exact ⟨rfl, rfl, next⟩

/-! ## Calls -/

/-- Only finite gauges are restored, and each finite gauge that the call writes is read back as
itself. -/
def Call.IsFaithful (c : Call) : Prop :=
  (∀ t, c = .restore t → t.checkFinite = .ok ()) ∧ ∀ w ∈ c.writes, w.2.Faithful

/-- What a file shows is what a store in memory shows. Only when all metrics are asked for and
there are none, it has no snapshot to give. -/
structure Step.MatchedBy (step fileStep : Step) : Prop where
  call : fileStep.call = step.call
  held : fileStep.held = step.held
  answer : step.call ≠ .getMetrics ∨ step.held ≠ some .empty → fileStep.answer = step.answer
  nothing : step.call = .getMetrics → step.held = some .empty →
    ∃ fault, fileStep.answer = .error (.badSnapshot fault)

/-- A call to a file is the call on the snapshot that it holds. -/
theorem file_step {c : Call} (faithful : c.IsFaithful) (stands : FileOf f site s) :
    FileOf f (c.run site).2 (c.on s).2 ∧
      (c ≠ .getMetrics ∨ (c.on s).2 ≠ .empty → (c.run site).1 = (c.on s).1) ∧
      (c = .getMetrics → (c.on s).2 = .empty →
        ∃ fault, (c.run site).1 = .error (.badSnapshot fault)) := by
  obtain ⟨finite, faithful⟩ := faithful
  cases c with
  | put name x =>
    have writes (h : Host) (holds : FileHolds f h s) :
        f.put name x h = (Action.ofOutcome (s.mergeSample name x) >>= f.write) h :=
      Action.bind_of_ok holds.current
    have kept (t : Snapshot) : s.mergeSample name x = .ok t → t.Rereads :=
      stands.2.rereads.mergeSample (faithful (name, x) (List.mem_singleton_self _))
    obtain ⟨answer, next⟩ := file_writes (fun f => f.put name x)
      (fun s => s.mergeSample name x) writes kept stands
    exact ⟨next, fun _ => answer, by rintro ⟨⟩⟩
  | putMetrics batch =>
    have writes (h : Host) (holds : FileHolds f h s) :
        f.putMetrics batch h = (Action.ofOutcome (s.merge batch) >>= f.write) h :=
      Action.bind_of_ok holds.current
    have kept (t : Snapshot) : s.merge batch = .ok t → t.Rereads :=
      stands.2.rereads.mergeSamples faithful
    obtain ⟨answer, next⟩ := file_writes (fun f => f.putMetrics batch)
      (fun s => s.merge batch) writes kept stands
    exact ⟨next, fun _ => answer, by rintro ⟨⟩⟩
  | restore t =>
    have writes (h : Host) (_ : FileHolds f h s) :
        f.restore t h = (Action.ofOutcome (.ok t) >>= f.write) h := rfl
    have kept (u : Snapshot) (same : (.ok t : Outcome Snapshot) = .ok u) : u.Rereads := by
      rw [← Except.ok.inj same]
      exact Snapshot.rereads_of_faithful (finite t rfl) faithful
    obtain ⟨answer, next⟩ := file_writes (fun f => f.restore t) (fun _ => .ok t) writes kept stands
    exact ⟨next, fun _ => answer, by rintro ⟨⟩⟩
  | get name =>
    have reads (h : Host) (holds : FileHolds f h s) : f.get name h = (s.find none name, h) := by
      rw [SnapshotFile.get, Action.bind_of_ok holds.current]
      simp only [Snapshot.find, Snapshot.found?]
      cases s.get? .gauge name <;> cases s.get? .counter name <;> rfl
    have run : (Call.get name).run site = ((s.find none name).map .sample, site) := by
      rw [Call.run, map_run, Backend.get, file_reads reads stands]
    rw [run]
    exact ⟨stands, fun _ => rfl, by rintro ⟨⟩⟩
  | getTyped kind name =>
    have reads (h : Host) (holds : FileHolds f h s) :
        f.getTyped kind name h = (s.find (some kind) name, h) := by
      rw [SnapshotFile.getTyped, Action.bind_of_ok holds.current]
      simp only [Snapshot.find, Snapshot.found?]
      cases s.get? kind name <;> rfl
    have run : (Call.getTyped kind name).run site = ((s.find (some kind) name).map .sample, site) := by
      rw [Call.run, map_run, Backend.getTyped, file_reads reads stands]
    rw [run]
    exact ⟨stands, fun _ => rfl, by rintro ⟨⟩⟩
  | getMetrics =>
    -- The one call for which a file without metrics is not an empty snapshot.
    by_cases none : s = .empty
    · subst none
      obtain ⟨backend, host⟩ := site
      obtain ⟨rfl, holds⟩ := stands
      obtain ⟨fault, refused, next⟩ := holds.getMetrics_empty
      rw [Call.run, map_run]
      simp only [Backend.getMetrics, perform, refused]
      exact ⟨⟨rfl, next⟩, fun other => absurd rfl (other.resolve_left fun h => h rfl),
        fun _ _ => ⟨fault, rfl⟩⟩
    · have reads (h : Host) (holds : FileHolds f h s) : f.getMetrics h = (.ok s, h) :=
        holds.getMetrics none
      rw [Call.run, map_run, Backend.getMetrics, file_reads reads stands]
      exact ⟨stands, fun _ => rfl, fun _ empty => absurd empty none⟩

/-- **A snapshot file does what a store in memory does, if gauges are read back as themselves.** The
file is missing and the store is empty at first, and only finite gauges are restored. Then
every call leaves the same metrics and has the same answer, except that all metrics cannot be
had from a file that has none. -/
theorem file_trace {calls : List Call} {h h' : Host} (place : f.Writable h'.disk)
    (missing : h'.disk.read f.path = .error .missing)
    (finite : ∀ t, .restore t ∈ calls → t.checkFinite = .ok ())
    (rereads : ∀ c ∈ calls, ∀ name x, (name, .gauge x) ∈ c.writes → x.isFinite = true →
      x.reread? = some x) :
    List.Forall₂ Step.MatchedBy (trace ⟨.memory .empty, h⟩ calls) (trace ⟨.file f, h'⟩ calls) := by
  have faithful : ∀ c ∈ calls, c.IsFaithful := by
    intro c mem
    refine ⟨?_, ?_⟩
    · rintro t rfl
      exact finite t mem
    · rintro ⟨name, _⟩ written x rfl
      exact rereads c mem name x written
  have stands : FileOf f ⟨.file f, h'⟩ .empty :=
    ⟨rfl, place, Snapshot.rereads_empty, .inr ⟨missing, rfl⟩⟩
  have asked : ∀ step ∈ expected .empty calls, step.call.IsFaithful := by
    intro step mem
    have made : step.call ∈ calls := by
      rw [← expected_calls calls .empty]
      exact List.mem_map_of_mem mem
    exact faithful step.call made
  rw [memory_trace]
  refine trace_agrees _ (fun c site s faithful stands => ?_) asked stands
  obtain ⟨next, answer, nothing⟩ := file_step faithful stands
  refine ⟨next, rfl, held?_of_file next, fun other => answer ?_, fun all none => ?_⟩
  · exact other.imp_right fun some none => some (congrArg Option.some none)
  · exact nothing all (Option.some.inj none)

/-- A file that is missing, written, refused a value, emptied and removed again. -/
theorem file_trace_quarter :
    let quarter : Binary64 := .finite false ⟨4503599627370496, 1020, by decide, by decide, by decide⟩
    let calls : List Call := [.getMetrics, .put "load" (.gauge quarter), .put "load" (.gauge .nan),
      .get "load", .getMetrics, .restore .empty, .getMetrics, .getTyped .counter "load"]
    let host : Host := ⟨⟨.empty, "/home"⟩, []⟩
    List.Forall₂ Step.MatchedBy (trace ⟨.memory .empty, host⟩ calls)
      (trace ⟨.file ⟨"/metrics.json", true⟩, host⟩ calls) := by
  intro quarter calls host
  have place : SnapshotFile.Writable ⟨"/metrics.json", true⟩ host.disk :=
    ⟨SnapshotFile.writable_empty.temporary, SnapshotFile.writable_empty.path⟩
  refine file_trace place rfl (fun t mem => ?_) fun c mem name x written finite => ?_
  · have empty : t = .empty := by simpa [calls] using mem
    rw [empty]
    rfl
  · have all : (name, .gauge x) ∈ calls.flatMap Call.writes := List.mem_flatMap.2 ⟨c, mem, written⟩
    rw [show calls.flatMap Call.writes = [("load", .gauge quarter), ("load", .gauge .nan)] from rfl,
      List.mem_cons, List.mem_singleton] at all
    rcases all with first | second
    · rw [Sample.gauge.inj (Prod.mk.inj first).2]
      exact Binary64.reread_of_short (by decide +kernel)
    · rw [Sample.gauge.inj (Prod.mk.inj second).2] at finite
      cases finite

end Backend

end Telemetry
