/-
Finite gauges: what keeps a flush from being refused for what the live store holds.

A value and a batch are checked before they are written, and a restore is not. So the gauges of a
store are finite in every state that a list of changes goes through exactly when every snapshot
that was restored had finite gauges (`finite_iff_restored_finite`). While they are, a flush into a
file ends as the flush of an empty store ends (`Flushing.unrefused_iff`): what a file is to hold
decides nothing of whether it can be written (`Disk.write_either`, `Disk.rename_either`).
-/
import Telemetry.Proofs.Merge
import Telemetry.Proofs.SnapshotFile

namespace Telemetry

namespace Disk

variable {d d' : Disk} {path : String}

/-- The same places are taken on both disks, by directories on both or on neither. What the files
hold may differ. -/
structure SamePlaces (d d' : Disk) : Prop extends SameDirectories d d' where
  free : ∀ l, d'.node? l = none ↔ d.node? l = none

theorem set_places {l : Location} {n n' : Node} (file : d.node? l ≠ some .directory)
    (new : n ≠ .directory) (new' : n' ≠ .directory) : SamePlaces (d.set l n) (d.set l n') := by
  refine ⟨⟨rfl, fun other => ?_⟩, fun other => ?_⟩
  · rw [(set_directories file new).directory, (set_directories file new').directory]
  · rw [node?_set _ _ _ _ (not_root file), node?_set _ _ _ _ (not_root file)]
    split <;> simp

theorem descend_of_places (same : SamePlaces d d') : ∀ (parts : List Path.Part) (l : Location),
    d'.descend l parts = d.descend l parts
  | [], _ => rfl
  | part :: rest, l => by
    unfold descend
    simp only [descend_of_places same rest]
    split
    · rfl
    · split
      · rfl
      · congr 1
        funext _
        -- The descent asks of a node whether it is there and whether it is a directory.
        cases here : d.node? (Location.child l part) with
        | none => rw [(same.free _).2 here]
        | some n =>
          have there : d'.node? (Location.child l part) ≠ none := fun free =>
            nomatch here.symm.trans ((same.free _).1 free)
          obtain ⟨n', here'⟩ := Option.ne_none_iff_exists'.1 there
          have directory := same.directory (Location.child l part)
          rw [here, here'] at directory
          rw [here']
          cases n <;> cases n' <;> simp_all

/-- A path leads where it leads, or fails as it fails, whatever the files hold. -/
theorem resolve_of_places (same : SamePlaces d d') (path : String) : d'.resolve path = d.resolve path := by
  have origin : d'.origin path = d.origin path := by
    unfold Disk.origin
    rw [same.home]
  unfold resolve
  simp only [origin, descend_of_places same]

/-- A file is written whatever it is to hold, or the same fault prevents it. -/
theorem write_either (d : Disk) (path : String) (b c : Text.Bytes) :
    (∃ fault, d.write path b = .error fault ∧ d.write path c = .error fault) ∨
      ∃ l, d.node? l ≠ some .directory ∧ d.write path b = .ok (d.set l (.file b)) ∧
        d.write path c = .ok (d.set l (.file c)) := by
  unfold write
  cases d.resolve path with
  | error fault => exact .inl ⟨fault, rfl, rfl⟩
  | ok t =>
    simp only [Except.ok_bind]
    cases here : d.node? t.location with
    | none =>
      cases t.asDirectory with
      | true => exact .inl ⟨_, rfl, rfl⟩
      | false => exact .inr ⟨t.location, by simp [here], rfl, rfl⟩
    | some n =>
      cases n with
      | directory => exact .inl ⟨_, rfl, rfl⟩
      | file content =>
        cases t.asDirectory with
        | true => exact .inl ⟨_, rfl, rfl⟩
        | false => exact .inr ⟨t.location, by simp [here], rfl, rfl⟩
      | database content =>
        cases t.asDirectory with
        | true => exact .inl ⟨_, rfl, rfl⟩
        | false => exact .inr ⟨t.location, by simp [here], rfl, rfl⟩

/-- So a file is moved, or the same fault prevents it. -/
theorem rename_either (same : SamePlaces d d') (source target : String) :
    (∃ fault, d.rename source target = .error fault ∧ d'.rename source target = .error fault) ∨
      ∃ e e', d.rename source target = .ok e ∧ d'.rename source target = .ok e' := by
  unfold rename
  rw [resolve_of_places same source, resolve_of_places same target]
  cases d.resolve source with
  | error fault => exact .inl ⟨fault, rfl, rfl⟩
  | ok s =>
    cases d.resolve target with
    | error fault => exact .inl ⟨fault, rfl, rfl⟩
    | ok t =>
      simp only [Except.ok_bind]
      have free := same.free s.location
      have directory := same.directory t.location
      cases here : d.node? s.location with
      | none => exact .inl ⟨_, rfl, by rw [free.2 here]⟩
      | some n =>
        obtain ⟨n', here'⟩ := Option.ne_none_iff_exists'.1 fun none =>
          nomatch here.symm.trans (free.1 none)
        rw [here']
        by_cases dir : d.node? t.location = some .directory
        · rw [dir, directory.2 dir]
          exact .inl ⟨_, rfl, rfl⟩
        · have dir' := mt directory.1 dir
          cases t.asDirectory with
          | true =>
            refine .inl ⟨.notDirectory, ?_, ?_⟩
            · dsimp only
              split <;> simp_all
            · dsimp only
              split <;> simp_all
          | false =>
            refine .inr ⟨(d.unset s.location).set t.location n,
              (d'.unset s.location).set t.location n', ?_, ?_⟩
            · dsimp only
              split <;> simp_all
            · dsimp only
              split <;> simp_all

end Disk

namespace SnapshotFile

theorem write_eq_of_finite {s t : Snapshot} (f : SnapshotFile) (h : Host)
    (finite : s.checkFinite = .ok ()) (finite' : t.checkFinite = .ok ()) :
    (f.write s h).1 = (f.write t h).1 := by
  rw [f.write_of_finite h finite, f.write_of_finite h finite']
  rcases h.disk.write_either f.temporary (bytes s) (bytes t) with
    ⟨fault, prevented, prevented'⟩ | ⟨l, file, written, written'⟩
  · rw [prevented, prevented']
  · rw [written, written']
    have same : Disk.SamePlaces (h.disk.set l (.file (bytes s))) (h.disk.set l (.file (bytes t))) :=
      Disk.set_places file (by simp) (by simp)
    rcases Disk.rename_either same f.temporary f.path with
      ⟨fault, prevented, prevented'⟩ | ⟨e, e', moved, moved'⟩
    · simp only [prevented, prevented']
    · simp only [moved, moved']

end SnapshotFile

/-! ## What changes a store -/

namespace Store

/-- A change that a caller asks for. -/
inductive Change where
  | put (name : String) (sample : Sample)
  | putBatch (batch : Snapshot)
  | restore (snapshot : Option Snapshot)
  deriving DecidableEq, Repr

/-- The store as it is changed, or the refusal. -/
def change (s : Store) : Change → Outcome Store
  | .put name sample => s.put name sample
  | .putBatch batch => s.putBatch batch
  | .restore snapshot => restore snapshot

/-- The store after a change was asked for: one that is refused leaves it. -/
def asked (s : Store) (c : Change) : Store :=
  (s.change c).toOption.getD s

/-- The store after some changes were asked for, one after another. -/
def askedAll (s : Store) (cs : List Change) : Store :=
  cs.foldl asked s

/-- Every gauge is finite. -/
def Finite (s : Store) : Prop :=
  ∀ name x, s.gauges.get? name = some x → x.isFinite = true

variable {s : Store} {c : Change} {cs : List Change}

theorem finite_iff : s.Finite ↔ s.snapshot.checkFinite = .ok () := by
  rw [Snapshot.checkFinite_eq_ok]
  exact Iff.rfl

theorem finite_empty : Finite empty :=
  fun _ _ get => nomatch get

theorem askedAll_append (s : Store) (cs ds : List Change) :
    s.askedAll (cs ++ ds) = (s.askedAll cs).askedAll ds :=
  List.foldl_append

theorem finite_of_change {t : Store} (finite : s.Finite)
    (restored : ∀ t, c = .restore (some t) → t.checkFinite = .ok ()) (changed : s.change c = .ok t) :
    t.Finite := by
  cases c with
  | put name sample =>
    have merged := put_eq_mergeSample s name sample
    rw [show s.put name sample = .ok t from changed] at merged
    exact finite_iff.2 (Snapshot.checkFinite_mergeSample (finite_iff.1 finite) merged.symm)
  | putBatch batch =>
    have merged := putBatch_eq_merge s batch
    rw [show s.putBatch batch = .ok t from changed] at merged
    exact finite_iff.2 (Snapshot.checkFinite_mergeSamples (finite_iff.1 finite) merged.symm)
  | restore snapshot =>
    cases snapshot with
    | none => cases changed
    | some u =>
      obtain rfl : ⟨u.gauges, u.counters⟩ = t := Except.ok.inj changed
      exact finite_iff.2 (restored u rfl)

theorem finite_asked (finite : s.Finite)
    (restored : ∀ t, c = .restore (some t) → t.checkFinite = .ok ()) : (s.asked c).Finite := by
  unfold asked
  cases changed : s.change c with
  | error e => exact finite
  | ok t => exact finite_of_change finite restored changed

theorem finite_askedAll (finite : s.Finite)
    (restored : ∀ t, .restore (some t) ∈ cs → t.checkFinite = .ok ()) : (s.askedAll cs).Finite := by
  induction cs generalizing s with
  | nil => exact finite
  | cons c rest ih =>
    refine ih (finite_asked finite fun t same => restored t ?_) fun t mem => restored t ?_
    · exact same ▸ List.mem_cons_self
    · exact List.mem_cons_of_mem _ mem

end Store

/-! ## Flushes -/

namespace Flushing

variable {s : Flushing} {f : SnapshotFile} {store : Store}

theorem flush_eq_write (live : s.live = .memory store) (durable : s.scheduler.durable = .file f) :
    (flush s).1 = (f.write store.snapshot s.host).1 := by
  have look : onLive Backend.getMetrics s = (.ok store.snapshot, s) := by
    obtain ⟨_, scheduler, host⟩ := s
    cases live
    rfl
  have write : onDurable (Backend.restore store.snapshot) s =
      ((f.write store.snapshot s.host).1, { s with
        scheduler := { s.scheduler with durable := .file f }
        host := (f.write store.snapshot s.host).2 }) := by
    simp only [onDurable, Action.on, Backend.restore, Backend.perform, durable, SnapshotFile.restore]
  rw [flush, Action.bind_of_ok look]
  cases result : (f.write store.snapshot s.host).1 with
  | error e =>
    rw [result] at write
    rw [Action.bind_of_error write]
  | ok _ =>
    rw [result] at write
    rw [Action.bind_of_ok write]
    rfl

/-- A flush of the store into a file ends as one of an empty store would: nothing that the store
holds is refused. -/
def Unrefused (store : Store) : Prop :=
  ∀ (f : SnapshotFile) (k : Scheduler) (h : Host),
    (flush ⟨.memory store, { k with durable := .file f }, h⟩).1 =
      (flush ⟨.memory .empty, { k with durable := .file f }, h⟩).1

theorem flush_refused {e : Failure} (live : s.live = .memory store)
    (durable : s.scheduler.durable = .file f) (refused : store.snapshot.checkFinite = .error e) :
    (flush s).1 = .error e := by
  rw [flush_eq_write live durable, SnapshotFile.write, refused, Action.bind_ofOutcome_error]

theorem unrefused_iff : Unrefused store ↔ store.Finite := by
  constructor
  · intro same
    rw [Store.finite_iff]
    cases checked : store.snapshot.checkFinite with
    | ok _ => rfl
    | error e =>
      -- On a disk with room for the file the empty store is flushed.
      have same := same ⟨"/metrics.json", false⟩ (.new (.memory .empty) (.ofSeconds 300) false)
        ⟨⟨.empty, "/home"⟩, []⟩
      rw [flush_refused rfl rfl checked,
        (flush_file rfl rfl SnapshotFile.writable_empty (Store.finite_iff.1 Store.finite_empty)).1] at same
      cases same
  · intro finite f k h
    rw [flush_eq_write rfl rfl, flush_eq_write rfl rfl]
    exact f.write_eq_of_finite h (Store.finite_iff.1 finite) (Store.finite_iff.1 Store.finite_empty)

end Flushing

namespace Store

/-- **A store holds finite gauges only, as long as only finite gauges are restored.** In every state
that the changes lead to, whatever they ask for, every gauge is finite, all metrics pass the check
that comes before JSON, and no flush into a file is refused for what the store holds: all this exactly
when each snapshot that one of the changes restores passes that check. -/
theorem finite_iff_restored_finite (changes : List Change) :
    (∀ done, done <+: changes →
      (∀ name x, (empty.askedAll done).gauges.get? name = some x → x.isFinite = true) ∧
        (empty.askedAll done).snapshot.checkFinite = .ok () ∧
        Flushing.Unrefused (empty.askedAll done)) ↔
      ∀ t, .restore (some t) ∈ changes → t.checkFinite = .ok () := by
  constructor
  · intro always t mem
    obtain ⟨before, later, rfl⟩ := List.append_of_mem mem
    have checked := (always (before ++ [.restore (some t)]) ⟨later, by simp⟩).2.1
    rw [askedAll_append] at checked
    exact checked
  · intro restored done reached
    have finite := finite_askedAll finite_empty fun t mem => restored t (reached.subset mem)
    exact ⟨finite, finite_iff.1 finite, Flushing.unrefused_iff.2 finite⟩

/-- A gauge that is no number is restored unchecked, and the next flush is refused, where one of an
empty store succeeds. -/
theorem restored_nan :
    let s := empty.askedAll [.restore (some ⟨NameMap.empty.insert "X" .nan, .empty⟩)]
    let k : Scheduler := .new (.file ⟨"/metrics.json", false⟩) (.ofSeconds 300) false
    let h : Host := ⟨⟨.empty, "/home"⟩, []⟩
    (s.gauges.get? "X" = some .nan ∧ Binary64.nan.isFinite = false) ∧
      s.snapshot.checkFinite = .error (.rejected (.notFinite "X" .nan)) ∧
      (Flushing.flush ⟨.memory s, k, h⟩).1 = .error (.rejected (.notFinite "X" .nan)) ∧
      (Flushing.flush ⟨.memory .empty, k, h⟩).1 = .ok () := by
  intro s k h
  have refused : s.snapshot.checkFinite = .error (.rejected (.notFinite "X" .nan)) := rfl
  have empty_ok := Flushing.flush_file (s := ⟨.memory .empty, k, h⟩) rfl rfl
    SnapshotFile.writable_empty (finite_iff.1 finite_empty)
  exact ⟨⟨by decide, rfl⟩, refused, Flushing.flush_refused rfl rfl refused, empty_ok.1⟩

end Store

end Telemetry
