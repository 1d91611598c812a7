/-
A snapshot file as the durable side of a scheduler.

Where a file can be written, it holds some text or is missing (`SnapshotFile.Keeps`), and that is all
that is to be known of it: what a reading gives and a replacement leaves are functions of the text
(`given`, `taken`).
-/
import Telemetry.Proofs.Flush.View
import Telemetry.Proofs.Json.Finite
import Telemetry.Proofs.SnapshotFile

namespace Telemetry

namespace SnapshotFile

/-- The file can be written, and has this text if it is there. -/
structure Keeps (f : SnapshotFile) (text : Option Text.Bytes) (d : Disk) : Prop where
  place : f.Writable d
  read : d.read f.path = text.elim (.error .missing) .ok

variable {f : SnapshotFile} {text : Option Text.Bytes} {h : Host} {s : Snapshot}

theorem Writable.keeps {d : Disk} (place : f.Writable d) : ∃ text, f.Keeps text d := by
  obtain ⟨l, leads, file⟩ := place.path
  cases here : d.node? l with
  | none =>
    refine ⟨none, place, ?_⟩
    simp only [Disk.read, leads, Except.ok_bind, here]
    rfl
  | some n =>
    cases n with
    | directory => exact absurd here file
    | file content =>
      refine ⟨some content, place, ?_⟩
      simp only [Disk.read, leads, Except.ok_bind, here]
      rfl
    | database content =>
      refine ⟨some Disk.databaseBytes, place, ?_⟩
      simp only [Disk.read, leads, Except.ok_bind, here]
      rfl

/-- What is left of a text that is of no use. -/
def discarded (f : SnapshotFile) (b : Text.Bytes) : Option Text.Bytes :=
  if f.removeBroken then none else some b

theorem discard_keeps {b : Text.Bytes} (keeps : f.Keeps (some b) h.disk) (reason : String) :
    f.Keeps (f.discarded b) (f.discard reason h).disk ∧ h.Alike (f.discard reason h) := by
  rw [discarded]
  rcases discard_cases keeps.place keeps.read reason with ⟨kept, same⟩ | ⟨removed, d, left, missing, place⟩
  · rw [kept, same]
    exact ⟨keeps, .refl h⟩
  · rw [removed, left]
    exact ⟨⟨place, missing⟩, (h.alike_disk d).trans (Host.alike_enter _ rfl rfl)⟩

/-- The snapshot that a text gives, which has to be one and not empty. -/
def given (f : SnapshotFile) : Option Text.Bytes → Outcome Snapshot × Option Text.Bytes
  | none => (.error (.badSnapshot (.missing f.path)), none)
  | some b =>
    match parse b with
    | .error fault => (.error (.badSnapshot (.unparsable f.path fault)), f.discarded b)
    | .ok s =>
      if s.isEmpty then (.error (.badSnapshot (.empty f.path)), f.discarded b) else (.ok s, some b)

theorem given_finite (gives : (f.given text).1 = .ok s) : s.checkFinite = .ok () := by
  cases text with
  | none => cases gives
  | some b =>
    unfold given at gives
    simp only at gives
    cases read : parse b with
    | error fault =>
      rw [read] at gives
      cases gives
    | ok t =>
      rw [read] at gives
      simp only at gives
      split at gives
      · cases gives
      · rw [← Except.ok.inj gives]
        exact Snapshot.finite_of_document read

theorem getMetrics_given (keeps : f.Keeps text h.disk) :
    (f.getMetrics h).1 = (f.given text).1 ∧ f.Keeps (f.given text).2 (f.getMetrics h).2.disk ∧
      h.Alike (f.getMetrics h).2 := by
  have there := keeps.read
  cases text with
  | none =>
    have missing : f.read h = (.ok none, h) := by
      simp only [SnapshotFile.read, there]
      rfl
    rw [getMetrics, Action.bind_of_ok missing]
    exact ⟨rfl, keeps, .refl h⟩
  | some b =>
    have some_there : h.disk.read f.path = .ok b := there
    rw [given]
    cases parsed : parse b with
    | error fault =>
      have read : f.read h = (.error (.badSnapshot (.unparsable f.path fault)),
          f.discard "unparseable" h) := by
        simp only [SnapshotFile.read, some_there, parsed]
      rw [getMetrics, Action.bind_of_error read]
      exact ⟨rfl, discard_keeps keeps _⟩
    | ok s =>
      have read : f.read h = (.ok (some s), h) := by
        simp only [SnapshotFile.read, some_there, parsed]
      rw [getMetrics, Action.bind_of_ok read]
      simp only
      split
      · exact ⟨rfl, discard_keeps keeps _⟩
      · exact ⟨rfl, keeps, .refl h⟩

/-- The text that a snapshot leaves, if it can be written. -/
def taken (text : Option Text.Bytes) (s : Snapshot) : Outcome Unit × Option Text.Bytes :=
  match s.checkFinite with
  | .ok () => (.ok (), some (bytes s))
  | .error e => (.error e, text)

theorem write_taken (keeps : f.Keeps text h.disk) (s : Snapshot) :
    (f.write s h).1 = (taken text s).1 ∧ f.Keeps (taken text s).2 (f.write s h).2.disk ∧
      h.Alike (f.write s h).2 := by
  rw [taken]
  cases finite : s.checkFinite with
  | error e =>
    rw [write, finite, Action.bind_ofOutcome_error]
    exact ⟨rfl, keeps, .refl h⟩
  | ok _ =>
    obtain ⟨d, written, read, place⟩ := write_eq keeps.place finite
    rw [written]
    exact ⟨rfl, ⟨place, read⟩, (h.alike_disk d).trans (Host.alike_enter _ rfl rfl)⟩

end SnapshotFile

/-- A snapshot file as a durable side. -/
def Durable.file (f : SnapshotFile) : Durable (Option Text.Bytes) where
  Holds text backend disk := backend = .file f ∧ f.Keeps text disk
  get := f.given
  put := SnapshotFile.taken
  gets := by
    rintro text ⟨_, host⟩ ⟨rfl, keeps⟩
    obtain ⟨gives, keeps, alike⟩ := SnapshotFile.getMetrics_given keeps
    exact ⟨gives, ⟨rfl, keeps⟩, alike⟩
  puts := by
    rintro text ⟨_, host⟩ s ⟨rfl, keeps⟩
    obtain ⟨gives, keeps, alike⟩ := SnapshotFile.write_taken keeps s
    exact ⟨gives, ⟨rfl, keeps⟩, alike⟩
  closes := by
    rintro text ⟨_, host⟩ ⟨rfl, keeps⟩
    exact ⟨⟨rfl, keeps⟩, .refl host⟩

namespace View

variable {f : SnapshotFile} {v : View (Option Text.Bytes)}

theorem copy_file (finite : v.live.snapshot.checkFinite = .ok ()) : (v.copy (.file f)).2 =
    { v with side := some (SnapshotFile.bytes v.live.snapshot), flushed := true, flushes := v.flushes + 1 } := by
  have put : (Durable.file f).put v.side v.live.snapshot =
      (.ok (), some (SnapshotFile.bytes v.live.snapshot)) := by
    simp only [Durable.file, SnapshotFile.taken, finite]
  rw [copy, put]

theorem side_drain_file (finite : v.live.snapshot.checkFinite = .ok ()) :
    (v.drain (.file f)).side = some (SnapshotFile.bytes v.live.snapshot) := by
  have same : (v.enter .draining).live.snapshot.checkFinite = .ok () := finite
  rw [drain, copy_file same]
  rfl

end View

end Telemetry
