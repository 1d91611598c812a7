/-
A backend that keeps all metrics in one JSON file.

Every write reads the whole file, merges, and writes the whole file: first to a
sibling, which then takes the file's place in one step. So the file is at every
moment either missing or complete. Only finite gauges are written, since JSON has
no other numbers.
-/
import Telemetry.Host
import Telemetry.Metric.Store

namespace Telemetry

/-- The file of a backend. With `removeBroken`, a file that cannot be parsed, or that holds
no metric when one is needed, is removed by the read that finds it so. -/
structure SnapshotFile where
  path : String
  removeBroken : Bool
  deriving DecidableEq, Repr

namespace SnapshotFile

/-- The backend of a path, whose directory is made if need be. -/
def establish (path : String) (removeBroken : Bool) : Action Host SnapshotFile := fun h =>
  let ready (h : Host) : Outcome SnapshotFile × Host :=
    (.ok ⟨path, removeBroken⟩, h.enter (.fileOpened path))
  match Path.parent? path with
  | none => ready h
  | some parent =>
    match h.disk.makePath parent with
    | .ok d => ready { h with disk := d }
    | .error fault => (.error (.unavailable (.noDirectory parent fault)), h)

/-- The sibling that is written first. -/
def temporary (f : SnapshotFile) : String :=
  Path.temporary f.path

/-- Removes a file that is of no use, if that is wanted. -/
def discard (f : SnapshotFile) (reason : String) (h : Host) : Host :=
  if f.removeBroken then
    match h.disk.remove f.path with
    | .ok d => { h with disk := d }.enter (.brokenRemoved f.path reason)
    | .error fault => h.enter (.brokenKept f.path fault)
  else h

def parse (bytes : Text.Bytes) : Except Json.Fault Snapshot :=
  Snapshot.ofDocument (.ofBytes bytes)

/-- The snapshot in the file; none when there is no file. -/
def read (f : SnapshotFile) : Action Host (Option Snapshot) := fun h =>
  match h.disk.read f.path with
  | .error .missing => (.ok none, h)
  | .error fault => (.error (.badSnapshot (.unreadable f.path fault)), h)
  | .ok bytes =>
    match parse bytes with
    | .ok s => (.ok (some s), h)
    | .error fault =>
      (.error (.badSnapshot (.unparsable f.path fault)), f.discard "unparseable" h)

/-- The snapshot in the file, which is empty when there is no file. -/
def current (f : SnapshotFile) : Action Host Snapshot := do
  let s ← f.read
  pure (s.getD .empty)

def bytes (s : Snapshot) : Text.Bytes :=
  Text.Utf8.encode s.toJson.pretty

def write (f : SnapshotFile) (s : Snapshot) : Action Host Unit := do
  .ofOutcome s.checkFinite
  Host.change fun d => d.write f.temporary (bytes s)
  Host.change fun d => d.rename f.temporary f.path
  Host.log (.snapshotWritten f.path s.size)

/-! ## Operations -/

def directory (f : SnapshotFile) : String :=
  match Path.parent? f.path with
  | none => "."
  | some parent => if parent = "" then "." else parent

/-- The file's directory is there. -/
def ping (f : SnapshotFile) : Action Host Unit := do
  match ← Host.look fun d => d.isDirectory f.directory with
  | .ok true => pure ()
  | .ok false => .fail (.unavailable (.notDirectory f.directory))
  | .error fault => .fail (.unavailable (.directory f.directory fault))

def put (f : SnapshotFile) (name : String) (sample : Sample) : Action Host Unit := do
  let s ← f.current
  let s ← .ofOutcome (s.mergeSample name sample)
  f.write s

def get (f : SnapshotFile) (name : String) : Action Host Sample := do
  let s ← f.current
  match s.get? .gauge name, s.get? .counter name with
  | some x, _ => pure x
  | none, some x => pure x
  | none, none => .fail (.notFound none name)

def getTyped (f : SnapshotFile) (kind : Kind) (name : String) : Action Host Sample := do
  let s ← f.current
  match s.get? kind name with
  | some x => pure x
  | none => .fail (.notFound (some kind) name)

def putMetrics (f : SnapshotFile) (batch : Snapshot) : Action Host Unit := do
  let s ← f.current
  let s ← .ofOutcome (s.merge batch)
  f.write s

/-- All metrics; there has to be one. -/
def getMetrics (f : SnapshotFile) : Action Host Snapshot := do
  match ← f.read with
  | none => .fail (.badSnapshot (.missing f.path))
  | some s =>
    if s.isEmpty then do
      Action.modify (f.discard "empty")
      .fail (.badSnapshot (.empty f.path))
    else pure s

def restore (f : SnapshotFile) (s : Snapshot) : Action Host Unit :=
  f.write s

end SnapshotFile

end Telemetry
