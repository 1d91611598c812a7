/-
Where metrics are kept: in memory, in a snapshot file, or in a database.

All three answer the same operations. A backend on trial is one in memory that
enters every call in the journal and refuses the operations it is told to refuse;
it stands for any backend whose faults are chosen from outside.
-/
import Telemetry.Backend.Connection
import Telemetry.Backend.SnapshotFile

namespace Telemetry

/-- A store that refuses some operations. The name is for lines and the label for calls. -/
structure Trial where
  name : String
  label : String
  store : Store
  refused : List Operation
  deriving DecidableEq, Repr

/-- Where metrics are kept. -/
inductive Backend where
  | memory (store : Store)
  | file (file : SnapshotFile)
  | database (connection : Option Connection)
  | trial (trial : Trial)
  deriving DecidableEq, Repr

/-- A backend and its host. -/
structure Site where
  backend : Backend
  host : Host

namespace Backend

def name : Backend → String
  | .memory _ => "memory"
  | .file _ => "file"
  | .database _ => "sqlite"
  | .trial t => t.name

def onStore {α : Type} (store : Store) (f : Store → Outcome (α × Store)) : Outcome α × Store :=
  match f store with
  | .ok (x, store) => (.ok x, store)
  | .error e => (.error e, store)

/-- An operation, by what it is on a store, on a file and in a session. -/
def perform {α : Type} (operation : Operation) (onMemory : Store → Outcome (α × Store))
    (onFile : SnapshotFile → Action Host α) (onSession : Action Session α) : Action Site α := fun s =>
  match s.backend with
  | .memory store =>
    let (x, store) := onStore store onMemory
    (x, { s with backend := .memory store })
  | .file f =>
    let (x, host) := onFile f s.host
    (x, { s with host := host })
  | .database connection =>
    let (x, t) := onSession ⟨connection, s.host⟩
    (x, ⟨.database t.connection, t.host⟩)
  | .trial t =>
    let host := s.host.enter (.called t.label operation)
    if t.refused.contains operation then
      (.error (.unavailable (.stated "down")), ⟨.trial t, host⟩)
    else
      let (x, store) := onStore t.store onMemory
      (x, ⟨.trial { t with store := store }, host⟩)

def reading {α : Type} (f : Store → Outcome α) (s : Store) : Outcome (α × Store) :=
  (f s).map fun x => (x, s)

def writing (f : Store → Outcome Store) (s : Store) : Outcome (Unit × Store) :=
  (f s).map fun s => ((), s)

/-! ## Operations -/

def ping : Action Site Unit :=
  perform .ping (reading fun _ => .ok ()) SnapshotFile.ping Session.ping

/-- One value written: a gauge is replaced, a counter is added to. -/
def put (name : String) (sample : Sample) : Action Site Unit :=
  perform .put (writing fun s => s.put name sample) (fun f => f.put name sample)
    (Session.put name sample)

/-- The value under a name, gauges first. -/
def get (name : String) : Action Site Sample :=
  perform .get (reading fun s => s.get name) (fun f => f.get name) (Session.find none name)

/-- The value under a name in one namespace. -/
def getTyped (kind : Kind) (name : String) : Action Site Sample :=
  perform .getTyped (reading fun s => s.getTyped kind name) (fun f => f.getTyped kind name)
    (Session.find (some kind) name)

/-- A whole snapshot written, or nothing of it. -/
def putMetrics (batch : Snapshot) : Action Site Unit :=
  perform .putMetrics (writing fun s => s.putBatch batch) (fun f => f.putMetrics batch)
    (Session.putMetrics batch)

def getMetrics : Action Site Snapshot :=
  perform .getMetrics (reading fun s => .ok s.snapshot) SnapshotFile.getMetrics
    Session.getMetrics

def restore (snapshot : Snapshot) : Action Site Unit :=
  perform .restore (writing fun _ => Store.restore (some snapshot)) (fun f => f.restore snapshot)
    (Session.restore snapshot)

def shutdown : Action Site Unit :=
  perform .shutdown (reading fun _ => .ok ()) (fun _ => pure ()) Session.shutdown

end Backend

end Telemetry
