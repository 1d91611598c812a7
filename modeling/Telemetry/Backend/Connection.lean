/-
A backend that keeps all metrics in a database.

A connection leads to a database on the disk or to one of its own, and is brought
up to the last schema when it is opened. After its end every operation finds it
closed. Each operation is one transaction.
-/
import Telemetry.Host

namespace Telemetry

/-- Where a connection leads. -/
inductive Connection where
  | onDisk (location : Location)
  | inMemory (database : Table.Database)
  deriving DecidableEq, Repr

/-- A connection, unless it is closed, and its host. -/
structure Session where
  connection : Option Connection
  host : Host

namespace Connection

/-- A source name without the blanks around it and the scheme before it. -/
def sourcePath (dsn : String) : String :=
  let name := Text.trimChars dsn.toList
  let scheme := "sqlite://".toList
  String.ofList (if scheme.isPrefixOf name then name.drop scheme.length else name)

def enterStages (m : Table.Migration) (h : Host) : Host :=
  m.stages.reverse.foldl (fun h s => h.enter (.migration s)) h

def migrationFailure (fault : DatabaseFault) : Failure :=
  .unavailable (.migration fault)

/-- A database of its own, which ends with the connection. -/
def openInMemory : Action Host Connection := fun h =>
  let m := Table.Database.empty.migrate
  let h := enterStages m h
  match m.fault with
  | some fault => (.error (migrationFailure fault), h)
  | none => (.ok (.inMemory m.database), h)

/-- What a file is as a database. An empty one has no table yet. -/
def databaseOf? : Option Node → Option Table.Database
  | none => some .empty
  | some (.database d) => some d
  | some (.file []) => some .empty
  | some _ => none

/-- The database at a path, made if there is none. -/
def openPath (path : String) : Action Host Connection := fun h =>
  match h.disk.resolve path with
  | .error _ => (.error (.unavailable (.cannotOpen path)), h)
  | .ok target =>
    let node := h.disk.node? target.location
    if target.asDirectory ∨ node = some .directory then
      (.error (.unavailable (.cannotOpen path)), h)
    else
      match databaseOf? node with
      | none => (.error (.unavailable .notDatabase), h)
      | some d =>
        let m := d.migrate
        let h := { h with disk := h.disk.set target.location (.database m.database) }
        let h := enterStages m h
        match m.fault with
        | some fault => (.error (migrationFailure fault), h)
        | none => (.ok (.onDisk target.location), h.enter (.databaseOpened path))

/-- The database of a source name: a path, with or without a scheme, or a name for a
database of its own. The empty path leads to a temporary one. -/
def openSource (dsn : String) : Action Host Connection :=
  let path := sourcePath dsn
  if path = ":memory:" then openInMemory
  else if path = "" then do
    let c ← openInMemory
    Host.log (.databaseOpened path)
    pure c
  else openPath path

def database (c : Connection) (d : Disk) : Table.Database :=
  match c with
  | .inMemory content => content
  | .onDisk location =>
    match d.node? location with
    | some (.database content) => content
    | _ => .empty

end Connection

namespace Session

def store (s : Session) (c : Connection) (content : Table.Database) : Session :=
  match c with
  | .inMemory _ => { s with connection := some (.inMemory content) }
  | .onDisk location =>
    { s with host :=
      { s.host with disk := s.host.disk.set location (.database content) } }

def query {α : Type} (context : String) (f : Table.Database → Table.Answer α) :
    Action Session α := fun s =>
  match s.connection with
  | none => (.error (.unavailable .closed), s)
  | some c =>
    match f (c.database s.host.disk) with
    | .ok x => (.ok x, s)
    | .error refusal => (.error (refusal.failure context), s)

def transact (context : String) (f : Table.Database → Table.Answer Table.Database) :
    Action Session Unit := fun s =>
  match s.connection with
  | none => (.error (.unavailable .closed), s)
  | some c =>
    match f (c.database s.host.disk) with
    | .ok content => (.ok (), s.store c content)
    | .error refusal => (.error (refusal.failure context), s)

def log (e : Event) : Action Session Unit :=
  .modify fun s => { s with host := s.host.enter e }

/-! ## Operations -/

def ping : Action Session Unit :=
  query "ping failed" fun _ => .ok ()

def put (name : String) (sample : Sample) : Action Session Unit :=
  transact "metric write failed" fun d => d.put name sample

/-- The value under a name, in any kind or in one. -/
def find (kind : Option Kind) (name : String) : Action Session Sample := do
  match ← query "metric query failed" fun d => d.get kind name with
  | some x => pure x
  | none => .fail (.notFound kind name)

def putMetrics (batch : Snapshot) : Action Session Unit := do
  transact "batch write failed" fun d => d.putAll batch
  log (.batchMerged batch.size)

def getMetrics : Action Session Snapshot :=
  query "metric listing failed" fun d => d.list

/-- All metrics replaced, or none. -/
def restore (s : Snapshot) : Action Session Unit := do
  transact "restore failed" fun d => d.replaceAll s
  log (.contentsReplaced s.size)

def shutdown : Action Session Unit := fun s =>
  match s.connection with
  | none => (.ok (), s)
  | some _ => (.ok (), { connection := none, host := s.host.enter .connectionClosed })

end Session

end Telemetry
