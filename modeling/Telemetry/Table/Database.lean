/-
The database: a table of metrics with one row a name, and a table of the schema's
versions.

A name has one row, so it holds a single kind: writing the other kind converts
the row. A statement that fails changes nothing, and neither does a batch of which
one statement fails.
-/
import Telemetry.Metric.Snapshot
import Telemetry.Table.Cell

namespace Telemetry.Table

/-- A row of the table of metrics. Gauges use `value`, counters use `delta`. -/
structure Row where
  id : Option String
  kind : String
  value : Cell
  delta : Cell
  deriving DecidableEq, Repr

/-- Tables that may be there or not, and the index on the metrics' kinds. Rows stand in the
order of their insertion. -/
structure Database where
  versions : Option (List Int64)
  metrics : Option (List Row)
  indexed : Bool
  deriving DecidableEq, Repr

/-- Why a statement or a batch was given up. -/
inductive Refusal where
  | statement (fault : DatabaseFault)
  | rejected (failure : Failure)
  deriving DecidableEq, Repr

/-- The failure of an operation whose statements were given up. -/
def Refusal.failure (context : String) : Refusal → Failure
  | .statement fault => .internal (.database context fault)
  | .rejected failure => failure

/-- A result, or why the statement was given up. -/
abbrev Answer := Except Refusal

namespace Row

def hasId (name : String) (r : Row) : Bool :=
  r.id = some name

def gauge (name : String) (x : Binary64) : Row :=
  ⟨some name, Kind.gauge.name, Cell.asReal (.real x), .null⟩

def counter (name : String) (total : Int64) : Row :=
  ⟨some name, Kind.counter.name, .null, .integer total⟩

/-- The metric that a row holds, if its kind is known and its cell is not empty. Columns are
counted from `offset` on. -/
def sample (offset : Nat) (r : Row) : Except DatabaseFault (Option Sample) := do
  let value ← r.value.readReal (offset + 1) "value"
  let delta ← r.delta.readInteger (offset + 2) "delta"
  match Kind.ofName? r.kind with
  | some .gauge => .ok (value.map .gauge)
  | some .counter => .ok (delta.map .counter)
  | none => .ok none

end Row

/-! ## Statements on rows -/

/-- The row of a name replaced, or added where there is none. -/
def replaceRow (rows : List Row) (name : String) (row : Row) : List Row :=
  if rows.any (Row.hasId name) then
    rows.map fun r => if r.hasId name then row else r
  else rows ++ [row]

/-- What a counter's delta is added to: the total of a counter's row, else nothing. -/
def baseTotal (r : Row) : Except DatabaseFault Int64 := do
  let delta ← r.delta.readInteger 1 "delta"
  .ok (if Kind.ofName? r.kind = some .counter then delta.getD 0 else 0)

/-- A counter written: added to its total, or begun. -/
def addCounter (rows : List Row) (name : String) (d : Int64) : Answer (List Row) :=
  match rows.find? (Row.hasId name) with
  | none => .ok (rows ++ [.counter name d])
  | some r =>
    match baseTotal r with
    | .error fault => .error (.statement fault)
    | .ok base =>
      match checkedTotal name base d with
      | .error e => .error (.rejected e)
      | .ok total => .ok (replaceRow rows name (.counter name total))

/-- The metric under a name, in any kind or in one. -/
def find (rows : List Row) (kind : Option Kind) (name : String) : Answer (Option Sample) :=
  let isWanted (r : Row) : Bool := r.hasId name && kind.all fun k => r.kind = k.name
  match rows.find? isWanted with
  | none => .ok none
  | some r =>
    match r.sample 0 with
    | .error fault => .error (.statement fault)
    | .ok found => .ok found

/-- The rows folded into a snapshot by the merge rule. -/
def listRows (s : Snapshot) : List Row → Answer Snapshot
  | [] => .ok s
  | r :: rest =>
    match r.id with
    | none => .error (.statement (.columnType .null 0 "id"))
    | some id =>
      match r.sample 1 with
      | .error fault => .error (.statement fault)
      | .ok none => listRows s rest
      | .ok (some sample) =>
        match s.mergeSample id sample with
        | .error e => .error (.rejected e)
        | .ok s => listRows s rest

/-! ## Databases -/

namespace Database

def empty : Database :=
  ⟨none, none, false⟩

def rows (d : Database) : Answer (List Row) :=
  match d.metrics with
  | some rows => .ok rows
  | none => .error (.statement (.noTable "metrics"))

def onRows (d : Database) (change : List Row → Answer (List Row)) : Answer Database := do
  let rows ← change (← d.rows)
  .ok { d with metrics := some rows }

/-- One value written. A gauge replaces whatever the row held; only a finite one is taken. -/
def put (d : Database) (name : String) : Sample → Answer Database
  | .gauge x =>
    match finiteGauge name x with
    | .error e => .error (.rejected e)
    | .ok x => d.onRows fun rows => .ok (replaceRow rows name (.gauge name x))
  | .counter delta => d.onRows fun rows => addCounter rows name delta

def putSamples (d : Database) : List (String × Sample) → Answer Database
  | [] => .ok d
  | (name, sample) :: rest => do
    let d ← d.put name sample
    putSamples d rest

/-- A whole snapshot written, gauges and then counters, or nothing of it. -/
def putAll (d : Database) (s : Snapshot) : Answer Database :=
  d.putSamples s.samples

/-- All metrics replaced by a snapshot, or none. -/
def replaceAll (d : Database) (s : Snapshot) : Answer Database := do
  let d ← d.onRows fun _ => .ok []
  d.putSamples s.samples

def list (d : Database) : Answer Snapshot := do
  listRows .empty (← d.rows)

def get (d : Database) (kind : Option Kind) (name : String) : Answer (Option Sample) := do
  find (← d.rows) kind name

/-- A row put in as given, in place of the row of its name. -/
def insertRaw (d : Database) (id kind value delta : Cell) : Database :=
  let id := match id.asText with
    | .text s => some s
    | _ => none
  let kind := match kind.asText with
    | .text s => s
    | _ => ""
  let kept := (d.metrics.getD []).filter fun r => id.isNone || r.id ≠ id
  { d with metrics := some (kept ++ [⟨id, kind, value.asReal, delta.asInteger⟩]) }

end Database

end Telemetry.Table
