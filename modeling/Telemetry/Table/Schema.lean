/-
The schema's versions, and the steps that bring a database up to the last one.

Version 1 makes the table of metrics and version 2 the index on their kinds. Each
step records its version, which may be there only once; a step that fails at this
keeps what it made. The version of a database is the greatest recorded one, as far
as it is a number of 32 bits, and else 0.
-/
import Telemetry.Table.Database

namespace Telemetry.Table

/-- A step of a migration, or the look at the version before the steps. -/
inductive Stage where
  | version (current : Nat)
  | metricsBegun
  | metricsDone
  | indexBegun
  | indexDone
  deriving DecidableEq, Repr

/-- A migration as far as it went: the database, the stages passed, the last one first,
and the fault that ended it. -/
structure Migration where
  database : Database
  stages : List Stage
  fault : Option DatabaseFault
  deriving DecidableEq, Repr

def lastVersion : Nat := 2

namespace Database

def withVersions (d : Database) : Database :=
  { d with versions := some (d.versions.getD []) }

/-- The greatest of some versions; none is 0. -/
def greatest : List Int64 → Int
  | [] => 0
  | v :: rest => rest.foldl (fun m x => max m x.toInt) v.toInt

def version (d : Database) : Nat :=
  let v := greatest (d.versions.getD [])
  if 0 ≤ v ∧ v < UInt32.size then v.toNat else 0

/-- A version recorded; none if it was. -/
def record? (d : Database) (v : Int64) : Option Database :=
  let vs := d.versions.getD []
  if vs.contains v then none else some { d with versions := some (vs ++ [v]) }

def withMetrics (d : Database) : Database :=
  { d with metrics := some (d.metrics.getD []) }

end Database

namespace Migration

def pass (m : Migration) (s : Stage) : Migration :=
  { m with stages := s :: m.stages }

def recordVersion (m : Migration) (v : Int64) (done : Stage) : Migration :=
  match m.database.record? v with
  | some d => { m with database := d }.pass done
  | none => { m with fault := some (.notUnique "schema_version.version") }

def makeMetrics (m : Migration) : Migration :=
  let m := m.pass .metricsBegun
  { m with database := m.database.withMetrics }.recordVersion 1 .metricsDone

def makeIndex (m : Migration) : Migration :=
  let m := m.pass .indexBegun
  match m.database.metrics with
  | none => { m with fault := some (.noTable "main.metrics") }
  | some _ =>
    { m with database := { m.database with indexed := true } }.recordVersion 2 .indexDone

/-- A step, unless the database is past it or something failed. -/
def stepTo (m : Migration) (current target : Nat) (step : Migration → Migration) : Migration :=
  if current < target ∧ m.fault.isNone then step m else m

end Migration

/-- The database brought up to the last version, as far as that goes. -/
def Database.migrate (d : Database) : Migration :=
  let d := d.withVersions
  let current := d.version
  let m : Migration := ⟨d, [.version current], none⟩
  (m.stepTo current 1 Migration.makeMetrics).stepTo current 2 Migration.makeIndex

end Telemetry.Table
