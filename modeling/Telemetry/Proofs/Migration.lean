/-
Migrations made again.

A migration that succeeds leaves a database of one of three kinds (`migrate_cases`): it was of the
last version, or the index was made, or the table and the index. The next migration finds it of the
last version and leaves it (`migrate_of_last`), unless some recorded version does not fit into 32
bits. Then the version is read as 0, and the first step fails at the version that it recorded before
(`migrate_of_recorded`). So a database that was opened can be opened again exactly if its versions
are numbers of 32 bits (`migrate_again`).
-/
import Telemetry.Proofs.Ledger.Reopening

namespace Telemetry

namespace Table

variable {d : Database}

namespace Database

theorem greatest_append (vs : List Int64) {v : Int64} (positive : 0 ≤ v.toInt) :
    greatest (vs ++ [v]) = max (greatest vs) v.toInt := by
  cases vs with
  | nil => exact (Int.max_eq_right positive).symm
  | cons first rest => simp [greatest]

/-- A version is read as the greatest one recorded, or as 0 where that one is out of range. -/
theorem version_cases (d : Database) :
    (d.version : Int) = greatest (d.versions.getD []) ∧ greatest (d.versions.getD []) < UInt32.size ∨
      d.version = 0 ∧ (greatest (d.versions.getD []) < 0 ∨ UInt32.size ≤ greatest (d.versions.getD [])) := by
  rw [version]
  split
  · rename_i fits
    exact .inl ⟨Int.toNat_of_nonneg fits.1, fits.2⟩
  · exact .inr ⟨rfl, by omega⟩

end Database

namespace Migration

variable {m : Migration} {v : Int64} {done : Stage} {current target : Nat} {step : Migration → Migration}

theorem stepTo_due (due : current < target) (sound : m.fault = none) : m.stepTo current target step = step m := by
  simp [stepTo, due, sound]

theorem stepTo_past (past : target ≤ current) : m.stepTo current target step = m := by
  simp [stepTo, Nat.not_lt.2 past]

theorem stepTo_failed {fault : DatabaseFault} (failed : m.fault = some fault) :
    m.stepTo current target step = m := by
  simp [stepTo, failed]

theorem recordVersion_again (there : v ∈ m.database.versions.getD []) :
    (m.recordVersion v done).database = m.database ∧
      (m.recordVersion v done).fault = some (.notUnique "schema_version.version") := by
  simp [recordVersion, Database.record?, there]

theorem recordVersion_ok (made : (m.recordVersion v done).fault = none) :
    (m.recordVersion v done).database =
      { m.database with versions := some (m.database.versions.getD [] ++ [v]) } := by
  by_cases there : v ∈ m.database.versions.getD []
  · rw [(recordVersion_again there).2] at made
    cases made
  · simp [recordVersion, Database.record?, there, pass]

theorem makeMetrics_again (there : 1 ∈ m.database.versions.getD []) :
    m.makeMetrics.database = m.database.withMetrics ∧
      m.makeMetrics.fault = some (.notUnique "schema_version.version") :=
  recordVersion_again (m := { m.pass .metricsBegun with database := m.database.withMetrics }) there

theorem makeMetrics_ok (made : m.makeMetrics.fault = none) : m.makeMetrics.database =
    ⟨some (m.database.versions.getD [] ++ [1]), some (m.database.metrics.getD []), m.database.indexed⟩ :=
  recordVersion_ok (m := { m.pass .metricsBegun with database := m.database.withMetrics }) made

theorem makeIndex_ok (made : m.makeIndex.fault = none) : (∃ rows, m.database.metrics = some rows) ∧
    m.makeIndex.database = ⟨some (m.database.versions.getD [] ++ [2]), m.database.metrics, true⟩ := by
  cases table : m.database.metrics with
  | none =>
    rw [makeIndex, show (m.pass .indexBegun).database.metrics = none from table] at made
    cases made
  | some rows =>
    rw [makeIndex, show (m.pass .indexBegun).database.metrics = some rows from table] at made ⊢
    refine ⟨⟨rows, rfl⟩, (recordVersion_ok made).trans ?_⟩
    rw [← table]
    rfl

theorem recordVersion_metrics (m : Migration) (v : Int64) (done : Stage) :
    (m.recordVersion v done).database.metrics = m.database.metrics := by
  by_cases there : v ∈ m.database.versions.getD []
  · rw [(recordVersion_again there).1]
  · simp [recordVersion, Database.record?, there, pass]

/-- No step takes rows away. -/
theorem stepTo_metrics {rows : List Row} (table : m.database.metrics = some rows)
    (keeps : ∀ m : Migration, m.database.metrics = some rows → (step m).database.metrics = some rows) :
    (m.stepTo current target step).database.metrics = some rows := by
  rw [stepTo]
  split
  · exact keeps m table
  · exact table

theorem makeMetrics_metrics {rows : List Row} (table : m.database.metrics = some rows) :
    m.makeMetrics.database.metrics = some rows := by
  refine (recordVersion_metrics _ _ _).trans ?_
  show some (m.database.metrics.getD []) = some rows
  rw [table]
  rfl

theorem makeIndex_metrics {rows : List Row} (table : m.database.metrics = some rows) :
    m.makeIndex.database.metrics = some rows := by
  rw [makeIndex, show (m.pass .indexBegun).database.metrics = some rows from table]
  exact (recordVersion_metrics _ _ _).trans table

end Migration

/-! ## One migration -/

namespace Database

theorem metrics_migrate {rows : List Row} (table : d.metrics = some rows) :
    d.migrate.database.metrics = some rows :=
  Migration.stepTo_metrics
    (Migration.stepTo_metrics table fun _ table => Migration.makeMetrics_metrics table)
    fun _ table => Migration.makeIndex_metrics table

theorem migrate_cases (sound : d.migrate.fault = none) :
    lastVersion ≤ d.version ∧ d.migrate.database = d.withVersions ∨
      d.version = 1 ∧ (∃ rows, d.metrics = some rows) ∧
        d.migrate.database = ⟨some (d.versions.getD [] ++ [2]), d.metrics, true⟩ ∨
      d.version = 0 ∧ d.migrate.database =
        ⟨some (d.versions.getD [] ++ [1] ++ [2]), some (d.metrics.getD []), true⟩ := by
  by_cases last : lastVersion ≤ d.version
  · exact .inl ⟨last, (migrate_of_last last).1⟩
  have due : d.version < 2 := Nat.lt_of_not_le last
  have current : d.withVersions.version = d.version := rfl
  by_cases begun : 1 ≤ d.version
  · have made : d.migrate = Migration.makeIndex ⟨d.withVersions, [.version d.version], none⟩ := by
      rw [migrate, current, Migration.stepTo_past begun, Migration.stepTo_due due rfl]
    rw [made] at sound ⊢
    obtain ⟨table, database⟩ := Migration.makeIndex_ok sound
    exact .inr (.inl ⟨by omega, table, database⟩)
  · have new : d.version < 1 := Nat.lt_of_not_le begun
    have first : d.migrate = (Migration.makeMetrics ⟨d.withVersions, [.version d.version], none⟩).stepTo
        d.version 2 Migration.makeIndex := by
      rw [migrate, current, Migration.stepTo_due new rfl]
    rw [first] at sound ⊢
    cases made : (Migration.makeMetrics ⟨d.withVersions, [.version d.version], none⟩).fault with
    | some fault =>
      rw [Migration.stepTo_failed made, made] at sound
      cases sound
    | none =>
      rw [Migration.stepTo_due due made] at sound ⊢
      obtain ⟨-, database⟩ := Migration.makeIndex_ok sound
      refine .inr (.inr ⟨by omega, ?_⟩)
      rw [database, Migration.makeMetrics_ok made]
      rfl

/-- A migration that begins anew where it was made before fails at once, and leaves the tables. -/
theorem migrate_of_recorded (zero : d.version = 0) (recorded : 1 ∈ d.versions.getD []) :
    d.migrate.database = d.withVersions.withMetrics ∧
      d.migrate.fault = some (.notUnique "schema_version.version") := by
  have current : d.withVersions.version = 0 := zero
  obtain ⟨database, fault⟩ := Migration.makeMetrics_again
    (m := ⟨d.withVersions, [.version 0], none⟩) recorded
  have first : d.migrate = Migration.makeMetrics ⟨d.withVersions, [.version 0], none⟩ := by
    rw [migrate, current, Migration.stepTo_due Nat.zero_lt_one rfl,
      Migration.stepTo_failed fault]
  rw [first]
  exact ⟨database, fault⟩

theorem version_of_greatest {n : Nat} (greatest_eq : greatest (d.versions.getD []) = n)
    (fits : n < UInt32.size) : d.version = n := by
  rw [version, greatest_eq, if_pos ⟨Int.natCast_nonneg n, Int.ofNat_lt.2 fits⟩]
  rfl

theorem version_raised (vs : List Int64) (recorded : d.versions = some (vs ++ [2]))
    (below : greatest vs ≤ 2) : d.version = 2 := by
  refine version_of_greatest ?_ (by decide)
  rw [recorded, Option.getD_some, greatest_append _ (by decide)]
  exact Int.max_eq_right below

/-- A migration that succeeds leaves the last version, unless a version was out of range before. -/
theorem version_migrate (sound : d.migrate.fault = none)
    (fits : greatest (d.versions.getD []) < UInt32.size) : lastVersion ≤ d.migrate.database.version := by
  have read := d.version_cases
  rcases migrate_cases sound with ⟨last, database⟩ | ⟨one, -, database⟩ | ⟨zero, database⟩
  · rw [database]
    exact last
  · rw [database, version_raised (d.versions.getD []) rfl (by omega)]
    exact Nat.le_refl 2
  · have below : greatest (d.versions.getD [] ++ [1]) ≤ 2 := by
      rw [greatest_append _ (by decide)]
      exact Int.max_le.2 ⟨by omega, by decide⟩
    rw [database, version_raised (d.versions.getD [] ++ [1]) rfl below]
    exact Nat.le_refl 2

/-- A version that is out of range hides the ones that a migration records. -/
theorem hidden_migrate (sound : d.migrate.fault = none)
    (exceeds : UInt32.size ≤ greatest (d.versions.getD [])) :
    d.migrate.database.version = 0 ∧ 1 ∈ d.migrate.database.versions.getD [] ∧
      d.migrate.database.withVersions.withMetrics = d.migrate.database := by
  have read := d.version_cases
  rcases migrate_cases sound with ⟨last, database⟩ | ⟨one, -, database⟩ | ⟨zero, database⟩
  · rw [lastVersion] at last
    omega
  · omega
  · rw [database]
    refine ⟨?_, by simp, rfl⟩
    have greatest_eq : greatest (d.versions.getD [] ++ [1] ++ [2]) = greatest (d.versions.getD []) := by
      rw [greatest_append _ (by decide), greatest_append _ (by decide)]
      have one : (1 : Int64).toInt = 1 := rfl
      have two : (2 : Int64).toInt = 2 := rfl
      have size : (UInt32.size : Int) = 4294967296 := rfl
      omega
    rw [version, Option.getD_some, greatest_eq, if_neg (by omega)]

/-- A migration made again changes nothing, and fails exactly if some version was out of range. -/
theorem migrate_migrate (sound : d.migrate.fault = none) :
    d.migrate.database.migrate.database = d.migrate.database ∧
      d.migrate.database.migrate.fault =
        if greatest (d.versions.getD []) < UInt32.size then none
        else some (.notUnique "schema_version.version") := by
  split
  · rename_i fits
    obtain ⟨database, fault⟩ := migrate_of_last (version_migrate sound fits)
    refine ⟨database.trans ?_, fault⟩
    -- The table of versions is there after any migration.
    rcases migrate_cases sound with ⟨-, made⟩ | ⟨-, -, made⟩ | ⟨-, made⟩
    · rw [made]
      rfl
    · rw [made]
      rfl
    · rw [made]
      rfl
  · rename_i exceeds
    obtain ⟨zero, recorded, made⟩ := hidden_migrate sound (Int.not_lt.1 exceeds)
    obtain ⟨database, fault⟩ := migrate_of_recorded zero recorded
    exact ⟨database.trans made, fault⟩

end Database

end Table

/-! ## Opening again -/

theorem Disk.set_set (d : Disk) (l : Location) (n : Node) : (d.set l n).set l n = d.set l n := by
  refine congrArg (Disk.mk · d.home) (NameMap.ext_get? fun name => ?_)
  simp only [Disk.set, NameMap.get?_insert]
  split <;> rfl

namespace Connection

open Table.Database (greatest)

variable {path : String} {h : Host} {l : Location} {d : Table.Database}

theorem not_directory (is : databaseOf? (h.disk.node? l) = some d) : h.disk.node? l ≠ some .directory := by
  intro dir
  rw [dir] at is
  cases is

theorem openPath_eq (leads : h.disk.resolve path = .ok ⟨l, false⟩)
    (is : databaseOf? (h.disk.node? l) = some d) :
    (openPath path h).2.disk = h.disk.set l (.database d.migrate.database) ∧
      (openPath path h).1 = match d.migrate.fault with
        | some fault => .error (migrationFailure fault)
        | none => .ok (.onDisk l) := by
  have file := not_directory is
  simp only [openPath, leads, file, is, Bool.false_eq_true, or_self, if_false]
  cases d.migrate.fault with
  | some fault => exact ⟨enterStages_disk _ _, rfl⟩
  | none => exact ⟨enterStages_disk _ _, rfl⟩

/-- **A database that was opened once can be opened again, as long as its versions are numbers of 32
bits.** A migration that succeeded changes nothing when it is made again: neither the versions, nor
the tables and the index, nor a row. It succeeds again exactly if the greatest version that was
recorded before the first one fits into 32 bits, and so does the path that leads to the database open
again. -/
theorem reopens_iff (sound : d.migrate.fault = none) :
    d.migrate.database.migrate.database = d.migrate.database ∧
      (d.migrate.database.migrate.fault = none ↔ greatest (d.versions.getD []) < UInt32.size) ∧
      ∀ path l (h : Host), h.disk.resolve path = .ok ⟨l, false⟩ →
        databaseOf? (h.disk.node? l) = some d →
        ∃ h', openPath path h = (.ok (.onDisk l), h') ∧ (openPath path h').2.disk = h'.disk ∧
          ((openPath path h').1 = .ok (.onDisk l) ↔ greatest (d.versions.getD []) < UInt32.size) := by
  obtain ⟨same, fault⟩ := Table.Database.migrate_migrate sound
  have again : d.migrate.database.migrate.fault = none ↔
      greatest (d.versions.getD []) < UInt32.size := by
    rw [fault]
    split <;> simp_all
  refine ⟨same, again, fun path l h leads is => ?_⟩
  obtain ⟨disk, opened⟩ := openPath_eq leads is
  rw [sound] at opened
  refine ⟨_, Prod.ext opened rfl, ?_⟩
  -- The path still leads to the database that the first opening left.
  have file : h.disk.node? l ≠ some .directory := not_directory is
  have leads' : (openPath path h).2.disk.resolve path = .ok ⟨l, false⟩ := by
    rw [disk]
    exact Disk.resolve_of_directories (Disk.set_directories file (by simp)) leads
  have is' : databaseOf? ((openPath path h).2.disk.node? l) = some d.migrate.database := by
    rw [disk, Disk.node?_set _ _ _ _ (Disk.not_root file), if_pos rfl]
    rfl
  obtain ⟨disk', answer⟩ := openPath_eq leads' is'
  refine ⟨?_, ?_⟩
  · rw [disk', disk, same, Disk.set_set]
  · rw [answer, ← again]
    cases d.migrate.database.migrate.fault <;> simp

/-- A database that is made anew is opened twice. -/
theorem reopens_new :
    let h : Host := ⟨⟨.empty, "/home"⟩, []⟩
    Table.Database.empty.migrate.fault = none ∧
      ∃ h', openPath "/m.db" h = (.ok (.onDisk "/m.db"), h') ∧
        (openPath "/m.db" h').1 = .ok (.onDisk "/m.db") ∧ (openPath "/m.db" h').2.disk = h'.disk := by
  intro h
  have sound : Table.Database.empty.migrate.fault = none := rfl
  obtain ⟨-, -, opens⟩ := reopens_iff sound
  obtain ⟨h', opened, disk, again⟩ := opens "/m.db" "/m.db" h rfl rfl
  exact ⟨sound, h', opened, again.2 (by decide), disk⟩

/-- A version of 33 bits lets a database be opened once: the next time it is read as 0 again, and the
first version is there already. -/
theorem reopens_not_hidden :
    let d : Table.Database := ⟨some [4294967296], none, false⟩
    let h : Host := ⟨⟨NameMap.empty.insert "/m.db" (.database d), "/home"⟩, []⟩
    d.migrate.fault = none ∧ d.migrate.database.versions = some [4294967296, 1, 2] ∧
      d.migrate.database.migrate.fault = some (.notUnique "schema_version.version") ∧
      ∃ h', openPath "/m.db" h = (.ok (.onDisk "/m.db"), h') ∧
        (openPath "/m.db" h').1 = .error (.unavailable (.migration (.notUnique "schema_version.version"))) := by
  intro d h
  exact ⟨by decide, by decide, by decide, _, rfl, by decide⟩

end Connection

end Telemetry
