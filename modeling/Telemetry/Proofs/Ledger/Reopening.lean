/-
A database on the disk through its connections: calls, shutdowns and reopenings.

Whatever is done, and however often names change their kind, the table at the path represents
one map, and every answer is the map's (`ledger_trace`). What fails leaves the map. A
connection that was shut down answers nothing until the path is opened again, which finds the
map as it was.
-/
import Telemetry.Proofs.Calls
import Telemetry.Proofs.Disk
import Telemetry.Proofs.Ledger
import Telemetry.Proofs.Session

namespace Telemetry

open Table (Represents Carries)

namespace Table

/-- A database of the last version is left as it is, but for the table of versions, which is made if
there is none. -/
theorem migrate_of_last {d : Database} (last : lastVersion ≤ d.version) :
    d.migrate.database = d.withVersions ∧ d.migrate.fault = none := by
  have same : d.withVersions.version = d.version := rfl
  have past (n : Nat) (le : n ≤ lastVersion) : ¬ d.withVersions.version < n := by
    rw [same]
    exact Nat.not_lt.2 (Nat.le_trans le last)
  simp [Database.migrate, Migration.stepTo, past 1 (by decide), past 2 (by decide)]

end Table

namespace Connection

theorem enterStages_disk (m : Table.Migration) (h : Host) : (enterStages m h).disk = h.disk := by
  have entered (stages : List Table.Stage) (h : Host) :
      (stages.foldl (fun h s => h.enter (.migration s)) h).disk = h.disk := by
    induction stages generalizing h with
    | nil => rfl
    | cons s rest ih => exact ih _
  exact entered _ h

/-- The source is a path, not the name of a database that ends with its connection. -/
def IsPath (dsn : String) : Prop :=
  sourcePath dsn ≠ ":memory:"

theorem openSource_ok {dsn : String} {h : Host} {l : Location} {d : Table.Database} (path : IsPath dsn)
    (leads : h.disk.resolve (sourcePath dsn) = .ok ⟨l, false⟩)
    (file : h.disk.node? l ≠ some .directory) (is : databaseOf? (h.disk.node? l) = some d)
    (sound : d.migrate.fault = none) :
    ∃ h', openSource dsn h = (.ok (.onDisk l), h') ∧
      h'.disk = h.disk.set l (.database d.migrate.database) := by
  have named : sourcePath dsn ≠ "" := by
    intro none
    rw [none] at leads
    cases leads
  rw [openSource]
  simp only [if_neg (show ¬ sourcePath dsn = ":memory:" from path), if_neg named, openPath, leads,
    file, is, sound, Bool.false_eq_true, or_self, if_false]
  exact ⟨_, rfl, enterStages_disk _ _⟩

end Connection

namespace Backend

/-- A call, a look whether the database answers, the end of a connection, or a new one. -/
inductive Deed where
  | call (call : Call)
  | ping
  | shutdown
  | reopen
  deriving DecidableEq, Repr

/-- Opens the source again. A connection that was open is dropped for the new one. -/
def reopen (dsn : String) : Action Site Returned := fun site =>
  match Connection.openSource dsn site.host with
  | (.ok c, h) => (.ok .nothing, ⟨.database (some c), h⟩)
  | (.error e, h) => (.error e, { site with host := h })

def Deed.run (dsn : String) : Deed → Action Site Returned
  | call c => c.run
  | ping => do
    Backend.ping
    pure .nothing
  | shutdown => do
    Backend.shutdown
    pure .nothing
  | reopen => Backend.reopen dsn

/-- Deeds one after another: each with its answer and the site that it left. -/
def deeds (dsn : String) (site : Site) : List Deed → List (Outcome Returned × Site)
  | [] => []
  | d :: rest =>
    let (answer, site) := d.run dsn site
    (answer, site) :: deeds dsn site rest

/-! ## What is done to a map -/

/-- A map that is open to calls or closed. -/
structure Books where
  isOpen : Bool
  ledger : Ledger

/-- A change of a map, or a refusal that leaves it. -/
def entering (change : Outcome Ledger) (m : Ledger) : Outcome Returned × Ledger :=
  match change with
  | .ok m => (.ok .nothing, m)
  | .error e => (.error e, m)

/-- The call made on a map. A batch is its gauges and then its counters, and what restores a
snapshot writes it into an empty map. -/
def Call.onLedger (m : Ledger) : Call → Outcome Returned × Ledger
  | put name x => entering (m.write name x) m
  | putMetrics batch => entering (m.writeAll batch.samples) m
  | restore s => entering (Ledger.writeAll .empty s.samples) m
  | get name => ((m.find none name).map .sample, m)
  | getTyped kind name => ((m.find (some kind) name).map .sample, m)
  | getMetrics => (.ok (.metrics m.snapshot), m)

/-- The deed done to a map. Closed, it only takes a shutdown or a reopening. -/
def Deed.on (books : Books) : Deed → Outcome Returned × Books
  | shutdown => (.ok .nothing, { books with isOpen := false })
  | reopen => (.ok .nothing, { books with isOpen := true })
  | ping => if books.isOpen then (.ok .nothing, books) else (.error (.unavailable .closed), books)
  | call c =>
    if books.isOpen then
      let (answer, m) := c.onLedger books.ledger
      (answer, { books with ledger := m })
    else (.error (.unavailable .closed), books)

/-- The deeds done to a map one after another: each with its answer and the map that it left. -/
def Books.deeds (books : Books) : List Deed → List (Outcome Returned × Books)
  | [] => []
  | d :: rest =>
    let (answer, books) := d.on books
    (answer, books) :: books.deeds rest

theorem entering_error {change : Outcome Ledger} {m : Ledger} {e : Failure}
    (failed : (entering change m).1 = .error e) : (entering change m).2 = m := by
  cases change with
  | ok m' => cases failed
  | error e => rfl

theorem Call.onLedger_error {c : Call} {m : Ledger} {e : Failure}
    (failed : (c.onLedger m).1 = .error e) : (c.onLedger m).2 = m := by
  cases c with
  | put name x => exact entering_error failed
  | putMetrics batch => exact entering_error failed
  | restore s => exact entering_error failed
  | get name => rfl
  | getTyped kind name => rfl
  | getMetrics => rfl

theorem Deed.on_error {d : Deed} {books : Books} {e : Failure} (failed : (d.on books).1 = .error e) :
    (d.on books).2 = books := by
  cases d with
  | shutdown => cases failed
  | reopen => cases failed
  | ping =>
    rw [Deed.on] at failed ⊢
    split at failed
    · cases failed
    · rename_i closed
      rw [if_neg closed]
  | call c =>
    rw [Deed.on] at failed ⊢
    split at failed
    · rename_i isOpen
      rw [if_pos isOpen]
      exact congrArg (Books.mk books.isOpen) (Call.onLedger_error failed)
    · rename_i closed
      rw [if_neg closed]

/-- What is read from a map fails only where nothing stands under the name. -/
theorem Call.onLedger_missing {c : Call} {m : Ledger} {e : Failure} (reads : c.writes = [])
    (failed : (c.onLedger m).1 = .error e) : ∃ kind name, e = .notFound kind name := by
  have missing {kind : Option Kind} {name : String}
      (failed : (m.find kind name).map Returned.sample = .error e) : e = .notFound kind name := by
    rw [Ledger.find] at failed
    cases found : m.found? kind name with
    | none =>
      rw [found] at failed
      exact (Except.error.inj failed).symm
    | some x =>
      rw [found] at failed
      cases failed
  cases c with
  | put name x => cases reads
  | putMetrics batch =>
    rw [Call.onLedger, show batch.samples = [] from reads] at failed
    cases failed
  | restore s =>
    rw [Call.onLedger, show s.samples = [] from reads] at failed
    cases failed
  | get name => exact ⟨none, name, missing failed⟩
  | getTyped kind name => exact ⟨some kind, name, missing failed⟩
  | getMetrics => cases failed

/-! ## Databases that represent a map -/

/-- The path leads to a database of the last version, the rows of which represent the map. -/
structure Filed (path : String) (l : Location) (disk : Disk) (m : Ledger) : Prop where
  leads : disk.resolve path = .ok ⟨l, false⟩
  table : ∃ d rows, disk.node? l = some (.database d) ∧ Table.lastVersion ≤ d.version ∧
    d.metrics = some rows ∧ Represents rows m

variable {path dsn : String} {l : Location} {disk : Disk} {host : Host} {m : Ledger}

theorem Filed.file (filed : Filed path l disk m) : disk.node? l ≠ some .directory := by
  obtain ⟨d, _, stored, -⟩ := filed.table
  simp [stored]

/-- Another database put in the place of the first one, or of nothing. -/
theorem filed_set {d : Table.Database} {rows : List Table.Row}
    (leads : disk.resolve path = .ok ⟨l, false⟩) (file : disk.node? l ≠ some .directory)
    (last : Table.lastVersion ≤ d.version) (table : d.metrics = some rows)
    (represents : Represents rows m) : Filed path l (disk.set l (.database d)) m where
  leads := Disk.resolve_of_directories (Disk.set_directories file (by simp)) leads
  table := by
    refine ⟨d, rows, ?_, last, table, represents⟩
    rw [Disk.node?_set _ _ _ _ (Disk.not_root file), if_pos rfl]

theorem Filed.reopened (filed : Filed (Connection.sourcePath dsn) l host.disk m)
    (isPath : Connection.IsPath dsn) : ∃ host', Connection.openSource dsn host =
      (.ok (.onDisk l), host') ∧ Filed (Connection.sourcePath dsn) l host'.disk m := by
  obtain ⟨d, rows, stored, last, table, represents⟩ := filed.table
  obtain ⟨same, sound⟩ := Table.migrate_of_last last
  obtain ⟨host', opened, disk⟩ := Connection.openSource_ok isPath filed.leads filed.file
    (by rw [stored]; rfl) sound
  refine ⟨host', opened, ?_⟩
  rw [disk, same]
  exact filed_set filed.leads filed.file last table represents

section Operations

variable {operation : Operation}

theorem Filed.reads {α : Type} {onMemory : Store → Outcome (α × Store)}
    {onFile : SnapshotFile → Action Host α} {onSession : Action Session α}
    {look : Table.Database → Outcome α} {x : Outcome α} (filed : Filed path l host.disk m)
    (reads : Session.Reads onSession look)
    (same : ∀ d rows, d.metrics = some rows → Represents rows m → look d = x) :
    perform operation onMemory onFile onSession ⟨.database (some (.onDisk l)), host⟩ =
      (x, ⟨.database (some (.onDisk l)), host⟩) := by
  obtain ⟨d, rows, stored, -, table, represents⟩ := filed.table
  have here : (Connection.onDisk l).database host.disk = d := by rw [Connection.database, stored]
  simp only [perform, reads (.onDisk l) host]
  rw [here, same d rows table represents]

theorem Filed.writes {onMemory : Store → Outcome (Unit × Store)}
    {onFile : SnapshotFile → Action Host Unit} {onSession : Action Session Unit} {context : String}
    {f : Table.Database → Table.Answer Table.Database} {change : Outcome Ledger}
    (filed : Filed path l host.disk m)
    (writes : Session.Writes onSession fun d => (f d).mapError (·.failure context))
    (saves : Session.Saves onSession fun d => (f d).mapError (·.failure context))
    (carries : ∀ d rows, d.metrics = some rows → Represents rows m → Carries d (f d) change) :
    let after := (do perform operation onMemory onFile onSession; pure Returned.nothing)
      ⟨.database (some (.onDisk l)), host⟩
    after.1 = (entering change m).1 ∧ after.2.backend = .database (some (.onDisk l)) ∧
      Filed path l after.2.host.disk (entering change m).2 := by
  obtain ⟨d, rows, stored, last, table, represents⟩ := filed.table
  have here : (Connection.onDisk l).database host.disk = d := by rw [Connection.database, stored]
  have carried := carries d rows table represents
  rw [map_run]
  simp only [perform, entering]
  cases change with
  | error e =>
    have refused : (f ((Connection.onDisk l).database host.disk)).mapError (·.failure context) =
        .error e := by
      rw [here, show f d = .error (.rejected e) from carried]
      rfl
    rw [writes.refused refused]
    exact ⟨rfl, rfl, filed⟩
  | ok m' =>
    obtain ⟨rows', changed, represents'⟩ := carried
    have done : (f ((Connection.onDisk l).database host.disk)).mapError (·.failure context) =
        .ok { d with metrics := some rows' } := by
      rw [here, changed]
      rfl
    obtain ⟨host', saved, disk⟩ := saves _ _ _ done
    rw [saved]
    refine ⟨rfl, rfl, ?_⟩
    simp only [disk]
    exact filed_set filed.leads filed.file last rfl represents'

end Operations

theorem Filed.finds (filed : Filed path l host.disk m) {operation : Operation}
    {onMemory : Store → Outcome (Sample × Store)} {onFile : SnapshotFile → Action Host Sample}
    (kind : Option Kind) (name : String) :
    perform operation onMemory onFile (Session.find kind name)
      ⟨.database (some (.onDisk l)), host⟩ =
        (m.find kind name, ⟨.database (some (.onDisk l)), host⟩) := by
  refine filed.reads (Session.find_reads kind name) fun d rows table represents => ?_
  rw [Table.Database.lookup, Table.Database.get, Table.Database.rows, table, Except.ok_bind,
    represents.find_eq, Except.mapError_ok, Except.ok_bind]
  unfold Ledger.find
  cases m.found? kind name <;> rfl

theorem Filed.call (filed : Filed path l host.disk m) (c : Call) :
    let after := c.run ⟨.database (some (.onDisk l)), host⟩
    after.1 = (c.onLedger m).1 ∧ after.2.backend = .database (some (.onDisk l)) ∧
      Filed path l after.2.host.disk (c.onLedger m).2 := by
  cases c with
  | put name x =>
    exact filed.writes (Session.put_writes name x) Session.transact_saves
      fun d rows table represents => Table.put_carries table represents name x
  | putMetrics batch =>
    exact filed.writes (Session.putMetrics_writes batch) (Session.transact_log_saves _)
      fun d rows table represents => Table.putSamples_carries table represents
  | restore s =>
    exact filed.writes (Session.restore_writes s) (Session.transact_log_saves _)
      fun d rows table _ => Table.replaceAll_carries table s
  | get name =>
    simp only [Call.run, map_run, Backend.get, filed.finds]
    exact ⟨rfl, trivial, filed⟩
  | getTyped kind name =>
    simp only [Call.run, map_run, Backend.getTyped, filed.finds]
    exact ⟨rfl, trivial, filed⟩
  | getMetrics =>
    have listed (d : Table.Database) (rows : List Table.Row) (table : d.metrics = some rows)
        (represents : Represents rows m) :
        d.list.mapError (·.failure "metric listing failed") = .ok m.snapshot := by
      rw [Table.Database.list, Table.Database.rows, table, Except.ok_bind, represents.list_eq,
        Except.mapError_ok]
    have reads : Session.Reads Session.getMetrics _ :=
      Session.query_reads "metric listing failed" fun d => d.list
    simp only [Call.run, map_run, Backend.getMetrics, filed.reads reads listed]
    exact ⟨rfl, trivial, filed⟩

/-! ## Connections -/

/-- The database of a source represents the map, and is connected to while that is open. -/
def Keeps (dsn : String) (site : Site) (books : Books) : Prop :=
  ∃ l, Filed (Connection.sourcePath dsn) l site.host.disk books.ledger ∧
    site.backend = .database (if books.isOpen then some (.onDisk l) else none)

/-- A connection that was shut down refuses every call. -/
theorem closed_call (c : Call) (host : Host) : c.run ⟨.database none, host⟩ =
    (.error (.unavailable .closed), ⟨.database none, host⟩) := by
  cases c <;> rfl

theorem keeps_step {site : Site} {books : Books} (isPath : Connection.IsPath dsn)
    (keeps : Keeps dsn site books) (d : Deed) :
    (d.run dsn site).1 = (d.on books).1 ∧ Keeps dsn (d.run dsn site).2 (d.on books).2 := by
  obtain ⟨l, filed, backend⟩ := keeps
  obtain ⟨_, host⟩ := site
  obtain ⟨isOpen, m⟩ := books
  cases backend
  cases d with
  | reopen =>
    obtain ⟨host', opened, filed'⟩ := filed.reopened isPath
    simp only [Deed.run, Backend.reopen, opened]
    exact ⟨rfl, l, filed', rfl⟩
  | shutdown => cases isOpen <;> exact ⟨rfl, l, filed, rfl⟩
  | ping => cases isOpen <;> exact ⟨rfl, l, filed, rfl⟩
  | call c =>
    cases isOpen with
    | false =>
      simp only [Deed.run, Deed.on, Bool.false_eq_true, if_false, closed_call]
      exact ⟨trivial, l, filed, rfl⟩
    | true =>
      obtain ⟨answer, still, filed'⟩ := filed.call c
      exact ⟨answer, l, filed', still⟩

theorem keeps_deeds (isPath : Connection.IsPath dsn) : ∀ {ds : List Deed} {site : Site} {books : Books},
    Keeps dsn site books → List.Forall₂ (fun expected seen => seen.1 = expected.1 ∧
      Keeps dsn seen.2 expected.2) (books.deeds ds) (deeds dsn site ds)
  | [], _, _, _ => .nil
  | d :: _, _, _, keeps =>
    have step := keeps_step isPath keeps d
    .cons step (keeps_deeds isPath step.2)

/-- A path without a database yet is opened as one that represents the empty map. -/
theorem keeps_opened (isPath : Connection.IsPath dsn)
    (leads : host.disk.resolve (Connection.sourcePath dsn) = .ok ⟨l, false⟩)
    (fresh : host.disk.node? l = none ∨ host.disk.node? l = some (.file [])) :
    ∃ host', Connection.openSource dsn host = (.ok (.onDisk l), host') ∧
      Keeps dsn ⟨.database (some (.onDisk l)), host'⟩ ⟨true, .empty⟩ := by
  have file : host.disk.node? l ≠ some .directory := by
    rcases fresh with node | node <;> simp [node]
  have none : Connection.databaseOf? (host.disk.node? l) = some .empty := by
    rcases fresh with node | node <;> rw [node] <;> rfl
  obtain ⟨host', opened, disk⟩ := Connection.openSource_ok isPath leads file none (by decide)
  refine ⟨host', opened, l, ?_, rfl⟩
  simp only [disk]
  exact filed_set leads file (by decide) (by decide) Table.represents_empty

/-- Whatever is done to a database, and however often its path is opened again, it represents one map
and answers as that map. What fails leaves the map, and a reading only fails for want of a value. -/
theorem ledger_trace (isPath : Connection.IsPath dsn)
    (leads : host.disk.resolve (Connection.sourcePath dsn) = .ok ⟨l, false⟩)
    (fresh : host.disk.node? l = none ∨ host.disk.node? l = some (.file [])) :
    ∃ c host', Connection.openSource dsn host = (.ok c, host') ∧
      (∀ ds, List.Forall₂ (fun expected seen => seen.1 = expected.1 ∧ Keeps dsn seen.2 expected.2)
        (Books.deeds ⟨true, .empty⟩ ds) (deeds dsn ⟨.database (some c), host'⟩ ds)) ∧
      (∀ (d : Deed) (books : Books) (e : Failure),
        (d.on books).1 = .error e → (d.on books).2 = books) ∧
      (∀ (c : Call) (m : Ledger) (e : Failure), c.writes = [] →
        (c.onLedger m).1 = .error e → ∃ kind name, e = .notFound kind name) ∧
      (∀ (d : Deed) (host : Host), d ≠ .shutdown → d ≠ .reopen →
        d.run dsn ⟨.database none, host⟩ =
          (.error (.unavailable .closed), ⟨.database none, host⟩)) := by
  obtain ⟨host', opened, keeps⟩ := keeps_opened isPath leads fresh
  refine ⟨_, host', opened, fun ds => keeps_deeds isPath keeps, fun _ _ _ => Deed.on_error,
    fun _ _ _ => Call.onLedger_missing, fun d host ended again => ?_⟩
  cases d with
  | call c => exact closed_call c host
  | ping => rfl
  | shutdown => exact absurd rfl ended
  | reopen => exact absurd rfl again

/-- A counter takes over the name of a gauge and counts from nothing; a delta that is refused and an
end of the connection leave its total, which is found when the path is opened again. -/
theorem ledger_trace_reopened :
    let host : Host := ⟨⟨.empty, "/home"⟩, []⟩
    let ds : List Deed := [.call (.put "m" (.gauge (.finite true .zero))),
      .call (.put "m" (.counter 2)), .call (.put "m" (.counter Int64.maxValue)), .shutdown,
      .call (.get "m"), .reopen, .call (.get "m")]
    ∃ c host', Connection.openSource "sqlite:///metrics.db" host = (.ok c, host') ∧
      (deeds "sqlite:///metrics.db" ⟨.database (some c), host'⟩ ds).map (·.1) =
        [.ok .nothing, .ok .nothing, .error (.rejected (.overflow "m" 2 Int64.maxValue)),
          .ok .nothing, .error (.unavailable .closed), .ok .nothing, .ok (.sample (.counter 2))] := by
  intro host ds
  have leads : host.disk.resolve (Connection.sourcePath "sqlite:///metrics.db") =
      .ok ⟨"/metrics.db", false⟩ := by decide
  obtain ⟨c, host', opened, trace, -⟩ :=
    ledger_trace (show Connection.sourcePath "sqlite:///metrics.db" ≠ _ by decide) leads (.inl rfl)
  have answers : List.Forall₂ (· = ·) ((Books.deeds ⟨true, .empty⟩ ds).map (·.1))
      ((deeds "sqlite:///metrics.db" ⟨.database (some c), host'⟩ ds).map (·.1)) :=
    List.forall₂_map_left_iff.2 (List.forall₂_map_right_iff.2
      ((trace ds).imp fun _ _ step => step.1.symm))
  rw [List.forall₂_eq_eq_eq] at answers
  refine ⟨c, host', opened, ?_⟩
  rw [← answers]
  decide

end Backend

end Telemetry
