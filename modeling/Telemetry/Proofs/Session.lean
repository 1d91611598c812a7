/-
What a session does to the database that its connection leads to.

An open session looks at the database (`Reads`), or changes it and fails or else leads to
the changed one (`Writes`), wherever the database lies. So of every operation in a session
it is enough to know what it does to a database.
-/
import Telemetry.Proofs.Contents

namespace Telemetry

/-- What is found under a name, in any kind or in one. -/
def Table.Database.lookup (d : Database) (kind : Option Kind) (name : String) : Outcome Sample := do
  match ← (d.get kind name).mapError (·.failure "metric query failed") with
  | some x => .ok x
  | none => .error (.notFound kind name)

namespace Session

variable {α : Type}

/-- An open session looks at its database. -/
def Reads (a : Action Session α) (look : Table.Database → Outcome α) : Prop :=
  ∀ (c : Connection) (h : Host), a ⟨some c, h⟩ = (look (c.database h.disk), ⟨some c, h⟩)

/-- An open session changes its database, or fails and changes nothing. -/
structure Writes (a : Action Session Unit) (change : Table.Database → Outcome Table.Database) :
    Prop where
  refused : ∀ {c : Connection} {h : Host} {e : Failure}, change (c.database h.disk) = .error e →
    a ⟨some c, h⟩ = (.error e, ⟨some c, h⟩)
  done : ∀ {c : Connection} {h : Host} {d : Table.Database}, change (c.database h.disk) = .ok d →
    ∃ c' h', a ⟨some c, h⟩ = (.ok (), ⟨some c', h'⟩) ∧ c'.database h'.disk = d

/-- An open session puts the changed database back to where it lies on the disk. -/
def Saves (a : Action Session Unit) (change : Table.Database → Outcome Table.Database) : Prop :=
  ∀ (l : Location) (h : Host) (d : Table.Database),
    change ((Connection.onDisk l).database h.disk) = .ok d →
      ∃ h', a ⟨some (.onDisk l), h⟩ = (.ok (), ⟨some (.onDisk l), h'⟩) ∧
        h'.disk = h.disk.set l (.database d)

theorem query_reads (context : String) (f : Table.Database → Table.Answer α) :
    Reads (query context f) fun d => (f d).mapError (·.failure context) := by
  intro c h
  cases result : f (c.database h.disk) <;> simp [query, result]

theorem find_reads (kind : Option Kind) (name : String) :
    Reads (find kind name) fun d => d.lookup kind name := by
  intro c h
  have look := query_reads "metric query failed" (fun d => d.get kind name) c h
  unfold find
  cases result : (c.database h.disk).get kind name with
  | error refusal =>
    simp only [result] at look
    rw [Action.bind_of_error look]
    simp [Table.Database.lookup, result]
  | ok found =>
    simp only [result] at look
    rw [Action.bind_of_ok look]
    cases found <;> simp [Table.Database.lookup, result, Action.run_fail, Action.run_pure]

/-- What is stored is what the connection then leads to. No database can be at the root, and
what leads there is without a table before and after. -/
theorem database_store {s : Session} {c : Connection} {d : Table.Database}
    (tableless : c.database s.host.disk = .empty → d = .empty) (opened : s.connection = some c) :
    ∃ c' h', s.store c d = ⟨some c', h'⟩ ∧ c'.database h'.disk = d := by
  cases c with
  | inMemory content => exact ⟨.inMemory d, s.host, rfl, rfl⟩
  | onDisk location =>
    refine ⟨.onDisk location, (s.store (.onDisk location) d).host, ?_, ?_⟩
    · rw [← opened]
      rfl
    · by_cases root : location = Location.root
      · have empty : d = .empty := tableless (by simp [Connection.database, Disk.node?, root])
        simp [Connection.database, Disk.node?, root, empty]
      · simp [Connection.database, Disk.node?, root, store, Disk.set]

theorem transact_writes {context : String} {f : Table.Database → Table.Answer Table.Database}
    (tableless : ∀ d, f .empty = .ok d → d = .empty) :
    Writes (transact context f) fun d => (f d).mapError (·.failure context) where
  refused {c h e} failed := by
    obtain ⟨refusal, result, rfl⟩ := Except.mapError_eq_error.1 failed
    simp [transact, result]
  done {c h d} succeeded := by
    have result := Except.mapError_eq_ok.1 succeeded
    simp only [transact, result]
    obtain ⟨c', h', stored, leads⟩ := database_store (s := ⟨some c, h⟩) (c := c) (d := d)
      (fun e => tableless d (by rw [← e]; exact result)) rfl
    exact ⟨c', h', by rw [stored], leads⟩

theorem transact_saves {context : String} {f : Table.Database → Table.Answer Table.Database} :
    Saves (transact context f) fun d => (f d).mapError (·.failure context) := by
  intro l h d succeeded
  have result := Except.mapError_eq_ok.1 succeeded
  simp only [transact, result]
  exact ⟨_, rfl, rfl⟩

theorem put_writes (name : String) (sample : Sample) :
    Writes (put name sample) fun d =>
      (d.put name sample).mapError (·.failure "metric write failed") := by
  refine transact_writes fun d h => Table.putSamples_empty (l := [(name, sample)]) ?_
  rw [Table.Database.putSamples, h]
  rfl

/-- A change in one transaction, and an event that is entered when it succeeded. -/
theorem transact_log_writes {context : String} {f : Table.Database → Table.Answer Table.Database}
    (tableless : ∀ d, f .empty = .ok d → d = .empty) (e : Event) :
    Writes (do transact context f; log e) fun d => (f d).mapError (·.failure context) where
  refused failed := Action.bind_of_error ((transact_writes tableless).refused failed)
  done succeeded := by
    obtain ⟨c', h', stored, leads⟩ := (transact_writes tableless).done succeeded
    exact ⟨c', h'.enter e, Action.bind_of_ok stored, leads⟩

theorem transact_log_saves {context : String} {f : Table.Database → Table.Answer Table.Database}
    (e : Event) : Saves (do transact context f; log e) fun d => (f d).mapError (·.failure context) := by
  intro l h d succeeded
  obtain ⟨h', stored, leads⟩ := transact_saves l h d succeeded
  exact ⟨h'.enter e, Action.bind_of_ok stored, leads⟩

theorem putMetrics_writes (batch : Snapshot) :
    Writes (putMetrics batch) fun d =>
      (d.putAll batch).mapError (·.failure "batch write failed") :=
  transact_log_writes (fun _ => Table.putSamples_empty) _

theorem restore_writes (s : Snapshot) :
    Writes (restore s) fun d => (d.replaceAll s).mapError (·.failure "restore failed") := by
  refine transact_log_writes (fun d h => ?_) _
  simp only [Table.Database.replaceAll, Except.bind_eq_ok] at h
  obtain ⟨mid, cleared, -⟩ := h
  obtain ⟨rows, _, table, -⟩ := Table.onRows_eq_ok.1 cleared
  cases table

end Session

end Telemetry
