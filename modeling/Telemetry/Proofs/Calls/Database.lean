/-
Calls to a database, compared with calls to a store in memory.

The store keeps gauges and counters apart and checks a batch before it writes; the database
has one row a name and writes a batch row by row, in one transaction. As long as no name is
written in both kinds, the two cannot be told apart, failures included, but for the sign of
a gauge that is zero (`database_trace`).
-/
import Telemetry.Proofs.Calls
import Telemetry.Proofs.Calls.Rows
import Telemetry.Proofs.Session

namespace Telemetry

namespace Table

variable {kindOf : String → Kind} {d : Database} {s : Snapshot}

theorem lookup_eq (holds : Holds kindOf d s) (kind : Option Kind) (name : String) :
    d.lookup kind name = (s.find kind name).map .plain := by
  obtain ⟨rows, table, m⟩ := holds
  have one : s.found? name kind = s.get? (kind.getD (kindOf name)) name := by
    rw [Snapshot.found?.eq_def]
    cases kind with
    | some kind => rfl
    | none =>
      cases gauge : s.get? .gauge name with
      | some x => rw [Option.getD_none, ← m.kind_of_held gauge, gauge, Option.some_or]
      | none =>
        cases counter : s.get? .counter name with
        | some x => rw [Option.getD_none, ← m.kind_of_held counter, counter, Option.none_or]
        | none => cases kindOf name <;> simp [gauge, counter]
  rw [Database.lookup, Database.get, Database.rows, table, Except.ok_bind, m.find_eq,
    Except.mapError_ok, Except.ok_bind, Snapshot.find, one]
  cases s.get? (kind.getD (kindOf name)) name <;> rfl

end Table

namespace Backend

open Table (Holds Follows OneKind oneKind_iff)

/-- What a table makes of what a call gives. -/
def Returned.plain : Returned → Returned
  | .nothing => .nothing
  | .sample x => .sample x.plain
  | .metrics s => .metrics s.plain

/-- What is seen of a call, with the sign of zeros forgotten. -/
def Step.plain (step : Step) : Step :=
  ⟨step.call, step.answer.map .plain, step.held.map .plain⟩

/-- The site is a connection to a database that holds the snapshot. -/
def DatabaseOf (kindOf : String → Kind) (site : Site) (s : Snapshot) : Prop :=
  ∃ c, site.backend = .database (some c) ∧ Holds kindOf (c.database site.host.disk) s

variable {kindOf : String → Kind} {site : Site} {s : Snapshot}

theorem held?_of_database (stands : DatabaseOf kindOf site s) : site.held? = some s.plain := by
  obtain ⟨c, backend, holds⟩ := stands
  simp only [Site.held?, backend, Table.list_follows holds]
  rfl

theorem database_reads {α : Type} {operation : Operation} {onMemory : Store → Outcome (α × Store)}
    {onFile : SnapshotFile → Action Host α} {onSession : Action Session α}
    {look : Table.Database → Outcome α} (reads : Session.Reads onSession look) {x : Outcome α}
    (same : ∀ d, Holds kindOf d s → look d = x) (stands : DatabaseOf kindOf site s) :
    perform operation onMemory onFile onSession site = (x, site) := by
  obtain ⟨backend, host⟩ := site
  obtain ⟨c, rfl, holds⟩ := stands
  simp only [perform, reads c host]
  rw [same _ holds]

theorem database_writes {operation : Operation} {onMemory : Store → Outcome (Unit × Store)}
    {onFile : SnapshotFile → Action Host Unit} {onSession : Action Session Unit} {context : String}
    {f : Table.Database → Table.Answer Table.Database}
    (writes : Session.Writes onSession fun d => (f d).mapError (·.failure context))
    (change : Snapshot → Outcome Snapshot)
    (same : ∀ d, Holds kindOf d s → Follows kindOf (f d) (change s))
    (stands : DatabaseOf kindOf site s) :
    let after := (do perform operation onMemory onFile onSession; pure Returned.nothing) site
    after.1 = (Call.changing change s).1 ∧ DatabaseOf kindOf after.2 (Call.changing change s).2 := by
  obtain ⟨backend, host⟩ := site
  obtain ⟨c, rfl, holds⟩ := stands
  have follows := same _ holds
  rw [map_run]
  simp only [perform, Call.changing]
  cases result : change s with
  | error e =>
    rw [result] at follows
    have refused : (f (c.database host.disk)).mapError (·.failure context) = .error e := by
      rw [show f (c.database host.disk) = .error (.rejected e) from follows]
      rfl
    rw [writes.refused refused]
    exact ⟨rfl, c, rfl, holds⟩
  | ok t =>
    rw [result] at follows
    obtain ⟨d, changed, held⟩ := follows
    have done : (f (c.database host.disk)).mapError (·.failure context) = .ok d := by
      rw [changed]
      rfl
    obtain ⟨c', h', written, leads⟩ := writes.done done
    rw [written]
    exact ⟨rfl, c', rfl, by rw [leads]; exact held⟩

/-! ## Calls -/

/-- The values that the calls wrote which did not fail. -/
def written (steps : List Step) : List (String × Sample) :=
  steps.flatMap fun step =>
    match step.answer with
    | .ok _ => step.call.writes
    | .error _ => []

/-- A call in which no name has two kinds and which, if it succeeds, writes each name in its
kind. Only finite gauges are restored. -/
structure Step.Suits (kindOf : String → Kind) (step : Step) : Prop where
  finite : ∀ t, step.call = .restore t → t.checkFinite = .ok ()
  one : OneKind step.call.writes
  kinds : ∀ x, step.answer = .ok x → ∀ w ∈ step.call.writes, w.2.kind = kindOf w.1

theorem Call.changing_ok {f : Snapshot → Outcome Snapshot} {t : Snapshot} (h : f s = .ok t) :
    (changing f s).1 = .ok .nothing := by
  rw [changing, h]

/-- What is only done or refused has no value in it that a table could change. -/
theorem Call.changing_plain (f : Snapshot → Outcome Snapshot) (s : Snapshot) :
    (changing f s).1.map .plain = (changing f s).1 := by
  rw [changing]
  cases f s <;> rfl

/-- A call to a database is the call on the snapshot that it holds. -/
theorem database_step {c : Call} (suits : Step.Suits kindOf ⟨c, (c.on s).1, some (c.on s).2⟩)
    (stands : DatabaseOf kindOf site s) :
    (c.run site).1 = (c.on s).1.map .plain ∧ DatabaseOf kindOf (c.run site).2 (c.on s).2 := by
  obtain ⟨finite, one, kinds⟩ := suits
  cases c with
  | put name x =>
    have follows (d : Table.Database) (holds : Holds kindOf d s) :
        Follows kindOf (d.put name x) (s.mergeSample name x) :=
      Table.put_follows holds fun t merged =>
        kinds _ (Call.changing_ok merged) (name, x) (List.mem_singleton_self _)
    rw [Call.on, Call.changing_plain]
    exact database_writes (Session.put_writes name x) (fun s => s.mergeSample name x) follows stands
  | putMetrics batch =>
    have follows (d : Table.Database) (holds : Holds kindOf d s) :
        Follows kindOf (d.putAll batch) (s.merge batch) :=
      Table.putSamples_follows holds one fun t merged => kinds _ (Call.changing_ok merged)
    rw [Call.on, Call.changing_plain]
    exact database_writes (Session.putMetrics_writes batch) (fun s => s.merge batch) follows stands
  | restore t =>
    have follows (d : Table.Database) (holds : Holds kindOf d s) :
        Follows kindOf (d.replaceAll t) (.ok t) :=
      Table.replaceAll_follows holds (finite t rfl) (kinds .nothing rfl)
    rw [Call.on, Call.changing_plain]
    exact database_writes (Session.restore_writes t) (fun _ => .ok t) follows stands
  | get name =>
    rw [Call.run, map_run, Backend.get, database_reads (Session.find_reads none name)
      (fun d holds => Table.lookup_eq holds none name) stands]
    refine ⟨?_, stands⟩
    simp only [Call.on]
    cases s.find none name <;> rfl
  | getTyped kind name =>
    rw [Call.run, map_run, Backend.getTyped, database_reads (Session.find_reads (some kind) name)
      (fun d holds => Table.lookup_eq holds (some kind) name) stands]
    refine ⟨?_, stands⟩
    simp only [Call.on]
    cases s.find (some kind) name <;> rfl
  | getMetrics =>
    have reads : Session.Reads Session.getMetrics _ :=
      Session.query_reads "metric listing failed" fun d => d.list
    have listed (d : Table.Database) (holds : Holds kindOf d s) :
        d.list.mapError (·.failure "metric listing failed") = .ok s.plain := by
      rw [Table.list_follows holds, Except.mapError_ok]
    rw [Call.run, map_run, Backend.getMetrics, database_reads reads listed stands]
    exact ⟨rfl, stands⟩

/-- **A database does what a store in memory does, if no name is written in both kinds.** Both
start empty, and only finite gauges are restored. No batch, refused or not, may have a name
in both kinds, nor may all the values together that are written. Then every call has the same
answer and leaves the same metrics, with a gauge that is minus zero given back as zero. -/
theorem database_trace {calls : List Call} {h h' : Host} {c : Connection}
    (fresh : (c.database h'.disk).metrics = some [])
    (finite : ∀ t, .restore t ∈ calls → t.checkFinite = .ok ())
    (each : ∀ c ∈ calls, OneKind c.writes)
    (all : OneKind (written (trace ⟨.memory .empty, h⟩ calls))) :
    trace ⟨.database (some c), h'⟩ calls = (trace ⟨.memory .empty, h⟩ calls).map .plain := by
  rw [memory_trace] at all ⊢
  obtain ⟨kindOf, kinds⟩ := oneKind_iff.1 all
  have suits : ∀ step ∈ expected .empty calls, step.Suits kindOf := by
    intro step mem
    have made : step.call ∈ calls := by
      rw [← expected_calls calls .empty]
      exact List.mem_map_of_mem mem
    refine ⟨fun t restores => finite t (restores ▸ made), each step.call made, ?_⟩
    intro x done w write
    refine kinds w (List.mem_flatMap.2 ⟨step, mem, ?_⟩)
    rw [done]
    exact write
  have stands : DatabaseOf kindOf ⟨.database (some c), h'⟩ .empty :=
    ⟨c, rfl, [], fresh, Table.mirrors_empty kindOf⟩
  have step (c : Call) (site : Site) (s : Snapshot)
      (suits : Step.Suits kindOf ⟨c, (c.on s).1, some (c.on s).2⟩)
      (stands : DatabaseOf kindOf site s) : DatabaseOf kindOf (c.run site).2 (c.on s).2 ∧
        Step.plain ⟨c, (c.on s).1, some (c.on s).2⟩ =
          ⟨c, (c.run site).1, (c.run site).2.held?⟩ := by
    obtain ⟨answer, next⟩ := database_step suits stands
    exact ⟨next, by rw [held?_of_database next, answer]; rfl⟩
  have agrees := List.forall₂_map_left_iff.2 (trace_agrees (Step.Suits kindOf) step suits stands)
  rw [List.forall₂_eq_eq_eq] at agrees
  exact agrees.symm

/-- Minus zero is read back as zero, and what is refused is refused by both. -/
theorem database_trace_minus_zero :
    let calls : List Call := [.put "load" (.gauge (.finite true .zero)), .put "hits" (.counter 2),
      .put "hits" (.gauge .nan), .get "load", .getMetrics]
    let host : Host := ⟨⟨.empty, "/home"⟩, []⟩
    trace ⟨.database (some (.inMemory Table.Database.empty.migrate.database)), host⟩ calls =
      (trace ⟨.memory .empty, host⟩ calls).map .plain := by
  intro calls host
  refine database_trace rfl (fun t mem => ?_) (by decide) (by decide)
  simp [calls] at mem

end Backend

end Telemetry
