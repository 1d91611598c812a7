/-
What is held under a name in a kind, and what the writes that were accepted tell of it.

A database that was made and written by nobody else (`Table.Own`) has a table whose rows represent a
map (`Contents.Sound`). A write to such contents fails by the fault of what is written, a lookup only
where nothing is held (`Contents.getTyped_of_sound`), and what is held after some writes is told by
the values they carried: in a store a name may be a gauge and a counter, in a database it has the
kind in which it was written last (`Contents.Wrote.has_iff`).
-/
import Telemetry.Proofs.Blame
import Telemetry.Proofs.Migration

namespace Telemetry

theorem mem_gaugeWrites {name : String} {x : Binary64} {l : List (String × Sample)} :
    x ∈ gaugeWrites name l ↔ (name, .gauge x) ∈ l := by
  simp only [gaugeWrites, List.mem_filterMap, Prod.exists]
  constructor
  · rintro ⟨n, sample, mem, eq⟩
    cases sample with
    | gauge y =>
      obtain ⟨rfl, rfl⟩ : n = name ∧ y = x := by simpa using eq
      exact mem
    | counter d => cases eq
  · exact fun mem => ⟨name, .gauge x, mem, if_pos rfl⟩

theorem mem_counterWrites {name : String} {d : Int64} {l : List (String × Sample)} :
    d ∈ counterWrites name l ↔ (name, .counter d) ∈ l := by
  simp only [counterWrites, List.mem_filterMap, Prod.exists]
  constructor
  · rintro ⟨n, sample, mem, eq⟩
    cases sample with
    | gauge y => cases eq
    | counter e =>
      obtain ⟨rfl, rfl⟩ : n = name ∧ e = d := by simpa using eq
      exact mem
  · exact fun mem => ⟨name, .counter d, mem, if_pos rfl⟩

theorem Written.isSome_get? {s t : Snapshot} {l : List (String × Sample)} (written : Written s l t)
    (kind : Kind) (name : String) :
    (t.get? kind name).isSome ↔ (s.get? kind name).isSome ∨ ∃ x, (name, x) ∈ l ∧ x.kind = kind := by
  cases kind with
  | gauge =>
    have wrote : (∃ x, (name, x) ∈ l ∧ x.kind = .gauge) ↔ ∃ y, y ∈ gaugeWrites name l := by
      simp only [mem_gaugeWrites]
      constructor
      · rintro ⟨x, mem, kind⟩
        cases x with
        | gauge y => exact ⟨y, mem⟩
        | counter d => cases kind
      · rintro ⟨y, mem⟩
        exact ⟨.gauge y, mem, rfl⟩
    simp only [wrote, Snapshot.get?, Option.isSome_map, written.gauges, Option.isSome_or]
    cases gaugeWrites name l with
    | nil => simp
    | cons y rest => simp [List.getLast?_cons]
  | counter =>
    have wrote : (∃ x, (name, x) ∈ l ∧ x.kind = .counter) ↔ ∃ d, d ∈ counterWrites name l := by
      simp only [mem_counterWrites]
      constructor
      · rintro ⟨x, mem, kind⟩
        cases x with
        | gauge y => cases kind
        | counter d => exact ⟨d, mem⟩
      · rintro ⟨d, mem⟩
        exact ⟨.counter d, mem, rfl⟩
    simp only [wrote, Snapshot.get?, Option.isSome_map]
    by_cases untouched : counterWrites name l = []
    · simp [written.untouched name untouched, untouched]
    · obtain ⟨total, get, -⟩ := written.added name untouched
      simp [get, List.exists_mem_of_ne_nil _ untouched]

/-- A name has the kind in which it was written last. -/
theorem Ledger.kind_writeAll {name : String} : ∀ {l : List (String × Sample)} {m m' : Ledger},
    m.writeAll l = .ok m' → (m'.get? name).map Sample.kind =
      ((l.filter fun w => w.1 = name).getLast?.map fun w => w.2.kind).or ((m.get? name).map Sample.kind)
  | [], m, m', done => by
    rw [← Except.ok.inj done]
    rfl
  | (other, x) :: rest, m, m', done => by
    obtain ⟨mid, first, others⟩ := Except.bind_eq_ok.1 done
    obtain ⟨y, value, rfl⟩ := Except.map_eq_ok.1 first
    have kind : y.kind = x.kind := by
      rw [m.value_eq] at value
      obtain ⟨z, result, rfl⟩ := Except.map_eq_ok.1 value
      rw [Sample.kind_plain, Snapshot.kind_of_result result]
    rw [kind_writeAll others, NameMap.get?_insert]
    by_cases same : other = name
    · subst same
      have last : (((other, x) :: rest).filter fun w => w.1 = other).getLast? =
          some ((rest.filter fun w => w.1 = other).getLast?.getD (other, x)) := by
        rw [List.filter_cons_of_pos (by simp), List.getLast?_cons]
      rw [last, if_pos rfl]
      cases (rest.filter fun w => w.1 = other).getLast? with
      | none => simp [kind]
      | some w => simp
    · simp [same, Ne.symm same]

/-! ## Contents that nobody else wrote -/

/-- A database that was made and written by nobody else: made anew, then written, filled again and
brought up to the last schema, as often as it may be. -/
inductive Table.Own : Table.Database → Prop
  | made : Own Database.empty.migrate.database
  | migrated {d : Database} : Own d → Own d.migrate.database
  | put {d d' : Database} {name : String} {x : Sample} : Own d → d.put name x = .ok d' → Own d'
  | putAll {d d' : Database} {s : Snapshot} : Own d → d.putAll s = .ok d' → Own d'
  | replaceAll {d d' : Database} {s : Snapshot} : Own d → d.replaceAll s = .ok d' → Own d'

namespace Table

variable {d d' : Database} {rows : List Row} {m : Ledger}

/-- The table is there, and its rows represent a map. -/
def Sound (d : Database) : Prop :=
  ∃ rows m, d.metrics = some rows ∧ Represents rows m

/-- A change that goes as one of the map leaves rows that represent the changed map. -/
theorem Carries.done {y : Answer Database} {x : Outcome Ledger} (carries : Carries d y x)
    (done : y = .ok d') : ∃ m' rows', x = .ok m' ∧ d'.metrics = some rows' ∧ Represents rows' m' := by
  cases x with
  | error e => exact nomatch done.symm.trans carries
  | ok m' =>
    obtain ⟨rows', eq, represents⟩ := carries
    obtain rfl := Except.ok.inj (done.symm.trans eq)
    exact ⟨m', rows', rfl, rfl, represents⟩

theorem Carries.blames {y : Answer Database} {x : Outcome Ledger} (carries : Carries d y x)
    (blames : BlamesInput x) (context : String) : BlamesInput (y.mapError (·.failure context)) := by
  cases x with
  | error e =>
    rw [show y = .error (.rejected e) from carries]
    exact .error (blames e rfl)
  | ok m' =>
    obtain ⟨rows', eq, -⟩ := carries
    rw [eq]
    exact .ok _

theorem Own.sound (own : Own d) : Sound d := by
  have carried {d d' : Database} {x : Ledger → Outcome Ledger} {y : Answer Database}
      (sound : Sound d) (carries : ∀ rows m, d.metrics = some rows → Represents rows m → Carries d y (x m))
      (done : y = .ok d') : Sound d' := by
    obtain ⟨rows, m, table, represents⟩ := sound
    obtain ⟨m', rows', -, table', represents'⟩ := (carries rows m table represents).done done
    exact ⟨rows', m', table', represents'⟩
  induction own with
  | made => exact ⟨[], .empty, rfl, represents_empty⟩
  | migrated own sound =>
    obtain ⟨rows, m, table, represents⟩ := sound
    exact ⟨rows, m, Database.metrics_migrate table, represents⟩
  | put own put sound =>
    exact carried sound (fun _ _ table represents => put_carries table represents _ _) put
  | putAll own put sound =>
    exact carried sound (fun _ _ table represents => putSamples_carries table represents) put
  | replaceAll own put sound =>
    exact carried (x := fun _ => _) sound (fun _ _ table _ => replaceAll_carries table _) put

end Table

namespace Contents

variable {c c' : Contents} {l : List (String × Sample)} {kind : Kind} {name : String}

/-- Any store in memory, or a database that nobody else wrote. -/
def Own : Contents → Prop
  | .store _ => True
  | .database d => Table.Own d

/-- A database has its table, the rows of which represent a map. -/
def Sound : Contents → Prop
  | .store _ => True
  | .database d => Table.Sound d

theorem Own.sound (own : c.Own) : c.Sound := by
  cases c with
  | store s => trivial
  | database d => exact Table.Own.sound own

/-- A value is held under the name in this kind. -/
def Has (c : Contents) (kind : Kind) (name : String) : Prop :=
  ∃ x, c.getTyped kind name = .ok x

theorem getTyped_store (s : Store) (kind : Kind) (name : String) :
    (Contents.store s).getTyped kind name =
      match s.snapshot.get? kind name with
      | some x => .ok x
      | none => .error (.notFound (some kind) name) := rfl

theorem getTyped_database {d : Table.Database} {rows : List Table.Row} {m : Ledger}
    (table : d.metrics = some rows) (represents : Table.Represents rows m) (kind : Kind) (name : String) :
    (Contents.database d).getTyped kind name =
      match m.found? (some kind) name with
      | some x => .ok x
      | none => .error (.notFound (some kind) name) := by
  have found : d.get (some kind) name = .ok (m.found? (some kind) name) := by
    rw [Table.Database.get, Table.Database.rows, table]
    exact represents.find_eq (some kind) name
  rw [getTyped, found]
  cases m.found? (some kind) name <;> rfl

theorem getTyped_of_sound (sound : c.Sound) (kind : Kind) (name : String) :
    (∃ x, c.getTyped kind name = .ok x) ∨ c.getTyped kind name = .error (.notFound (some kind) name) := by
  cases c with
  | store s =>
    rw [getTyped_store]
    cases s.snapshot.get? kind name with
    | some x => exact .inl ⟨x, rfl⟩
    | none => exact .inr rfl
  | database d =>
    obtain ⟨rows, m, table, represents⟩ := sound
    rw [getTyped_database table represents]
    cases m.found? (some kind) name with
    | some x => exact .inl ⟨x, rfl⟩
    | none => exact .inr rfl

theorem getMetrics_of_sound (sound : c.Sound) : ∃ s, c.getMetrics = .ok s := by
  cases c with
  | store s => exact ⟨s.snapshot, rfl⟩
  | database d =>
    obtain ⟨rows, m, table, represents⟩ := sound
    refine ⟨m.snapshot, ?_⟩
    rw [getMetrics, Table.Database.list, Table.Database.rows, table, Except.ok_bind, represents.list_eq]
    rfl

/-- A write to sound contents fails only by the fault of what is written. -/
theorem put_blames (sound : c.Sound) (name : String) (x : Sample) : BlamesInput (c.put name x) := by
  cases c with
  | store s =>
    have merged : BlamesInput ((s.put name x).map Store.snapshot) := by
      rw [put_eq_mergeSample]
      exact .mergeSample s.snapshot name x
    exact (BlamesInput.map_iff.1 merged).map _
  | database d =>
    obtain ⟨rows, m, table, represents⟩ := sound
    exact ((Table.put_carries table represents name x).blames (.write m name x) _).map _

theorem putMetrics_blames (sound : c.Sound) (batch : Snapshot) : BlamesInput (c.putMetrics batch) := by
  cases c with
  | store s =>
    have merged : BlamesInput ((s.putBatch batch).map Store.snapshot) := by
      rw [putBatch_eq_merge]
      exact .mergeSamples batch.samples s.snapshot
    exact (BlamesInput.map_iff.1 merged).map _
  | database d =>
    obtain ⟨rows, m, table, represents⟩ := sound
    exact ((Table.putSamples_carries table represents).blames (.writeAll batch.samples m) _).map _

/-- The values were put into the contents, one after another. -/
inductive Wrote : Contents → List (String × Sample) → Contents → Prop where
  | store {s t : Store} {l : List (String × Sample)} (merged : s.snapshot.mergeSamples l = .ok t.snapshot) :
      Wrote (.store s) l (.store t)
  | database {d d' : Table.Database} {l : List (String × Sample)} (put : d.putSamples l = .ok d') :
      Wrote (.database d) l (.database d')

theorem Wrote.nil (c : Contents) : Wrote c [] c := by
  cases c with
  | store s => exact .store rfl
  | database d => exact .database rfl

theorem Wrote.append {c'' : Contents} {l' : List (String × Sample)} (first : Wrote c l c')
    (rest : Wrote c' l' c'') : Wrote c (l ++ l') c'' := by
  cases first with
  | store merged =>
    cases rest with
    | store merged' =>
      refine .store ?_
      rw [Snapshot.mergeSamples_append, merged]
      exact merged'
  | database put =>
    cases rest with
    | database put' =>
      refine .database ?_
      rw [Table.putSamples_append, put]
      exact put'

theorem wrote_put {x : Sample} (put : c.put name x = .ok c') : Wrote c [(name, x)] c' := by
  cases c with
  | store s =>
    obtain ⟨t, written, rfl⟩ := Except.map_eq_ok.1 put
    refine .store ?_
    rw [Snapshot.mergeSamples_one, ← put_eq_mergeSample, written]
    rfl
  | database d =>
    obtain ⟨d', written, rfl⟩ := Except.map_eq_ok.1 put
    refine .database ?_
    rw [Table.Database.putSamples, Except.mapError_eq_ok.1 written]
    rfl

theorem wrote_putMetrics {batch : Snapshot} (put : c.putMetrics batch = .ok c') :
    Wrote c batch.samples c' := by
  cases c with
  | store s =>
    obtain ⟨t, written, rfl⟩ := Except.map_eq_ok.1 put
    have merged := putBatch_eq_merge s batch
    rw [written] at merged
    exact .store merged.symm
  | database d =>
    obtain ⟨d', written, rfl⟩ := Except.map_eq_ok.1 put
    exact .database (Except.mapError_eq_ok.1 written)

theorem Wrote.sound (wrote : Wrote c l c') (sound : c.Sound) : c'.Sound := by
  cases wrote with
  | store merged => trivial
  | database put =>
    obtain ⟨rows, m, table, represents⟩ := sound
    obtain ⟨m', rows', -, table', represents'⟩ := (Table.putSamples_carries table represents).done put
    exact ⟨rows', m', table', represents'⟩

/-- A value is held under the name in this kind, after these were put. In a store a name may be a
gauge and a counter; in a database it has the kind in which it was written last. -/
def HasAfter (c : Contents) (l : List (String × Sample)) (kind : Kind) (name : String) : Prop :=
  match c with
  | .store _ => c.Has kind name ∨ ∃ x, (name, x) ∈ l ∧ x.kind = kind
  | .database _ =>
    match (l.filter fun w => w.1 = name).getLast? with
    | some w => w.2.kind = kind
    | none => c.Has kind name

theorem has_store {s : Store} : (Contents.store s).Has kind name ↔ (s.snapshot.get? kind name).isSome := by
  rw [Has, getTyped_store]
  cases s.snapshot.get? kind name <;> simp

theorem has_database {d : Table.Database} {rows : List Table.Row} {m : Ledger}
    (table : d.metrics = some rows) (represents : Table.Represents rows m) :
    (Contents.database d).Has kind name ↔ (m.get? name).map Sample.kind = some kind := by
  rw [Has, getTyped_database table represents, Ledger.found?]
  cases m.get? name with
  | none => simp
  | some x => by_cases same : x.kind = kind <;> simp [Option.filter, same]

theorem Wrote.has_iff (wrote : Wrote c l c') (sound : c.Sound) :
    c'.Has kind name ↔ c.HasAfter l kind name := by
  cases wrote with
  | store merged =>
    rw [HasAfter, has_store, has_store]
    exact (mergeSamples_written merged).isSome_get? kind name
  | database put =>
    obtain ⟨rows, m, table, represents⟩ := sound
    obtain ⟨m', rows', written, table', represents'⟩ :=
      (Table.putSamples_carries table represents).done put
    rw [HasAfter, has_database table' represents', Ledger.kind_writeAll written]
    cases (l.filter fun w => w.1 = name).getLast? with
    | some w => simp
    | none => exact (has_database table represents).symm

end Contents

/-! ## Databases that are opened -/

/-- Nobody else wrote a database that is on the disk. -/
def Disk.Own (d : Disk) : Prop :=
  ∀ l content, d.node? l = some (.database content) → Table.Own content

namespace Connection

variable {c : Connection} {h h' : Host}

theorem openInMemory_own (opened : openInMemory h = (.ok c, h')) : Table.Own (c.database h'.disk) := by
  obtain rfl : .inMemory Table.Database.empty.migrate.database = c :=
    Except.ok.inj (Prod.mk.inj opened).1
  exact .made

/-- What a path that nobody else wrote to leads to as a database is made anew when it is opened, or
was the program's before. -/
theorem databaseOf?_own {l : Location} {d : Table.Database} (own : h.disk.Own)
    (is : databaseOf? (h.disk.node? l) = some d) : Table.Own d.migrate.database := by
  cases node : h.disk.node? l with
  | none =>
    obtain rfl : Table.Database.empty = d := by simpa [databaseOf?, node] using is
    exact .made
  | some n =>
    rw [node] at is
    cases n with
    | database d' =>
      obtain rfl : d' = d := by simpa [databaseOf?] using is
      exact (own l d' node).migrated
    | directory => cases is
    | file bytes =>
      cases bytes with
      | nil =>
        obtain rfl : Table.Database.empty = d := by simpa [databaseOf?] using is
        exact .made
      | cons b rest => cases is

theorem openPath_own {path : String} (own : h.disk.Own) (opened : openPath path h = (.ok c, h')) :
    Table.Own (c.database h'.disk) := by
  cases leads : h.disk.resolve path with
  | error e => simp [openPath, leads] at opened
  | ok target =>
    obtain ⟨l, asDirectory⟩ := target
    cases asDirectory with
    | true => simp [openPath, leads] at opened
    | false =>
      cases is : databaseOf? (h.disk.node? l) with
      | none =>
        simp only [openPath, leads, is] at opened
        split at opened <;> cases opened
      | some d =>
        obtain ⟨disk, answer⟩ := openPath_eq leads is
        rw [opened] at disk answer
        cases fault : d.migrate.fault with
        | some _ => simp [fault] at answer
        | none =>
          obtain rfl : c = .onDisk l := by simpa [fault] using answer
          have stored : h'.disk.node? l = some (.database d.migrate.database) := by
            rw [disk, Disk.node?_set _ _ _ _ (Disk.not_root (not_directory is)), if_pos rfl]
          rw [database, stored]
          exact databaseOf?_own own is

/-- A database that was opened is the program's own, unless others wrote one on the disk. -/
theorem openSource_own {dsn : String} (own : h.disk.Own) (opened : openSource dsn h = (.ok c, h')) :
    Table.Own (c.database h'.disk) := by
  unfold openSource at opened
  split at opened
  · exact openInMemory_own opened
  · split at opened
    · obtain rfl : .inMemory Table.Database.empty.migrate.database = c :=
        Except.ok.inj (Prod.mk.inj opened).1
      exact .made
    · exact openPath_own own opened

end Connection

end Telemetry
