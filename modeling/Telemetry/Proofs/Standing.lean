/-
What decides the answers of a collector, and how its parts act on that.

A collector answers from the contents of its backend, its key and its inbound codec;
the journal, the disk beside a database and the scheduler of a store in memory have no
say. `Does a v x w` says so of one action: wherever `v` stands, it gives `x` and leaves
`w` standing. The judgement is composed along a chain of steps (`Does.bind`), so what a
handler does is read off its steps.
-/
import Telemetry.Proofs.Session
import Telemetry.Service.Life

namespace Telemetry

namespace Flushing

/-- The live backend is this store. -/
def LiveIs (store : Store) (s : Flushing) : Prop :=
  s.live = .memory store

variable {store : Store}

theorem onDurable_preserves {α : Type} (a : Action Site α) :
    Action.Preserves (LiveIs store) (onDurable a) :=
  fun _ h => h

theorem readLive_preserves : Action.Preserves (LiveIs store) (onLive Backend.getMetrics) := by
  intro s h
  unfold LiveIs at h ⊢
  simp [onLive, Action.on, Backend.getMetrics, Backend.perform, h, Backend.onStore, Backend.reading,
    Except.map]

theorem flush_preserves : Action.Preserves (LiveIs store) flush :=
  readLive_preserves.bind fun _ => (onDurable_preserves _).bind fun _ =>
    .bind (fun _ h => h) fun _ => .bind (fun _ h => h) fun _ _ h => h

/-- A write to the store is announced in vain or flushed; neither changes the store, nor is
the writer told of a failure. -/
theorem notifyWrite_live {s : Flushing} (h : s.live = .memory store) :
    (notifyWrite s).1 = .ok () ∧ (notifyWrite s).2.live = .memory store := by
  unfold notifyWrite
  rw [Action.bind_of_ok (show scheduler? s = (.ok s.scheduler, s) from rfl)]
  split
  · have flushed : (flush s).2.live = .memory store := flush_preserves s h
    have step : Action.attempt flush s = (.ok (flush s).1, (flush s).2) := rfl
    rw [tryFlush, Action.bind_of_ok step]
    cases (flush s).1 with
    | ok _ => exact ⟨rfl, flushed⟩
    | error e => exact ⟨rfl, flushed⟩
  · exact ⟨rfl, h⟩

/-- The live backend is in memory. -/
def LiveInMemory (s : Flushing) : Prop :=
  ∃ store, s.live = .memory store

theorem restore_preserves : Action.Preserves LiveInMemory restore :=
  .bind (fun _ h => h) fun snapshot => by
    split
    · exact .bind (fun _ h => h) fun _ _ h => h
    · refine .bind ?_ fun _ => .pure _
      rintro s ⟨store, live⟩
      refine ⟨⟨snapshot.gauges, snapshot.counters⟩, ?_⟩
      simp [onLive, Action.on, Backend.restore, Backend.perform, live, Backend.onStore,
        Backend.writing, Store.restore, Except.map]

theorem start_preserves : Action.Preserves LiveInMemory start :=
  .bind (fun _ h => h) fun s => by
    split
    · refine .bind (fun _ h => h) fun _ => .bind (restore_preserves.attempt) fun restored => ?_
      cases restored with
      | ok n => exact .bind (fun _ h => h) fun _ _ h => h
      | error e => exact .bind (fun _ h => h) fun _ _ h => h
    · exact .bind (fun _ h => h) fun _ => .pure _

end Flushing

/-! ## Collectors -/

/-- What decides a collector's answers. -/
structure Standing where
  contents : Contents
  codec : Sync.Codec
  inbound : Option BodyCodec

/-- A batch body as it was before the sender's codec. -/
def Standing.unwrap (v : Standing) (body : Text.Bytes) : Outcome Text.Bytes :=
  match v.inbound with
  | none => .ok body
  | some c => c.decode body

namespace Collector

/-- The contents of a backend that only the handlers write to: a store in memory, with a
scheduler or without, or a database without one. -/
def contents? (s : Collector) : Option Contents :=
  match s.backend, s.scheduler with
  | .memory store, _ => some (.store store)
  | .database (some c), none => some (.database (c.database s.host.disk))
  | _, _ => none

/-- What decides the collector's answers, if its backend is its own. -/
def standing? (s : Collector) : Option Standing :=
  s.contents?.map fun c => ⟨c, s.codec, s.inbound⟩

/-- Wherever `v` stands, the action gives `x` and leaves `w` standing. -/
def Does {α : Type} (a : Action Collector α) (v : Standing) (x : Outcome α) (w : Standing) : Prop :=
  ∀ s, s.standing? = some v → (a s).1 = x ∧ (a s).2.standing? = some w

namespace Does

variable {α β : Type} {a : Action Collector α} {f : α → Action Collector β} {u v w : Standing}

theorem iff_gives {x : Outcome α} :
    Does a v x w ↔
      Action.Gives (fun s : Collector => s.standing? = some v) a x fun s => s.standing? = some w :=
  Iff.rfl

theorem pure (v : Standing) (x : α) : Does (Pure.pure x) v (.ok x) v :=
  fun _ h => ⟨rfl, h⟩

theorem ofOutcome (v : Standing) (x : Outcome α) : Does (.ofOutcome x) v x v :=
  fun _ h => ⟨rfl, h⟩

theorem bind {y : α} {x : Outcome β} (ha : Does a u (.ok y) v) (hf : Does (f y) v x w) :
    Does (a >>= f) u x w :=
  iff_gives.2 ((iff_gives.1 ha).bind (iff_gives.1 hf))

theorem bind_error {e : Failure} (ha : Does a u (.error e) v) : Does (a >>= f) u (.error e) v :=
  iff_gives.2 (iff_gives.1 ha).bind_error

end Does

theorem contents?_cases {s : Collector} {c : Contents} (h : s.contents? = some c) :
    (∃ store, s.backend = .memory store ∧ c = .store store) ∨
      ∃ k, s.backend = .database (some k) ∧ s.scheduler = none ∧
        c = .database (k.database s.host.disk) := by
  unfold contents? at h
  split at h
  · rename_i store e
    exact .inl ⟨store, e, (Option.some.inj h).symm⟩
  · rename_i k e none
    exact .inr ⟨k, e, none, (Option.some.inj h).symm⟩
  · cases h

theorem standing?_eq_some {s : Collector} {v : Standing} :
    s.standing? = some v ↔ s.contents? = some v.contents ∧ s.codec = v.codec ∧ s.inbound = v.inbound := by
  unfold standing?
  constructor
  · intro h
    obtain ⟨c, contents, rfl⟩ := Option.map_eq_some_iff.1 h
    exact ⟨contents, rfl, rfl⟩
  · rintro ⟨contents, codec, inbound⟩
    rw [contents, codec, inbound]
    rfl

/-! ## Steps of the handlers -/

theorem log_does (v : Standing) (e : Event) : Does (log e) v (.ok ()) v := by
  intro s h
  refine ⟨rfl, ?_⟩
  rw [standing?_eq_some] at h ⊢
  refine ⟨?_, h.2⟩
  rw [← h.1]
  rfl

theorem codec?_does (v : Standing) : Does codec? v (.ok v.codec) v := by
  intro s h
  exact ⟨congrArg Except.ok (standing?_eq_some.1 h).2.1, h⟩

theorem decodeInbound_does (v : Standing) (body : Text.Bytes) :
    Does (decodeInbound body) v (v.unwrap body) v := by
  intro s h
  obtain ⟨-, -, inbound⟩ := standing?_eq_some.1 h
  unfold decodeInbound Standing.unwrap
  rw [← inbound]
  cases s.inbound with
  | none => exact ⟨rfl, h⟩
  | some c => exact ⟨rfl, h⟩

/-- Telling the scheduler of a write neither fails nor changes the contents. -/
theorem afterWrite_does (v : Standing) : Does afterWrite v (.ok ()) v := by
  intro s h
  obtain ⟨contents, decides⟩ := standing?_eq_some.1 h
  cases scheduled : s.scheduler with
  | none =>
    have step : afterWrite s = (.ok (), s) := by simp only [afterWrite, onScheduler, scheduled]
    rw [step]
    exact ⟨rfl, h⟩
  | some scheduler =>
    rcases contents?_cases contents with ⟨store, backend, eq⟩ | ⟨_, _, none, _⟩
    · obtain ⟨gives, live⟩ := Flushing.notifyWrite_live
        (s := ⟨s.backend, scheduler, s.host⟩) backend
      cases result : Flushing.notifyWrite ⟨s.backend, scheduler, s.host⟩ with
      | mk x t =>
        rw [result] at gives live
        have step : afterWrite s =
            (x, { s with backend := t.live, scheduler := some t.scheduler, host := t.host }) := by
          simp only [afterWrite, onScheduler, scheduled, result]
        rw [step]
        refine ⟨gives, standing?_eq_some.2 ⟨?_, decides⟩⟩
        simp only at live
        simp only [contents?, live, eq]
    · rw [none] at scheduled
      cases scheduled

section Backends

variable {α : Type} {operation : Operation} {v : Standing}

/-- A reading of the backend is the same look at its contents, wherever they are. -/
theorem read_does (look : Contents → Outcome α) {f : Store → Outcome α}
    {onFile : SnapshotFile → Action Host α} {onSession : Action Session α}
    (store : ∀ s, look (.store s) = f s)
    (session : Session.Reads onSession fun d => look (.database d)) :
    Does (onBackend (Backend.perform operation (Backend.reading f) onFile onSession)) v
      (look v.contents) v := by
  intro s h
  obtain ⟨contents, decides⟩ := standing?_eq_some.1 h
  rcases contents?_cases contents with ⟨live, backend, eq⟩ | ⟨k, backend, none, eq⟩
  · rw [eq, store]
    simp only [onBackend, Action.on, Backend.perform, backend, Backend.onStore, Backend.reading]
    cases f live with
    | error e => exact ⟨rfl, standing?_eq_some.2 ⟨eq ▸ rfl, decides⟩⟩
    | ok x => exact ⟨rfl, standing?_eq_some.2 ⟨eq ▸ rfl, decides⟩⟩
  · simp only [onBackend, Action.on, Backend.perform, backend, session k s.host]
    refine ⟨by rw [eq], standing?_eq_some.2 ⟨?_, decides⟩⟩
    simp [contents?, none, eq]

theorem write_store (operation : Operation) {store : Store} (f : Store → Outcome Store)
    (onFile : SnapshotFile → Action Host Unit) (onSession : Action Session Unit)
    (holds : v.contents = .store store) :
    let a := onBackend (Backend.perform operation (Backend.writing f) onFile onSession)
    match f store with
    | .ok t => Does a v (.ok ()) { v with contents := .store t }
    | .error e => Does a v (.error e) v := by
  intro a
  have live {s : Collector} (h : s.standing? = some v) : s.backend = .memory store := by
    rcases contents?_cases (standing?_eq_some.1 h).1 with ⟨live, backend, eq⟩ | ⟨_, _, _, eq⟩
    · rw [backend, ← Contents.store.inj (holds.symm.trans eq)]
    · cases holds.symm.trans eq
  cases result : f store with
  | error e =>
    intro s h
    simp only [a, onBackend, Action.on, Backend.perform, live h, Backend.onStore, Backend.writing,
      result, Except.map]
    exact ⟨trivial, standing?_eq_some.2 ⟨holds ▸ rfl, (standing?_eq_some.1 h).2⟩⟩
  | ok t =>
    intro s h
    simp only [a, onBackend, Action.on, Backend.perform, live h, Backend.onStore, Backend.writing,
      result, Except.map]
    exact ⟨trivial, standing?_eq_some.2 ⟨rfl, (standing?_eq_some.1 h).2⟩⟩

theorem write_database (operation : Operation) {database : Table.Database}
    {session : Table.Database → Outcome Table.Database} (onMemory : Store → Outcome (Unit × Store))
    (onFile : SnapshotFile → Action Host Unit) {onSession : Action Session Unit}
    (writes : Session.Writes onSession session) (holds : v.contents = .database database) :
    let a := onBackend (Backend.perform operation onMemory onFile onSession)
    match session database with
    | .ok d => Does a v (.ok ()) { v with contents := .database d }
    | .error e => Does a v (.error e) v := by
  intro a
  have live {s : Collector} (h : s.standing? = some v) : ∃ k, s.backend = .database (some k) ∧
      s.scheduler = none ∧ k.database s.host.disk = database := by
    rcases contents?_cases (standing?_eq_some.1 h).1 with ⟨_, _, eq⟩ | ⟨k, backend, none, eq⟩
    · cases holds.symm.trans eq
    · exact ⟨k, backend, none, (Contents.database.inj (holds.symm.trans eq)).symm⟩
  cases result : session database with
  | error e =>
    intro s h
    obtain ⟨k, backend, none, leads⟩ := live h
    simp only [a, onBackend, Action.on, Backend.perform, backend, writes.refused (leads ▸ result)]
    refine ⟨trivial, standing?_eq_some.2 ⟨?_, (standing?_eq_some.1 h).2⟩⟩
    simp [contents?, none, leads, holds]
  | ok d =>
    intro s h
    obtain ⟨k, backend, none, leads⟩ := live h
    obtain ⟨k', h', written, leads'⟩ := writes.done (leads ▸ result)
    simp only [a, onBackend, Action.on, Backend.perform, backend, written]
    refine ⟨trivial, standing?_eq_some.2 ⟨?_, (standing?_eq_some.1 h).2⟩⟩
    simp [contents?, none, leads']

/-- A change of the backend is the same change of its contents, wherever they are. -/
theorem write_does (change : Contents → Outcome Contents) {f : Store → Outcome Store}
    {onFile : SnapshotFile → Action Host Unit} {onSession : Action Session Unit}
    {session : Table.Database → Outcome Table.Database}
    (store : ∀ s, change (.store s) = (f s).map .store)
    (database : ∀ d, change (.database d) = (session d).map .database)
    (writes : Session.Writes onSession session) :
    let a := onBackend (Backend.perform operation (Backend.writing f) onFile onSession)
    match change v.contents with
    | .ok c => Does a v (.ok ()) { v with contents := c }
    | .error e => Does a v (.error e) v := by
  intro a
  cases holds : v.contents with
  | store s =>
    have written := write_store operation f onFile onSession holds
    rw [store]
    cases result : f s <;> rw [result] at written <;> exact written
  | database d =>
    have written := write_database operation (Backend.writing f) onFile writes holds
    rw [database]
    cases result : session d <;> rw [result] at written <;> exact written

theorem put_does (v : Standing) (name : String) (sample : Sample) :
    match v.contents.put name sample with
    | .ok c => Does (onBackend (Backend.put name sample)) v (.ok ()) { v with contents := c }
    | .error e => Does (onBackend (Backend.put name sample)) v (.error e) v :=
  write_does (fun c => c.put name sample) (fun _ => rfl) (fun _ => rfl)
    (Session.put_writes name sample)

theorem putMetrics_does (v : Standing) (batch : Snapshot) :
    match v.contents.putMetrics batch with
    | .ok c => Does (onBackend (Backend.putMetrics batch)) v (.ok ()) { v with contents := c }
    | .error e => Does (onBackend (Backend.putMetrics batch)) v (.error e) v :=
  write_does (fun c => c.putMetrics batch) (fun _ => rfl) (fun _ => rfl)
    (Session.putMetrics_writes batch)

theorem getTyped_does (v : Standing) (kind : Kind) (name : String) :
    Does (onBackend (Backend.getTyped kind name)) v (v.contents.getTyped kind name) v :=
  read_does (fun c => c.getTyped kind name) (fun _ => rfl) (Session.find_reads (some kind) name)

theorem getMetrics_does (v : Standing) :
    Does (onBackend Backend.getMetrics) v v.contents.getMetrics v :=
  read_does Contents.getMetrics (fun _ => rfl) (Session.query_reads _ _)

theorem ping_does (v : Standing) : Does (onBackend Backend.ping) v (.ok ()) v :=
  read_does (fun _ => .ok ()) (fun _ => rfl) (Session.query_reads _ _)

end Backends

end Collector

end Telemetry
