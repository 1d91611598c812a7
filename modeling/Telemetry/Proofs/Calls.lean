/-
Sequences of calls to a backend, and what can be seen of them.

Of each call one sees its answer and the metrics that are held afterwards (`trace`). The
measure is a snapshot on which the calls act by the merge rule (`expected`): a store in
memory does the same (`memory_trace`), and what another backend does is compared with it
call by call (`trace_agrees`).
-/
import Mathlib.Data.List.Forall2
import Telemetry.Backend
import Telemetry.Proofs.Samples

namespace Telemetry

/-- The value under a name, in one namespace or, if none is named, in the gauges first. -/
def Snapshot.found? (s : Snapshot) (name : String) : Option Kind → Option Sample
  | some kind => s.get? kind name
  | none => (s.get? .gauge name).or (s.get? .counter name)

/-- The value under a name, or a failure that names it. -/
def Snapshot.find (s : Snapshot) (kind : Option Kind) (name : String) : Outcome Sample :=
  match s.found? name kind with
  | some x => .ok x
  | none => .error (.notFound kind name)

/-- The metrics at a site: a missing file holds none, and a closed connection says nothing. -/
def Site.held? (s : Site) : Option Snapshot :=
  match s.backend with
  | .memory store => some store.snapshot
  | .file f =>
    match s.host.disk.read f.path with
    | .ok bytes => (SnapshotFile.parse bytes).toOption
    | .error .missing => some .empty
    | .error _ => none
  | .database (some c) => (c.database s.host.disk).list.toOption
  | .database none => none
  | .trial t => some t.store.snapshot

namespace Backend

/-- An operation on the metrics, with its arguments. -/
inductive Call where
  | put (name : String) (sample : Sample)
  | putMetrics (batch : Snapshot)
  | restore (snapshot : Snapshot)
  | get (name : String)
  | getTyped (kind : Kind) (name : String)
  | getMetrics
  deriving DecidableEq, Repr

/-- What a call gives when it does not fail. -/
inductive Returned where
  | nothing
  | sample (sample : Sample)
  | metrics (snapshot : Snapshot)
  deriving DecidableEq, Repr

/-- A call, its answer, and the metrics that are held afterwards. -/
structure Step where
  call : Call
  answer : Outcome Returned
  held : Option Snapshot

namespace Call

/-- The call made at a site. -/
def run : Call → Action Site Returned
  | put name x => do
    Backend.put name x
    pure .nothing
  | putMetrics batch => do
    Backend.putMetrics batch
    pure .nothing
  | restore s => do
    Backend.restore s
    pure .nothing
  | get name => do
    let x ← Backend.get name
    pure (.sample x)
  | getTyped kind name => do
    let x ← Backend.getTyped kind name
    pure (.sample x)
  | getMetrics => do
    let s ← Backend.getMetrics
    pure (.metrics s)

/-- The values that a call is to write. -/
def writes : Call → List (String × Sample)
  | put name x => [(name, x)]
  | putMetrics batch => batch.samples
  | restore s => s.samples
  | _ => []

/-- A change of a snapshot, or a refusal that leaves it. -/
def changing (f : Snapshot → Outcome Snapshot) (s : Snapshot) : Outcome Returned × Snapshot :=
  match f s with
  | .ok t => (.ok .nothing, t)
  | .error e => (.error e, s)

/-- The call made on a snapshot. -/
def on (s : Snapshot) : Call → Outcome Returned × Snapshot
  | put name x => changing (fun s => s.mergeSample name x) s
  | putMetrics batch => changing (fun s => s.merge batch) s
  | restore t => changing (fun _ => .ok t) s
  | get name => ((s.find none name).map .sample, s)
  | getTyped kind name => ((s.find (some kind) name).map .sample, s)
  | getMetrics => (.ok (.metrics s), s)

end Call

/-- The calls made one after another. -/
def trace (site : Site) : List Call → List Step
  | [] => []
  | c :: rest =>
    let (answer, site) := c.run site
    ⟨c, answer, site.held?⟩ :: trace site rest

/-- The calls made one after another on a snapshot. -/
def expected (s : Snapshot) : List Call → List Step
  | [] => []
  | c :: rest =>
    let (answer, s) := c.on s
    ⟨c, answer, some s⟩ :: expected s rest

theorem expected_calls : ∀ (calls : List Call) (s : Snapshot), (expected s calls).map Step.call = calls
  | [], _ => rfl
  | c :: rest, s => congrArg (c :: ·) (expected_calls rest (c.on s).2)

/-- **What holds of each call holds of all calls.** If a site stands for a snapshot, and each call
leaves it standing for what the call makes of the snapshot, the traces agree. -/
theorem trace_agrees (Asked : Step → Prop) {Stands : Site → Snapshot → Prop}
    {Agrees : Step → Step → Prop}
    (step : ∀ c site s, Asked ⟨c, (c.on s).1, some (c.on s).2⟩ → Stands site s →
      Stands (c.run site).2 (c.on s).2 ∧
        Agrees ⟨c, (c.on s).1, some (c.on s).2⟩ ⟨c, (c.run site).1, (c.run site).2.held?⟩) :
    ∀ {calls : List Call} {site : Site} {s : Snapshot}, (∀ step ∈ expected s calls, Asked step) →
      Stands site s → List.Forall₂ Agrees (expected s calls) (trace site calls)
  | [], _, _, _, _ => .nil
  | c :: rest, site, s, asked, stands => by
    obtain ⟨next, agrees⟩ := step c site s (asked _ List.mem_cons_self) stands
    exact .cons agrees
      (trace_agrees Asked step (fun step mem => asked step (List.mem_cons_of_mem _ mem)) next)

/-! ## A store in memory -/

theorem map_run {σ α β : Type} (a : Action σ α) (f : α → β) (s : σ) :
    (a >>= fun x => pure (f x)) s = ((a s).1.map f, (a s).2) := by
  rw [Action.run_bind]
  cases a s with
  | mk x t => cases x <;> rfl

/-- The site is a store in memory that holds the snapshot. -/
def StoreOf (site : Site) (s : Snapshot) : Prop :=
  site.backend = .memory ⟨s.gauges, s.counters⟩

variable {site : Site} {s : Snapshot}

theorem store_reads {α : Type} {operation : Operation} {f : Store → Outcome α}
    {onFile : SnapshotFile → Action Host α} {onSession : Action Session α} (stands : StoreOf site s) :
    perform operation (reading f) onFile onSession site = (f ⟨s.gauges, s.counters⟩, site) := by
  obtain ⟨backend, host⟩ := site
  obtain rfl : backend = .memory ⟨s.gauges, s.counters⟩ := stands
  simp only [perform, onStore, reading]
  cases f ⟨s.gauges, s.counters⟩ <;> rfl

theorem store_writes {operation : Operation} {f : Store → Outcome Store}
    (change : Snapshot → Outcome Snapshot) {onFile : SnapshotFile → Action Host Unit}
    {onSession : Action Session Unit}
    (same : ∀ store : Store, (f store).map Store.snapshot = change store.snapshot)
    (stands : StoreOf site s) :
    let after := (do perform operation (writing f) onFile onSession; pure Returned.nothing) site
    after.1 = (Call.changing change s).1 ∧ StoreOf after.2 (Call.changing change s).2 := by
  obtain ⟨backend, host⟩ := site
  obtain rfl : backend = .memory ⟨s.gauges, s.counters⟩ := stands
  have changed := same ⟨s.gauges, s.counters⟩
  rw [map_run]
  simp only [perform, onStore, writing, Call.changing]
  cases result : f ⟨s.gauges, s.counters⟩ with
  | error e =>
    rw [result] at changed
    rw [show change s = .error e from changed.symm]
    exact ⟨rfl, rfl⟩
  | ok store =>
    rw [result] at changed
    rw [show change s = .ok store.snapshot from changed.symm]
    exact ⟨rfl, rfl⟩

/-- A call to a store in memory is the call on its snapshot. -/
theorem store_step (c : Call) (stands : StoreOf site s) :
    (c.run site).1 = (c.on s).1 ∧ StoreOf (c.run site).2 (c.on s).2 := by
  cases c with
  | put name x => exact store_writes _ (fun store => put_eq_mergeSample store name x) stands
  | putMetrics batch => exact store_writes _ (fun store => putBatch_eq_merge store batch) stands
  | restore t => exact store_writes (fun _ => .ok t) (fun _ => rfl) stands
  | get name =>
    rw [Call.run, map_run, Backend.get, store_reads stands]
    refine ⟨congrArg (Except.map _) ?_, stands⟩
    simp only [Store.get, Snapshot.find, Snapshot.found?, Snapshot.get?]
    cases s.gauges.get? name <;> cases s.counters.get? name <;> rfl
  | getTyped kind name =>
    rw [Call.run, map_run, Backend.getTyped, store_reads stands]
    exact ⟨rfl, stands⟩
  | getMetrics =>
    rw [Call.run, map_run, Backend.getMetrics, store_reads stands]
    exact ⟨rfl, stands⟩

theorem held?_of_store (stands : StoreOf site s) : site.held? = some s := by
  simp only [Site.held?, show site.backend = _ from stands]
  rfl

/-- **A store in memory does what is expected.** -/
theorem memory_trace (h : Host) (calls : List Call) :
    trace ⟨.memory .empty, h⟩ calls = expected .empty calls := by
  have agrees : List.Forall₂ Eq (expected .empty calls) (trace ⟨.memory .empty, h⟩ calls) := by
    have step (c : Call) (site : Site) (s : Snapshot) (stands : StoreOf site s) :
        StoreOf (c.run site).2 (c.on s).2 ∧ Step.mk c (c.on s).1 (some (c.on s).2) =
          ⟨c, (c.run site).1, (c.run site).2.held?⟩ := by
      obtain ⟨answer, next⟩ := store_step c stands
      exact ⟨next, by rw [answer, held?_of_store next]⟩
    exact trace_agrees (fun _ => True) (fun c site s _ => step c site s) (fun _ _ => trivial) rfl
  rw [List.forall₂_eq_eq_eq] at agrees
  exact agrees.symm

end Backend

end Telemetry
