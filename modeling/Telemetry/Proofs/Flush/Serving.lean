/-
What requests do to a collector that has a scheduler.

Such a collector is seen as its scheduler is (`Collector.Seen`). A write that is answered 200 has put
what it carries into the live store, and the scheduler has been told of it after that; whatever is
answered otherwise, and every read, leaves what is seen (`respond_seen`).
-/
import Telemetry.Proofs.Flush.View
import Telemetry.Proofs.Requests

namespace Telemetry

open Service

/-- The values that a write is to put, in their order; a batch is checked as a whole first. -/
def Service.Endpoint.carried (codec : Sync.Codec) (body : Text.Bytes) :
    Endpoint → Outcome (List (String × Sample))
  | .updatePath kind name value => do
    let kind ← Kind.parse kind
    let sample ← Sample.parse kind value
    .ok [(name, sample)]
  | .updateRecord => do
    let r ← (Record.ofDocument (.ofBytes body)).mapError Failure.malformed
    let batch ← codec.decode [r]
    .ok batch.samples
  | .updateBatch => do
    let rs ← (Record.listOfDocument (.ofBytes body)).mapError Failure.malformed
    let batch ← codec.decode rs
    .ok batch.samples
  | _ => .ok []

/-- The values that a request is to put where it is served. -/
def Service.Request.carried (codec : Sync.Codec) (r : Request) : Outcome (List (String × Sample)) :=
  match r.reaches? with
  | some (e, body) => e.carried codec body
  | none => .ok []

/-- The snapshot with what a request carries. -/
def Snapshot.afterRequest (codec : Sync.Codec) (s : Snapshot) (r : Request) : Outcome Snapshot := do
  let l ← r.carried codec
  s.mergeSamples l

/-- The view when the live store holds this. -/
def View.holding {δ : Type} (v : View δ) (s : Snapshot) : View δ :=
  { v with live := ⟨s.gauges, s.counters⟩ }

namespace Collector

open Telemetry.Action (Gives)

variable {δ : Type} {D : Durable δ} {codec : Sync.Codec} {v w : View δ} {s : Collector}

/-- A collector as it is seen: its scheduler, its codec, and batches that no sender encodes. -/
structure Seen (D : Durable δ) (codec : Sync.Codec) (v : View δ) (s : Collector) : Prop where
  scheduler : ∃ scheduler, s.scheduler = some scheduler ∧ Shows D v ⟨s.backend, scheduler, s.host⟩
  codec : s.codec = codec
  inbound : s.inbound = none

/-! ## Steps of the handlers -/

/-- What an action of the scheduler does in the scheduler, it does in the collector. -/
theorem onScheduler_seen {a : Action Flushing Unit} {x : Outcome Unit}
    (gives : Gives (Shows D v) a x (Shows D w)) :
    Gives (Seen D codec v) (onScheduler a) x (Seen D codec w) := by
  rintro s ⟨⟨scheduler, scheduled, shows⟩, own, inbound⟩
  obtain ⟨result, leaves⟩ := gives _ shows
  simp only [onScheduler, scheduled]
  exact ⟨result, ⟨_, rfl, leaves⟩, own, inbound⟩

theorem afterWrite_seen : Gives (Seen D codec v) afterWrite (.ok ()) (Seen D codec (v.notice D)) :=
  onScheduler_seen Flushing.notifyWrite_shows

theorem Seen.enter (seen : Seen D codec v s) {e : Event} (phase : e.phase? = none)
    (flush : e.isFlush = false) : Seen D codec v { s with host := s.host.enter e } := by
  obtain ⟨⟨scheduler, scheduled, shows⟩, own, inbound⟩ := seen
  exact ⟨⟨scheduler, scheduled, (Flushing.log_shows phase flush _ shows).2⟩, own, inbound⟩

theorem log_seen {e : Event} (phase : e.phase? = none) (flush : e.isFlush = false) :
    Gives (Seen D codec v) (log e) (.ok ()) (Seen D codec v) :=
  fun _ seen => ⟨rfl, seen.enter phase flush⟩

theorem codec?_seen : Gives (Seen D codec v) codec? (.ok codec) (Seen D codec v) :=
  fun _ seen => ⟨congrArg Except.ok seen.codec, seen⟩

theorem decodeInbound_seen (body : Text.Bytes) :
    Gives (Seen D codec v) (decodeInbound body) (.ok body) (Seen D codec v) := by
  intro s seen
  simp only [decodeInbound, seen.inbound]
  exact ⟨trivial, seen⟩

section Backends

variable {operation : Operation}

theorem reading_seen {α : Type} {f : Store → Outcome α} {onFile : SnapshotFile → Action Host α}
    {onSession : Action Session α} :
    Gives (Seen D codec v) (onBackend (Backend.perform operation (Backend.reading f) onFile onSession))
      (f v.live) (Seen D codec v) := by
  rintro ⟨backend, _, _, _, host⟩ seen
  obtain ⟨scheduler, -, shows⟩ := seen.scheduler
  obtain rfl : backend = .memory v.live := shows.live
  have stands : Backend.StoreOf ⟨.memory v.live, host⟩ v.live.snapshot := rfl
  simp only [onBackend, Action.on, Backend.store_reads stands]
  exact ⟨rfl, seen⟩

theorem getTyped_seen (kind : Kind) (name : String) :
    Gives (Seen D codec v) (onBackend (Backend.getTyped kind name)) (v.live.getTyped kind name)
      (Seen D codec v) :=
  reading_seen

theorem writing_seen {f : Store → Outcome Store} (change : Snapshot → Outcome Snapshot)
    {onFile : SnapshotFile → Action Host Unit} {onSession : Action Session Unit}
    (same : ∀ store : Store, (f store).map Store.snapshot = change store.snapshot) :
    Changes (Seen D codec v)
      (onBackend (Backend.perform operation (Backend.writing f) onFile onSession))
      (change v.live.snapshot) fun t => Seen D codec (v.holding t) := by
  have changed := same v.live
  cases result : f v.live with
  | error e =>
    rw [← changed, result]
    rintro ⟨backend, _, _, _, host⟩ seen
    obtain ⟨scheduler, -, shows⟩ := seen.scheduler
    obtain rfl : backend = .memory v.live := shows.live
    simp only [onBackend, Action.on, Backend.perform, Backend.onStore, Backend.writing, result]
    exact ⟨rfl, seen⟩
  | ok store =>
    rw [← changed, result]
    rintro ⟨backend, _, _, _, host⟩ seen
    obtain ⟨scheduler, scheduled, shows⟩ := seen.scheduler
    obtain rfl : backend = .memory v.live := shows.live
    simp only [onBackend, Action.on, Backend.perform, Backend.onStore, Backend.writing, result]
    exact ⟨rfl, ⟨scheduler, scheduled, { shows with live := rfl }⟩, seen.codec, seen.inbound⟩

theorem put_seen (name : String) (sample : Sample) :
    Changes (Seen D codec v) (onBackend (Backend.put name sample))
      (v.live.snapshot.mergeSample name sample) fun t => Seen D codec (v.holding t) :=
  writing_seen (fun s => s.mergeSample name sample) fun store => put_eq_mergeSample store name sample

theorem putMetrics_seen (batch : Snapshot) :
    Changes (Seen D codec v) (onBackend (Backend.putMetrics batch))
      (v.live.snapshot.mergeSamples batch.samples) fun t => Seen D codec (v.holding t) :=
  writing_seen (fun s => s.merge batch) fun store => putBatch_eq_merge store batch

end Backends

/-- A write ends as the merge of what it carries does, and the scheduler has been told of it. -/
def Tells (D : Durable δ) (codec : Sync.Codec) (v : View δ) (a : Action Collector Response)
    (x : Outcome Snapshot) : Prop :=
  Ends (Seen D codec v) a x fun t => Seen D codec ((v.holding t).notice D)

theorem updatePath_tells (kind name value : String) : Tells D codec v (updatePath kind name value) (do
    let kind ← Kind.parse kind
    let sample ← Sample.parse kind value
    v.live.snapshot.mergeSample name sample) :=
  .step (.ofOutcome _) fun _ _ => .step (.ofOutcome _) fun sample _ =>
    .change (put_seen name sample) fun _ _ => ⟨.empty 200, rfl, afterWrite_seen.bind (.pure _)⟩

theorem updateRecord_tells (body : Text.Bytes) : Tells D codec v (updateRecord body) (do
    let r ← (Record.ofDocument (.ofBytes body)).mapError Failure.malformed
    let batch ← codec.decode [r]
    v.live.snapshot.mergeSamples batch.samples) := by
  refine .step (.ofOutcome _) fun r _ => .after codec?_seen <| .step (.ofOutcome _) fun batch decoded =>
    .change (putMetrics_seen batch) fun t merged => ?_
  obtain ⟨sample, payload, one⟩ := Sync.Codec.decode_one decoded
  have kind := Record.kind_of_sample payload
  -- The value that was just written is looked up, and is there.
  have put : (Contents.store v.live).putMetrics batch = .ok (.store ⟨t.gauges, t.counters⟩) := by
    have same := putBatch_eq_merge v.live batch
    rw [Snapshot.merge, merged] at same
    obtain ⟨store, written, rfl⟩ := Except.map_eq_ok.1 same
    exact Except.map_eq_ok.2 ⟨store, written, rfl⟩
  obtain ⟨current, found⟩ := Contents.getTyped_after one put
  have held : ((v.holding t).notice D).live.getTyped r.kind r.id = .ok current := by
    rw [View.live_notice, ← kind]
    exact found
  have look : Gives (Seen D codec ((v.holding t).notice D)) (onBackend (Backend.getTyped r.kind r.id))
      (.ok current) (Seen D codec ((v.holding t).notice D)) := held ▸ getTyped_seen r.kind r.id
  obtain ⟨response, status, signed⟩ := signedRecord_gives
    (P := Seen D codec ((v.holding t).notice D)) (fun _ seen => seen.codec) r.id current
  exact ⟨response, status, afterWrite_seen.bind (look.bind signed)⟩

theorem updateBatch_tells (body : Text.Bytes) : Tells D codec v (updateBatch body) (do
    let rs ← (Record.listOfDocument (.ofBytes body)).mapError Failure.malformed
    let batch ← codec.decode rs
    v.live.snapshot.mergeSamples batch.samples) :=
  .after (decodeInbound_seen body) <| .step (.ofOutcome _) fun rs _ => .after codec?_seen <|
    .step (.ofOutcome _) fun batch _ => .change (putMetrics_seen batch) fun _ _ =>
      ⟨.ofJson 200 (.object [("accepted", .integer rs.length)]), rfl,
        afterWrite_seen.bind ((log_seen rfl rfl).bind (.pure _))⟩

/-- A write changes the live store by what it carries, or not at all. -/
theorem handle_tells {e : Endpoint} (write : e.isWrite = true) (body : Text.Bytes) :
    Tells D codec v (handle e body) (do
      let l ← e.carried codec body
      v.live.snapshot.mergeSamples l) := by
  cases e with
  | updatePath kind name value =>
    simp only [Endpoint.carried, bind_assoc, Except.ok_bind, Snapshot.mergeSamples_one]
    exact updatePath_tells kind name value
  | updateRecord =>
    simp only [Endpoint.carried, bind_assoc, Except.ok_bind]
    exact updateRecord_tells body
  | updateBatch =>
    simp only [Endpoint.carried, bind_assoc, Except.ok_bind]
    exact updateBatch_tells body
  | _ => cases write

/-- A read leaves what is seen. -/
theorem handle_leaves {e : Endpoint} (read : e.isWrite = false) (body : Text.Bytes) :
    ∃ x, Gives (Seen D codec v) (handle e body) x (Seen D codec v) := by
  cases e with
  | listing => exact reading_seen.chain fun _ => ⟨_, .pure _⟩
  | ping => exact ping_gives reading_seen
  | valuePath kind name =>
    exact (Gives.ofOutcome (Kind.parse kind)).chain fun kind =>
      (getTyped_seen kind name).chain fun _ => ⟨_, .pure _⟩
  | valueRecord =>
    refine (Gives.ofOutcome _).chain fun w => (getTyped_seen w.2 w.1).chain fun sample => ?_
    obtain ⟨r, -, done⟩ := signedRecord_gives (P := Seen D codec v) (fun _ seen => seen.codec) w.1 sample
    exact ⟨.ok r, done⟩
  | _ => cases read

/-! ## Requests -/

theorem refuse_seen (seen : Seen D codec v s) (e : Failure) :
    (refuse e s).1 = (Refusal.ofFailure e).response ∧ Seen D codec v (refuse e s).2 := by
  unfold refuse
  cases Refusal.ofFailure e with
  | internal _ => exact ⟨rfl, seen.enter rfl rfl⟩
  | _ => exact ⟨rfl, seen⟩

theorem serve_of_gives {e : Endpoint} {body : Text.Bytes} {x : Outcome Response}
    (gives : Gives (Seen D codec v) (handle e body) x (Seen D codec w)) (seen : Seen D codec v s) :
    (serve e body s).1 = .ofOutcome x ∧ Seen D codec w (serve e body s).2 := by
  obtain ⟨result, leaves⟩ := gives s seen
  unfold serve
  cases handled : handle e body s with
  | mk y t =>
    rw [handled] at result leaves
    simp only at result leaves
    subst result
    cases y with
    | ok r => exact ⟨rfl, leaves⟩
    | error f => exact refuse_seen leaves f

/-- **What becomes of a request.** A write that is answered 200 has put what it carries into the live
store, and the scheduler was told of it. Any other request leaves what is seen. -/
theorem respond_seen (seen : Seen D codec v s) (request : Request) :
    if isAccepted (request, (respond request s).1) then
      ∃ t, v.live.snapshot.afterRequest codec request = .ok t ∧
        Seen D codec ((v.holding t).notice D) (respond request s).2
    else Seen D codec v (respond request s).2 := by
  have served := answer_eq request
  cases reaches : request.reaches? with
  | none =>
    rw [reaches] at served
    obtain ⟨r, status, refused⟩ := served
    rw [respond_eq, refused, if_neg (by simp [isAccepted, formed_status, status])]
    exact seen
  | some reached =>
    obtain ⟨e, body⟩ := reached
    rw [reaches] at served
    rw [respond_eq, served]
    cases write : e.isWrite with
    | false =>
      have leaves : ∃ x, Gives (Seen D codec v) (handle e body) x (Seen D codec v) :=
        handle_leaves write body
      obtain ⟨x, gives⟩ := leaves
      rw [if_neg (by simp [isAccepted, Request.isWrite, reaches, write])]
      exact (serve_of_gives gives seen).2
    | true =>
      have tells : Tells D codec v (handle e body) (v.live.snapshot.afterRequest codec request) := by
        rw [Snapshot.afterRequest, Request.carried, reaches]
        exact handle_tells write body
      cases merged : v.live.snapshot.afterRequest codec request with
      | error f =>
        rw [merged] at tells
        obtain ⟨answered, leaves⟩ := serve_of_gives tells seen
        rw [if_neg (by simp [isAccepted, formed_status, answered, Response.ofOutcome, refusal_status])]
        exact leaves
      | ok t =>
        rw [merged] at tells
        obtain ⟨r, status, gives⟩ := tells
        obtain ⟨answered, leaves⟩ := serve_of_gives gives seen
        rw [if_pos (by simp [isAccepted, formed_status, answered, Response.ofOutcome, status,
          Request.isWrite, reaches, write])]
        exact ⟨t, rfl, leaves⟩

end Collector

end Telemetry
