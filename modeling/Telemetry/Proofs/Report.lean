/-
A signed report at a collector that shares the secret.

An agent signs the values that it holds, and a collector checks the values that it
reads (`decode_received`). Between the two a gauge is written as JSON and read again,
and the hash is over its six decimals, so a report is accepted exactly when each gauge
keeps its digest on the way (`report_accepted_iff`); there are gauges that do not.
-/
import Telemetry.Agent.Delivery
import Telemetry.Proofs.Exchange
import Telemetry.Proofs.Json.Records
import Telemetry.Proofs.Json.Rereading
import Telemetry.Proofs.Requests

namespace Telemetry

namespace Sync.Key

variable {key : Key} {id : String}

theorem ofSetting_eq_some {secret : String} (chosen : Text.isBlankText secret = false) :
    ∃ key, ofSetting (some secret) = some key := by
  have some : Text.Utf8.encode secret ≠ [] := by
    intro none
    have units := Text.Utf8.units_encode secret
    rw [none] at units
    have empty : secret.toList = [] := List.map_eq_nil_iff.1 units.symm
    simp [Text.isBlankText, empty] at chosen
  exact ⟨⟨Text.Utf8.encode secret, some⟩, by simp [ofSetting, chosen, ofBytes, some, Except.toOption]⟩

/-- What a collector reads for the value has the digest of the value that was sent. -/
def Keeps (key : Key) (id : String) (x : Sample) : Prop :=
  ∃ y, x.reread? = some y ∧ key.digest id y = key.digest id x

theorem keeps_counter (key : Key) (id : String) (d : Int64) : key.Keeps id (.counter d) :=
  ⟨.counter d, rfl, rfl⟩

/-- A gauge keeps its digest if it keeps its six decimals. -/
theorem keeps_of_sixPlaces {x y : Binary64} (reads : x.reread? = some y)
    (same : y.sixPlaces = x.sixPlaces) (key : Key) (id : String) : key.Keeps id (.gauge x) :=
  ⟨.gauge y, by rw [Sample.reread?, reads]; rfl, by rw [digest, digest, canonical, canonical, same]⟩

theorem keeps_of_short {x : Binary64} (short : x.Short) (key : Key) (id : String) :
    key.Keeps id (.gauge x) :=
  keeps_of_sixPlaces (Binary64.reread_of_short short) rfl key id

end Sync.Key

/-! ## Reports -/

namespace Record

/-- The record that an agent sends for a value. -/
def signed (key : Sync.Key) (w : String × Sample) : Record :=
  carrying w.1 w.2 (some (key.sign w.1 w.2))

/-- The record that a collector reads for a value that was sent: the value is reread, and the
hash is that of the value that was sent. -/
def received (key : Sync.Key) (w : String × Sample) : Record :=
  carrying w.1 w.2.reread (some (key.sign w.1 w.2))

end Record

namespace Sync.Codec

variable {key : Key}

theorem fold_received {w : String × Sample} (named : Text.isBlankText w.1 = false)
    (keeps : key.Keeps w.1 w.2) (s : Snapshot) :
    (Codec.mk (some key)).fold s (.received key w) = s.mergeSample w.1 w.2.reread := by
  obtain ⟨y, reads, same⟩ := keeps
  rw [Record.received, Sample.reread_eq reads]
  have valid := Record.validate_carrying (some (key.sign w.1 w.2)) named
    fun z (eq : y = .gauge z) => Sample.finite_of_reread? (eq ▸ reads)
  have right : (Codec.mk (some key)).accepts
      (.carrying w.1 y (some (key.sign w.1 w.2))) y = true := by
    simp only [accepts, Record.carrying_hash, Record.carrying_id]
    exact Key.verify_sign.2 same
  rw [fold, valid, Except.ok_bind, if_pos right, Record.carrying_id]

theorem foldAll_received : ∀ {l : List (String × Sample)} (s : Snapshot),
    (∀ w ∈ l, Text.isBlankText w.1 = false ∧ key.Keeps w.1 w.2) →
      (Codec.mk (some key)).foldAll s (l.map (.received key)) =
        s.mergeSamples (l.map fun (id, x) => (id, x.reread))
  | [], _, _ => rfl
  | w :: rest, s, h => by
    obtain ⟨named, keeps⟩ := h w List.mem_cons_self
    simp only [List.map_cons, foldAll, Snapshot.mergeSamples, fold_received named keeps]
    cases s.mergeSample w.1 w.2.reread with
    | error e => rfl
    | ok t => exact foldAll_received t fun v mem => h v (List.mem_cons_of_mem _ mem)

theorem accepts_of_foldAll {codec : Codec} : ∀ {rs : List Record} {s t : Snapshot},
    codec.foldAll s rs = .ok t → ∀ r ∈ rs, ∃ x, r.validate = .ok x ∧ codec.accepts r x = true
  | [], _, _, _ => fun _ mem => absurd mem List.not_mem_nil
  | r :: rest, s, t, h => by
    simp only [foldAll, fold, Except.bind_eq_ok] at h
    obtain ⟨mid, ⟨x, valid, folded⟩, others⟩ := h
    intro r' mem
    rcases List.mem_cons.1 mem with rfl | mem
    · refine ⟨x, valid, ?_⟩
      split at folded
      · assumption
      · cases folded
    · exact accepts_of_foldAll others r' mem

/-- A report whose values keep their digests is the snapshot that was read. -/
theorem decode_received {s : Snapshot} (named : s.Named)
    (keeps : ∀ w ∈ s.samples, key.Keeps w.1 w.2) :
    (Codec.mk (some key)).decode (s.samples.map (.received key)) = .ok s.reread := by
  rw [decode, foldAll_received .empty fun w mem => ⟨named w.1 w.2 mem, keeps w mem⟩,
    ← Snapshot.samples_reread]
  exact Snapshot.merge_empty (Snapshot.checkFinite_reread s)

/-! ## The body of a report -/

theorem read_signed {w : String × Sample} (finite : ∀ x, w.2 = .gauge x → x.isFinite = true)
    {r : Record} : Record.shape.read (Record.signed key w).toJson.tree = .ok r ↔
      ∃ y, w.2.reread? = some y ∧ Record.carrying w.1 y (some (key.sign w.1 w.2)) = r := by
  rw [← Except.toOption_eq_some, Record.signed, Record.read_carrying _ finite,
    Option.map_eq_some_iff]

/-- A body whose values are all read is the records that a collector reads for them. -/
theorem listOfDocument_signed {s : Snapshot} (finite : s.checkFinite = .ok ())
    (keeps : ∀ w ∈ s.samples, key.Keeps w.1 w.2) :
    Record.listOfDocument (.ofBytes (Agent.Transport.plainBody (s.samples.map (.signed key)))) =
      .ok (s.samples.map (.received key)) := by
  rw [Agent.Transport.plainBody, Record.listOfDocument_compact, List.map_map]
  refine Json.readItems_eq_ok fun w mem => (read_signed (s.finite_of_mem finite mem)).2 ?_
  obtain ⟨y, reads, -⟩ := keeps w mem
  exact ⟨y, reads, by rw [Record.received, Sample.reread_eq reads]⟩

theorem keeps_of_decode {s batch : Snapshot} {rs : List Record} (finite : s.checkFinite = .ok ())
    (reads : Record.listOfDocument
      (.ofBytes (Agent.Transport.plainBody (s.samples.map (.signed key)))) = .ok rs)
    (decoded : (Codec.mk (some key)).decode rs = .ok batch) :
    ∀ w ∈ s.samples, key.Keeps w.1 w.2 := by
  intro w mem
  rw [Agent.Transport.plainBody, Record.listOfDocument_compact, List.map_map] at reads
  obtain ⟨r, taken, read⟩ := Json.of_readItems_ok reads w mem
  obtain ⟨y, reread, rfl⟩ := (read_signed (s.finite_of_mem finite mem)).1 read
  obtain ⟨x, valid, right⟩ := accepts_of_foldAll decoded _ taken
  -- What was checked against the hash is what was read, since a payload is checked unchanged.
  have payload := Record.sample_of_validate valid
  rw [Record.sample_carrying, Except.ok.injEq] at payload
  simp only [accepts, Record.carrying_hash, Record.carrying_id] at right
  exact ⟨y, reread, by rw [payload]; exact Key.verify_sign.1 right⟩

end Sync.Codec

namespace Collector

open Agent (Transport)

variable {key : Sync.Key} {s : Snapshot} {v : Standing} {body : Text.Bytes}

/-- What a report does to the contents when all its values keep their digests. -/
theorem written_of_keeps (shared : v.codec = ⟨some key⟩) (named : s.Named)
    (finite : s.checkFinite = .ok ())
    (unwrapped : v.unwrap body = .ok (Transport.plainBody (s.samples.map (.signed key))))
    (keeps : ∀ w ∈ s.samples, key.Keeps w.1 w.2) :
    v.written .updateBatch body = v.contents.putMetrics s.reread := by
  simp only [Standing.written, unwrapped, Except.ok_bind,
    Sync.Codec.listOfDocument_signed finite keeps, Except.mapError_ok, shared,
    Sync.Codec.decode_received named keeps]

theorem keeps_of_written {c : Contents} (shared : v.codec = ⟨some key⟩)
    (finite : s.checkFinite = .ok ())
    (unwrapped : v.unwrap body = .ok (Transport.plainBody (s.samples.map (.signed key))))
    (written : v.written .updateBatch body = .ok c) : ∀ w ∈ s.samples, key.Keeps w.1 w.2 := by
  simp only [Standing.written, unwrapped, Except.ok_bind, Except.bind_eq_ok, Except.mapError_eq_ok,
    shared] at written
  obtain ⟨rs, reads, batch, decoded, -⟩ := written
  exact Sync.Codec.keeps_of_decode finite reads decoded

/-- All values keep their digests when the gauges do: counters always do. -/
theorem keeps_samples_iff : (∀ w ∈ s.samples, key.Keeps w.1 w.2) ↔
    ∀ name x, s.gauges.get? name = some x → key.Keeps name (.gauge x) := by
  constructor
  · intro h name x get
    exact h (name, .gauge x) (Snapshot.gauge_mem_samples.2 get)
  · rintro h ⟨name, x⟩ mem
    cases x with
    | gauge x => exact h name x (Snapshot.gauge_mem_samples.1 mem)
    | counter d => exact key.keeps_counter name d

/-- What becomes of a signed report. -/
theorem serve_report {s : Snapshot} {collector : Collector} (shared : v.codec = ⟨some key⟩)
    (named : s.Named) (finite : s.checkFinite = .ok ()) (stands : collector.standing? = some v)
    (room : v.contents.HasRoomFor s)
    (unwrapped : v.unwrap body = .ok (Transport.plainBody (s.samples.map (.signed key)))) :
    let answer := serve .updateBatch body collector
    (answer.1.status = 200 ↔
        ∀ name x, s.gauges.get? name = some x → key.Keeps name (.gauge x)) ∧
      (answer.1.status = 200 → ∃ t c, s.Reread t ∧ v.contents.putMetrics t = .ok c ∧
        answer.2.standing? = some { v with contents := c }) ∧
      (answer.1.status ≠ 200 → answer.2.standing? = some v) := by
  have served := serve_write (e := .updateBatch) rfl body stands
  rw [← keeps_samples_iff]
  cases written : v.written .updateBatch body with
  | ok c =>
    rw [written] at served
    obtain ⟨status, leaves⟩ := served
    have keeps := keeps_of_written shared finite unwrapped written
    refine ⟨iff_of_true status keeps, fun _ => ⟨s.reread, c, ?_, ?_, leaves⟩,
      fun refused => absurd status refused⟩
    · refine Snapshot.reread_reread fun name x get => ?_
      obtain ⟨y, reads, -⟩ := keeps_samples_iff.1 keeps name x get
      obtain ⟨z, reads, -⟩ := Option.map_eq_some_iff.1 reads
      exact ⟨z, reads⟩
    · rw [← written_of_keeps shared named finite unwrapped keeps, written]
  | error f =>
    rw [written] at served
    obtain ⟨refused, leaves⟩ := served
    have status : (serve .updateBatch body collector).1.status ≠ 200 := by
      rw [refused]
      exact Service.refusal_status _
    refine ⟨iff_of_false status fun keeps => ?_, fun accepted => absurd accepted status,
      fun _ => leaves⟩
    have room : v.contents.HasRoomFor s.reread := room.of_same rfl fun name none => by
      rwa [Snapshot.reread, NameMap.get?_mapValues, Option.map_eq_none_iff] at none
    obtain ⟨c, put⟩ := Contents.putMetrics_ok room (Snapshot.checkFinite_reread s)
    rw [written_of_keeps shared named finite unwrapped keeps, put] at written
    cases written

/-- **A signed report is accepted exactly when each of its gauges keeps its digest on the way.**
An agent can sign every snapshot. A collector with the same secret, whose contents have room for
the counters, takes the body for what it reads, and that is the snapshot with its gauges
reread, if each reread gauge has the digest of the gauge that was signed; else it takes nothing. -/
theorem report_accepted_iff {secret : String} (chosen : Text.isBlankText secret = false)
    {s : Snapshot} (named : s.Named) (finite : s.checkFinite = .ok ()) :
    ∃ key rs, Sync.Key.ofSetting (some secret) = some key ∧
      (Sync.Codec.ofSecret (some secret)).encode s = .ok rs ∧
      ∀ (collector : Collector) (v : Standing) (body : Text.Bytes),
        collector.standing? = some v → v.codec = Sync.Codec.ofSecret (some secret) →
        v.contents.HasRoomFor s → v.unwrap body = .ok (Transport.plainBody rs) →
        let answer := serve .updateBatch body collector
        (answer.1.status = 200 ↔
            ∀ name x, s.gauges.get? name = some x → key.Keeps name (.gauge x)) ∧
          (answer.1.status = 200 → ∃ t c, s.Reread t ∧ v.contents.putMetrics t = .ok c ∧
            answer.2.standing? = some { v with contents := c }) ∧
          (answer.1.status ≠ 200 → answer.2.standing? = some v) := by
  obtain ⟨key, chosen⟩ := Sync.Key.ofSetting_eq_some chosen
  have shared : Sync.Codec.ofSecret (some secret) = ⟨some key⟩ := congrArg Sync.Codec.mk chosen
  refine ⟨key, s.samples.map (.signed key), chosen, ?_, ?_⟩
  · rw [shared]
    exact Sync.Codec.encode_eq _ s
  · intro collector v body stands codec room unwrapped
    exact serve_report (codec.trans shared) named finite stands room unwrapped

theorem named_load (x : Binary64) : Snapshot.Named ⟨NameMap.empty.insert "load" x, .empty⟩ := by
  intro name y mem
  rw [show Snapshot.samples ⟨NameMap.empty.insert "load" x, .empty⟩ = [("load", .gauge x)] from rfl,
    List.mem_singleton] at mem
  rw [(Prod.mk.inj mem).1]
  decide

/-- A collector with an empty store that shares the secret `k`. -/
def fresh : Collector :=
  ⟨.memory .empty, none, .ofSecret (some "k"), none, ⟨⟨.empty, "/home"⟩, []⟩⟩

/-- A gauge of 0.25 keeps its six decimals, and its report is accepted. -/
theorem report_accepted_quarter :
    let s : Snapshot := ⟨NameMap.empty.insert "load"
      (.finite false ⟨4503599627370496, 1020, by decide, by decide, by decide⟩), .empty⟩
    ∃ rs, (Sync.Codec.ofSecret (some "k")).encode s = .ok rs ∧
      (serve .updateBatch (Transport.plainBody rs) fresh).1.status = 200 := by
  intro s
  have chosen : Text.isBlankText "k" = false := by decide
  obtain ⟨key, rs, -, encoded, answers⟩ := report_accepted_iff chosen (s := s) (named_load _) rfl
  have room : (Contents.store .empty).HasRoomFor s := fun _ _ get => by cases get
  obtain ⟨accepted, -, -⟩ := answers fresh ⟨.store .empty, .ofSecret (some "k"), none⟩
    (Transport.plainBody rs) rfl rfl room rfl
  refine ⟨rs, encoded, accepted.2 fun name x get => ?_⟩
  rw [NameMap.get?_insert] at get
  split at get
  · rw [← Option.some.inj get]
    refine Sync.Key.keeps_of_sixPlaces ?_ rfl key name
    rw [Json.reread?_eq]
    decide +kernel
  · cases get

/-- A gauge of 9051558.176880501 is read as 9051558.1768805, which has other decimals, and its
report is refused. -/
theorem report_refused_neighbour :
    let x : Binary64 := .finite false ⟨4859518293442892, 1045, by decide, by decide, by decide⟩
    let s : Snapshot := ⟨NameMap.empty.insert "load" x, .empty⟩
    Text.isBlankText "k" = false ∧ s.Named ∧ s.checkFinite = .ok () ∧
      (Contents.store .empty).HasRoomFor s ∧
        ∃ rs, (Sync.Codec.ofSecret (some "k")).encode s = .ok rs ∧
          (serve .updateBatch (Transport.plainBody rs) fresh).1.status ≠ 200 := by
  intro x s
  let key : Sync.Key := ⟨[107], by decide⟩
  let y : Binary64 := .finite false ⟨4859518293442891, 1045, by decide, by decide, by decide⟩
  have shared : Sync.Codec.ofSecret (some "k") = ⟨some key⟩ := by decide +kernel
  have named : s.Named := named_load x
  have room : (Contents.store .empty).HasRoomFor s := fun _ _ get => by cases get
  refine ⟨by decide, named, rfl, room, s.samples.map (.signed key), ?_, fun accepted => ?_⟩
  · rw [shared]
    exact Sync.Codec.encode_eq _ s
  · have stands : fresh.standing? = some ⟨.store .empty, .ofSecret (some "k"), none⟩ := rfl
    obtain ⟨accepted_iff, -, -⟩ := serve_report shared named rfl stands room rfl
    obtain ⟨z, reads, same⟩ := accepted_iff.1 accepted "load" x (NameMap.get?_insert_self _ _ _)
    have reread : x.reread? = some y := by
      rw [Json.reread?_eq]
      decide +kernel
    rw [Sample.reread?, reread] at reads
    rw [← Option.some.inj reads] at same
    have other : key.digest "load" (.gauge y) ≠ key.digest "load" (.gauge x) := by decide +kernel
    exact other same

end Collector

end Telemetry
