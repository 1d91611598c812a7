/-
The three ways to write one value: by path, as a record, and as a batch of one.

To the contents of a backend a value and a batch of that value are the same write
(`Contents.put_iff_batch`), refusals included. The ways part at the name: a record is refused when its
name is blank, and a path is not. So the three agree unless the name is blank and the
contents would take the value (`writes_agree_iff`).
-/
import Telemetry.Proofs.Requests
import Telemetry.Proofs.Samples

namespace Telemetry

open Service

theorem Store.putBatch_of_one {name : String} {x : Sample} {batch : Snapshot}
    (one : Snapshot.empty.mergeSample name x = .ok batch) (s : Store) :
    s.putBatch batch = s.put name x := by
  have same : (s.putBatch batch).map Store.snapshot = (s.put name x).map Store.snapshot := by
    rw [putBatch_eq_merge, put_eq_mergeSample, Snapshot.merge, Contents.samples_of_one one,
      Snapshot.mergeSamples_one]
  cases put : s.put name x with
  | error e =>
    cases written : s.putBatch batch with
    | error f =>
      rw [put, written] at same
      rw [Except.error.inj same]
    | ok t =>
      rw [put, written] at same
      cases same
  | ok u =>
    cases written : s.putBatch batch with
    | error f =>
      rw [put, written] at same
      cases same
    | ok t =>
      rw [put, written] at same
      rw [Store.snapshot_inj (Except.ok.inj same)]

theorem Table.Database.putAll_of_one {name : String} {x : Sample} {batch : Snapshot}
    (one : Snapshot.empty.mergeSample name x = .ok batch) (d : Database) :
    d.putAll batch = d.put name x := by
  rw [putAll, Contents.samples_of_one one, putSamples]
  cases d.put name x <;> rfl

/-- A value can be put where a batch of it can, and leaves what the batch leaves. -/
theorem Contents.put_iff_batch {c t : Contents} {name : String} {x : Sample} :
    (Snapshot.empty.mergeSample name x >>= c.putMetrics) = .ok t ↔ c.put name x = .ok t := by
  cases one : Snapshot.empty.mergeSample name x with
  | ok batch =>
    rw [Except.ok_bind]
    cases c with
    | store s => rw [putMetrics, put, Store.putBatch_of_one one]
    | database d =>
      simp only [putMetrics, put, Table.Database.putAll_of_one one, Except.map_eq_ok,
        Except.mapError_eq_ok]
  | error e =>
    rw [Except.error_bind]
    refine iff_of_false (fun none => by cases none) fun put => ?_
    cases x with
    | counter d =>
      -- A delta alone is a total, so it is never refused.
      have begun : ∃ s, Snapshot.empty.mergeSample name (.counter d) = .ok s :=
        Snapshot.mergeSample_fresh (fun _ other => by cases other) rfl
      obtain ⟨s, fresh⟩ := begun
      rw [one] at fresh
      cases fresh
    | gauge y =>
      have infinite : finiteGauge name y = .error e := by
        rw [Snapshot.mergeSample] at one
        cases finite : finiteGauge name y with
        | ok z => rw [finite] at one; cases one
        | error f =>
          rw [finite] at one
          rw [Except.error.inj one]
      cases c with
      | store s =>
        rw [Contents.put, Store.put, infinite] at put
        cases put
      | database d =>
        rw [Contents.put, Table.Database.put, infinite] at put
        cases put

namespace Sync.Codec

theorem decode_unhashed {codec : Codec} {r : Record} {x : Sample} (payload : r.sample = .ok x)
    (unhashed : r.hash = none) (named : Text.isBlankText r.id = false) :
    codec.decode [r] = Snapshot.empty.mergeSample r.id x := by
  have accepts (y : Sample) : codec.accepts r y = true := by
    unfold accepts
    rw [unhashed]
    cases codec.key <;> rfl
  have folded : codec.fold .empty r = Snapshot.empty.mergeSample r.id x := by
    rw [fold, Record.validate, named, if_neg Bool.false_ne_true, payload]
    cases x with
    | counter d => rw [Except.ok_bind, if_pos (accepts _)]
    | gauge y =>
      rw [Snapshot.mergeSample]
      cases finite : finiteGauge r.id y with
      | error e =>
        simp only [finite]
        rfl
      | ok z =>
        obtain ⟨-, rfl⟩ := finiteGauge_eq_ok.1 finite
        simp only [finite, Except.map, Except.ok_bind, if_pos (accepts _), Snapshot.mergeSample]
  rw [decode, foldAll, folded]
  cases Snapshot.empty.mergeSample r.id x <;> rfl

/-- A record without a name is refused before anything else of it is looked at. -/
theorem decode_blank {codec : Codec} {r : Record} (blank : Text.isBlankText r.id = true)
    (rs : List Record) : codec.decode (r :: rs) = .error (.rejected .blankId) := by
  rw [decode, foldAll, fold, Record.validate, if_pos blank]
  rfl

end Sync.Codec

/-! ## Requests -/

namespace Collector

variable {s : Collector} {v : Standing} {r : Record} {x : Sample} {path record batch : Request}

/-- Three requests that ask for one write: the parts of a path, a record without a hash, and the
batch of that record. -/
structure OneWrite (v : Standing) (r : Record) (x : Sample) (path record batch : Request) : Prop where
  payload : r.sample = .ok x
  unhashed : r.hash = none
  path : ∃ kind text body, path.reaches? = some (.updatePath kind r.id text, body) ∧
    Kind.parse kind = .ok r.kind ∧ Sample.parse r.kind text = .ok x
  record : ∃ body, record.reaches? = some (.updateRecord, body) ∧
    Record.ofDocument (.ofBytes body) = .ok r
  batch : ∃ body text, batch.reaches? = some (.updateBatch, body) ∧ v.unwrap body = .ok text ∧
    Record.listOfDocument (.ofBytes text) = .ok [r]

/-- The requests are all accepted and leave the same metrics, or they are all refused and leave
the metrics that there were. -/
def Agree (s : Collector) (requests : List Request) : Prop :=
  (∃ w, ∀ q ∈ requests, (respond q s).1.status = 200 ∧ (respond q s).2.standing? = some w) ∨
    ∀ q ∈ requests, (respond q s).1.status ≠ 200 ∧ (respond q s).2.standing? = s.standing?

theorem accepted_of_written {e : Endpoint} {body : Text.Bytes} {q : Request} {c : Contents}
    (stands : s.standing? = some v) (reaches : q.reaches? = some (e, body)) (write : e.isWrite = true)
    (written : v.written e body = .ok c) :
    (respond q s).1.status = 200 ∧ (respond q s).2.standing? = some { v with contents := c } := by
  have answered := write_answers v reaches write
  rw [written] at answered
  obtain ⟨r, status, answers⟩ := answered
  obtain ⟨gives, leaves⟩ := answers s stands
  exact ⟨by rw [gives, status], leaves⟩

theorem refused_of_unwritten {e : Endpoint} {body : Text.Bytes} {q : Request}
    (stands : s.standing? = some v) (reaches : q.reaches? = some (e, body)) (write : e.isWrite = true)
    (unwritten : ∀ c, v.written e body ≠ .ok c) :
    (respond q s).1.status ≠ 200 ∧ (respond q s).2.standing? = s.standing? := by
  have answered := write_answers v reaches write
  cases written : v.written e body with
  | ok c => exact absurd written (unwritten c)
  | error f =>
    rw [written] at answered
    obtain ⟨r, status, answers⟩ := answered
    obtain ⟨gives, leaves⟩ := answers s stands
    exact ⟨by rw [gives]; exact status, leaves.trans stands.symm⟩

/-- The request is a write, and writes what the value put under the name leaves. -/
def Puts (v : Standing) (name : String) (x : Sample) (q : Request) : Prop :=
  ∃ e body, q.reaches? = some (e, body) ∧ e.isWrite = true ∧
    ∀ c, v.written e body = .ok c ↔ v.contents.put name x = .ok c

/-- The request is a write, and writes what the record, decoded alone, leaves. -/
def Decodes (v : Standing) (r : Record) (q : Request) : Prop :=
  ∃ e body, q.reaches? = some (e, body) ∧ e.isWrite = true ∧
    v.written e body = v.codec.decode [r] >>= v.contents.putMetrics

theorem Decodes.puts {q : Request} (decodes : Decodes v r q) (payload : r.sample = .ok x)
    (unhashed : r.hash = none) (named : Text.isBlankText r.id = false) : Puts v r.id x q := by
  obtain ⟨e, body, reaches, write, written⟩ := decodes
  refine ⟨e, body, reaches, write, fun c => ?_⟩
  rw [written, Sync.Codec.decode_unhashed payload unhashed named]
  exact Contents.put_iff_batch

/-- With a blank name the record is refused, whatever the contents would say of the value. -/
theorem Decodes.refused_of_blank {q : Request} (decodes : Decodes v r q)
    (blank : Text.isBlankText r.id = true) (stands : s.standing? = some v) :
    (respond q s).1.status ≠ 200 ∧ (respond q s).2.standing? = s.standing? := by
  obtain ⟨e, body, reaches, write, written⟩ := decodes
  refine refused_of_unwritten stands reaches write fun c => ?_
  rw [written, Sync.Codec.decode_blank blank]
  intro accepted
  cases accepted

namespace OneWrite

theorem path_puts (one : OneWrite v r x path record batch) : Puts v r.id x path := by
  obtain ⟨kind, text, body, reaches, kinds, value⟩ := one.path
  refine ⟨_, body, reaches, rfl, fun c => ?_⟩
  simp only [Standing.written, kinds, value, Except.ok_bind]

theorem record_decodes (one : OneWrite v r x path record batch) : Decodes v r record := by
  obtain ⟨body, reaches, reads⟩ := one.record
  refine ⟨_, body, reaches, rfl, ?_⟩
  rw [Standing.written, reads, Except.mapError_ok, Except.ok_bind]

theorem batch_decodes (one : OneWrite v r x path record batch) : Decodes v r batch := by
  obtain ⟨body, text, reaches, unwrapped, reads⟩ := one.batch
  refine ⟨_, body, reaches, rfl, ?_⟩
  rw [Standing.written, unwrapped, Except.ok_bind, reads, Except.mapError_ok, Except.ok_bind]

end OneWrite

theorem agree_of_puts {name : String} {requests : List Request} (stands : s.standing? = some v)
    (puts : ∀ q ∈ requests, Puts v name x q) : Agree s requests := by
  cases put : v.contents.put name x with
  | ok c =>
    refine .inl ⟨{ v with contents := c }, fun q mem => ?_⟩
    obtain ⟨e, body, reaches, write, same⟩ := puts q mem
    exact accepted_of_written stands reaches write ((same c).2 put)
  | error f =>
    refine .inr fun q mem => ?_
    obtain ⟨e, body, reaches, write, same⟩ := puts q mem
    refine refused_of_unwritten stands reaches write fun c written => ?_
    rw [(same c).1 written] at put
    cases put

/-- **The three endpoints agree unless they disagree about the name.** Sent to any collector that
keeps its metrics in memory or in a database, a path, a record without a hash and a batch of that
record, all of one value, are all accepted and leave the same metrics, or are all refused and
change nothing; except when the name is blank and the contents would take the value. -/
theorem writes_agree_iff (stands : s.standing? = some v) (one : OneWrite v r x path record batch) :
    Agree s [path, record, batch] ↔
      (Text.isBlankText r.id = true → ∀ c, v.contents.put r.id x ≠ .ok c) := by
  obtain ⟨e, body, reaches, write, same⟩ := one.path_puts
  constructor
  · rintro agree blank c put
    have refused := one.record_decodes.refused_of_blank blank stands
    have accepted := accepted_of_written stands reaches write ((same c).2 put)
    rcases agree with ⟨w, all⟩ | all
    · exact refused.1 (all record (by simp)).1
    · exact (all path (by simp)).1 accepted.1
  · intro allowed
    cases blank : Text.isBlankText r.id with
    | false =>
      have puts : ∀ q ∈ [path, record, batch], Puts v r.id x q := by
        intro q mem
        simp only [List.mem_cons, List.not_mem_nil, or_false] at mem
        rcases mem with rfl | rfl | rfl
        · exact one.path_puts
        · exact one.record_decodes.puts one.payload one.unhashed blank
        · exact one.batch_decodes.puts one.payload one.unhashed blank
      exact agree_of_puts stands puts
    | true =>
      refine .inr fun q mem => ?_
      simp only [List.mem_cons, List.not_mem_nil, or_false] at mem
      rcases mem with rfl | rfl | rfl
      · exact refused_of_unwritten stands reaches write fun c written =>
          allowed blank c ((same c).1 written)
      · exact one.record_decodes.refused_of_blank blank stands
      · exact one.batch_decodes.refused_of_blank blank stands

/-- A collector with an empty store. -/
def unwritten : Collector :=
  ⟨.memory .empty, none, .plain, none, ⟨⟨.empty, "/home"⟩, []⟩⟩

/-- A request that sends a body. -/
def post (target body : String) : Request :=
  ⟨"POST", target, [], Text.Utf8.encode body⟩

/-- A delta of 2 to the counter `jobs`, written in each of the three ways. -/
theorem writes_agree_jobs :
    let path := post "/update/counter/jobs/2" ""
    let record := post "/update/" "\x7b\"id\":\"jobs\",\"type\":\"counter\",\"delta\":2\x7d"
    let batch := post "/updates/" "[\x7b\"id\":\"jobs\",\"type\":\"counter\",\"delta\":2\x7d]"
    OneWrite ⟨.store .empty, .plain, none⟩ ⟨"jobs", .counter, some 2, none, none⟩ (.counter 2)
        path record batch ∧
      Agree unwritten [path, record, batch] := by
  intro path record batch
  have one : OneWrite ⟨.store .empty, .plain, none⟩ ⟨"jobs", .counter, some 2, none, none⟩
      (.counter 2) path record batch := {
    payload := rfl
    unhashed := rfl
    path := ⟨"counter", "2", [], by decide +kernel, rfl, by decide +kernel⟩
    record := ⟨record.body, by decide +kernel, by decide +kernel⟩
    batch := ⟨batch.body, batch.body, by decide +kernel, rfl, by decide +kernel⟩ }
  have named : Text.isBlankText "jobs" ≠ true := by decide
  exact ⟨one, (writes_agree_iff rfl one).2 fun blank => absurd blank named⟩

/-- The same delta to a counter whose name is one blank: the path is taken and the record is not. -/
theorem writes_differ_blank :
    let path := post "/update/counter/%20/2" ""
    let record := post "/update/" "\x7b\"id\":\" \",\"type\":\"counter\",\"delta\":2\x7d"
    let batch := post "/updates/" "[\x7b\"id\":\" \",\"type\":\"counter\",\"delta\":2\x7d]"
    unwritten.standing? = some ⟨.store .empty, .plain, none⟩ ∧
      OneWrite ⟨.store .empty, .plain, none⟩ ⟨" ", .counter, some 2, none, none⟩ (.counter 2)
        path record batch ∧
      ¬ Agree unwritten [path, record, batch] := by
  intro path record batch
  have one : OneWrite ⟨.store .empty, .plain, none⟩ ⟨" ", .counter, some 2, none, none⟩
      (.counter 2) path record batch := {
    payload := rfl
    unhashed := rfl
    path := ⟨"counter", "2", [], by decide +kernel, rfl, by decide +kernel⟩
    record := ⟨record.body, by decide +kernel, by decide +kernel⟩
    batch := ⟨batch.body, batch.body, by decide +kernel, rfl, by decide +kernel⟩ }
  refine ⟨rfl, one, ?_⟩
  have refused := one.record_decodes.refused_of_blank (by decide) (s := unwritten) rfl
  have accepted : (respond path unwritten).1.status = 200 := by decide +kernel
  rintro (⟨w, all⟩ | all)
  · exact refused.1 (all record (by simp)).1
  · exact (all path (by simp)).1 accepted

end Collector

end Telemetry
