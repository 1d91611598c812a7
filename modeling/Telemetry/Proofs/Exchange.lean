/-
A snapshot sent as a batch of records, and decoded in any order.

A snapshot can always be encoded. The batch decodes exactly when each record passes
its own checks, which ask for a name and, of a gauge, for a finite value; then it decodes
to the snapshot, in whatever order the records come, since no two of them write one
metric. Otherwise the first record that fails its checks says why (`decode_any_order`).
-/
import Telemetry.Proofs.Batch
import Telemetry.Proofs.Samples
import Telemetry.Proofs.Signature

namespace Telemetry

/-- Every metric has a name. -/
def Snapshot.Named (s : Snapshot) : Prop :=
  ∀ name x, (name, x) ∈ s.samples → Text.isBlankText name = false

namespace Record

/-- The record of a value, signed if there is a key. -/
def sent (codec : Sync.Codec) (w : String × Sample) : Record :=
  carrying w.1 w.2 (codec.key.map fun key => key.sign w.1 w.2)

/-- A record that fails its checks is refused as invalid, and for no other reason. -/
theorem rejected_of_validate {r : Record} {e : Failure} (h : r.validate = .error e) :
    ∃ rejection, e = .rejected rejection := by
  rcases r.valid_or_invalid with ⟨x, valid⟩ | ⟨rejection, fault⟩
  · rw [valid.validate] at h
    cases h
  · rw [fault.validate] at h
    exact ⟨rejection, (Except.error.inj h).symm⟩

theorem validate_sent_iff {codec : Sync.Codec} {w : String × Sample} :
    (∃ x, (sent codec w).validate = .ok x) ↔
      Text.isBlankText w.1 = false ∧ ∀ y, w.2 = .gauge y → y.isFinite = true := by
  obtain ⟨name, x⟩ := w
  constructor
  · rintro ⟨y, valid⟩
    simp only [sent, validate, carrying_id, sample_carrying] at valid
    split at valid
    · cases valid
    · rename_i named
      refine ⟨Bool.eq_false_iff.2 named, ?_⟩
      rintro y rfl
      simp only [Except.map_eq_ok, finiteGauge_eq_ok] at valid
      obtain ⟨-, ⟨finite, -⟩, -⟩ := valid
      exact finite
  · rintro ⟨named, finite⟩
    exact ⟨x, validate_carrying _ named finite⟩

end Record

namespace Sync.Codec

variable {codec : Codec}

theorem sign_ofSample (codec : Codec) (id : String) (x : Sample) :
    codec.sign (.ofSample id x) = .ok (.sent codec (id, x)) := by
  obtain ⟨key⟩ := codec
  cases key <;> cases x <;> rfl

/-- All values of a snapshot are signed; none can fail. -/
theorem encode_eq (codec : Codec) (s : Snapshot) :
    codec.encode s = .ok (s.samples.map (.sent codec)) := by
  have signed (l : List (String × Sample)) :
      (l.map fun w => Record.ofSample w.1 w.2).mapM codec.sign = .ok (l.map (.sent codec)) := by
    induction l with
    | nil => rfl
    | cons w rest ih =>
      simp only [List.map_cons, List.mapM_cons, sign_ofSample, ih, Except.ok_bind]
      rfl
  exact signed s.samples

theorem accepts_sent (codec : Codec) (w : String × Sample) :
    codec.accepts (.sent codec w) w.2 = true := by
  obtain ⟨key⟩ := codec
  cases key with
  | none => rfl
  | some key =>
    simp only [accepts, Record.sent, Option.map_some, Record.carrying_hash, Record.carrying_id]
    exact Key.verify_sign.2 rfl

theorem fold_sent (s : Snapshot) (w : String × Sample) :
    codec.fold s (.sent codec w) =
      ((Record.sent codec w).validate >>= fun _ => s.mergeSample w.1 w.2) := by
  rw [fold]
  cases valid : (Record.sent codec w).validate with
  | error e => rfl
  | ok x =>
    have payload := Record.sample_of_validate valid
    rw [Record.sent, Record.sample_carrying, Except.ok.injEq] at payload
    rw [Except.ok_bind, Except.ok_bind, ← payload, if_pos (accepts_sent codec w), Record.sent,
      Record.carrying_id]

theorem foldAll_sent : ∀ {l : List (String × Sample)} (s : Snapshot),
    (∀ w ∈ l, ∃ x, (Record.sent codec w).validate = .ok x) →
      codec.foldAll s (l.map (.sent codec)) = s.mergeSamples l
  | [], _, _ => rfl
  | w :: rest, s, valid => by
    obtain ⟨x, here⟩ := valid w List.mem_cons_self
    simp only [List.map_cons, foldAll, Snapshot.mergeSamples, fold_sent, here, Except.ok_bind]
    cases s.mergeSample w.1 w.2 with
    | error e => rfl
    | ok t => exact foldAll_sent t fun v mem => valid v (List.mem_cons_of_mem _ mem)

theorem foldAll_append : ∀ (rs₁ rs₂ : List Record) (s : Snapshot),
    codec.foldAll s (rs₁ ++ rs₂) = (codec.foldAll s rs₁ >>= fun t => codec.foldAll t rs₂)
  | [], _, _ => rfl
  | r :: rest, rs₂, s => by
    simp only [List.cons_append, foldAll]
    cases codec.fold s r with
    | error e => rfl
    | ok t => exact foldAll_append rest rs₂ t

theorem exists_first {α : Type} {p : α → Prop} {l : List α} (h : ∃ x ∈ l, ¬ p x) :
    ∃ before x after, l = before ++ x :: after ∧ (∀ y ∈ before, p y) ∧ ¬ p x := by
  classical
  obtain ⟨x, found⟩ := Option.isSome_iff_exists.1
    ((List.find?_isSome (p := fun x => decide ¬ p x)).2 (by simpa using h))
  obtain ⟨wrong, before, after, cut, right⟩ := List.find?_eq_some_iff_append.1 found
  exact ⟨before, x, after, cut, fun y mem => by simpa using right y mem, by simpa using wrong⟩

/-- Values at different places are decoded up to the first record that fails its checks. -/
theorem decode_first {l : List (String × Sample)} (apart : (l.map Snapshot.place).Nodup)
    {before after : List Record} {r : Record} {e : Failure}
    (split : l.map (.sent codec) = before ++ r :: after)
    (valid : ∀ q ∈ before, ∃ x, q.validate = .ok x) (invalid : r.validate = .error e) :
    codec.decode (before ++ r :: after) = .error e := by
  obtain ⟨l₁, l₂, rfl, rfl, rest⟩ := List.map_eq_append_iff.1 split
  obtain ⟨w, l₂, rfl, rfl, -⟩ := List.map_eq_cons_iff.1 rest
  rw [List.map_append] at apart
  have sound : ∀ v ∈ l₁, ∃ x, (Record.sent codec v).validate = .ok x :=
    fun v mem => valid _ (List.mem_map_of_mem mem)
  obtain ⟨t, merged⟩ := Snapshot.mergeSamples_fresh (s := .empty) (List.nodup_append.1 apart).1
    (fun v mem => (Record.validate_sent_iff.1 (sound v mem)).2) fun v _ => by cases v.2.kind <;> rfl
  rw [decode, foldAll_append, foldAll_sent .empty sound, merged, Except.ok_bind, foldAll, fold_sent,
    invalid]
  rfl

/-- The records of a snapshot all pass their checks when it has names and finite gauges. -/
theorem validate_samples_iff (codec : Codec) {s : Snapshot} :
    (∀ w ∈ s.samples, ∃ x, (Record.sent codec w).validate = .ok x) ↔
      s.Named ∧ s.checkFinite = .ok () := by
  constructor
  · intro valid
    refine ⟨fun name x mem => (Record.validate_sent_iff.1 (valid _ mem)).1, ?_⟩
    refine Snapshot.checkFinite_eq_ok.2 fun name x get => ?_
    exact (Record.validate_sent_iff.1 (valid _ (Snapshot.gauge_mem_samples.2 get))).2 x rfl
  · rintro ⟨named, finite⟩ w mem
    exact Record.validate_sent_iff.2 ⟨named w.1 w.2 mem, s.finite_of_mem finite mem⟩

/-- **A batch decodes to the snapshot that was sent, in any order of its records, or not at all.**
Every snapshot can be encoded, with a key or without. The records, however they are ordered,
are accepted exactly when every metric has a name and every gauge is finite, and then they
are the snapshot. Otherwise the first record that is not valid is refused as such. -/
theorem decode_any_order (codec : Codec) (s : Snapshot) :
    ∃ rs, codec.encode s = .ok rs ∧ ∀ rs', rs'.Perm rs →
      ((∃ t, codec.decode rs' = .ok t) ↔
        s.Named ∧ ∀ name x, s.gauges.get? name = some x → x.isFinite = true) ∧
      (∀ t, codec.decode rs' = .ok t → t = s) ∧
      ∀ e, codec.decode rs' = .error e → ∃ before r after rejection,
        rs' = before ++ r :: after ∧ (∀ q ∈ before, ∃ x, q.validate = .ok x) ∧
          r.validate = .error e ∧ e = .rejected rejection := by
  refine ⟨_, encode_eq codec s, fun rs' reordered => ?_⟩
  obtain ⟨l, perm, rfl⟩ := perm_map_iff.1 reordered
  have apart : (l.map Snapshot.place).Nodup := (perm.map _).nodup_iff.2 s.nodup_places
  rw [← Snapshot.checkFinite_eq_ok, ← validate_samples_iff codec]
  by_cases valid : ∀ w ∈ s.samples, ∃ x, (Record.sent codec w).validate = .ok x
  · have decoded : codec.decode (l.map (.sent codec)) = .ok s := by
      rw [decode, foldAll_sent .empty fun w mem => valid w (perm.mem_iff.1 mem)]
      exact Snapshot.mergeSamples_of_perm ((validate_samples_iff codec).1 valid).2 perm
    rw [decoded]
    refine ⟨iff_of_true ⟨s, rfl⟩ valid, fun t h => (Except.ok.inj h).symm, fun e h => ?_⟩
    cases h
  -- Which record is the first that is not valid depends on the order; that there is one does not.
  · have some : ∃ r ∈ l.map (Record.sent codec), ¬ ∃ x, r.validate = .ok x := by
      by_contra none
      refine valid fun w mem => Classical.byContradiction fun invalid => none ?_
      exact ⟨.sent codec w, List.mem_map_of_mem (perm.mem_iff.2 mem), invalid⟩
    obtain ⟨before, r, after, cut, sound, invalid⟩ := exists_first some
    cases fault : r.validate with
    | ok x => exact absurd ⟨x, fault⟩ invalid
    | error f =>
      obtain ⟨rejection, rfl⟩ := Record.rejected_of_validate fault
      have refused : codec.decode (l.map (.sent codec)) = .error (.rejected rejection) := by
        rw [cut]
        exact decode_first apart cut sound fault
      rw [refused]
      refine ⟨iff_of_false (fun ⟨t, h⟩ => nomatch h) valid, (fun t h => nomatch h), fun e h => ?_⟩
      obtain rfl := Except.error.inj h
      exact ⟨before, r, after, rejection, cut, sound, fault, rfl⟩

end Sync.Codec

end Telemetry
