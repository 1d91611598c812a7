/-
Applying a batch to the live store.

`Codec.apply` gives the store with the batch written. The store itself is written in
place, total by total and gauge by gauge: `applyInPlace` is that, and `applyInPlace_eq`
says that it does what `apply` says, so a batch that is refused has not begun.

What an accepted batch does is `Written` of its records' payloads (`apply_written`).
The payloads are written in order, wherever the batch is cut, so the pieces make the
same store when each of them is accepted too (`applyInPlace_whole`).
-/
import Telemetry.Proofs.Merge
import Telemetry.Sync.Batch

namespace Telemetry

namespace Record

/-- What a record writes: the payload that its kind asks for, under its name. -/
def write? (r : Record) : Option (String × Sample) :=
  match r.sample with
  | .ok sample => some (r.id, sample)
  | .error _ => none

/-- What records write, in their order; none if a payload is missing. -/
def writes? : List Record → Option (List (String × Sample))
  | [] => some []
  | r :: rest => do some ((← r.write?) :: (← writes? rest))

theorem write?_of_sample {r : Record} {sample : Sample} (h : r.sample = .ok sample) :
    r.write? = some (r.id, sample) := by
  rw [write?, h]

theorem writes?_append {rs₁ rs₂ : List Record} {l₁ l₂ : List (String × Sample)}
    (h₁ : writes? rs₁ = some l₁) (h₂ : writes? rs₂ = some l₂) :
    writes? (rs₁ ++ rs₂) = some (l₁ ++ l₂) := by
  induction rs₁ generalizing l₁ with
  | nil =>
    cases h₁
    exact h₂
  | cons r rest ih =>
    simp only [writes?, Option.bind_eq_bind, Option.bind_eq_some_iff, Option.some.injEq] at h₁
    obtain ⟨w, first, l, others, rfl⟩ := h₁
    simp [writes?, first, ih others]

/-- What a record carries that passes its checks. -/
inductive Valid (r : Record) : Sample → Prop
  | gauge {x : Binary64} (named : Text.isBlankText r.id = false) (kind : r.kind = .gauge)
      (carried : r.value = some x) (finite : x.isFinite = true) : Valid r (.gauge x)
  | counter {d : Int64} (named : Text.isBlankText r.id = false) (kind : r.kind = .counter)
      (carried : r.delta = some d) : Valid r (.counter d)

/-- The first of its checks that a record fails. -/
inductive Invalid (r : Record) : Rejection → Prop
  | blankId (blank : Text.isBlankText r.id = true) : Invalid r .blankId
  | noValue (named : Text.isBlankText r.id = false) (kind : r.kind = .gauge)
      (missing : r.value = none) : Invalid r (.noValue r.id)
  | noDelta (named : Text.isBlankText r.id = false) (kind : r.kind = .counter)
      (missing : r.delta = none) : Invalid r (.noDelta r.id)
  | notFinite {x : Binary64} (named : Text.isBlankText r.id = false) (kind : r.kind = .gauge)
      (carried : r.value = some x) (infinite : x.isFinite = false) : Invalid r (.notFinite r.id x)

theorem Valid.validate {r : Record} {x : Sample} (h : r.Valid x) : r.validate = .ok x := by
  cases h with
  | gauge named kind carried finite =>
    simp [Record.validate, named, sample, kind, carried, finiteGauge, finite, Except.map]
  | counter named kind carried => simp [Record.validate, named, sample, kind, carried]

theorem Invalid.validate {r : Record} {rejection : Rejection} (h : r.Invalid rejection) :
    r.validate = .error (.rejected rejection) := by
  cases h with
  | blankId blank => simp [Record.validate, blank]
  | noValue named kind missing => simp [Record.validate, named, sample, kind, missing]
  | noDelta named kind missing => simp [Record.validate, named, sample, kind, missing]
  | notFinite named kind carried infinite =>
    simp [Record.validate, named, sample, kind, carried, finiteGauge, infinite, Except.map]

theorem valid_or_invalid (r : Record) :
    (∃ x, r.Valid x) ∨ ∃ rejection, r.Invalid rejection := by
  cases named : Text.isBlankText r.id with
  | true => exact .inr ⟨_, .blankId named⟩
  | false =>
    cases kind : r.kind with
    | gauge =>
      cases carried : r.value with
      | none => exact .inr ⟨_, .noValue named kind carried⟩
      | some x =>
        cases finite : x.isFinite with
        | false => exact .inr ⟨_, .notFinite named kind carried finite⟩
        | true => exact .inl ⟨_, .gauge named kind carried finite⟩
    | counter =>
      cases carried : r.delta with
      | none => exact .inr ⟨_, .noDelta named kind carried⟩
      | some d => exact .inl ⟨_, .counter named kind carried⟩

theorem sample_of_validate {r : Record} {sample : Sample} (h : r.validate = .ok sample) :
    r.sample = .ok sample := by
  rcases r.valid_or_invalid with ⟨x, valid⟩ | ⟨rejection, fault⟩
  · rw [valid.validate] at h
    obtain rfl := Except.ok.inj h
    cases valid with
    | gauge named kind carried finite => simp [Record.sample, kind, carried]
    | counter named kind carried => simp [Record.sample, kind, carried]
  · rw [fault.validate] at h
    cases h

theorem kind_of_sample {r : Record} {x : Sample} (h : r.sample = .ok x) : x.kind = r.kind := by
  unfold sample at h
  split at h <;> split at h <;> cases h <;> simp_all [Sample.kind]

/-- A value on the wire, with a hash or without. -/
def carrying (id : String) (sample : Sample) (hash : Option String) : Record :=
  { ofSample id sample with hash := hash }

@[simp] theorem carrying_id (id : String) (sample : Sample) (hash : Option String) :
    (carrying id sample hash).id = id := by
  cases sample <;> rfl

@[simp] theorem carrying_hash (id : String) (sample : Sample) (hash : Option String) :
    (carrying id sample hash).hash = hash := rfl

theorem sample_carrying (id : String) (x : Sample) (hash : Option String) :
    (carrying id x hash).sample = .ok x := by
  cases x <;> rfl

theorem validate_carrying {id : String} {x : Sample} (hash : Option String)
    (named : Text.isBlankText id = false) (finite : ∀ y, x = .gauge y → y.isFinite = true) :
    (carrying id x hash).validate = .ok x := by
  simp only [validate, carrying_id, named, sample_carrying, Bool.false_eq_true,
    if_false]
  cases x with
  | gauge y =>
    have here : finiteGauge id y = .ok y := finiteGauge_eq_ok.2 ⟨finite y rfl, rfl⟩
    simp only [here]
    rfl
  | counter d => rfl

end Record

/-! ## Writing in place -/

namespace Store

theorem snapshot_inj {s t : Store} (h : s.snapshot = t.snapshot) : s = t := by
  cases s
  cases t
  simpa [snapshot] using h

/-- Values set one by one. -/
def setEach {α : Type} (set : Store → String → α → Store) : List (String × α) → Action Store Unit
  | [] => pure ()
  | (name, x) :: rest => do
    .modify fun s => set s name x
    setEach set rest

/-- A whole snapshot written value by value, once all of it is checked. -/
def putBatchInPlace (batch : Snapshot) : Action Store Unit := do
  .ofOutcome batch.checkFinite
  let s ← Action.get
  let totals ← .ofOutcome (newTotals s.counters batch.counters.entries)
  setEach (fun s name total => { s with counters := s.counters.insert name total }) totals
  setEach (fun s name x => { s with gauges := s.gauges.insert name x }) batch.gauges.entries

theorem setEach_counters (es : List (String × Int64)) (s : Store) :
    setEach (fun s name total => { s with counters := s.counters.insert name total }) es s =
      (.ok (), { s with counters := insertAll s.counters es }) := by
  induction es generalizing s with
  | nil => rfl
  | cons e rest ih => exact ih _

theorem setEach_gauges (es : List (String × Binary64)) (s : Store) :
    setEach (fun s name x => { s with gauges := s.gauges.insert name x }) es s =
      (.ok (), { s with gauges := insertAll s.gauges es }) := by
  induction es generalizing s with
  | nil => rfl
  | cons e rest ih => exact ih _

/-- Nothing is set before everything is checked. -/
theorem putBatchInPlace_eq (batch : Snapshot) (s : Store) :
    putBatchInPlace batch s =
      match s.putBatch batch with
      | .ok t => (.ok (), t)
      | .error e => (.error e, s) := by
  cases finite : batch.checkFinite with
  | error e => simp [putBatchInPlace, putBatch, finite, Action.bind_ofOutcome_error]
  | ok _ =>
    cases new : newTotals s.counters batch.counters.entries with
    | error e =>
      simp only [putBatchInPlace, putBatch, putCounters, finite, new, Action.bind_ofOutcome_ok,
        Except.ok_bind, Except.error_bind]
      rw [Action.bind_of_ok (show Action.get s = (.ok s, s) from rfl), new,
        Action.bind_ofOutcome_error]
    | ok totals =>
      simp only [putBatchInPlace, putBatch, putCounters, finite, new, Action.bind_ofOutcome_ok,
        Except.ok_bind]
      rw [Action.bind_of_ok (show Action.get s = (.ok s, s) from rfl), new,
        Action.bind_ofOutcome_ok, Action.bind_of_ok (setEach_counters totals s), setEach_gauges]
      rfl

end Store

/-! ## Batches -/

namespace Sync.Codec

variable {codec : Codec}

/-- A batch checked, and then written into the store value by value. -/
def applyInPlace (codec : Codec) (rs : List Record) : Action Store Nat := do
  let batch ← .ofOutcome (codec.decode rs)
  Store.putBatchInPlace batch
  pure rs.length

/-- Batches applied one after another, up to the first refusal; gives the number of records. -/
def applyEach (codec : Codec) : List (List Record) → Action Store Nat
  | [] => pure 0
  | rs :: rest => do
    let n ← codec.applyInPlace rs
    let m ← codec.applyEach rest
    pure (n + m)

/-- In place, a batch does what `apply` says, and nothing when it is refused. -/
theorem applyInPlace_eq (codec : Codec) (rs : List Record) (store : Store) :
    codec.applyInPlace rs store =
      match codec.apply store rs with
      | .ok (after, n) => (.ok n, after)
      | .error e => (.error e, store) := by
  cases decoded : codec.decode rs with
  | error e => simp [applyInPlace, apply, decoded, Action.bind_ofOutcome_error]
  | ok batch =>
    have put := Store.putBatchInPlace_eq batch store
    simp only [applyInPlace, apply, decoded, Action.bind_ofOutcome_ok, Except.ok_bind]
    cases result : store.putBatch batch with
    | error e =>
      rw [result] at put
      rw [Action.bind_of_error put]
      rfl
    | ok after =>
      rw [result] at put
      rw [Action.bind_of_ok put]
      rfl

theorem fold_written {s t : Snapshot} {r : Record} (h : codec.fold s r = .ok t) :
    ∃ w, r.write? = some w ∧ Written s [w] t := by
  simp only [fold, Except.bind_eq_ok] at h
  obtain ⟨sample, valid, h⟩ := h
  split at h
  · exact ⟨_, Record.write?_of_sample (Record.sample_of_validate valid), mergeSample_written h⟩
  · cases h

theorem foldAll_written : ∀ {rs : List Record} {s t : Snapshot}, codec.foldAll s rs = .ok t →
    ∃ l, Record.writes? rs = some l ∧ Written s l t
  | [], s, t, h => by
    rw [← Except.ok.inj h]
    exact ⟨[], rfl, .nil s⟩
  | r :: rest, s, t, h => by
    simp only [foldAll, Except.bind_eq_ok] at h
    obtain ⟨mid, first, others⟩ := h
    obtain ⟨w, write, written⟩ := fold_written first
    obtain ⟨l, writes, writtenRest⟩ := foldAll_written others
    exact ⟨w :: l, by simp [Record.writes?, write, writes], written.append writtenRest⟩

/-- A batch of one record is the value that the record carries. -/
theorem decode_one {r : Record} {batch : Snapshot} (h : codec.decode [r] = .ok batch) :
    ∃ x, r.sample = .ok x ∧ Snapshot.empty.mergeSample r.id x = .ok batch := by
  obtain ⟨s, first, same⟩ := Except.bind_eq_ok.1 h
  obtain ⟨x, valid, merged⟩ := Except.bind_eq_ok.1 first
  obtain rfl := Except.ok.inj same
  split at merged
  · exact ⟨x, Record.sample_of_validate valid, merged⟩
  · cases merged

theorem apply_written {rs : List Record} {store after : Store} {n : Nat}
    (h : codec.apply store rs = .ok (after, n)) :
    n = rs.length ∧
      ∃ l, Record.writes? rs = some l ∧ Written store.snapshot l after.snapshot := by
  simp only [apply, Except.bind_eq_ok] at h
  obtain ⟨batch, decoded, after', put, h⟩ := h
  obtain ⟨rfl, rfl⟩ := Prod.mk.inj (Except.ok.inj h)
  obtain ⟨l, writes, written⟩ := foldAll_written decoded
  exact ⟨rfl, l, writes, written.through (putBatch_written put)⟩

theorem applyInPlace_eq_ok {rs : List Record} {store after : Store} {n : Nat} :
    codec.applyInPlace rs store = (.ok n, after) ↔ codec.apply store rs = .ok (after, n) := by
  rw [applyInPlace_eq]
  cases codec.apply store rs with
  | error e => simp
  | ok result =>
    obtain ⟨after', n'⟩ := result
    simp [and_comm]

theorem applyEach_written : ∀ {pieces : List (List Record)} {store after : Store} {n : Nat},
    codec.applyEach pieces store = (.ok n, after) →
      ∃ l, Record.writes? pieces.flatten = some l ∧ Written store.snapshot l after.snapshot
  | [], store, after, n, h => by
    obtain ⟨-, rfl⟩ := Prod.mk.inj h
    exact ⟨[], rfl, .nil _⟩
  | rs :: rest, store, after, n, h => by
    cases first : codec.applyInPlace rs store with
    | mk outcome mid =>
      cases outcome with
      | error e => simp [applyEach, Action.bind_of_error first] at h
      | ok k =>
        rw [applyEach, Action.bind_of_ok first] at h
        cases others : codec.applyEach rest mid with
        | mk outcome after' =>
          cases outcome with
          | error e => simp [Action.bind_of_error others] at h
          | ok m =>
            rw [Action.bind_of_ok others] at h
            obtain ⟨-, rfl⟩ := Prod.mk.inj h
            obtain ⟨-, l₁, writes₁, written₁⟩ := apply_written (applyInPlace_eq_ok.1 first)
            obtain ⟨l₂, writes₂, written₂⟩ := applyEach_written others
            exact ⟨l₁ ++ l₂, Record.writes?_append writes₁ writes₂, written₁.append written₂⟩

/-- **A batch is written as a whole or not at all, and it may be cut anywhere.** A refused
batch leaves the store. An accepted one counts all its records and has written each of
their payloads; and if the pieces that it is cut into are accepted one after another, they
leave the same store. -/
theorem applyInPlace_whole (codec : Codec) (rs : List Record) (store : Store) :
    match codec.applyInPlace rs store with
    | (.error e, after) => after = store ∧ codec.apply store rs = .error e
    | (.ok n, after) =>
      codec.apply store rs = .ok (after, n) ∧ n = rs.length ∧
        ∃ l, Record.writes? rs = some l ∧ Written store.snapshot l after.snapshot ∧
          ∀ (pieces : List (List Record)) (m : Nat) (after' : Store), pieces.flatten = rs →
            codec.applyEach pieces store = (.ok m, after') → after' = after := by
  have eq := applyInPlace_eq codec rs store
  cases result : codec.apply store rs with
  | error e =>
    rw [result] at eq
    simp [eq]
  | ok p =>
    obtain ⟨after, n⟩ := p
    rw [result] at eq
    obtain ⟨count, l, writes, written⟩ := apply_written result
    simp only [eq]
    refine ⟨trivial, count, l, writes, written, fun pieces m after' cut each => ?_⟩
    obtain ⟨l', writes', written'⟩ := applyEach_written each
    rw [cut, writes] at writes'
    obtain rfl := Option.some.inj writes'
    exact Store.snapshot_inj (written'.unique written)

end Sync.Codec

end Telemetry
