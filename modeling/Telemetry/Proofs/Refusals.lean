/-
Which record of a batch is refused, and why.

A record is refused for the first test that it fails: its own checks come first
(`Record.Invalid`), then its hash (`Forged`), and then the total of its counter, which
is the only test that looks at the records before it (`Refuses`). A batch fails with
what its first such record is refused for, and else it is the fold of all records
(`decode_first_refused`).

A key only refuses: where a record with its hash is folded at all, it is folded as
without a key (`fold_cases`).
-/
import Telemetry.Proofs.Exchange

namespace Telemetry

namespace Record

/-- The record without its hash. -/
def unhashed (r : Record) : Record :=
  { r with hash := none }

@[simp] theorem validate_unhashed (r : Record) : r.unhashed.validate = r.validate := rfl

end Record

namespace Sync.Codec

variable {codec : Codec}

/-- There is a key to check the record's hash with, and the hash is wrong. -/
def Forged (codec : Codec) (r : Record) (x : Sample) : Prop :=
  ∃ key hash, codec.key = some key ∧ r.hash = some hash ∧ key.verify r.id x hash = false

/-- What a record is refused for when the records before it made `s`: the first test that it fails. -/
inductive Refuses (codec : Codec) (s : Snapshot) (r : Record) : Failure → Prop
  | invalid {rejection : Rejection} (fault : r.Invalid rejection) :
      Refuses codec s r (.rejected rejection)
  | forged {x : Sample} (valid : r.Valid x) (forged : codec.Forged r x) :
      Refuses codec s r (.hashMismatch r.id)
  | overflow {d : Int64} (valid : r.Valid (.counter d)) (genuine : ¬ codec.Forged r (.counter d))
      (large : ¬ InRange ((s.total r.id).toInt + d.toInt)) :
      Refuses codec s r (.rejected (.overflow r.id (s.total r.id) d))

theorem accepts_eq_false {r : Record} {x : Sample} : codec.accepts r x = false ↔ codec.Forged r x := by
  unfold accepts Forged
  constructor
  · intro refused
    split at refused
    · rename_i key hash hasKey hasHash
      exact ⟨key, hash, hasKey, hasHash, refused⟩
    · cases refused
  · rintro ⟨key, hash, hasKey, hasHash, wrong⟩
    simp only [hasKey, hasHash]
    exact wrong

theorem accepts_of_genuine {r : Record} {x : Sample} (genuine : ¬ codec.Forged r x) :
    codec.accepts r x = true :=
  Bool.not_eq_false _ ▸ fun refused => genuine (accepts_eq_false.1 refused)

theorem fold_of_invalid {s : Snapshot} {r : Record} {rejection : Rejection}
    (fault : r.Invalid rejection) : codec.fold s r = .error (.rejected rejection) := by
  rw [fold, fault.validate, Except.error_bind]

theorem fold_of_forged {s : Snapshot} {r : Record} {x : Sample} (valid : r.Valid x)
    (forged : codec.Forged r x) : codec.fold s r = .error (.hashMismatch r.id) := by
  rw [fold, valid.validate, Except.ok_bind, accepts_eq_false.2 forged, if_neg Bool.false_ne_true]

theorem fold_of_genuine {s : Snapshot} {r : Record} {x : Sample} (valid : r.Valid x)
    (genuine : ¬ codec.Forged r x) : codec.fold s r = s.mergeSample r.id x := by
  rw [fold, valid.validate, Except.ok_bind, if_pos (accepts_of_genuine genuine)]

/-- A record that passes its own checks can only fail to be merged by its total. -/
theorem mergeSample_of_valid {s : Snapshot} {r : Record} {x : Sample} {e : Failure} (valid : r.Valid x)
    (h : s.mergeSample r.id x = .error e) :
    ∃ d, x = .counter d ∧ ¬ InRange ((s.total r.id).toInt + d.toInt) ∧
      e = .rejected (.overflow r.id (s.total r.id) d) := by
  cases valid with
  | gauge named kind carried finite => simp [Snapshot.mergeSample, finiteGauge, finite] at h
  | @counter d named kind carried =>
    rw [Snapshot.mergeSample, checkedTotal_eq] at h
    split at h
    · cases h
    · rename_i large
      exact ⟨d, rfl, large, (Except.error.inj h).symm⟩

/-- Folding a record fails exactly with what the record is refused for. -/
theorem fold_eq_error {s : Snapshot} {r : Record} {e : Failure} :
    codec.fold s r = .error e ↔ codec.Refuses s r e := by
  constructor
  · intro failed
    rcases r.valid_or_invalid with ⟨x, valid⟩ | ⟨rejection, fault⟩
    · by_cases forged : codec.Forged r x
      · rw [fold_of_forged valid forged] at failed
        rw [← Except.error.inj failed]
        exact .forged valid forged
      · rw [fold_of_genuine valid forged] at failed
        obtain ⟨d, rfl, large, rfl⟩ := mergeSample_of_valid valid failed
        exact .overflow valid forged large
    · rw [fold_of_invalid fault] at failed
      rw [← Except.error.inj failed]
      exact .invalid fault
  · intro refused
    cases refused with
    | invalid fault => exact fold_of_invalid fault
    | forged valid forged => exact fold_of_forged valid forged
    | overflow valid genuine large =>
      rw [fold_of_genuine valid genuine, Snapshot.mergeSample, checkedTotal_eq, if_neg large]
      rfl

/-! ## A list of records -/

theorem foldAll_eq_error {e : Failure} : ∀ {rs : List Record} {s : Snapshot},
    codec.foldAll s rs = .error e ↔ ∃ before r after t,
      rs = before ++ r :: after ∧ codec.foldAll s before = .ok t ∧ codec.Refuses t r e := by
  intro rs s
  constructor
  · intro failed
    induction rs generalizing s with
    | nil => cases failed
    | cons r rest ih =>
      cases here : codec.fold s r with
      | error f =>
        rw [foldAll, here, Except.error_bind] at failed
        rw [Except.error.inj failed] at here
        exact ⟨[], r, rest, s, rfl, rfl, fold_eq_error.1 here⟩
      | ok mid =>
        rw [foldAll, here, Except.ok_bind] at failed
        obtain ⟨before, q, after, t, rfl, passed, refused⟩ := ih failed
        exact ⟨r :: before, q, after, t, rfl, by rw [foldAll, here, Except.ok_bind, passed], refused⟩
  · rintro ⟨before, r, after, t, rfl, passed, refused⟩
    rw [foldAll_append, passed, Except.ok_bind, foldAll, fold_eq_error.2 refused, Except.error_bind]

/-- A record that is folded with a key is folded as without one. -/
theorem fold_cases (codec : Codec) (s : Snapshot) (r : Record) :
    codec.fold s r = plain.fold s r ∨ codec.fold s r = .error (.hashMismatch r.id) := by
  rcases r.valid_or_invalid with ⟨x, valid⟩ | ⟨rejection, fault⟩
  · have plainly : plain.fold s r = s.mergeSample r.id x :=
      fold_of_genuine valid fun ⟨_, _, hasKey, _⟩ => nomatch hasKey
    by_cases forged : codec.Forged r x
    · exact .inr (fold_of_forged valid forged)
    · exact .inl ((fold_of_genuine valid forged).trans plainly.symm)
  · exact .inl ((fold_of_invalid fault).trans (fold_of_invalid fault).symm)

/-- A key changes what comes of a list of records only by refusing one of them for its hash. -/
theorem foldAll_cases (codec : Codec) (rs : List Record) (s : Snapshot) :
    codec.foldAll s rs = plain.foldAll s rs ∨
      ∃ r ∈ rs, codec.foldAll s rs = .error (.hashMismatch r.id) := by
  induction rs generalizing s with
  | nil => exact .inl rfl
  | cons r rest ih =>
    rcases fold_cases codec s r with same | refused
    · cases here : plain.fold s r with
      | error e => simp [foldAll, same, here]
      | ok t =>
        simp only [foldAll, same, here, Except.ok_bind]
        rcases ih t with agree | ⟨q, mem, refused⟩
        · exact .inl agree
        · exact .inr ⟨q, List.mem_cons_of_mem _ mem, refused⟩
    · exact .inr ⟨r, List.mem_cons_self, by rw [foldAll, refused, Except.error_bind]⟩

theorem fold_unhashed (codec : Codec) (s : Snapshot) (r : Record) :
    codec.fold s r.unhashed = plain.fold s r := by
  have accepted (x : Sample) : codec.accepts r.unhashed x = true := by
    unfold accepts
    split
    · rename_i hasHash
      cases hasHash
    · rfl
  simp only [fold, Record.validate_unhashed, accepted]
  rfl

theorem foldAll_unhashed (codec : Codec) (rs : List Record) (s : Snapshot) :
    codec.foldAll s (rs.map .unhashed) = plain.foldAll s rs := by
  induction rs generalizing s with
  | nil => rfl
  | cons r rest ih => simp only [List.map_cons, foldAll, fold_unhashed, ih]

/-- **A batch fails with what its first refused record is refused for, and else it is the fold of
all records.** The record's own checks come before its hash, and the hash before the total that the
records before it add up to. So a key changes nothing where there are no hashes, and where there
are it refuses a batch for one of them or decodes it as without a key. -/
theorem decode_first_refused (codec : Codec) (rs : List Record) :
    (∀ e, codec.decode rs = .error e ↔ ∃ before r after s l,
      rs = before ++ r :: after ∧ codec.decode before = .ok s ∧
        Record.writes? before = some l ∧ Written .empty l s ∧ codec.Refuses s r e) ∧
    (∀ t, codec.decode rs = .ok t ↔
      (∃ l, Record.writes? rs = some l ∧ Written .empty l t) ∧
        ∀ before r after s, rs = before ++ r :: after → codec.decode before = .ok s →
          ∀ e, ¬ codec.Refuses s r e) ∧
    codec.decode (rs.map .unhashed) = plain.decode (rs.map .unhashed) ∧
    codec.decode (rs.map .unhashed) = plain.decode rs ∧
    (codec.decode rs = plain.decode rs ∨
      ∃ r ∈ rs, codec.decode rs = .error (.hashMismatch r.id)) ∧
    ∀ t, codec.decode rs = .ok t → plain.decode rs = .ok t := by
  have either := foldAll_cases codec rs .empty
  have unhashed := foldAll_unhashed codec rs .empty
  refine ⟨fun e => ?refused, fun t => ?accepted, ?unhashed, unhashed, either, fun t decoded => ?within⟩
  case refused =>
    rw [decode, foldAll_eq_error]
    constructor
    · rintro ⟨before, r, after, s, cut, passed, refused⟩
      obtain ⟨l, writes, written⟩ := foldAll_written passed
      exact ⟨before, r, after, s, l, cut, passed, writes, written, refused⟩
    · rintro ⟨before, r, after, s, -, cut, passed, -, -, refused⟩
      exact ⟨before, r, after, s, cut, passed, refused⟩
  case accepted =>
    constructor
    · intro decoded
      refine ⟨foldAll_written decoded, fun before r after s cut passed e refused => ?_⟩
      have failed := foldAll_eq_error.2 ⟨before, r, after, s, cut, passed, refused⟩
      rw [decode, failed] at decoded
      cases decoded
    · rintro ⟨⟨l, writes, written⟩, none⟩
      cases result : codec.decode rs with
      | error e =>
        obtain ⟨before, r, after, s, cut, passed, refused⟩ := foldAll_eq_error.1 result
        exact absurd refused (none before r after s cut passed e)
      | ok u =>
        obtain ⟨l', writes', written'⟩ := foldAll_written result
        rw [writes] at writes'
        obtain rfl := Option.some.inj writes'
        rw [written'.unique written]
  case unhashed =>
    rw [decode, decode, unhashed, foldAll_unhashed plain rs .empty]
  case within =>
    rcases either with same | ⟨r, -, refused⟩
    · exact same.symm.trans decoded
    · rw [decode, refused] at decoded
      cases decoded

end Sync.Codec

end Telemetry
