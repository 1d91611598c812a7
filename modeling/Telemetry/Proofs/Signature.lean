/-
Which texts are a metric's hash, and which metrics share one.

The canonical text of a metric is read from its end: neither a number nor the name of a
kind has a colon, so the last two colons are the ones that were put there, whatever the
name before them holds (`canonical_inj`). A hash is the digest of that text in digits
of either case, so as long as two texts do not collide, a hash is good for the metric that
it was made for and for those that are written alike (`hash_for_no_other`).
-/
import Telemetry.Proofs.Number.Digits
import Telemetry.Proofs.Text.Hex
import Telemetry.Proofs.Text.Utf8
import Telemetry.Sync.Key

namespace Telemetry

/-- Two values that are written alike in a canonical text: one delta, or the same six decimals. -/
def Sample.Alike : Sample → Sample → Prop
  | .gauge x, .gauge y => x.sixPlaces = y.sixPlaces
  | .counter d, .counter e => d = e
  | _, _ => False

/-- The number at the end of a canonical text. -/
def Sample.signedText : Sample → String
  | .gauge x => x.sixPlaces
  | .counter d => toString d.toInt

theorem colon_not_mem_sixPlacesChars (m : Magnitude) : ':' ∉ m.sixPlacesChars := by
  simp only [Magnitude.sixPlacesChars, List.mem_append, List.mem_cons, not_or]
  refine ⟨?_, by decide, ?_, ?_⟩
  · exact (allDigits_toDigits (m.millionths / 1000000)).not_mem rfl
  · exact (allDigits_zeros _).not_mem rfl
  · exact (allDigits_toDigits (m.millionths % 1000000)).not_mem rfl

theorem colon_not_mem_signChars (negative : Bool) : ':' ∉ Binary64.signChars negative := by
  cases negative <;> decide

theorem colon_not_mem_signedText (x : Sample) : ':' ∉ x.signedText.toList := by
  cases x with
  | gauge x =>
    rw [Sample.signedText, Binary64.sixPlaces, String.toList_ofList]
    cases x with
    | finite s m =>
      rw [Binary64.chars, List.mem_append, not_or]
      exact ⟨colon_not_mem_signChars s, colon_not_mem_sixPlacesChars m⟩
    | infinite s => cases s <;> decide
    | nan => decide
  | counter d => exact not_mem_toString_int rfl (by decide) d.toInt

theorem colon_not_mem_name (kind : Kind) : ':' ∉ kind.name.toList := by
  cases kind <;> decide

/-- What stands behind the last mark is told apart from what stands before it. -/
theorem append_mark_inj {α : Type} {mark : α} {before before' after after' : List α}
    (none : mark ∉ after) (none' : mark ∉ after')
    (h : before ++ mark :: after = before' ++ mark :: after') : before = before' ∧ after = after' := by
  rcases List.append_eq_append_iff.1 h with ⟨more, rfl, rest⟩ | ⟨more, rfl, rest⟩
  -- If one front were longer, the mark after the other front would be in the back.
  · cases more with
    | nil => simpa using rest
    | cons c more =>
      obtain ⟨-, rfl⟩ := List.cons.inj rest
      exact absurd (List.mem_append_right more List.mem_cons_self) none
  · cases more with
    | nil => simpa [eq_comm] using rest
    | cons c more =>
      obtain ⟨-, rfl⟩ := List.cons.inj rest
      exact absurd (List.mem_append_right more List.mem_cons_self) none'

theorem Sample.alike_iff {x y : Sample} :
    x.Alike y ↔ x.kind = y.kind ∧ x.signedText = y.signedText := by
  cases x with
  | gauge x =>
    cases y with
    | gauge y => simp [Alike, kind, signedText]
    | counter e => simp [Alike, kind]
  | counter d =>
    cases y with
    | gauge y => simp [Alike, kind]
    | counter e =>
      simp only [Alike, kind, signedText, toString_int_inj, true_and]
      exact Int64.toInt_inj.symm

namespace Sync.Key

variable {key : Key} {id id' : String} {x y : Sample}

theorem toList_canonical (id : String) (x : Sample) :
    (canonical id x).toList =
      (id.toList ++ ':' :: x.kind.name.toList) ++ ':' :: x.signedText.toList := by
  cases x with
  | gauge x =>
    rw [canonical, String.toList_append, String.toList_append]
    simp [Sample.kind, Kind.name, Sample.signedText]
  | counter d =>
    rw [canonical, String.toList_append, String.toList_append]
    simp [Sample.kind, Kind.name, Sample.signedText]

/-- **A canonical text has one reading.** -/
theorem canonical_inj : canonical id x = canonical id' y ↔ id = id' ∧ x.Alike y := by
  rw [Sample.alike_iff, ← String.toList_inj, toList_canonical, toList_canonical]
  constructor
  · intro same
    obtain ⟨front, number⟩ :=
      append_mark_inj (colon_not_mem_signedText x) (colon_not_mem_signedText y) same
    obtain ⟨name, kind⟩ := append_mark_inj (colon_not_mem_name x.kind) (colon_not_mem_name y.kind) front
    exact ⟨String.toList_inj.1 name, Kind.name_inj.1 (String.toList_inj.1 kind),
      String.toList_inj.1 number⟩
  · rintro ⟨rfl, kind, number⟩
    rw [kind, number]

/-! ## Hashes -/

/-- The bytes that are signed for a metric. -/
def message (id : String) (x : Sample) : Text.Bytes :=
  Text.Utf8.encode (canonical id x)

/-- Two different messages have one digest. -/
def Collide (key : Key) (m n : Text.Bytes) : Prop :=
  m ≠ n ∧ Digest.hmac key.secret m = Digest.hmac key.secret n

theorem digest_inj (apart : ¬ key.Collide (message id x) (message id' y)) :
    key.digest id x = key.digest id' y ↔ id = id' ∧ x.Alike y := by
  rw [← canonical_inj]
  constructor
  · intro same
    refine Text.Utf8.encode_inj (Decidable.byContradiction fun differ => ?_)
    exact apart ⟨differ, same⟩
  · intro same
    rw [digest, digest, same]

theorem sign_inj : key.sign id x = key.sign id' y ↔ key.digest id x = key.digest id' y := by
  constructor
  · intro same
    exact Text.Hex.encodeChars_inj (String.ofList_injective same)
  · intro same
    rw [sign, sign, same]

theorem toList_toLower (s : String) : s.toLower.toList = s.toList.map Char.toLower :=
  String.toList_map

/-- A text verifies when it is the hash but for blanks around it and the case of letters. -/
theorem verify_iff {hash : String} :
    key.verify id x hash = true ↔ (Text.trim hash).toLower = key.sign id x := by
  have lower : (Text.trim hash).toLower.toList = (Text.trimChars hash.toList).map Char.toLower := by
    rw [toList_toLower, Text.trim, String.toList_ofList]
  rw [← String.toList_inj, lower, sign, Text.Hex.encode, String.toList_ofList,
    ← Text.Hex.decode?_eq_some_iff, verify]
  cases Text.Hex.decode? (Text.trimChars hash.toList) with
  | none => simp
  | some bytes => simp

theorem trim_sign : (Text.trim (key.sign id x)).toLower = key.sign id x := by
  rw [← String.toList_inj, toList_toLower, Text.trim, String.toList_ofList, sign,
    Text.Hex.encode, String.toList_ofList, Text.Hex.trimChars_encodeChars, Text.Hex.lower_encodeChars]

/-- The hash of one value is right for another value of the same digest, and no other. -/
theorem verify_sign : key.verify id' y (key.sign id x) = true ↔ key.digest id' y = key.digest id x := by
  rw [verify_iff, trim_sign, sign_inj, eq_comm]

/-- **A hash is good for no other metric.** A text verifies for a metric when it is the metric's
hash but for blanks and case. If the canonical texts of two metrics do not collide, their hashes
are the same, and the hash of one verifies for the other, exactly when the name is the same
and the values are of one kind and written alike. -/
theorem hash_for_no_other (apart : ¬ key.Collide (message id x) (message id' y)) :
    (∀ hash, key.verify id' y hash = true ↔ (Text.trim hash).toLower = key.sign id' y) ∧
      (key.sign id x = key.sign id' y ↔ id = id' ∧ x.Alike y) ∧
      ∀ hash, (Text.trim hash).toLower = key.sign id x →
        (key.verify id' y hash = true ↔ id = id' ∧ x.Alike y) := by
  have same : key.sign id x = key.sign id' y ↔ id = id' ∧ x.Alike y :=
    sign_inj.trans (digest_inj apart)
  refine ⟨fun hash => verify_iff, same, fun hash own => ?_⟩
  rw [verify_iff, own]
  exact same

/-- The counter `load:gauge:1.000000` imitates the gauge `load`, and has another hash. -/
theorem hash_of_imitation :
    let key : Key := ⟨[107], by decide⟩
    let one : Binary64 := .finite false ⟨4503599627370496, 1022, by decide, by decide, by decide⟩
    ¬ key.Collide (message "load:gauge:1.000000" (.counter 5)) (message "load" (.gauge one)) ∧
      key.sign "load:gauge:1.000000" (.counter 5) ≠ key.sign "load" (.gauge one) := by
  intro key one
  have apart : ¬ key.Collide (message "load:gauge:1.000000" (.counter 5)) (message "load" (.gauge one)) := by
    intro collide
    have differ : key.digest "load:gauge:1.000000" (.counter 5) ≠ key.digest "load" (.gauge one) := by
      decide +kernel
    exact differ collide.2
  obtain ⟨-, same, -⟩ := hash_for_no_other apart
  refine ⟨apart, fun equal => ?_⟩
  obtain ⟨name, -⟩ := same.1 equal
  exact absurd name (by decide)

end Sync.Key

end Telemetry
