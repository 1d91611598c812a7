/-
Failures that are the input's.

A failure is the input's (`Failure.IsBad`) when it is answered 400. All that is checked on the way to
the contents fails in this way only (`BlamesInput`), and so does a write to the map that a table
represents.
-/
import Telemetry.Proofs.Batch
import Telemetry.Proofs.Ledger
import Telemetry.Service.Handler

namespace Telemetry

open Service

/-- The failure is answered 400: the input is at fault, and not what it asks for. -/
def Failure.IsBad (e : Failure) : Prop :=
  e.isClient = true ∧ ∀ kind name, e ≠ .notFound kind name

theorem Failure.IsBad.malformed (fault : Json.Fault) : (Failure.malformed fault).IsBad :=
  ⟨rfl, fun _ _ => nofun⟩

theorem Failure.IsBad.rejected (r : Rejection) : (Failure.rejected r).IsBad :=
  ⟨rfl, fun _ _ => nofun⟩

theorem Failure.IsBad.status {e : Failure} (bad : e.IsBad) : (Refusal.ofFailure e).status = 400 := by
  obtain ⟨client, found⟩ := bad
  cases e with
  | notFound kind name => exact absurd rfl (found kind name)
  | malformed fault => rfl
  | rejected r => rfl
  | unsupportedKind text => rfl
  | hashMismatch id => rfl
  | settings fault => cases client
  | badSnapshot fault => cases client
  | nothingToRestore => cases client
  | unavailable cause => cases client
  | undelivered cause => cases client
  | file fault => cases client
  | internal fault => cases client

/-- Whatever fails here is the input's fault. -/
def BlamesInput {α : Type} (x : Outcome α) : Prop :=
  ∀ e, x = .error e → e.IsBad

namespace BlamesInput

variable {α β : Type} {x : Outcome α} {f : α → Outcome β}

theorem ok (y : α) : BlamesInput (.ok y : Outcome α) :=
  fun _ => nofun

theorem error {e : Failure} (bad : e.IsBad) : BlamesInput (.error e : Outcome α) := by
  rintro _ ⟨⟩
  exact bad

theorem bind (first : BlamesInput x) (rest : ∀ y, BlamesInput (f y)) : BlamesInput (x >>= f) := by
  cases x with
  | error e => exact .error (first e rfl)
  | ok y => exact rest y

theorem map_iff {g : α → β} : BlamesInput (x.map g) ↔ BlamesInput x := by
  cases x with
  | error e => exact ⟨fun h => .error (h e rfl), fun h => .error (h e rfl)⟩
  | ok y => exact ⟨fun _ => .ok y, fun _ => .ok (g y)⟩

theorem map (h : BlamesInput x) (g : α → β) : BlamesInput (x.map g) :=
  map_iff.2 h

theorem malformed (y : Except Json.Fault α) : BlamesInput (y.mapError Failure.malformed) := by
  cases y with
  | error fault => exact .error (.malformed fault)
  | ok y => exact .ok y

theorem finiteGauge (name : String) (x : Binary64) : BlamesInput (Telemetry.finiteGauge name x) := by
  unfold Telemetry.finiteGauge
  split
  · exact .ok x
  · exact .error (.rejected _)

theorem checkedTotal (name : String) (total delta : Int64) :
    BlamesInput (Telemetry.checkedTotal name total delta) := by
  rw [checkedTotal_eq]
  split
  · exact .ok _
  · exact .error (.rejected _)

theorem parseKind (s : String) : BlamesInput (Kind.parse s) := by
  unfold Kind.parse
  cases Kind.ofName? s with
  | none => exact .error ⟨rfl, fun _ _ => nofun⟩
  | some k => exact .ok k

theorem parseSample (kind : Kind) (raw : String) : BlamesInput (Sample.parse kind raw) := by
  unfold Sample.parse
  cases kind with
  | gauge =>
    dsimp only
    split
    · exact .error (.rejected _)
    · exact (finiteGauge raw _).map _
  | counter =>
    dsimp only
    split
    · exact .error (.rejected _)
    · exact .ok _

theorem mergeSample (s : Snapshot) (name : String) (x : Sample) : BlamesInput (s.mergeSample name x) := by
  cases x with
  | gauge x => exact (finiteGauge name x).bind fun _ => .ok _
  | counter d => exact (checkedTotal name _ d).bind fun _ => .ok _

theorem mergeSamples : ∀ (l : List (String × Sample)) (s : Snapshot), BlamesInput (s.mergeSamples l)
  | [], s => .ok s
  | (name, x) :: rest, s => (mergeSample s name x).bind fun t => mergeSamples rest t

theorem sample (r : Record) : BlamesInput r.sample := by
  unfold Record.sample
  cases r.kind with
  | gauge => cases r.value with
    | some x => exact .ok _
    | none => exact .error (.rejected _)
  | counter => cases r.delta with
    | some d => exact .ok _
    | none => exact .error (.rejected _)

theorem validate (r : Record) : BlamesInput r.validate := by
  unfold Record.validate
  split
  · exact .error (.rejected _)
  · cases payload : r.sample with
    | error e => exact .error (sample r e payload)
    | ok x =>
      cases x with
      | gauge x => exact (finiteGauge r.id x).map _
      | counter d => exact .ok _

theorem fold (codec : Sync.Codec) (s : Snapshot) (r : Record) : BlamesInput (codec.fold s r) := by
  refine (validate r).bind fun x => ?_
  split
  · exact mergeSample s r.id x
  · exact .error ⟨rfl, fun _ _ => nofun⟩

theorem foldAll (codec : Sync.Codec) : ∀ (rs : List Record) (s : Snapshot), BlamesInput (codec.foldAll s rs)
  | [], s => .ok s
  | r :: rest, s => (fold codec s r).bind fun t => foldAll codec rest t

theorem write (m : Ledger) (name : String) (x : Sample) : BlamesInput (m.write name x) := by
  refine .map ?_ _
  cases x with
  | gauge x => exact (finiteGauge name x).map _
  | counter d => exact (checkedTotal name _ d).map _

theorem writeAll : ∀ (l : List (String × Sample)) (m : Ledger), BlamesInput (m.writeAll l)
  | [], m => .ok m
  | (name, x) :: rest, m => (write m name x).bind fun m => writeAll rest m

end BlamesInput

end Telemetry
