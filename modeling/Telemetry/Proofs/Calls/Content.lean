/-
What a call to a snapshot file does with the file, whatever is in it.

A file that can be written has some text or is missing, and a call depends on nothing else of
the disk: its answer and the text that it leaves are functions of the text that it finds
(`effect`, `run_effect`). Three things can come of a text. It cannot be parsed, and every
call fails that looks at it; it holds no metric, which only fails when all metrics are
asked for; or it stands for a snapshot on which the call acts. A file that is missing stands for
the empty snapshot, but it has no metrics to give either.
-/
import Telemetry.Proofs.Calls.File
import Telemetry.Proofs.Crash.Steps
import Telemetry.Proofs.Flush.File

namespace Telemetry

namespace Backend.Call

/-- The call asks for metrics. -/
def isRead : Call → Bool
  | .get _ | .getTyped _ _ | .getMetrics => true
  | .put _ _ | .putMetrics _ | .restore _ => false

/-- The call adds to the metrics that are there. -/
def isMerge : Call → Bool
  | .put _ _ | .putMetrics _ => true
  | .restore _ | .get _ | .getTyped _ _ | .getMetrics => false

/-- The call looks at the file: every call does but a restore, which replaces it. -/
def looks : Call → Bool
  | .restore _ => false
  | .put _ _ | .putMetrics _ | .get _ | .getTyped _ _ | .getMetrics => true

theorem looks_of_merge {c : Call} (merge : c.isMerge = true) : c.looks = true := by
  cases c <;> first | rfl | cases merge

end Backend.Call

namespace SnapshotFile

open Backend (Call Returned)

variable {f : SnapshotFile} {h : Host} {text : Option Text.Bytes} {b : Text.Bytes} {c : Call}
  {s t : Snapshot}

/-- The turn of a call at a text, or without a file. -/
def turnAt (f : SnapshotFile) (c : Call) : Option Text.Bytes → Turn
  | none => f.turn c none
  | some b =>
    match parse b with
    | .ok s => f.turn c (some s)
    | .error fault =>
      if c.looks then .discard "unparseable" (.badSnapshot (.unparsable f.path fault)) else f.turn c none

/-- The answer of a turn, and the text that it leaves. -/
def Turn.leave (f : SnapshotFile) (text : Option Text.Bytes) : Turn → Outcome Returned × Option Text.Bytes
  | .answer x => (x, text)
  | .discard _ e => (.error e, text.bind f.discarded)
  | .write s => ((taken text s).1.map fun _ => .nothing, (taken text s).2)

/-- The answer of a call, and the text that it leaves. -/
def effect (f : SnapshotFile) (text : Option Text.Bytes) (c : Call) : Outcome Returned × Option Text.Bytes :=
  (f.turnAt c text).leave f text

theorem begin_turnAt (keeps : f.Keeps text h.disk) (c : Call) : f.begin h.disk c = f.turnAt c text := by
  have there := keeps.read
  cases text with
  | none =>
    have missing : h.disk.read f.path = .error .missing := there
    cases c <;> first | rfl | simp only [begin, missing, turnAt]
  | some b =>
    have holds : h.disk.read f.path = .ok b := there
    cases parsed : parse b <;> cases c <;>
      simp only [begin, holds, turnAt, parsed, Call.looks, if_true, Bool.false_eq_true, if_false, turn]

/-- Without a file nothing is found to be of no use. -/
theorem turnAt_none (c : Call) (reason : String) (e : Failure) : f.turnAt c none ≠ .discard reason e := by
  have written {x : Outcome Snapshot} : Turn.ofOutcome x ≠ .discard reason e := by
    cases x <;> exact Turn.noConfusion
  cases c with
  | put name x => exact written
  | putMetrics batch => exact written
  | restore t => exact Turn.noConfusion
  | get name => exact Turn.noConfusion
  | getTyped kind name => exact Turn.noConfusion
  | getMetrics => exact Turn.noConfusion

/-- **A call depends on the text of the file, and leaves another.** -/
theorem run_effect (keeps : f.Keeps text h.disk) (c : Call) :
    (c.run ⟨.file f, h⟩).1 = (f.effect text c).1 ∧ (c.run ⟨.file f, h⟩).2.backend = .file f ∧
      f.Keeps (f.effect text c).2 (c.run ⟨.file f, h⟩).2.host.disk := by
  rw [run_conclude, begin_turnAt keeps c, effect]
  cases turn : f.turnAt c text with
  | answer x => exact ⟨rfl, rfl, keeps⟩
  | write s =>
    obtain ⟨gives, kept, -⟩ := write_taken keeps s
    exact ⟨congrArg (Except.map _) gives, rfl, kept⟩
  | discard reason e =>
    cases text with
    | none => exact absurd turn (turnAt_none c reason e)
    | some b => exact ⟨rfl, rfl, (discard_keeps keeps reason).1⟩

/-! ## What the effect is -/

/-- The call finds that the text is of no use, and removes the file. -/
def Removes (f : SnapshotFile) (text : Option Text.Bytes) (c : Call) : Prop :=
  f.removeBroken = true ∧ ∃ b, text = some b ∧
    (c.looks = true ∧ (∃ fault, parse b = .error fault) ∨ c = .getMetrics ∧ parse b = .ok .empty)

/-- The snapshot that a text stands for. A missing file stands for the empty one. -/
def StandsFor (text : Option Text.Bytes) (s : Snapshot) : Prop :=
  text = none ∧ s = .empty ∨ ∃ b, text = some b ∧ parse b = .ok s

theorem effect_unparsable {fault : Json.Fault} (broken : parse b = .error fault) (looks : c.looks = true) :
    f.effect (some b) c = (.error (.badSnapshot (.unparsable f.path fault)), f.discarded b) := by
  simp only [effect, turnAt, broken, looks, if_true, Turn.leave, Option.bind_some]

theorem effect_empty (none : parse b = .ok .empty) :
    f.effect (some b) .getMetrics = (.error (.badSnapshot (.empty f.path)), f.discarded b) := by
  simp only [effect, turnAt, none]
  rfl

theorem effect_removes (removes : f.Removes text c) :
    ∃ fault, f.effect text c = (.error (.badSnapshot fault), none) := by
  obtain ⟨broken, b, rfl, useless⟩ := removes
  have gone : f.discarded b = none := by rw [discarded, if_pos broken]
  rcases useless with ⟨looks, fault, unparsable⟩ | ⟨rfl, none⟩
  · exact ⟨_, by rw [effect_unparsable unparsable looks, gone]⟩
  · exact ⟨_, by rw [effect_empty none, gone]⟩

theorem leave_text {turn : Turn} (quiet : (∃ x, turn = .answer x) ∨
    (∃ s, turn = .write s) ∧ ∃ e, (turn.leave f text).1 = .error e) : (turn.leave f text).2 = text := by
  rcases quiet with ⟨x, rfl⟩ | ⟨⟨s, rfl⟩, e, failed⟩
  · rfl
  · simp only [Turn.leave, taken] at failed ⊢
    cases finite : s.checkFinite with
    | ok _ =>
      rw [finite] at failed
      cases failed
    | error e => rfl

/-- A turn at a snapshot gives an answer where the call asks for metrics, and else it may write.
Only where all metrics are asked for and there are none, the text is of no use. -/
theorem turn_cases (f : SnapshotFile) (c : Call) (s : Option Snapshot) :
    (∃ x, f.turn c s = .answer x) ∨ (c.isRead = false ∧ ∃ t, f.turn c s = .write t) ∨
      c = .getMetrics ∧ s = some .empty := by
  have outcome (x : Outcome Snapshot) :
      (∃ y, Turn.ofOutcome x = .answer y) ∨ ∃ t, Turn.ofOutcome x = .write t := by
    cases x with
    | ok t => exact .inr ⟨t, rfl⟩
    | error e => exact .inl ⟨.error e, rfl⟩
  cases c with
  | put name x => exact (outcome _).imp_right fun writes => .inl ⟨rfl, writes⟩
  | putMetrics batch => exact (outcome _).imp_right fun writes => .inl ⟨rfl, writes⟩
  | restore t => exact .inr (.inl ⟨rfl, t, rfl⟩)
  | get name => exact .inl ⟨_, rfl⟩
  | getTyped kind name => exact .inl ⟨_, rfl⟩
  | getMetrics =>
    cases s with
    | none => exact .inl ⟨_, rfl⟩
    | some s =>
      by_cases none : s.isEmpty = true
      · exact .inr (.inr ⟨rfl, congrArg some (Snapshot.isEmpty_iff.1 none)⟩)
      · exact .inl ⟨_, by rw [turn, if_neg none]⟩

/-- A read, and a call that fails, leaves the text that it does not remove. -/
theorem effect_leaves (stays : ¬ f.Removes text c)
    (quiet : c.isRead = true ∨ ∃ e, (f.effect text c).1 = .error e) : (f.effect text c).2 = text := by
  have left (b : Text.Bytes) (same : text = some b) (useless : c.looks = true ∧
      (∃ fault, parse b = .error fault) ∨ c = .getMetrics ∧ parse b = .ok .empty) :
      f.discarded b = some b :=
    if_neg fun broken => stays ⟨broken, b, same, useless⟩
  have atSnapshot (s : Option Snapshot) (turns : f.turnAt c text = f.turn c s)
      (some : ¬ (c = .getMetrics ∧ s = some .empty)) : (f.effect text c).2 = text := by
    rw [effect, turns] at quiet ⊢
    rcases turn_cases f c s with answers | ⟨write, writes⟩ | none
    · exact leave_text (.inl answers)
    · rw [write] at quiet
      exact leave_text (.inr ⟨writes, quiet.resolve_left Bool.false_ne_true⟩)
    · exact absurd none some
  cases text with
  | none => exact atSnapshot none rfl fun empty => nomatch empty.2
  | some b =>
    cases parsed : parse b with
    | error fault =>
      cases looks : c.looks with
      | true => rw [effect_unparsable parsed looks, left b rfl (.inl ⟨looks, fault, parsed⟩)]
      | false =>
        refine atSnapshot none ?_ fun empty => nomatch empty.2
        simp only [turnAt, parsed, looks, Bool.false_eq_true, if_false]
    | ok s =>
      by_cases none : c = .getMetrics ∧ s = .empty
      · obtain ⟨rfl, rfl⟩ := none
        rw [effect_empty parsed, left b rfl (.inr ⟨rfl, parsed⟩)]
      · refine atSnapshot (some s) ?_ fun empty => none ⟨empty.1, Option.some.inj empty.2⟩
        simp only [turnAt, parsed]

/-- A merge acts on the snapshot that the text stands for. -/
theorem effect_merge (merge : c.isMerge = true) (stands : StandsFor text s) :
    f.effect text c = ((c.on s).1, if (c.on s).1 = .ok .nothing then some (bytes (c.on s).2) else text) := by
  have finite : s.checkFinite = .ok () := by
    rcases stands with ⟨-, rfl⟩ | ⟨b, -, parsed⟩
    · rfl
    · exact Snapshot.finite_of_document parsed
  have turns : f.turnAt c text = f.turn c (some s) := by
    rcases stands with ⟨rfl, rfl⟩ | ⟨b, rfl, parsed⟩
    · cases c <;> first | rfl | cases merge
    · simp only [turnAt, parsed]
  have changes (change : Snapshot → Outcome Snapshot)
      (sound : ∀ t, change s = .ok t → t.checkFinite = .ok ()) :
      (Turn.ofOutcome (change s)).leave f text = ((Call.changing change s).1,
        if (Call.changing change s).1 = .ok .nothing then some (bytes (Call.changing change s).2)
        else text) := by
    cases result : change s with
    | error e => simp [Turn.ofOutcome, Turn.leave, Call.changing, result]
    | ok t => simp [Turn.ofOutcome, Turn.leave, Call.changing, result, taken, sound t result, Except.map]
  rw [effect, turns]
  cases c with
  | put name x =>
    exact changes (fun s => s.mergeSample name x) fun t => Snapshot.checkFinite_mergeSample finite
  | putMetrics batch =>
    exact changes (fun s => s.merge batch) fun t => Snapshot.checkFinite_mergeSamples finite
  | restore t => cases merge
  | get name => cases merge
  | getTyped kind name => cases merge
  | getMetrics => cases merge

theorem effect_getMetrics (f : SnapshotFile) (text : Option Text.Bytes) :
    (∃ b s, text = some b ∧ parse b = .ok s ∧ s.isEmpty = false ∧
      (f.effect text .getMetrics).1 = .ok (.metrics s)) ∨
    (∀ b s, text = some b → parse b = .ok s → s.isEmpty = true) ∧
      ∃ fault, (f.effect text .getMetrics).1 = .error (.badSnapshot fault) := by
  cases text with
  | none => exact .inr ⟨(fun b s there => nomatch there), .missing f.path, rfl⟩
  | some b =>
    cases parsed : parse b with
    | error fault =>
      refine .inr ⟨fun b' s there parsed' => ?_, _, congrArg Prod.fst (effect_unparsable parsed rfl)⟩
      obtain rfl := Option.some.inj there
      cases parsed.symm.trans parsed'
    | ok s =>
      cases none : s.isEmpty with
      | true =>
        obtain rfl := Snapshot.isEmpty_iff.1 none
        refine .inr ⟨fun b' t there parsed' => ?_, _, congrArg Prod.fst (effect_empty parsed)⟩
        obtain rfl := Option.some.inj there
        rw [← Except.ok.inj (parsed.symm.trans parsed')]
        rfl
      | false =>
        refine .inl ⟨b, s, rfl, parsed, none, ?_⟩
        simp only [effect, turnAt, parsed, turn, none, Bool.false_eq_true, if_false, Turn.leave]

/-! ## The rules -/

/-- **What becomes of a snapshot file depends on its text alone, whatever that is.** All metrics can be
had exactly from a text that is parsed as some metrics, with finite gauges; the others are corrupt
or empty. A call removes the file where that is wanted: any that looks at it when it cannot be
parsed, and one for all metrics when there are none. Otherwise a read, and every call that fails,
leaves the text as it was. Merges fail on what cannot be parsed, and else they act on the snapshot
that the text stands for, which is the empty one when there is no file. -/
theorem calls_by_content (keeps : f.Keeps text h.disk) :
    (∀ s, (Call.getMetrics.run ⟨.file f, h⟩).1 = .ok (.metrics s) ↔
      ∃ b, text = some b ∧ parse b = .ok s ∧ s.isEmpty = false) ∧
    (∀ s, (Call.getMetrics.run ⟨.file f, h⟩).1 = .ok (.metrics s) → s.checkFinite = .ok ()) ∧
    ((∀ s, (Call.getMetrics.run ⟨.file f, h⟩).1 ≠ .ok (.metrics s)) →
      ∃ fault, (Call.getMetrics.run ⟨.file f, h⟩).1 = .error (.badSnapshot fault)) ∧
    (Backend.ping ⟨.file f, h⟩).2 = ⟨.file f, h⟩ ∧
    ∀ c : Call, let done := c.run ⟨.file f, h⟩
      (f.Removes text c → (∃ fault, done.1 = .error (.badSnapshot fault)) ∧
        f.Keeps none done.2.host.disk) ∧
      (¬ f.Removes text c → (c.isRead = true ∨ ∃ e, done.1 = .error e) →
        f.Keeps text done.2.host.disk) ∧
      (c.isMerge = true →
        (∀ b fault, text = some b → parse b = .error fault →
          done.1 = .error (.badSnapshot (.unparsable f.path fault))) ∧
        ∀ s, StandsFor text s → done.1 = (c.on s).1 ∧
          (done.1 = .ok .nothing → f.Keeps (some (bytes (c.on s).2)) done.2.host.disk)) := by
  have all := (run_effect keeps .getMetrics).1
  have exact_iff (s : Snapshot) : (Call.getMetrics.run ⟨.file f, h⟩).1 = .ok (.metrics s) ↔
      ∃ b, text = some b ∧ parse b = .ok s ∧ s.isEmpty = false := by
    rw [all]
    rcases effect_getMetrics f text with ⟨b, t, rfl, parsed, some, gives⟩ | ⟨useless, fault, refused⟩
    · rw [gives]
      constructor
      · intro same
        obtain rfl := Returned.metrics.inj (Except.ok.inj same)
        exact ⟨b, rfl, parsed, some⟩
      · rintro ⟨b', there, parsed', -⟩
        obtain rfl := Option.some.inj there
        rw [Except.ok.inj (parsed.symm.trans parsed')]
    · rw [refused]
      refine iff_of_false (fun given => nomatch given) ?_
      rintro ⟨b, there, parsed, some⟩
      rw [useless b s there parsed] at some
      cases some
  refine ⟨exact_iff, fun s got => ?_, fun none => ?_, ?_, fun c => ?_⟩
  · obtain ⟨b, -, parsed, -⟩ := (exact_iff s).1 got
    exact Snapshot.finite_of_document parsed
  · rw [all] at none ⊢
    rcases effect_getMetrics f text with ⟨b, t, -, -, -, gives⟩ | ⟨-, fault, refused⟩
    · exact absurd gives (none t)
    · exact ⟨fault, refused⟩
  · simp only [Backend.ping, Backend.perform, SnapshotFile.ping, Action.run_bind, Host.look]
    cases h.disk.isDirectory f.directory with
    | error fault => rfl
    | ok directory => cases directory <;> rfl
  · intro done
    obtain ⟨answer, -, kept⟩ := run_effect keeps c
    refine ⟨fun removes => ?removed, fun stays quiet => ?left, fun merge => ⟨?refused, ?merged⟩⟩
    case removed =>
      obtain ⟨fault, effect⟩ := effect_removes removes
      rw [effect] at answer kept
      exact ⟨⟨fault, answer⟩, kept⟩
    case left =>
      rw [show done.1 = (f.effect text c).1 from answer] at quiet
      rw [effect_leaves stays quiet] at kept
      exact kept
    case refused =>
      rintro b fault rfl broken
      rw [effect_unparsable broken (Call.looks_of_merge merge)] at answer
      exact answer
    case merged =>
      intro s stands
      rw [effect_merge merge stands] at answer kept
      refine ⟨answer, fun accepted => ?_⟩
      rw [if_pos (show (c.on s).1 = .ok .nothing from answer.symm.trans accepted)] at kept
      exact kept

/-- A counter cannot be added to what is not understood, and the attempt removes it. -/
theorem calls_by_content_garbage :
    let garbage := Text.Utf8.encode "garbage"
    let f : SnapshotFile := ⟨"/metrics.json", true⟩
    let h : Host := ⟨⟨NameMap.empty.insert "/metrics.json" (.file garbage), "/home"⟩, []⟩
    let done := (Call.put "jobs" (.counter 1)).run ⟨.file f, h⟩
    f.Keeps (some garbage) h.disk ∧
      done.1 = .error (.badSnapshot (.unparsable "/metrics.json" .malformed)) ∧
      done.2.host.disk.read "/metrics.json" = .error .missing := by
  intro garbage f h done
  have holds : h.disk.read f.path = .ok garbage := by decide +kernel
  have broken : parse garbage = .error .malformed := by rfl
  have same : Disk.SameDirectories ⟨.empty, "/home"⟩ h.disk :=
    Disk.set_directories (l := "/metrics.json") (by decide) (by decide)
  have keeps : f.Keeps (some garbage) h.disk :=
    ⟨⟨writable_empty.temporary.of_directories same, writable_empty.path.of_directories same⟩, holds⟩
  obtain ⟨-, -, -, -, rules⟩ := calls_by_content keeps
  obtain ⟨removed, -, merge⟩ := rules (.put "jobs" (.counter 1))
  obtain ⟨-, gone⟩ := removed ⟨rfl, garbage, rfl, .inl ⟨rfl, .malformed, broken⟩⟩
  exact ⟨keeps, (merge rfl).1 garbage .malformed rfl broken, gone.read⟩

end SnapshotFile

end Telemetry
