/-
A whole run of a collector with a snapshot file, and what is in the file.

The collector starts from the file, if that is wanted, serves requests while its scheduler ticks, and
flushes a last time after the last response. At the end the file holds what was restored with the
writes that were accepted, in their order; with an interval of zero it does so after every
accepted write, and whatever else is asked leaves the file (`file_follows_writes`).
-/
import Telemetry.Proofs.Calls.File
import Telemetry.Proofs.Flush.File
import Telemetry.Proofs.Flush.Serving

namespace Telemetry

open Service

/-- The snapshot in a file; a file that is missing, or that cannot be parsed, counts as empty. -/
def SnapshotFile.held (f : SnapshotFile) (d : Disk) : Snapshot :=
  match d.read f.path with
  | .ok b => (parse b).toOption.getD .empty
  | .error _ => .empty

namespace Collector

/-- What can happen while a collector serves. -/
inductive Happening where
  | request (request : Request)
  | tick

/-- A tick of the interval, which only a scheduler has that runs and does not flush every write. -/
def tick (course : Option Course) (s : Collector) : Collector :=
  if course = some .running ∧ s.scheduler.all (!·.isSynchronous) then (onScheduler Flushing.tick s).2
  else s

/-- What happens one after another; the requests with their responses, and the collector then. -/
def pass (course : Option Course) : List Happening → Collector → List (Request × Response) × Collector
  | [], s => ([], s)
  | .request r :: rest, s =>
    let (response, s) := respond r s
    let (answers, s) := pass course rest s
    ((r, response) :: answers, s)
  | .tick :: rest, s => pass course rest (tick course s)

/-- A run with what happens in it, from its beginning to its end. -/
def runThrough (uptime task : Nat) (ending : Ending) (happenings : List Happening) (s : Collector) :
    List (Request × Response) × Collector :=
  let (course, s) := beginRun uptime s
  let (answers, s) := pass course happenings s
  (answers, (wrapUp task course (stopServing ending s)).2)

theorem runThrough_nil (uptime task : Nat) (ending : Ending) (s : Collector) :
    runThrough uptime task ending [] s = ([], runToEnd uptime task ending s) := rfl

/-- The snapshot with what the accepted writes carry, one after another. -/
def merged (codec : Sync.Codec) (s : Snapshot) (answers : List (Request × Response)) :
    Outcome Snapshot :=
  (answers.filter isAccepted).foldlM (fun s answer => s.afterRequest codec answer.1) s

/-! ## A collector that serves -/

variable {f : SnapshotFile} {codec : Sync.Codec} {interval : Interval} {s : Collector}
  {v w : View (Option Text.Bytes)}

/-- A collector whose scheduler runs beside a file. -/
structure Serves (f : SnapshotFile) (codec : Sync.Codec) (interval : Interval)
    (v : View (Option Text.Bytes)) (s : Collector) : Prop where
  seen : Seen (.file f) codec v s
  interval : v.interval = interval
  phase : v.phase = .running
  finite : v.live.snapshot.checkFinite = .ok ()

theorem Seen.file (seen : Seen (.file f) codec v s) : f.Keeps v.side s.host.disk := by
  obtain ⟨scheduler, -, shows⟩ := seen.scheduler
  exact shows.side.2

theorem afterRequest_finite {u t : Snapshot} {request : Request} (finite : u.checkFinite = .ok ())
    (after : u.afterRequest codec request = .ok t) : t.checkFinite = .ok () := by
  obtain ⟨l, -, merged⟩ := Except.bind_eq_ok.1 after
  exact Snapshot.checkFinite_mergeSamples finite merged

/-- **One request.** An accepted write is in the live store, and with an interval of zero in the file.
Any other request leaves both. -/
theorem Serves.respond (serves : Serves f codec interval v s) (request : Request) :
    if isAccepted (request, (respond request s).1) then
      ∃ w, v.live.snapshot.afterRequest codec request = .ok w.live.snapshot ∧
        Serves f codec interval w (respond request s).2 ∧
        (interval.isZero = true → w.side = some (SnapshotFile.bytes w.live.snapshot))
    else Serves f codec interval v (respond request s).2 := by
  have answered := respond_seen serves.seen request
  split at answered
  · obtain ⟨t, after, seen⟩ := answered
    rename_i accepted
    rw [if_pos accepted]
    have finite : (v.holding t).live.snapshot.checkFinite = .ok () :=
      afterRequest_finite serves.finite after
    refine ⟨(v.holding t).notice (.file f), ?_, ⟨seen, ?_, ?_, ?_⟩, fun zero => ?_⟩
    · rw [View.live_notice]
      exact after
    · rw [View.interval_notice]
      exact serves.interval
    · rw [View.phase_notice]
      exact serves.phase
    · rw [View.live_notice]
      exact finite
    · have due : (v.holding t).interval.isZero ∧ (v.holding t).phase = .running :=
        ⟨by rw [← zero, ← serves.interval]; rfl, serves.phase⟩
      rw [View.notice, if_pos due, View.copy_file finite]
  · rename_i refused
    rw [if_neg refused]
    exact { serves with seen := answered }

theorem Serves.tick (serves : Serves f codec interval v s) (course : Option Course) :
    ∃ w, w.live = v.live ∧ Serves f codec interval w (tick course s) := by
  unfold Collector.tick
  split
  · refine ⟨(v.copy (.file f)).2, View.live_copy _ v, (onScheduler_seen Flushing.tick_shows s serves.seen).2,
      ?_, ?_, ?_⟩
    · rw [View.interval_copy]
      exact serves.interval
    · rw [View.phase_copy]
      exact serves.phase
    · rw [View.live_copy]
      exact serves.finite
  · exact ⟨v, rfl, serves⟩

theorem merged_cons (codec : Sync.Codec) (u : Snapshot) (answer : Request × Response)
    (rest : List (Request × Response)) : merged codec u (answer :: rest) =
      if isAccepted answer then (do
        let t ← u.afterRequest codec answer.1
        merged codec t rest)
      else merged codec u rest := by
  unfold merged
  rw [List.filter_cons]
  split
  · exact List.foldlM_cons
  · rfl

theorem merged_concat (codec : Sync.Codec) (u : Snapshot) (answers : List (Request × Response))
    {answer : Request × Response} (accepted : isAccepted answer = true) :
    merged codec u (answers ++ [answer]) = (do
      let t ← merged codec u answers
      t.afterRequest codec answer.1) := by
  unfold merged
  rw [List.filter_append, List.filter_cons_of_pos accepted, List.foldlM_append]
  simp

/-- **Whatever happens**, the live store holds what it held at first, with what the accepted writes
carry. -/
theorem Serves.pass (course : Option Course) : ∀ (happenings : List Happening)
    {v : View (Option Text.Bytes)} {s : Collector}, Serves f codec interval v s →
      ∃ w, merged codec v.live.snapshot (pass course happenings s).1 = .ok w.live.snapshot ∧
        Serves f codec interval w (pass course happenings s).2
  | [], v, _, serves => ⟨v, rfl, serves⟩
  | .request r :: rest, v, s, serves => by
    have answered := serves.respond r
    simp only [Collector.pass, merged_cons]
    split at answered
    · obtain ⟨u, after, next, -⟩ := answered
      obtain ⟨w, all, last⟩ := next.pass course rest
      rename_i accepted
      rw [if_pos accepted, after]
      exact ⟨w, all, last⟩
    · rename_i refused
      rw [if_neg refused]
      exact answered.pass course rest
  | .tick :: rest, v, s, serves => by
    obtain ⟨u, same, next⟩ := serves.tick course
    obtain ⟨w, all, last⟩ := next.pass course rest
    rw [same] at all
    exact ⟨w, all, last⟩

/-- The snapshot that a collector starts with. -/
def restored (settings : CollectorSettings) (f : SnapshotFile) (d : Disk) : Snapshot :=
  if settings.restore then f.held d else .empty

theorem held_of_keeps {d : Disk} {text : Option Text.Bytes} (keeps : f.Keeps text d) :
    f.held d = (f.given text).1.toOption.getD .empty := by
  rw [SnapshotFile.held, keeps.read]
  cases text with
  | none => rfl
  | some b =>
    simp only [Option.elim_some, SnapshotFile.given]
    cases SnapshotFile.parse b with
    | error fault => rfl
    | ok t =>
      by_cases none : t.isEmpty = true
      · simp only [if_pos none]
        exact Snapshot.isEmpty_iff.1 none
      · simp only [if_neg none]
        rfl

theorem load_file (empty : v.live = .empty) :
    (v.load (.file f)).live.snapshot = (f.given v.side).1.toOption.getD .empty := by
  rw [View.load]
  cases given : (Durable.file f).get v.side with
  | mk x d =>
    have same : f.given v.side = (x, d) := given
    rw [same]
    cases x with
    | error e => exact congrArg Store.snapshot empty
    | ok t =>
      simp only [Except.toOption, Option.getD_some]
      split
      · rename_i none
        rw [Snapshot.isEmpty_iff.1 none]
        exact congrArg Store.snapshot empty
      · rfl

/-- A collector from settings that name a file starts with what is restored. -/
theorem ofSettings_serves {settings : CollectorSettings} {path : String} {h h' : Host}
    (noDatabase : settings.databaseSource = none) (named : settings.filePath = some path)
    (opened : SnapshotFile.establish path settings.removeBroken h = (.ok f, h'))
    (place : f.Writable h'.disk) :
    ∃ s v, ofSettings settings h = (.ok s, s.host) ∧
      Serves f (.ofSecret settings.key) settings.storeInterval v s ∧
      v.live.snapshot = restored settings f h'.disk := by
  obtain ⟨text, keeps⟩ := place.keeps
  let v : View (Option Text.Bytes) := ⟨.empty, text, settings.storeInterval, settings.restore, .stopped,
    false, h'.phases, h'.flushes⟩
  let first : Flushing := ⟨.memory .empty, .new (.file f) settings.storeInterval settings.restore, h'⟩
  have shows : Shows (.file f) v first := ⟨rfl, ⟨rfl, keeps⟩, rfl, rfl, rfl, rfl, rfl, rfl⟩
  have started := Flushing.start_shows first shows
  have live : (v.start (.file f)).live.snapshot = restored settings f h'.disk := by
    rw [restored, held_of_keeps keeps, View.start]
    split
    · exact load_file (v := v.enter .restoring) rfl
    · rfl
  have finite : (restored settings f h'.disk).checkFinite = .ok () := by
    rw [restored, held_of_keeps keeps]
    split
    · cases given : (f.given text).1 with
      | error e => rfl
      | ok t => exact SnapshotFile.given_finite given
    · rfl
  let s : Collector := ⟨first.start.2.live, some first.start.2.scheduler, .ofSecret settings.key, none,
    first.start.2.host⟩
  refine ⟨s, v.start (.file f), ?_, ⟨⟨⟨_, rfl, started⟩, rfl, rfl⟩, ?_, ?_, ?_⟩, live⟩
  · simp only [ofSettings, noDatabase, named, openFile, opened]
    rfl
  · exact View.interval_start _ v
  · exact View.phase_start _ v
  · rw [live]
    exact finite

theorem Serves.beginRun (serves : Serves f codec interval v s) {uptime : Nat}
    (shown : interval.overflows uptime = false) :
    (beginRun uptime s).1 = some .running ∧ Serves f codec interval v (beginRun uptime s).2 := by
  obtain ⟨⟨scheduler, scheduled, shows⟩, own, inbound⟩ := serves.seen
  have begun : v.begin (.file f) uptime false = (.running, v) := by
    rw [View.begin, View.entered_eq v (by rw [serves.phase]; decide), serves.interval, shown]
    split <;> rfl
  obtain ⟨gives, leaves⟩ := Flushing.begin_shows uptime false _ shows
  rw [begun] at gives leaves
  simp only [Collector.beginRun, scheduled, gives]
  exact ⟨rfl, { serves with seen := ⟨⟨_, rfl, leaves⟩, own, inbound⟩ }⟩

/-- At the end the file holds what is live. -/
theorem Serves.wrapUp (serves : Serves f codec interval v s) (task : Nat) (ending : Ending) :
    (wrapUp task (some .running) (stopServing ending s)).2.host.disk.read f.path =
      .ok (SnapshotFile.bytes v.live.snapshot) := by
  have stopped : Seen (.file f) codec v (stopServing ending s) := by
    cases ending with
    | signalled => exact (serves.seen.enter rfl rfl).enter rfl rfl
    | dropped => exact serves.seen.enter rfl rfl
  have drained := (onScheduler_seen Flushing.drain_shows _ stopped).2
  have read := drained.file.read
  rw [View.side_drain_file serves.finite] at read
  exact read

/-! ## The file -/

/-- **The file of a collector follows the accepted writes.** After a run it holds what was restored with
the accepted writes in their order. With an interval of zero it does so after each accepted
write. With any interval, whatever else is asked leaves it as it is. -/
theorem file_follows_writes {settings : CollectorSettings} {path : String} {h h' : Host} {uptime : Nat}
    (noDatabase : settings.databaseSource = none) (named : settings.filePath = some path)
    (opened : SnapshotFile.establish path settings.removeBroken h =
      (.ok ⟨path, settings.removeBroken⟩, h'))
    (place : SnapshotFile.Writable ⟨path, settings.removeBroken⟩ h'.disk)
    (shown : settings.storeInterval.overflows uptime = false) :
    ∃ s, (ofSettings settings h).1 = .ok s ∧ ∀ happenings : List Happening,
      let first := restored settings ⟨path, settings.removeBroken⟩ h'.disk
      let codec := Sync.Codec.ofSecret settings.key
      let begun := beginRun uptime s
      let served := pass begun.1 happenings begun.2
      (∃ t, merged codec first served.1 = .ok t ∧ ∀ task ending,
        (runThrough uptime task ending happenings s).2.host.disk.read path =
          .ok (SnapshotFile.bytes t)) ∧
      ∀ request,
        let answered := respond request served.2
        if isAccepted (request, answered.1) then settings.storeInterval.isZero = true →
          ∃ t, merged codec first (served.1 ++ [(request, answered.1)]) = .ok t ∧
            answered.2.host.disk.read path = .ok (SnapshotFile.bytes t)
        else answered.2.host.disk.read path = served.2.host.disk.read path := by
  obtain ⟨s, v, made, serves, live⟩ := ofSettings_serves noDatabase named opened place
  refine ⟨s, by rw [made], fun happenings => ?_⟩
  intro first codec begun served
  obtain ⟨running, begins⟩ := serves.beginRun shown
  have course : begun.1 = some .running := running
  obtain ⟨w, all, serving⟩ := begins.pass begun.1 happenings
  rw [live] at all
  refine ⟨⟨w.live.snapshot, all, fun task ending => ?_⟩, fun request => ?_⟩
  · have ended := serving.wrapUp task ending
    rw [← course] at ended
    exact ended
  · have answered := serving.respond request
    simp only
    split at answered
    · rename_i accepted
      obtain ⟨u, after, next, written⟩ := answered
      rw [if_pos accepted]
      refine fun zero => ⟨u.live.snapshot, ?_, ?_⟩
      · rw [merged_concat _ _ _ accepted, show merged codec first served.1 = _ from all]
        exact after
      · have read := next.seen.file.read
        rw [written zero] at read
        exact read
    · rename_i refused
      rw [if_neg refused]
      exact answered.seen.file.read.trans serving.seen.file.read.symm

/-- A counter written to a collector that flushes every write, beside a file that is missing at first. -/
theorem file_follows_counter :
    let settings : CollectorSettings :=
      ⟨"localhost:8080", 0, some "/metrics.json", true, false, none, none⟩
    let write : Request := ⟨"POST", "/update/counter/jobs/2", [], []⟩
    let jobs : Snapshot := ⟨.empty, NameMap.empty.insert "jobs" 2⟩
    ∃ s, (ofSettings settings ⟨⟨.empty, "/home"⟩, []⟩).1 = .ok s ∧
      merged .plain .empty [(write, (respond write (beginRun 0 s).2).1)] = .ok jobs ∧
      (respond write (beginRun 0 s).2).2.host.disk.read "/metrics.json" = .ok (SnapshotFile.bytes jobs) ∧
      (runThrough 0 0 .signalled [.request write, .tick] s).2.host.disk.read "/metrics.json" =
        .ok (SnapshotFile.bytes jobs) := by
  intro settings write jobs
  have opened : SnapshotFile.establish "/metrics.json" settings.removeBroken ⟨⟨.empty, "/home"⟩, []⟩ =
      (.ok ⟨"/metrics.json", settings.removeBroken⟩,
        ⟨⟨.empty, "/home"⟩, [.fileOpened "/metrics.json"]⟩) := rfl
  obtain ⟨s, made, follows⟩ := file_follows_writes (rfl : settings.databaseSource = none) rfl opened
    SnapshotFile.writable_empty (by decide : settings.storeInterval.overflows 0 = false)
  have answered : (ofSettings settings ⟨⟨.empty, "/home"⟩, []⟩).1.toOption.all (fun s =>
      isAccepted (write, (respond write (beginRun 0 s).2).1) ∧
        merged .plain .empty [(write, (respond write (beginRun 0 s).2).1)] = .ok jobs) = true := by
    decide +kernel
  rw [made] at answered
  obtain ⟨accepted, value⟩ := of_decide_eq_true answered
  have nothing : restored settings ⟨"/metrics.json", settings.removeBroken⟩ ⟨.empty, "/home"⟩ = .empty := by
    decide +kernel
  have keyless : Sync.Codec.ofSecret settings.key = .plain := rfl
  have served : (pass (beginRun 0 s).1 [.request write, .tick] (beginRun 0 s).2).1 =
      [(write, (respond write (beginRun 0 s).2).1)] := rfl
  refine ⟨s, made, value, ?_, ?_⟩
  · have now := (follows []).2 write
    simp only [pass, accepted, if_true, nothing, keyless, List.nil_append] at now
    obtain ⟨t, all, read⟩ := now (by decide)
    rw [← Except.ok.inj (all.symm.trans value)]
    exact read
  · obtain ⟨t, all, ended⟩ := (follows [.request write, .tick]).1
    simp only [nothing, keyless, served] at all
    rw [← Except.ok.inj (all.symm.trans value)]
    exact ended 0 .signalled

end Collector

end Telemetry
