/-
Calls to a snapshot file, step by step.

A call reads the file, and then it answers, or removes the file, or has a snapshot to write
(`Turn`). Between two steps on the disk the process can be killed: it is down then, with what
is on the disk, until it is started again. Whatever a call does in one piece it does in these
steps, if it is let (`call_in_steps`).
-/
import Telemetry.Proofs.Calls

namespace Telemetry

namespace SnapshotFile

/-- What is left to do for a call when the file was read. -/
inductive Turn where
  | answer (answer : Outcome Backend.Returned)
  | discard (reason : String) (failure : Failure)
  | write (snapshot : Snapshot)

/-- A snapshot is to be written, or was refused. -/
def Turn.ofOutcome : Outcome Snapshot → Turn
  | .ok s => .write s
  | .error e => .answer (.error e)

/-- What a call makes of the snapshot that was read, if there was a file. -/
def turn (f : SnapshotFile) : Backend.Call → Option Snapshot → Turn
  | .put name x, s => .ofOutcome ((s.getD .empty).mergeSample name x)
  | .putMetrics batch, s => .ofOutcome ((s.getD .empty).merge batch)
  | .restore t, _ => .write t
  | .get name, s => .answer (((s.getD .empty).find none name).map .sample)
  | .getTyped kind name, s => .answer (((s.getD .empty).find (some kind) name).map .sample)
  | .getMetrics, none => .answer (.error (.badSnapshot (.missing f.path)))
  | .getMetrics, some s =>
    if s.isEmpty then .discard "empty" (.badSnapshot (.empty f.path)) else .answer (.ok (.metrics s))

/-- Reads the file for a call. A restore does not look at it. -/
def begin (f : SnapshotFile) (d : Disk) : Backend.Call → Turn
  | .restore t => .write t
  | c =>
    match d.read f.path with
    | .error .missing => f.turn c none
    | .error fault => .answer (.error (.badSnapshot (.unreadable f.path fault)))
    | .ok bytes =>
      match parse bytes with
      | .ok s => f.turn c (some s)
      | .error fault => .discard "unparseable" (.badSnapshot (.unparsable f.path fault))

/-- The turn taken in one piece. -/
def conclude (f : SnapshotFile) (h : Host) : Turn → Outcome Backend.Returned × Host
  | .answer x => (x, h)
  | .discard reason e => (.error e, f.discard reason h)
  | .write s => ((f.write s h).1.map fun _ => .nothing, (f.write s h).2)

/-! ## The process -/

/-- Where a process stands between two steps. -/
inductive Stage where
  | down
  | ready
  | asked (call : Backend.Call)
  | unfit (reason : String) (failure : Failure)
  | holding (snapshot : Snapshot)
  | moving (snapshot : Snapshot)

/-- A process with a snapshot file, the answers it gave, and the snapshots that it was to
write. -/
structure Process where
  host : Host
  file : SnapshotFile
  stage : Stage
  answers : List (Outcome Backend.Returned)
  handed : List Snapshot

namespace Process

/-- A process that has opened its file. -/
def opened (f : SnapshotFile) (h : Host) : Process :=
  ⟨h, f, .ready, [], []⟩

def answer (p : Process) (x : Outcome Backend.Returned) : Process :=
  { p with stage := .ready, answers := p.answers ++ [x] }

/-- A snapshot is checked before anything of it is written. -/
def take (p : Process) : Turn → Process
  | .answer x => p.answer x
  | .discard reason e => { p with stage := .unfit reason e }
  | .write s =>
    match s.checkFinite with
    | .ok _ => { p with stage := .holding s, handed := p.handed ++ [s] }
    | .error e => { p with handed := p.handed ++ [s] }.answer (.error e)

/-- The next step of a call, if there is one. -/
def step (p : Process) : Process :=
  match p.stage with
  | .down => p
  | .ready => p
  | .asked c => p.take (p.file.begin p.host.disk c)
  | .unfit reason e => { p with host := p.file.discard reason p.host }.answer (.error e)
  | .holding s =>
    match p.host.disk.write p.file.temporary (bytes s) with
    | .ok d => { p with host := { p.host with disk := d }, stage := .moving s }
    | .error fault => p.answer (.error (.file fault))
  | .moving s =>
    match p.host.disk.rename p.file.temporary p.file.path with
    | .ok d =>
      { p with host := { p.host with disk := d }.enter (.snapshotWritten p.file.path s.size) }.answer
        (.ok .nothing)
    | .error fault => p.answer (.error (.file fault))

/-- What can happen to a process. A call waits while another is on its way, and only a process
that is down can be started. A process that is torn away was writing the sibling, and some
bytes of it are there. -/
inductive Move where
  | call (call : Backend.Call)
  | step
  | kill
  | tear (length : Nat)
  | start (removeBroken : Bool)

/-- What is on the disk when the process stops in the middle of a write. -/
def torn (p : Process) (length : Nat) : Disk :=
  match p.stage with
  | .holding s =>
    match p.host.disk.write p.file.temporary ((bytes s).take length) with
    | .ok d => d
    | .error _ => p.host.disk
  | _ => p.host.disk

def move (p : Process) : Move → Process
  | .call c =>
    match p.stage with
    | .ready => { p with stage := .asked c }
    | _ => p
  | .step => p.step
  | .kill => { p with stage := .down }
  | .tear length => { p with host := { p.host with disk := p.torn length }, stage := .down }
  | .start removeBroken =>
    match p.stage with
    | .down =>
      match establish p.file.path removeBroken p.host with
      | (.ok f, h) => { p with host := h, file := f, stage := .ready }
      | (.error _, h) => { p with host := h }
    | _ => p

def run (p : Process) (moves : List Move) : Process :=
  moves.foldl move p

@[simp] theorem move_step (p : Process) : p.move .step = p.step := by
  simp only [move]

end Process

/-! ## Steps and calls -/

variable {f : SnapshotFile} {h : Host} {c : Backend.Call}

theorem read_conclude {look : Option Snapshot → Action Host Backend.Returned}
    (reads : ∀ t, c ≠ .restore t) (same : ∀ s, look s h = f.conclude h (f.turn c s)) :
    (f.read >>= look) h = f.conclude h (f.begin h.disk c) := by
  have begins : f.begin h.disk c = match h.disk.read f.path with
      | .error .missing => f.turn c none
      | .error fault => .answer (.error (.badSnapshot (.unreadable f.path fault)))
      | .ok bytes =>
        match parse bytes with
        | .ok s => f.turn c (some s)
        | .error fault => .discard "unparseable" (.badSnapshot (.unparsable f.path fault)) := by
    cases c <;> first | rfl | exact absurd rfl (reads _)
  rw [Action.run_bind, begins, SnapshotFile.read]
  cases h.disk.read f.path with
  | error fault => cases fault <;> first | rfl | exact same none
  | ok bytes =>
    simp only
    cases parse bytes with
    | error fault => rfl
    | ok s => exact same (some s)

theorem ofOutcome_conclude (x : Outcome Snapshot) :
    ((Action.ofOutcome x >>= f.write) >>= fun _ => pure Backend.Returned.nothing) h =
      f.conclude h (.ofOutcome x) := by
  cases x with
  | error e => rfl
  | ok s =>
    rw [Backend.map_run, Action.bind_ofOutcome_ok]
    rfl

/-- What a call does with the snapshot that is there, or with none. -/
theorem current_conclude {α : Type} {look : Snapshot → Action Host α} {g : α → Backend.Returned}
    (reads : ∀ t, c ≠ .restore t)
    (same : ∀ s : Option Snapshot,
      (look (s.getD .empty) >>= fun x => pure (g x)) h = f.conclude h (f.turn c s)) :
    ((f.current >>= look) >>= fun x => pure (g x)) h = f.conclude h (f.begin h.disk c) := by
  rw [SnapshotFile.current, Action.bind_assoc, Action.bind_assoc]
  exact read_conclude reads same

/-- **A call in one piece reads the file and takes its turn.** -/
theorem run_conclude (f : SnapshotFile) (h : Host) (c : Backend.Call) :
    c.run ⟨.file f, h⟩ = ((f.conclude h (f.begin h.disk c)).1,
      ⟨.file f, (f.conclude h (f.begin h.disk c)).2⟩) := by
  have onFile {α : Type} {operation : Operation} {onMemory : Store → Outcome (α × Store)}
      {onFile : SnapshotFile → Action Host α} {onSession : Action Session α} {g : α → Backend.Returned}
      (same : (onFile f >>= fun x => pure (g x)) h = f.conclude h (f.begin h.disk c)) :
      (Backend.perform operation onMemory onFile onSession >>= fun x => pure (g x)) ⟨.file f, h⟩ =
        ((f.conclude h (f.begin h.disk c)).1, ⟨.file f, (f.conclude h (f.begin h.disk c)).2⟩) := by
    rw [Backend.map_run] at same ⊢
    rw [← same]
    rfl
  cases c with
  | put name x =>
    exact onFile (current_conclude (fun _ => Backend.Call.noConfusion) fun s => ofOutcome_conclude _)
  | putMetrics batch =>
    exact onFile (current_conclude (fun _ => Backend.Call.noConfusion) fun s => ofOutcome_conclude _)
  | restore t =>
    refine onFile ?_
    rw [Backend.map_run]
    rfl
  | get name =>
    refine onFile (current_conclude (fun _ => Backend.Call.noConfusion) fun s => ?_)
    simp only [turn, conclude, Snapshot.find, Snapshot.found?]
    cases (s.getD .empty).get? .gauge name <;> cases (s.getD .empty).get? .counter name <;> rfl
  | getTyped kind name =>
    refine onFile (current_conclude (fun _ => Backend.Call.noConfusion) fun s => ?_)
    simp only [turn, conclude, Snapshot.find, Snapshot.found?]
    cases (s.getD .empty).get? kind name <;> rfl
  | getMetrics =>
    refine onFile ?_
    rw [SnapshotFile.getMetrics, Action.bind_assoc]
    refine read_conclude (fun _ => Backend.Call.noConfusion) fun s => ?_
    cases s with
    | none => rfl
    | some s =>
      simp only [turn]
      cases s.isEmpty <;> rfl

namespace Process

variable {p : Process}

/-- The process is ready again, and one more answer was given. -/
structure Answered (p q : Process) (x : Outcome Backend.Returned × Host) : Prop where
  stage : q.stage = .ready
  file : q.file = p.file
  answers : q.answers = p.answers ++ [x.1]
  host : q.host = x.2

theorem step_ready (ready : p.stage = .ready) : p.step = p := by
  rw [step, ready]

theorem Answered.step {q : Process} {x : Outcome Backend.Returned × Host} (done : Answered p q x) :
    Answered p q.step x := by
  rw [step_ready done.stage]
  exact done

theorem answered (p : Process) (x : Outcome Backend.Returned) (h : Host) (handed : List Snapshot) :
    Answered p ⟨h, p.file, .ready, p.answers ++ [x], handed⟩ (x, h) :=
  ⟨rfl, rfl, rfl, rfl⟩

/-- In two steps a turn is taken. -/
theorem take_conclude (p : Process) (t : Turn) :
    Answered p (p.take t).step.step (p.file.conclude p.host t) := by
  cases t with
  | answer x => exact (p.answered x p.host p.handed).step.step
  | discard reason e => exact (p.answered (.error e) (p.file.discard reason p.host) p.handed).step
  | write s =>
    simp only [take, conclude, SnapshotFile.write]
    cases s.checkFinite with
    | error e => exact (p.answered (.error e) p.host (p.handed ++ [s])).step.step
    | ok _ =>
      rw [Action.bind_ofOutcome_ok]
      rw [Action.run_bind]
      cases written : p.host.disk.write p.file.temporary (bytes s) with
      | error fault =>
        simp only [Host.change, step, written]
        exact p.answered (.error (.file fault)) p.host (p.handed ++ [s])
      | ok d =>
        simp only [Host.change, step, written]
        rw [Action.run_bind]
        simp only [Host.change]
        cases d.rename p.file.temporary p.file.path with
        | error fault => exact p.answered (.error (.file fault)) _ (p.handed ++ [s])
        | ok d' => exact p.answered (.ok .nothing) _ (p.handed ++ [s])

/-- **A call that is not disturbed does in three steps what it does in one piece**: it gives the
same answer and leaves the same host. -/
theorem call_in_steps (p : Process) (ready : p.stage = .ready) (c : Backend.Call) :
    let q := p.run [.call c, .step, .step, .step]
    q.stage = .ready ∧ q.file = p.file ∧ q.answers = p.answers ++ [(c.run ⟨.file p.file, p.host⟩).1] ∧
      (c.run ⟨.file p.file, p.host⟩).2 = ⟨.file p.file, q.host⟩ := by
  have asked : p.run [.call c, .step, .step, .step] =
      (p.take (p.file.begin p.host.disk c)).step.step := by
    simp only [run, List.foldl_cons, List.foldl_nil, move, ready]
    rfl
  have done := p.take_conclude (p.file.begin p.host.disk c)
  simp only [asked, run_conclude]
  exact ⟨done.stage, done.file, done.answers, by rw [done.host]⟩

end Process

end SnapshotFile

end Telemetry
