/-
A snapshot file survives the process that writes it.

The file is missing or has all of a snapshot of finite gauges that was to be written, whatever
the process does and whenever it is killed: only the move of the sibling changes what is read
(`Sound.move`). Such a file is always read, so it is never removed as broken. What an earlier
process left in the sibling is written over before it is moved, so it changes nothing
(`Follows.move`).
-/
import Telemetry.Proofs.Crash.Sibling
import Telemetry.Proofs.Crash.Steps
import Telemetry.Proofs.Json.Range
import Telemetry.Proofs.SnapshotFile

namespace Telemetry.SnapshotFile

variable {path : String} {removeBroken : Bool} {f : SnapshotFile} {h h₀ : Host} {d : Disk}
  {handed : List Snapshot} {journal journal₀ : List Event}

/-- Nothing is at the path, or all of a snapshot of finite gauges that was handed over. -/
def Complete (path : String) (handed : List Snapshot) (d : Disk) : Prop :=
  d.read path = .error .missing ∨
    ∃ s ∈ handed, s.checkFinite = .ok () ∧ d.read path = .ok (bytes s)

theorem Complete.append (content : Complete path handed d) (more : List Snapshot) :
    Complete path (handed ++ more) d :=
  content.imp_right fun ⟨s, mem, written⟩ => ⟨s, List.mem_append_left _ mem, written⟩

theorem Complete.of_read {d' : Disk} (content : Complete path handed d)
    (same : d'.read path = d.read path) : Complete path handed d' := by
  rw [Complete, same]
  exact content

theorem parse_finite {s : Snapshot} (finite : s.checkFinite = .ok ()) :
    parse (bytes s) = .ok s.reread :=
  parse_bytes_eq_ok.2 (Snapshot.reread_of_finite finite)

theorem begin_eq (content : Complete f.path handed d) (c : Backend.Call) :
    ∃ s, f.begin d c = f.turn c s := by
  rcases content with missing | ⟨s, -, finite, written⟩
  · refine ⟨none, ?_⟩
    cases c <;> first | rfl | simp only [begin, missing]
  · refine ⟨some s.reread, ?_⟩
    cases c <;> first | rfl | simp only [begin, written, parse_finite finite]

/-- No turn finds a file broken; that is found before. -/
theorem turn_discards {c : Backend.Call} {s : Option Snapshot} {reason : String} {e : Failure}
    (discards : f.turn c s = .discard reason e) : reason = "empty" := by
  have written {x : Outcome Snapshot} : Turn.ofOutcome x ≠ .discard reason e := by
    cases x <;> exact Turn.noConfusion
  cases c with
  | put name x => exact absurd discards written
  | putMetrics batch => exact absurd discards written
  | restore t => cases discards
  | get name => cases discards
  | getTyped kind name => cases discards
  | getMetrics =>
    cases s with
    | none => cases discards
    | some s =>
      rw [turn] at discards
      split at discards
      · cases discards
        rfl
      · cases discards

/-! ## Files that can be opened -/

/-- The file was opened on a disk with these directories. -/
structure Grounds (path : String) (d : Disk) : Prop where
  leads : d.Leads path
  parent : ∀ p, Path.parent? path = some p → p = "" ∨ d.isDirectory p = .ok true

theorem Grounds.of_directories {d' : Disk} (grounds : Grounds path d) (same : Disk.SameDirectories d d') :
    Grounds path d' where
  leads := grounds.leads.of_directories same
  parent p is := (grounds.parent p is).imp_right (Disk.isDirectory_of_keeps same.keeps)

/-- Opened once, a file is opened again and nothing is made. -/
theorem establish_again (grounds : Grounds path h.disk) (removeBroken : Bool) :
    establish path removeBroken h = (.ok ⟨path, removeBroken⟩, h.enter (.fileOpened path)) := by
  unfold establish
  cases is : Path.parent? path with
  | none => rfl
  | some p =>
    simp only [Disk.makePath_there (grounds.parent p is)]

theorem establish_cases (opened : establish path removeBroken h₀ = (.ok f, h)) :
    f.path = path ∧ ∀ p, Path.parent? path = some p → p = "" ∨ h.disk.isDirectory p = .ok true := by
  unfold establish at opened
  simp only at opened
  split at opened
  · rename_i none
    cases opened
    exact ⟨rfl, fun p is => absurd (none.symm.trans is) (by simp)⟩
  · rename_i p is
    split at opened
    · rename_i d made
      cases opened
      refine ⟨rfl, fun p' is' => ?_⟩
      obtain rfl : p = p' := Option.some.inj (is.symm.trans is')
      by_cases named : p = ""
      · exact .inl named
      · exact .inr (Disk.isDirectory_of_makePath named made)
    · cases opened

/-- A file that is missing when it is opened is at a place to which the path leads. -/
theorem grounds_of_missing (opened : establish path removeBroken h₀ = (.ok f, h))
    (missing : h.disk.read path = .error .missing) : Grounds path h.disk := by
  obtain ⟨-, parent⟩ := establish_cases opened
  refine ⟨?_, parent⟩
  by_cases named : path = ""
  · exact .inl named
  · have found := Disk.resolve_of_parent named fun p is some => (parent p is).resolve_left some
    cases leads : h.disk.resolve path with
    | ok t => exact .inr ⟨t, leads⟩
    | error fault =>
      rw [Disk.read, leads, Except.error_bind] at missing
      cases missing
      exact absurd leads found

/-! ## What every step keeps -/

/-- No file was removed as broken since. -/
def Unbroken (journal₀ journal : List Event) : Prop :=
  ∀ file, Event.brokenRemoved file "unparseable" ∈ journal →
    Event.brokenRemoved file "unparseable" ∈ journal₀

theorem Unbroken.enter {e : Event} (unbroken : Unbroken journal₀ journal)
    (other : ∀ file, e ≠ .brokenRemoved file "unparseable") : Unbroken journal₀ (e :: journal) :=
  fun file mem => (List.mem_cons.1 mem).elim (fun same => absurd same.symm (other file)) (unbroken file)

namespace Process

variable {p : Process} {t : Turn}

/-- What stands between two steps: a snapshot that is written was handed over and is finite, and
when it is to be moved all of it is in the sibling. -/
def Staged (p : Process) : Prop :=
  match p.stage with
  | .unfit reason _ => reason = "empty"
  | .holding s => s ∈ p.handed ∧ s.checkFinite = .ok ()
  | .moving s =>
    s ∈ p.handed ∧ s.checkFinite = .ok () ∧ p.host.disk.HasFile p.file.temporary (bytes s)
  | _ => True

/-- The file is complete, and the process in order. -/
structure Sound (path : String) (h₀ : Host) (p : Process) : Prop where
  file : p.file.path = path
  directories : Disk.SameDirectories h₀.disk p.host.disk
  content : Complete path p.handed p.host.disk
  staged : p.Staged
  unbroken : Unbroken h₀.journal p.host.journal

namespace Sound

theorem answer (sound : Sound path h₀ p) (x : Outcome Backend.Returned) : Sound path h₀ (p.answer x) :=
  { sound with staged := trivial }

theorem down (sound : Sound path h₀ p) : Sound path h₀ { p with stage := .down } :=
  { sound with staged := trivial }

theorem take (sound : Sound path h₀ p) (empty : ∀ reason e, t = .discard reason e → reason = "empty") :
    Sound path h₀ (p.take t) := by
  cases t with
  | answer x => exact sound.answer x
  | discard reason e => exact { sound with staged := empty reason e rfl }
  | write s =>
    have handed : Complete path (p.handed ++ [s]) p.host.disk := sound.content.append [s]
    rw [Process.take]
    cases finite : s.checkFinite with
    | ok _ =>
      exact { sound with content := handed, staged := ⟨List.mem_append_right _ List.mem_cons_self, finite⟩ }
    | error e => exact { sound with content := handed, staged := trivial }

/-- A call that ends with a change of the host. -/
theorem ends (sound : Sound path h₀ p) {h' : Host} (x : Outcome Backend.Returned)
    (same : Disk.SameDirectories p.host.disk h'.disk) (content : Complete path p.handed h'.disk)
    (unbroken : Unbroken h₀.journal h'.journal) : Sound path h₀ ({ p with host := h' }.answer x) where
  file := sound.file
  directories := sound.directories.trans same
  content := content
  staged := trivial
  unbroken := unbroken

theorem discard (sound : Sound path h₀ p) (x : Outcome Backend.Returned) :
    Sound path h₀ ({ p with host := p.file.discard "empty" p.host }.answer x) := by
  unfold SnapshotFile.discard
  split
  · split
    · rename_i d removed
      obtain ⟨same, missing⟩ := Disk.remove_path removed
      refine sound.ends x same (.inl (sound.file ▸ missing)) (sound.unbroken.enter fun file => ?_)
      simp
    · exact sound.ends x (.refl _) sound.content (sound.unbroken.enter fun file => by simp)
  · exact sound.answer x

theorem step (grounds : Grounds path h₀.disk) (sound : Sound path h₀ p) : Sound path h₀ p.step := by
  have staged := sound.staged
  obtain rfl := sound.file
  have leads := (grounds.of_directories sound.directories).leads
  unfold Process.step
  unfold Staged at staged
  split
  · exact sound
  · exact sound
  · rename_i c _
    obtain ⟨s, turn⟩ := begin_eq sound.content c
    exact sound.take fun reason e discards => turn_discards (turn.symm.trans discards)
  · rename_i reason e stage
    simp only [stage] at staged
    rw [staged]
    exact sound.discard _
  · rename_i s stage
    simp only [stage] at staged
    split
    · rename_i d written
      obtain ⟨same, sibling, read⟩ := Disk.write_temporary leads written
      exact { sound with
        directories := sound.directories.trans same
        content := sound.content.of_read read
        staged := ⟨staged.1, staged.2, sibling⟩ }
    · exact sound.answer _
  · rename_i s stage
    simp only [stage] at staged
    split
    · rename_i d renamed
      obtain ⟨same, read⟩ := Disk.rename_temporary staged.2.2 renamed
      refine sound.ends _ same (.inr ⟨s, staged.1, staged.2.1, read⟩) (sound.unbroken.enter fun file => ?_)
      simp
    · exact sound.answer _

theorem torn (grounds : Grounds path h₀.disk) (sound : Sound path h₀ p) (length : Nat) :
    Disk.SameDirectories p.host.disk (p.torn length) ∧ (p.torn length).read path = p.host.disk.read path := by
  obtain rfl := sound.file
  have leads := (grounds.of_directories sound.directories).leads
  unfold Process.torn
  split
  · split
    · rename_i d written
      obtain ⟨same, -, read⟩ := Disk.write_temporary leads written
      exact ⟨same, read⟩
    · exact ⟨.refl _, rfl⟩
  · exact ⟨.refl _, rfl⟩

/-- **Whatever happens next, the file is complete.** -/
theorem move (grounds : Grounds path h₀.disk) (sound : Sound path h₀ p) (m : Move) :
    Sound path h₀ (p.move m) := by
  cases m with
  | call c =>
    simp only [Process.move]
    split
    · exact { sound with staged := trivial }
    · exact sound
  | step =>
    rw [move_step]
    exact sound.step grounds
  | kill => exact sound.down
  | tear length =>
    obtain ⟨same, read⟩ := sound.torn grounds length
    exact { sound with
      directories := sound.directories.trans same
      content := sound.content.of_read read
      staged := trivial }
  | start removeBroken =>
    have again := establish_again (grounds.of_directories sound.directories) removeBroken
    simp only [Process.move, sound.file, again]
    split
    · exact { sound with
        file := rfl
        staged := trivial
        unbroken := sound.unbroken.enter fun file => by simp }
    · exact sound

theorem run (grounds : Grounds path h₀.disk) (moves : List Move) (sound : Sound path h₀ p) :
    Sound path h₀ (p.run moves) := by
  induction moves generalizing p with
  | nil => exact sound
  | cons m rest ih => exact ih (sound.move grounds m)

end Sound

/-! ## What the sibling changes -/

/-- The process on another disk. -/
def on (p : Process) (d : Disk) : Process :=
  { p with host := { p.host with disk := d } }

/-- Another process does the same on a disk that differs in the sibling alone. -/
def Follows (l : Location) (path : String) (p q : Process) : Prop :=
  ∃ d, q = p.on d ∧ Disk.Beside l path p.host.disk d

variable {l : Location} {q : Process}

theorem Follows.of_beside {d : Disk} (beside : Disk.Beside l path p.host.disk d) :
    Follows l path p (p.on d) :=
  ⟨d, rfl, beside⟩

theorem take_on (p : Process) (t : Turn) (d : Disk) : (p.on d).take t = (p.take t).on d := by
  cases t with
  | write s =>
    simp only [take, on]
    cases s.checkFinite <;> rfl
  | _ => rfl

theorem take_disk (p : Process) (t : Turn) : (p.take t).host = p.host := by
  cases t with
  | write s =>
    simp only [take]
    cases s.checkFinite <;> rfl
  | _ => rfl

theorem begin_beside {d d' : Disk} (beside : Disk.Beside l f.path d d') (leads : d.Leads f.path)
    (c : Backend.Call) : f.begin d' c = f.begin d c := by
  cases c <;> simp only [begin, beside.read leads]

theorem Follows.step (grounds : Grounds path h₀.disk) (sound : Sound path h₀ p)
    (sound' : Sound path h₀ q) (follows : Follows l path p q) : Follows l path p.step q.step := by
  obtain ⟨d', rfl, beside⟩ := follows
  obtain rfl := sound.file
  have leads := (grounds.of_directories sound.directories).leads
  have staged := sound.staged
  have staged' := sound'.staged
  obtain ⟨⟨d, journal⟩, f, stage, answers, handed⟩ := p
  simp only [on] at *
  cases stage with
  | down => exact ⟨d', rfl, beside⟩
  | ready => exact ⟨d', rfl, beside⟩
  | asked c =>
    simp only [Process.step, begin_beside beside leads c]
    refine ⟨d', take_on ⟨⟨d, journal⟩, f, .asked c, answers, handed⟩ _ d', ?_⟩
    rw [take_disk]
    exact beside
  | unfit reason e =>
    simp only [Process.step, SnapshotFile.discard]
    have both := beside.remove leads
    split
    · generalize d.remove f.path = x at both
      generalize d'.remove f.path = x' at both
      cases both with
      | error fault => exact ⟨d', rfl, beside⟩
      | ok after => exact ⟨_, rfl, after⟩
    · exact ⟨d', rfl, beside⟩
  | holding s =>
    have both := beside.write (bytes s)
    simp only [Process.step, temporary]
    generalize d.write (Path.temporary f.path) (bytes s) = x at both
    generalize d'.write (Path.temporary f.path) (bytes s) = x' at both
    cases both with
    | error fault => exact ⟨d', rfl, beside⟩
    | ok after => exact ⟨_, rfl, after⟩
  | moving s =>
    have both := beside.rename leads staged.2.2 staged'.2.2
    simp only [Process.step, temporary]
    generalize d.rename (Path.temporary f.path) f.path = x at both
    generalize d'.rename (Path.temporary f.path) f.path = x' at both
    cases both with
    | error fault => exact ⟨d', rfl, beside⟩
    | ok after => exact ⟨_, rfl, after⟩

/-- **What is left in the sibling changes nothing that comes later.** -/
theorem Follows.move (grounds : Grounds path h₀.disk) (sound : Sound path h₀ p)
    (sound' : Sound path h₀ q) (follows : Follows l path p q) (m : Move) :
    Follows l path (p.move m) (q.move m) := by
  cases m with
  | step =>
    rw [move_step, move_step]
    exact follows.step grounds sound sound'
  | kill =>
    obtain ⟨d', rfl, beside⟩ := follows
    exact ⟨d', rfl, beside⟩
  | call c =>
    obtain ⟨d', rfl, beside⟩ := follows
    obtain ⟨host, f, stage, answers, handed⟩ := p
    cases stage <;> exact ⟨d', rfl, beside⟩
  | tear length =>
    obtain ⟨d', rfl, beside⟩ := follows
    obtain rfl := sound.file
    obtain ⟨⟨d, journal⟩, f, stage, answers, handed⟩ := p
    simp only [on] at *
    cases stage with
    | holding s =>
      have both := beside.write ((bytes s).take length)
      simp only [Process.move, Process.torn, temporary]
      generalize d.write (Path.temporary f.path) ((bytes s).take length) = x at both
      generalize d'.write (Path.temporary f.path) ((bytes s).take length) = x' at both
      cases both with
      | error fault => exact ⟨d', rfl, beside⟩
      | ok after => exact ⟨_, rfl, after⟩
    | _ => exact ⟨d', rfl, beside⟩
  | start removeBroken =>
    have again := establish_again (grounds.of_directories sound.directories) removeBroken
    have again' := establish_again (grounds.of_directories sound'.directories) removeBroken
    obtain ⟨d', rfl, beside⟩ := follows
    simp only [Process.move, sound.file, sound'.file, again, again']
    obtain ⟨host, f, stage, answers, handed⟩ := p
    cases stage <;> exact ⟨d', rfl, beside⟩

theorem Follows.run (grounds : Grounds path h₀.disk) (moves : List Move) (sound : Sound path h₀ p)
    (sound' : Sound path h₀ q) (follows : Follows l path p q) :
    Follows l path (p.run moves) (q.run moves) := by
  induction moves generalizing p q with
  | nil => exact follows
  | cons m rest ih =>
    exact ih (sound.move grounds m) (sound'.move grounds m) (follows.move grounds sound sound' m)

/-- The sibling has other bytes, or is gone, while it is not being moved. -/
def Leftover (p : Process) (d : Disk) : Prop :=
  (∀ s, p.stage ≠ .moving s) ∧
    ((∃ b, p.host.disk.write p.file.temporary b = .ok d) ∨ p.host.disk.remove p.file.temporary = .ok d)

theorem Sound.leftover (grounds : Grounds path h₀.disk) (sound : Sound path h₀ p)
    (left : p.Leftover d) : ∃ l, Follows l path p (p.on d) ∧ Sound path h₀ (p.on d) := by
  obtain ⟨still, changed⟩ := left
  obtain rfl := sound.file
  have leads := (grounds.of_directories sound.directories).leads
  obtain ⟨l, beside⟩ : ∃ l, Disk.Beside l p.file.path p.host.disk d :=
    changed.elim (fun ⟨_, written⟩ => Disk.beside_of_write written) Disk.beside_of_remove
  have staged : (p.on d).Staged := by
    have staged := sound.staged
    obtain ⟨host, f, stage, answers, handed⟩ := p
    cases stage with
    | moving s => exact absurd rfl (still s)
    | _ => exact staged
  exact ⟨l, .of_beside beside, { sound with
    directories := sound.directories.trans beside.same
    content := sound.content.of_read (beside.read leads)
    staged := staged }⟩

end Process

theorem opened_sound (same : f.path = path) (missing : h.disk.read path = .error .missing) :
    Process.Sound path h (.opened f h) where
  file := same
  directories := .refl _
  content := .inl missing
  staged := trivial
  unbroken := fun _ mem => mem

/-- **The process never makes its own file unreadable.** A file that is missing when it is opened
is, whatever calls are made and whenever the process is killed and started again, missing or all
of a snapshot of finite gauges that was to be written, and it is read with the same names, the
same counters and finite gauges. So none was ever removed as broken. A call that is let through
gives the answer that the backend gives, and leaves what the backend leaves. What is left in the
sibling changes no later answer, and nothing that is read. -/
theorem survives_kills (opened : establish path removeBroken h₀ = (.ok f, h))
    (missing : h.disk.read path = .error .missing) (moves : List Process.Move) :
    let p := (Process.opened f h).run moves
    (p.host.disk.read path = .error .missing ∨
      ∃ s ∈ p.handed, s.checkFinite = .ok () ∧ p.host.disk.read path = .ok (bytes s) ∧
        ∃ t, (∀ removeBroken, read ⟨path, removeBroken⟩ p.host = (.ok (some t), p.host)) ∧
          t.counters = s.counters ∧
          (∀ name, (t.gauges.get? name).isSome = (s.gauges.get? name).isSome) ∧
          t.checkFinite = .ok ()) ∧
    (∀ file, Event.brokenRemoved file "unparseable" ∈ p.host.journal →
      Event.brokenRemoved file "unparseable" ∈ h.journal) ∧
    (p.stage = .ready → p.file.path = path ∧ ∀ c, let q := p.run [.call c, .step, .step, .step]
      q.stage = .ready ∧ q.file = p.file ∧
        q.answers = p.answers ++ [(c.run ⟨.file p.file, p.host⟩).1] ∧
        (c.run ⟨.file p.file, p.host⟩).2 = ⟨.file p.file, q.host⟩) ∧
    ∀ d, p.Leftover d → ∀ later, ((p.on d).run later).answers = (p.run later).answers ∧
      ((p.on d).run later).host.disk.read path = (p.run later).host.disk.read path := by
  intro p
  have grounds := grounds_of_missing opened missing
  have sound : Process.Sound path h p :=
    (opened_sound (establish_cases opened).1 missing).run grounds moves
  refine ⟨?_, sound.unbroken, fun ready => ⟨sound.file, p.call_in_steps ready⟩,
    fun d left later => ?_⟩
  · rcases sound.content with missing | ⟨s, mem, finite, written⟩
    · exact .inl missing
    · have reads := Snapshot.reread_of_finite finite
      refine .inr ⟨s, mem, finite, written, s.reread, fun removeBroken => ?_, reads.counters,
        fun name => ?_, s.checkFinite_reread⟩
      · exact read_ok (f := ⟨path, removeBroken⟩) written reads
      · rw [Snapshot.reread, NameMap.get?_mapValues, Option.isSome_map]
  · obtain ⟨l, follows, sound'⟩ := sound.leftover grounds left
    obtain ⟨d', eq, beside⟩ := follows.run grounds later sound sound'
    rw [eq]
    have after := sound.run grounds later
    exact ⟨rfl, beside.read (grounds.of_directories after.directories).leads⟩

/-- A process is torn away while it writes, another before it moves what it wrote, and the third
writes its counter. -/
def Process.thrice : List Process.Move :=
  [.call (.put "Jobs" (.counter 3)), .step, .tear 5, .start true,
    .call (.put "Jobs" (.counter 4)), .step, .step, .kill, .start true,
    .call (.put "Jobs" (.counter 5)), .step, .step, .step]

theorem survives_kills_thrice :
    let f : SnapshotFile := ⟨"/metrics.json", true⟩
    let h := (Host.fresh "/home").enter (.fileOpened "/metrics.json")
    establish "/metrics.json" true (Host.fresh "/home") = (.ok f, h) ∧
      h.disk.read "/metrics.json" = .error .missing ∧
      ∃ p, p = (Process.opened f h).run Process.thrice ∧
        ∃ s ∈ p.handed, p.host.disk.read "/metrics.json" = .ok (bytes s) ∧
          ∃ t, f.read p.host = (.ok (some t), p.host) ∧ t.counters = s.counters := by
  intro f h
  have opened : establish "/metrics.json" true (Host.fresh "/home") = (.ok f, h) := by
    refine establish_again ⟨.inr ⟨⟨"/metrics.json", false⟩, by decide +kernel⟩, fun p is => .inr ?_⟩ true
    obtain rfl : "/" = p := Option.some.inj is
    decide +kernel
  have missing : h.disk.read "/metrics.json" = .error .missing := by decide +kernel
  have written : ((Process.opened f h).run Process.thrice).host.disk.read "/metrics.json" ≠
      .error .missing := by decide +kernel
  have survives := survives_kills opened missing Process.thrice
  refine ⟨opened, missing, _, rfl, ?_⟩
  generalize (Process.opened f h).run Process.thrice = p at written survives ⊢
  rcases survives.1 with none | ⟨s, mem, -, holds, t, reads, same, -⟩
  · exact absurd none written
  · exact ⟨s, mem, holds, t, reads true, same⟩

end Telemetry.SnapshotFile
