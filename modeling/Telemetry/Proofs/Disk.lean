/-
What a file replaced in one step leaves on the disk.

Where a path leads depends on the directories alone (`resolve_of_directories`), and
neither writing a file nor moving or removing one makes or removes a directory. So a file
that was written beside another and moved onto it is read at the other's path, and the
place can be written again (`replace_file`); so it can when the file was removed
(`remove_file`).
-/
import Telemetry.Disk
import Telemetry.Proofs.NameMap
import Telemetry.Proofs.Outcome

namespace Telemetry.Disk

variable {d d' : Disk} {l : Location} {n : Node} {path : String}

theorem node?_set (d : Disk) (l other : Location) (n : Node) (inside : l ≠ Location.root) :
    (d.set l n).node? other = if other = l then some n else d.node? other := by
  unfold node? set
  by_cases root : other = Location.root
  · simp [root, Ne.symm inside]
  · simp [root, NameMap.get?_insert]

theorem node?_unset (d : Disk) (l other : Location) (inside : l ≠ Location.root) :
    (d.unset l).node? other = if other = l then none else d.node? other := by
  unfold node? unset
  by_cases root : other = Location.root
  · simp [root, Ne.symm inside]
  · simp [root, NameMap.get?_erase]

theorem not_root (h : d.node? l ≠ some .directory) : l ≠ Location.root :=
  fun root => h (by simp [node?, root])

/-- The directories of a disk are on the other too, and paths start at the same place. -/
structure KeepsDirectories (d d' : Disk) : Prop where
  home : d'.home = d.home
  directory : ∀ {l}, d.node? l = some .directory → d'.node? l = some .directory

/-- The same directories are on both disks, and paths start at the same place. -/
structure SameDirectories (d d' : Disk) : Prop where
  home : d'.home = d.home
  directory : ∀ l, d'.node? l = some .directory ↔ d.node? l = some .directory

theorem SameDirectories.keeps (h : SameDirectories d d') : KeepsDirectories d d' :=
  ⟨h.home, fun there => (h.directory _).2 there⟩

theorem SameDirectories.refl (d : Disk) : SameDirectories d d :=
  ⟨rfl, fun _ => Iff.rfl⟩

theorem SameDirectories.trans {e : Disk} (h : SameDirectories d d') (h' : SameDirectories d' e) :
    SameDirectories d e :=
  ⟨h'.home.trans h.home, fun l => (h'.directory l).trans (h.directory l)⟩

theorem set_directories (file : d.node? l ≠ some .directory) (new : n ≠ .directory) :
    SameDirectories d (d.set l n) := by
  refine ⟨rfl, fun other => ?_⟩
  rw [node?_set d l other n (not_root file)]
  by_cases e : other = l
  · simp [e, file, new]
  · simp [e]

theorem unset_directories (file : d.node? l ≠ some .directory) : SameDirectories d (d.unset l) := by
  refine ⟨rfl, fun other => ?_⟩
  rw [node?_unset d l other (not_root file)]
  by_cases e : other = l
  · simp [e, file]
  · simp [e]

theorem descend_of_keeps (kept : KeepsDirectories d d') :
    ∀ {parts : List Path.Part} {l l' : Location}, d.descend l parts = .ok l' →
      d'.descend l parts = .ok l'
  | [], _, _, h => h
  | part :: rest, l, l', h => by
    unfold descend at h ⊢
    split at h
    · rename_i stay
      rw [if_pos stay]
      exact descend_of_keeps kept h
    · rename_i move
      rw [if_neg move]
      split at h
      · rename_i up
        rw [if_pos up]
        exact descend_of_keeps kept h
      · rename_i down
        rw [if_neg down]
        simp only [Except.bind_eq_ok] at h ⊢
        obtain ⟨u, named, h⟩ := h
        refine ⟨u, named, ?_⟩
        split at h
        · cases h
        · rename_i dir
          rw [kept.directory dir]
          exact descend_of_keeps kept h
        · cases h

theorem resolve_of_keeps (kept : KeepsDirectories d d') {t : Target}
    (h : d.resolve path = .ok t) : d'.resolve path = .ok t := by
  have origin : d'.origin path = d.origin path := by
    unfold Disk.origin
    rw [kept.home]
  unfold resolve at h ⊢
  split at h
  · cases h
  · rename_i sound
    rw [if_neg sound]
    split at h
    · cases h
    · rename_i some
      rw [if_neg some]
      simp only [origin] at h ⊢
      split at h
      · exact h
      · rename_i last before eq
        split at h
        · rename_i up
          simp only [if_pos up, Except.bind_eq_ok] at h ⊢
          obtain ⟨l, down, h⟩ := h
          exact ⟨l, descend_of_keeps kept down, h⟩
        · rename_i name
          simp only [if_neg name, Except.bind_eq_ok] at h ⊢
          obtain ⟨l, down, h⟩ := h
          exact ⟨l, descend_of_keeps kept down, h⟩

theorem resolve_of_directories (same : SameDirectories d d') {t : Target}
    (h : d.resolve path = .ok t) : d'.resolve path = .ok t :=
  resolve_of_keeps same.keeps h

/-! ## Files -/

/-- The path leads to a place for a file: no directory is there or has to be. -/
def IsFilePlace (d : Disk) (path : String) : Prop :=
  ∃ l, d.resolve path = .ok ⟨l, false⟩ ∧ d.node? l ≠ some .directory

theorem IsFilePlace.of_directories (same : SameDirectories d d') (h : d.IsFilePlace path) :
    d'.IsFilePlace path := by
  obtain ⟨l, leads, file⟩ := h
  exact ⟨l, resolve_of_directories same leads, fun dir => file ((same.directory l).1 dir)⟩

theorem write_file (h : d.IsFilePlace path) (content : Text.Bytes) :
    ∃ l, d.resolve path = .ok ⟨l, false⟩ ∧ d.node? l ≠ some .directory ∧
      d.write path content = .ok (d.set l (.file content)) := by
  obtain ⟨l, leads, file⟩ := h
  refine ⟨l, leads, file, ?_⟩
  rw [write, leads, Except.ok_bind]
  simp only [Bool.false_eq_true, if_false]
  split
  · exact absurd ‹_› file
  · rfl
  · rfl

/-- **A file is replaced in one step.** Written beside another and moved onto it, the new
file is read where the old one was, and the place is one for a file still. -/
theorem replace_file {temporary : String} (h : d.IsFilePlace temporary) (h' : d.IsFilePlace path)
    (content : Text.Bytes) :
    ∃ d₁ d₂, d.write temporary content = .ok d₁ ∧ d₁.rename temporary path = .ok d₂ ∧
      d₂.read path = .ok content ∧ SameDirectories d d₂ := by
  obtain ⟨l, leads, file, written⟩ := write_file h content
  have same₁ : SameDirectories d (d.set l (.file content)) := set_directories file (by simp)
  obtain ⟨l', leads', file'⟩ := h'.of_directories same₁
  have there : (d.set l (.file content)).node? l = some (.file content) := by
    rw [node?_set d l l _ (not_root file), if_pos rfl]
  have same₂ : SameDirectories (d.set l (.file content)) ((d.set l (.file content)).unset l) :=
    unset_directories (by simp [there])
  have file₂ : ((d.set l (.file content)).unset l).node? l' ≠ some .directory :=
    fun dir => file' ((same₂.directory l').1 dir)
  have same₃ := set_directories (n := .file content) file₂ (by simp)
  refine ⟨d.set l (.file content), ((d.set l (.file content)).unset l).set l' (.file content),
    written, ?_, ?_, (same₁.trans same₂).trans same₃⟩
  · rw [rename, resolve_of_directories same₁ leads, Except.ok_bind, leads', Except.ok_bind]
    simp only [there, Bool.false_eq_true, if_false]
  · rw [read, resolve_of_directories (same₂.trans same₃) leads', Except.ok_bind,
      node?_set _ _ _ _ (not_root file₂), if_pos rfl]
    simp

/-- A file that can be read can be removed, and its place is one for a file still. -/
theorem remove_file (h : d.IsFilePlace path) {content : Text.Bytes} (holds : d.read path = .ok content) :
    ∃ d', d.remove path = .ok d' ∧ d'.read path = .error .missing ∧ SameDirectories d d' := by
  obtain ⟨l, leads, file⟩ := h
  have same : SameDirectories d (d.unset l) := unset_directories file
  refine ⟨d.unset l, ?_, ?_, same⟩
  · rw [read, leads, Except.ok_bind] at holds
    rw [remove, leads, Except.ok_bind]
    cases here : d.node? l with
    | none => simp [here] at holds
    | some n =>
      cases n with
      | directory => exact absurd here file
      | file content => simp
      | database content => simp
  · rw [read, resolve_of_directories same leads, Except.ok_bind, node?_unset _ _ _ (not_root file),
      if_pos rfl]

end Telemetry.Disk
