/-
A file beside its sibling: what each change of the one leaves of the other.

The sibling leads elsewhere, so what is written there is not read at the path
(`read_write_sibling`), and two disks that differ in the sibling alone are read alike
(`Beside.read`). A change made on both leaves them so, or fails on both (`Beside.write`,
`Beside.rename`, `Beside.remove`).
-/
import Telemetry.Proofs.Paths

namespace Telemetry.Disk

variable {d d' : Disk} {path : String} {b : Text.Bytes}

theorem write_cases (written : d.write path b = .ok d') :
    ∃ l, d.resolve path = .ok ⟨l, false⟩ ∧ d.node? l ≠ some .directory ∧ d' = d.set l (.file b) := by
  obtain ⟨⟨l, asDirectory⟩, leads, set⟩ := Except.bind_eq_ok.1 written
  simp only at set
  cases asDirectory with
  | true => split at set <;> cases set
  | false =>
    refine ⟨l, leads, fun dir => ?_, ?_⟩
    · rw [dir] at set
      cases set
    · split at set <;> cases set <;> rfl

theorem remove_cases (removed : d.remove path = .ok d') :
    ∃ l, d.resolve path = .ok ⟨l, false⟩ ∧ d.node? l ≠ some .directory ∧ d' = d.unset l := by
  obtain ⟨⟨l, asDirectory⟩, leads, unset⟩ := Except.bind_eq_ok.1 removed
  simp only at unset
  cases asDirectory with
  | true => split at unset <;> cases unset
  | false =>
    refine ⟨l, leads, fun dir => ?_, ?_⟩
    · rw [dir] at unset
      cases unset
    · split at unset <;> cases unset
      rfl

theorem rename_cases {target : String} (renamed : d.rename path target = .ok d') :
    ∃ s l n, d.resolve path = .ok s ∧ d.node? s.location = some n ∧
      d.resolve target = .ok ⟨l, false⟩ ∧ d.node? l ≠ some .directory ∧
      d' = (d.unset s.location).set l n := by
  obtain ⟨s, leads, moved⟩ := Except.bind_eq_ok.1 renamed
  obtain ⟨⟨l, asDirectory⟩, leads', moved⟩ := Except.bind_eq_ok.1 moved
  simp only at moved
  split at moved
  · cases moved
  · rename_i n here
    cases asDirectory with
    | true => split at moved <;> cases moved
    | false =>
      refine ⟨s, l, n, leads, here, leads', fun dir => ?_, ?_⟩
      · rw [dir] at moved
        cases moved
      · split at moved <;> cases moved
        rfl

/-- The path leads somewhere; the empty path never does. -/
def Leads (d : Disk) (path : String) : Prop :=
  path = "" ∨ ∃ t, d.resolve path = .ok t

theorem Leads.of_directories (leads : d.Leads path) (same : SameDirectories d d') : d'.Leads path :=
  leads.imp_right fun ⟨t, leads⟩ => ⟨t, resolve_of_directories same leads⟩

theorem read_empty (d : Disk) : d.read "" = .error .missing := rfl

theorem read_congr (leads : d.Leads path) (same : SameDirectories d d')
    (node : ∀ t, d.resolve path = .ok t → d'.node? t.location = d.node? t.location) :
    d'.read path = d.read path := by
  rcases leads with rfl | ⟨t, leads⟩
  · rw [read_empty, read_empty]
  · rw [read, read, leads, resolve_of_directories same leads, Except.ok_bind, Except.ok_bind,
      node t leads]

/-- The file stands at the path. -/
def HasFile (d : Disk) (path : String) (b : Text.Bytes) : Prop :=
  ∃ l, d.resolve path = .ok ⟨l, false⟩ ∧ d.node? l = some (.file b)

theorem HasFile.read (file : d.HasFile path b) : d.read path = .ok b := by
  obtain ⟨l, leads, node⟩ := file
  rw [Disk.read, leads, Except.ok_bind]
  simp only [node, Bool.false_eq_true, if_false]

/-- What is written into the sibling is there, and is not read at the path. -/
theorem write_temporary (leads : d.Leads path) (written : d.write (Path.temporary path) b = .ok d') :
    SameDirectories d d' ∧ d'.HasFile (Path.temporary path) b ∧ d'.read path = d.read path := by
  obtain ⟨l, leads', file, rfl⟩ := write_cases written
  have same : SameDirectories d (d.set l (.file b)) := set_directories file (by simp)
  refine ⟨same, ⟨l, resolve_of_directories same leads', ?_⟩, read_congr leads same fun t leads => ?_⟩
  · rw [node?_set _ _ _ _ (not_root file), if_pos rfl]
  · rw [node?_set _ _ _ _ (not_root file), if_neg (temporary_apart leads leads').symm]

/-- The sibling that is moved onto the path is read there. -/
theorem rename_temporary (file : d.HasFile (Path.temporary path) b)
    (renamed : d.rename (Path.temporary path) path = .ok d') :
    SameDirectories d d' ∧ d'.read path = .ok b := by
  obtain ⟨s, l, n, leads, node, leads', target, rfl⟩ := rename_cases renamed
  obtain ⟨l', leads'', content⟩ := file
  obtain rfl : s = ⟨l', false⟩ := Except.ok.inj (leads.symm.trans leads'')
  obtain rfl : n = .file b := Option.some.inj (node.symm.trans content)
  have first : SameDirectories d (d.unset l') := unset_directories (by simp [content])
  have target' : (d.unset l').node? l ≠ some .directory := fun dir => target ((first.directory l).1 dir)
  have same := first.trans (set_directories target' (n := .file b) (by simp))
  refine ⟨same, HasFile.read ⟨l, resolve_of_directories same leads', ?_⟩⟩
  rw [node?_set _ _ _ _ (not_root target'), if_pos rfl]

theorem remove_path (removed : d.remove path = .ok d') :
    SameDirectories d d' ∧ d'.read path = .error .missing := by
  obtain ⟨l, leads, file, rfl⟩ := remove_cases removed
  have same := unset_directories file
  refine ⟨same, ?_⟩
  rw [read, resolve_of_directories same leads, Except.ok_bind, node?_unset _ _ _ (not_root file),
    if_pos rfl]

/-! ## Disks that differ in the sibling -/

/-- The disks are the same but for the file at a location, where the sibling stands if it does. -/
structure Beside (l : Location) (path : String) (d d' : Disk) : Prop where
  leads : d.resolve (Path.temporary path) = .ok ⟨l, false⟩
  file : d.node? l ≠ some .directory
  file' : d'.node? l ≠ some .directory
  home : d'.home = d.home
  others : ∀ other, other ≠ l → d'.node? other = d.node? other

/-- A change failed on both disks, or left them so. -/
inductive BothBeside (l : Location) (path : String) : Except FileFault Disk → Except FileFault Disk → Prop
  | error (fault : FileFault) : BothBeside l path (.error fault) (.error fault)
  | ok {d d' : Disk} (beside : Beside l path d d') : BothBeside l path (.ok d) (.ok d')

/-- A path that is spelled as a directory's cannot be changed on either. -/
theorem BothBeside.plain {l : Location} (asDirectory : Bool) (beside : Beside l path d d') :
    BothBeside l path (if asDirectory then .error .notDirectory else .ok d)
      (if asDirectory then .error .notDirectory else .ok d') := by
  cases asDirectory with
  | true => exact .error .notDirectory
  | false => exact .ok beside

namespace Beside

variable {l : Location}

theorem same (h : Beside l path d d') : SameDirectories d d' := by
  refine ⟨h.home, fun other => ?_⟩
  by_cases here : other = l
  · rw [here]
    exact iff_of_false h.file' h.file
  · rw [h.others other here]

theorem leads' (h : Beside l path d d') : d'.resolve (Path.temporary path) = .ok ⟨l, false⟩ :=
  resolve_of_directories h.same h.leads

theorem apart (h : Beside l path d d') {t : Target} (leads : d.resolve path = .ok t) : t.location ≠ l :=
  (temporary_apart leads h.leads).symm

theorem read (h : Beside l path d d') (leads : d.Leads path) : d'.read path = d.read path :=
  read_congr leads h.same fun _ leads => h.others _ (h.apart leads)

theorem of_changes {e e' : Disk} (h : Beside l path d d') (same : SameDirectories d e)
    (same' : SameDirectories d' e') (others : ∀ other, other ≠ l → e'.node? other = e.node? other) :
    Beside l path e e' where
  leads := resolve_of_directories same h.leads
  file dir := h.file ((same.directory l).1 dir)
  file' dir := h.file' ((same'.directory l).1 dir)
  home := by rw [same'.home, same.home, h.home]
  others := others

theorem set (h : Beside l path d d') {place : Location} (file : d.node? place ≠ some .directory)
    (b : Text.Bytes) : Beside l path (d.set place (.file b)) (d'.set place (.file b)) := by
  have file' : d'.node? place ≠ some .directory := fun dir => file ((h.same.directory place).1 dir)
  refine h.of_changes (set_directories file (by simp)) (set_directories file' (by simp))
    fun other ne => ?_
  rw [node?_set _ _ _ _ (not_root file'), node?_set _ _ _ _ (not_root file), h.others other ne]

theorem unset (h : Beside l path d d') {place : Location} (file : d.node? place ≠ some .directory) :
    Beside l path (d.unset place) (d'.unset place) := by
  have file' : d'.node? place ≠ some .directory := fun dir => file ((h.same.directory place).1 dir)
  refine h.of_changes (unset_directories file) (unset_directories file') fun other ne => ?_
  rw [node?_unset _ _ _ (not_root file'), node?_unset _ _ _ (not_root file), h.others other ne]

theorem write (h : Beside l path d d') (b : Text.Bytes) :
    BothBeside l path (d.write (Path.temporary path) b) (d'.write (Path.temporary path) b) := by
  obtain ⟨l₁, leads, -, written⟩ := write_file ⟨l, h.leads, h.file⟩ b
  obtain ⟨l₂, leads', -, written'⟩ := write_file ⟨l, h.leads', h.file'⟩ b
  obtain rfl : l = l₁ := congrArg Target.location (Except.ok.inj (h.leads.symm.trans leads))
  obtain rfl : l = l₂ := congrArg Target.location (Except.ok.inj (h.leads'.symm.trans leads'))
  rw [written, written']
  exact .ok (h.set h.file b)

theorem remove (h : Beside l path d d') (leads : d.Leads path) :
    BothBeside l path (d.remove path) (d'.remove path) := by
  rcases leads with rfl | ⟨⟨place, asDirectory⟩, leads⟩
  · exact .error .missing
  have apart := h.apart leads
  rw [Disk.remove, Disk.remove, leads, resolve_of_directories h.same leads, Except.ok_bind,
    Except.ok_bind, h.others _ apart]
  cases node : d.node? place with
  | none => exact .error .missing
  | some n =>
    have removed (other : n ≠ .directory) : Beside l path (d.unset place) (d'.unset place) :=
      h.unset fun dir => other (Option.some.inj (node.symm.trans dir))
    cases n with
    | directory => exact .error .isDirectory
    | file content => exact .plain asDirectory (removed (by simp))
    | database content => exact .plain asDirectory (removed (by simp))

/-- The siblings that are moved have to be the same. -/
theorem rename (h : Beside l path d d') (leads : d.Leads path)
    (file : d.HasFile (Path.temporary path) b) (file' : d'.HasFile (Path.temporary path) b) :
    BothBeside l path (d.rename (Path.temporary path) path) (d'.rename (Path.temporary path) path) := by
  have stands {d : Disk} (leads : d.resolve (Path.temporary path) = .ok ⟨l, false⟩)
      (file : d.HasFile (Path.temporary path) b) : d.node? l = some (.file b) := by
    obtain ⟨place, leads', node⟩ := file
    rw [show l = place from congrArg Target.location (Except.ok.inj (leads.symm.trans leads'))]
    exact node
  rw [Disk.rename, Disk.rename, h.leads, h.leads', Except.ok_bind, Except.ok_bind]
  rcases leads with rfl | ⟨⟨place, asDirectory⟩, leads⟩
  · exact .error .missing
  have apart := h.apart leads
  rw [leads, resolve_of_directories h.same leads, Except.ok_bind, Except.ok_bind]
  simp only [stands h.leads file, stands h.leads' file', h.others _ apart]
  have moved (other : d.node? place ≠ some .directory) :
      Beside l path ((d.unset l).set place (.file b)) ((d'.unset l).set place (.file b)) :=
    (h.unset h.file).set (fun dir => other (((unset_directories h.file).directory place).1 dir)) b
  cases node : d.node? place with
  | none => exact .plain asDirectory (moved (by simp [node]))
  | some n =>
    cases n with
    | directory => exact .error .isDirectory
    | file content => exact .plain asDirectory (moved (by simp [node]))
    | database content => exact .plain asDirectory (moved (by simp [node]))

end Beside

theorem beside_of_write (written : d.write (Path.temporary path) b = .ok d') : ∃ l, Beside l path d d' := by
  obtain ⟨l, leads, file, rfl⟩ := write_cases written
  refine ⟨l, leads, file, ?_, rfl, fun other ne => ?_⟩
  · rw [node?_set _ _ _ _ (not_root file), if_pos rfl]
    simp
  · rw [node?_set _ _ _ _ (not_root file), if_neg ne]

theorem beside_of_remove (removed : d.remove (Path.temporary path) = .ok d') : ∃ l, Beside l path d d' := by
  obtain ⟨l, leads, file, rfl⟩ := remove_cases removed
  refine ⟨l, leads, file, ?_, rfl, fun other ne => ?_⟩
  · rw [node?_unset _ _ _ (not_root file), if_pos rfl]
    simp
  · rw [node?_unset _ _ _ (not_root file), if_neg ne]

end Telemetry.Disk
