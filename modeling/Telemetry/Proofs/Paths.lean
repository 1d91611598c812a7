/-
Where the paths lead that are made from a path: its parent, and the sibling that is
written before a file is replaced.

Parts that count for nothing lead nowhere (`descend_trimmed`, `descend_dropWhile`), so a
path whose parent is a directory leads to a place in it (`resolve_of_parent`). The sibling
stands elsewhere, whatever the path is (`temporary_apart`): its name is longer, or it is
below the place that the path names. A directory that was made is found there again
(`makePath_again`).
-/
import Telemetry.Proofs.Disk

namespace Telemetry

namespace Path

theorem parts_slash (cs : List Char) : parts ('/' :: cs) = [] :: parts cs := rfl

theorem parts_cons {c : Char} (cs : List Char) (other : c ≠ '/') :
    ∃ first rest, parts cs = first :: rest ∧ parts (c :: cs) = (c :: first) :: rest := by
  refine ⟨(cut cs).1, (cut cs).2, rfl, ?_⟩
  simp only [parts, cut, if_neg other]

theorem parts_ne_nil (cs : List Char) : parts cs ≠ [] :=
  List.cons_ne_nil _ _

theorem parts_append (cs ds : List Char) : parts (cs ++ '/' :: ds) = parts cs ++ parts ds := by
  induction cs with
  | nil => rfl
  | cons c cs ih =>
    by_cases slash : c = '/'
    · rw [slash, List.cons_append, parts_slash, ih, parts_slash, List.cons_append]
    · obtain ⟨first, rest, cut, cut'⟩ := parts_cons cs slash
      obtain ⟨first', rest', joined, joined'⟩ := parts_cons (cs ++ '/' :: ds) slash
      rw [ih, cut, List.cons_append] at joined
      obtain ⟨rfl, rfl⟩ := List.cons.inj joined
      rw [List.cons_append, joined', cut', List.cons_append]

theorem slash_not_mem_parts {part : Part} : ∀ {cs : List Char}, part ∈ parts cs → '/' ∉ part
  | [], mem => by
    rw [List.mem_singleton.1 mem]
    exact List.not_mem_nil
  | c :: cs, mem => by
    by_cases slash : c = '/'
    · rw [slash, parts_slash, List.mem_cons] at mem
      rcases mem with rfl | mem
      · exact List.not_mem_nil
      · exact slash_not_mem_parts mem
    · obtain ⟨first, rest, cut, cut'⟩ := parts_cons cs slash
      rw [cut', List.mem_cons] at mem
      rcases mem with rfl | mem
      · have clean : '/' ∉ first := slash_not_mem_parts (cut ▸ List.mem_cons_self)
        exact List.not_mem_cons_of_ne_of_not_mem (Ne.symm slash) clean
      · exact slash_not_mem_parts (cut ▸ List.mem_cons_of_mem _ mem)

theorem parts_of_part : ∀ {part : Part}, '/' ∉ part → parts part = [part]
  | [], _ => rfl
  | c :: part, clean => by
    rw [List.mem_cons, not_or] at clean
    obtain ⟨first, rest, cut, cut'⟩ := parts_cons part (Ne.symm clean.1)
    rw [parts_of_part clean.2] at cut
    obtain ⟨rfl, rfl⟩ := List.cons.inj cut
    exact cut'

theorem glue_cons (part : Part) {ps : List Part} (some : ps ≠ []) :
    glue (part :: ps) = part ++ '/' :: glue ps := by
  obtain ⟨next, rest, rfl⟩ := List.exists_cons_of_ne_nil some
  rfl

theorem glue_parts (cs : List Char) : glue (parts cs) = cs := by
  induction cs with
  | nil => rfl
  | cons c cs ih =>
    by_cases slash : c = '/'
    · rw [slash, parts_slash, glue_cons [] (parts_ne_nil cs), ih]
      rfl
    · obtain ⟨first, rest, cut, cut'⟩ := parts_cons cs slash
      rw [cut] at ih
      rw [cut', ← ih]
      cases rest <;> rfl

theorem parts_glue : ∀ {ps : List Part}, ps ≠ [] → (∀ part ∈ ps, '/' ∉ part) → parts (glue ps) = ps
  | [], ne, _ => absurd rfl ne
  | [part], _, clean => parts_of_part (clean part List.mem_cons_self)
  | part :: next :: rest, _, clean => by
    rw [glue_cons part (List.cons_ne_nil _ _), parts_append,
      parts_of_part (clean part List.mem_cons_self),
      parts_glue (List.cons_ne_nil _ _) fun part mem => clean part (List.mem_cons_of_mem _ mem)]
    rfl

theorem glue_append : ∀ {ps qs : List Part}, ps ≠ [] → qs ≠ [] →
    glue (ps ++ qs) = glue ps ++ '/' :: glue qs
  | [], _, ne, _ => absurd rfl ne
  | [part], _, _, h => glue_cons part h
  | part :: next :: rest, qs, _, h => by
    rw [List.cons_append, glue_cons part (by simp), glue_append (List.cons_ne_nil _ _) h,
      glue_cons part (List.cons_ne_nil _ _), List.append_assoc, List.cons_append]

/-- The parts of a path, last first, from the last on that leads somewhere. -/
def leading (ps : List Part) : List Part :=
  ps.dropWhile fun part => part = [] ∨ part = ['.']

theorem leading_cons (part : Part) (ps : List Part) :
    leading (part :: ps) = if part = [] ∨ part = ['.'] then leading ps else part :: ps := by
  simp only [leading, List.dropWhile_cons, decide_eq_true_eq]

theorem leading_head {last : Part} {before : List Part} :
    ∀ {ps : List Part}, leading ps = last :: before → ¬ (last = [] ∨ last = ['.'])
  | [], h => by cases h
  | part :: ps, h => by
    rw [leading_cons] at h
    split at h
    · exact leading_head h
    · rename_i solid
      obtain ⟨rfl, rfl⟩ := List.cons.inj h
      exact solid

theorem trimmed_cons_cons (part next : Part) (rest : List Part) :
    trimmed (part :: next :: rest) =
      if part = [] ∨ part = ['.'] then trimmed (next :: rest) else part :: next :: rest := rfl

theorem trimmed_of_leading {last : Part} {before : List Part} :
    ∀ {ps : List Part}, leading ps = last :: before → trimmed ps = last :: before
  | [], h => by cases h
  | [first], h => by
    rw [leading_cons] at h
    split at h
    · cases h
    · rename_i solid
      rw [← h]
      exact if_neg fun empty => solid (.inl empty)
  | part :: next :: rest, h => by
    rw [leading_cons] at h
    rw [trimmed_cons_cons]
    split at h
    · rename_i blank
      rw [if_pos blank]
      exact trimmed_of_leading h
    · rename_i solid
      rw [if_neg solid]
      exact h

/-- If none leads anywhere, a dot is left at most. -/
theorem trimmed_of_blank : ∀ {ps : List Part}, leading ps = [] → trimmed ps = [] ∨ trimmed ps = [['.']]
  | [], _ => .inl rfl
  | [first], h => by
    rw [leading_cons] at h
    split at h
    · rename_i blank
      rcases blank with rfl | rfl
      · exact .inl rfl
      · exact .inr rfl
    · cases h
  | part :: next :: rest, h => by
    rw [leading_cons] at h
    rw [trimmed_cons_cons]
    split at h
    · rename_i blank
      rw [if_pos blank]
      exact trimmed_of_blank h
    · cases h

theorem trimmed_suffix : ∀ (ps : List Part), trimmed ps <:+ ps
  | [] => List.suffix_refl _
  | [first] => by
    unfold trimmed
    split
    · exact List.nil_suffix
    · exact List.suffix_refl _
  | part :: next :: rest => by
    unfold trimmed
    split
    · exact (trimmed_suffix (next :: rest)).trans (List.suffix_cons _ _)
    · exact List.suffix_refl _

end Path

/-! ## Where the parts lead -/

namespace Disk

open Telemetry.Path (Part parts leading trimmed)

variable {d : Disk} {l l' : Location} {t t' : Target} {path : String}

theorem descend_cons (d : Disk) (l : Location) (part : Part) (rest : List Part) :
    d.descend l (part :: rest) =
      if part = [] ∨ part = ['.'] then d.descend l rest
      else if part = ['.', '.'] then d.descend (Location.up l) rest
      else checkName part >>= fun _ =>
        match d.node? (Location.child l part) with
        | none => .error .missing
        | some .directory => d.descend (Location.child l part) rest
        | some _ => .error .notDirectory :=
  rfl

theorem descend_append (d : Disk) : ∀ (ps qs : List Part) (l : Location),
    d.descend l (ps ++ qs) = (d.descend l ps >>= fun l => d.descend l qs)
  | [], _, _ => rfl
  | part :: ps, qs, l => by
    rw [List.cons_append, descend_cons, descend_cons]
    split
    · exact descend_append d ps qs l
    · split
      · exact descend_append d ps qs (Location.up l)
      · cases checkName part with
        | error fault => rfl
        | ok u =>
          rw [Except.ok_bind, Except.ok_bind]
          split
          · rfl
          · exact descend_append d ps qs _
          · rfl

theorem descend_blank {part : Part} (blank : part = [] ∨ part = ['.']) (ps : List Part) (l : Location) :
    d.descend l (ps ++ [part]) = d.descend l ps := by
  rw [descend_append]
  cases d.descend l ps with
  | error fault => rfl
  | ok l' =>
    rw [Except.ok_bind, descend, if_pos blank]
    rfl

theorem descend_leading (l : Location) : ∀ (ps : List Part),
    d.descend l (leading ps).reverse = d.descend l ps.reverse
  | [] => rfl
  | part :: ps => by
    rw [Path.leading_cons, List.reverse_cons]
    split
    · rename_i blank
      rw [descend_blank blank, descend_leading l ps]
    · rw [List.reverse_cons]

theorem descend_trimmed (l : Location) : ∀ (ps : List Part),
    d.descend l (trimmed ps).reverse = d.descend l ps.reverse
  | [] => rfl
  | [first] => by
    unfold trimmed
    split
    · rename_i empty
      rw [empty]
      rfl
    · rfl
  | part :: next :: rest => by
    rw [Path.trimmed_cons_cons]
    split
    · rename_i blank
      rw [List.reverse_cons, descend_blank blank, descend_trimmed l (next :: rest)]
    · rfl

/-- What a path is resolved to, by its last part that leads somewhere. -/
theorem resolve_eq (clean : '\x00' ∉ path.toList) (named : path ≠ "") :
    d.resolve path = match leading (parts path.toList).reverse with
      | [] => .ok ⟨d.origin path, true⟩
      | last :: before =>
        if last = ['.', '.'] then
          d.descend (d.origin path) (last :: before).reverse >>= fun l => .ok ⟨l, true⟩
        else
          d.descend (d.origin path) before.reverse >>= fun l => checkName last >>= fun _ =>
            .ok ⟨Location.child l last,
              (parts path.toList).reverse.length ≠ (last :: before).length⟩ := by
  unfold resolve
  rw [if_neg (by simpa using clean), if_neg named]
  simp only [leading]
  split
  · rename_i eq
    simp only [eq]
  · rename_i last before eq
    simp only [eq]

/-- A path leads through all of its parts, or to a name below those before it. -/
theorem resolve_cases (leads : d.resolve path = .ok t) :
    path ≠ "" ∧
      ((∀ last before, leading (parts path.toList).reverse = last :: before → last = ['.', '.']) ∧
          d.descend (d.origin path) (parts path.toList) = .ok t.location ∨
        ∃ last before l, leading (parts path.toList).reverse = last :: before ∧
          last ≠ ['.', '.'] ∧ d.descend (d.origin path) before.reverse = .ok l ∧
          checkName last = .ok () ∧ t.location = Location.child l last) := by
  by_cases clean : '\x00' ∈ path.toList
  · rw [resolve, if_pos (by simpa using clean)] at leads
    cases leads
  by_cases named : path = ""
  · rw [resolve, if_neg (by simpa using clean), if_pos named] at leads
    cases leads
  refine ⟨named, ?_⟩
  have all := descend_leading (d := d) (d.origin path) (parts path.toList).reverse
  rw [List.reverse_reverse] at all
  rw [resolve_eq clean named] at leads
  split at leads
  · rename_i eq
    cases leads
    rw [eq] at all ⊢
    exact .inl ⟨fun _ _ impossible => absurd impossible (List.cons_ne_nil _ _).symm, all.symm⟩
  · rename_i last before eq
    split at leads
    · rename_i up
      obtain ⟨l, down, leads⟩ := Except.bind_eq_ok.1 leads
      cases leads
      rw [eq] at all ⊢
      refine .inl ⟨fun last' before' same => ?_, all ▸ down⟩
      rw [← (List.cons.inj same).1, up]
    · rename_i name
      obtain ⟨l, down, leads⟩ := Except.bind_eq_ok.1 leads
      obtain ⟨u, short, leads⟩ := Except.bind_eq_ok.1 leads
      cases leads
      exact .inr ⟨last, before, l, eq, name, down, short, rfl⟩

/-! ## Siblings -/

/-- Below two places the same name is the same place only if the names are. -/
theorem child_inj {l l' : Location} {name name' : Part} (clean : '/' ∉ name) (clean' : '/' ∉ name')
    (same : Location.child l name = Location.child l' name') : name = name' := by
  have ends {l : Location} {name : Part} (clean : '/' ∉ name) :
      ((Location.child l name).toList.reverse.takeWhile fun c => c ≠ '/').reverse = name := by
    have solid : ∀ c ∈ name.reverse, decide (c ≠ '/') = true := fun c mem =>
      decide_eq_true fun slash => clean (slash ▸ List.mem_reverse.1 mem)
    have chars : (Location.child l name).toList.reverse = name.reverse ++ '/' :: l.toList.reverse := by
      simp [Location.child]
    rw [chars, List.takeWhile_append_of_pos solid]
    simp
  rw [← ends clean, same, ends clean']

theorem child_ne (l : Location) (name : Part) : Location.child l name ≠ l := by
  intro same
  have := congrArg (fun l => l.toList.length) same
  simp [Location.child] at this

/-- Where a path starts is seen at its front. -/
theorem origin_front (d : Disk) {path longer : String} (named : path ≠ "")
    (front : path.toList <+: longer.toList) : d.origin longer = d.origin path := by
  obtain ⟨more, chars⟩ := front
  cases cs : path.toList with
  | nil => exact absurd (String.toList_eq_nil_iff.1 cs) named
  | cons c rest =>
    rw [cs] at chars
    simp [origin, Path.isAbsolute, ← chars, cs]

/-- A name below a path has the parts of the path before it. -/
theorem child_cases (d : Disk) (path : String) {name : String} (clean : '/' ∉ name.toList) :
    ∃ ps, parts (Path.child path name).toList = ps ++ [name.toList] ∧
      (path ≠ "" → d.origin (Path.child path name) = d.origin path ∧
        ∀ l, d.descend l ps = d.descend l (parts path.toList)) := by
  have relative : Path.isAbsolute name = false := by
    cases cs : name.toList with
    | nil => simp [Path.isAbsolute, cs]
    | cons c rest =>
      have : c ≠ '/' := fun slash => clean (by simp [cs, slash])
      simp [Path.isAbsolute, cs, this]
  have one : parts name.toList = [name.toList] := Path.parts_of_part clean
  unfold Path.child
  by_cases named : path = ""
  · rw [if_pos (.inr named)]
    exact ⟨[], one, fun h => absurd named h⟩
  · rw [if_neg (by simp [relative, named])]
    split
    · rename_i ends
      obtain ⟨cs, chars⟩ : ∃ cs, path.toList = cs ++ ['/'] := List.getLast?_eq_some_iff.1 ends
      have joined : (path ++ name).toList = cs ++ '/' :: name.toList := by
        simp [chars]
      refine ⟨parts cs, by rw [joined, Path.parts_append, one], fun _ => ⟨?_, fun l => ?_⟩⟩
      · exact origin_front d named (by simp)
      · rw [chars, Path.parts_append]
        exact (descend_blank (.inl rfl) (parts cs) l).symm
    · have joined : (path ++ "/" ++ name).toList = path.toList ++ '/' :: name.toList := by simp
      exact ⟨parts path.toList, by rw [joined, Path.parts_append, one],
        fun _ => ⟨origin_front d named (by simp [String.append_assoc]), fun l => rfl⟩⟩

/-- So it is below the place of the path, if it is not one of the dots. -/
theorem resolve_child {name : String} (clean : '/' ∉ name.toList) (long : 2 < name.toList.length)
    (leads : d.resolve (Path.child path name) = .ok t) :
    ∃ l, t.location = Location.child l name.toList ∧
      (path ≠ "" → d.descend (d.origin path) (parts path.toList) = .ok l) := by
  obtain ⟨ps, split, below⟩ := child_cases d path clean
  have last : leading (parts (Path.child path name).toList).reverse = name.toList :: ps.reverse := by
    rw [split, List.reverse_append, List.reverse_singleton, List.singleton_append,
      Path.leading_cons, if_neg]
    rintro (dots | dots) <;> simp [dots] at long
  obtain ⟨-, ⟨up, -⟩ | ⟨last', before, l, eq, -, down, -, place⟩⟩ := resolve_cases leads
  · have dots := up _ _ last
    simp [dots] at long
  · rw [last] at eq
    obtain ⟨rfl, rfl⟩ := List.cons.inj eq
    rw [List.reverse_reverse] at down
    refine ⟨l, place, fun named => ?_⟩
    obtain ⟨origin, same⟩ := below named
    rw [← same, ← origin, down]

/-- A path has a file name if the last part that leads somewhere is a name. -/
theorem fileName?_of_name {last : Part} {before : List Part} (name : last ≠ ['.', '.'])
    (eq : leading (parts path.toList).reverse = last :: before) :
    Path.fileName? path = some (String.ofList last) := by
  have solid := Path.leading_head eq
  rw [Path.fileName?, Path.reversed, Path.trimmed_of_leading eq]
  simp only
  rw [if_neg (by simp [name, (not_or.1 solid).2])]

theorem fileName?_of_no_name
    (eq : ∀ last before, leading (parts path.toList).reverse = last :: before → last = ['.', '.']) :
    Path.fileName? path = none := by
  rw [Path.fileName?, Path.reversed]
  cases all : leading (parts path.toList).reverse with
  | nil =>
    rcases Path.trimmed_of_blank all with none | dot
    · rw [none]
    · rw [dot]
      rfl
  | cons last before =>
    rw [Path.trimmed_of_leading all, eq last before all]
    rfl

/-- **The sibling of a path leads elsewhere.** -/
theorem temporary_apart (leads : d.resolve path = .ok t)
    (leads' : d.resolve (Path.temporary path) = .ok t') : t'.location ≠ t.location := by
  obtain ⟨named, ⟨up, down⟩ | ⟨last, before, l, eq, name, -, -, place⟩⟩ := resolve_cases leads
  · -- Without a file name the sibling is below the path's own place.
    have none := fileName?_of_no_name up
    rw [Path.temporary, Path.withFileName, none] at leads'
    obtain ⟨l, place', below⟩ := resolve_child (by simp) (by decide) leads'
    rw [below named] at down
    rw [place', ← Except.ok.inj down]
    exact child_ne l _
  · have file := fileName?_of_name name eq
    have clean : '/' ∉ last := by
      have mem : last ∈ leading (parts path.toList).reverse := eq ▸ List.mem_cons_self
      exact Path.slash_not_mem_parts (List.mem_reverse.1 ((List.dropWhile_sublist _).subset mem))
    have clean' : '/' ∉ (String.ofList last ++ ".tmp").toList := by
      simpa using clean
    rw [Path.temporary, Path.withFileName, file] at leads'
    obtain ⟨l', place', -⟩ := resolve_child clean' (by simp) leads'
    rw [place, place']
    intro same
    have longer := congrArg List.length (child_inj clean' clean same)
    simp at longer

/-! ## Parents -/

theorem descend_of_isDirectory (there : d.isDirectory path = .ok true) :
    ∃ l, d.descend (d.origin path) (parts path.toList) = .ok l := by
  obtain ⟨t, leads, look⟩ := Except.bind_eq_ok.1 there
  obtain ⟨-, ⟨-, down⟩ | ⟨last, before, l, eq, name, down, short, place⟩⟩ := resolve_cases leads
  · exact ⟨_, down⟩
  · have dir : d.node? (Location.child l last) = some .directory := by
      rw [place] at look
      split at look
      · cases look
      · assumption
      · split at look <;> cases look
    have all := descend_leading (d := d) (d.origin path) (parts path.toList).reverse
    rw [eq, List.reverse_cons, descend_append, down, Except.ok_bind, descend_cons,
      if_neg (Path.leading_head eq), if_neg name, short, Except.ok_bind, dir,
      List.reverse_reverse] at all
    exact ⟨_, all.symm⟩

/-- The parent's parts are those before the last, without the ones at their end that count for
nothing. -/
theorem parent_cases {last : Part} {before : List Part}
    (eq : leading (parts path.toList).reverse = last :: before) (deep : trimmed before ≠ []) :
    ∃ p, Path.parent? path = some p ∧ p.toList <+: path.toList ∧
      parts p.toList = (trimmed before).reverse := by
  refine ⟨String.ofList (Path.glue (trimmed before).reverse), ?_, ?_⟩
  · rw [Path.parent?, Path.reversed, Path.trimmed_of_leading eq]
    simp only
  have deep' : (trimmed before).reverse ≠ [] := by simpa using deep
  obtain ⟨passed, spelled⟩ : leading (parts path.toList).reverse <:+ (parts path.toList).reverse :=
    List.dropWhile_suffix _
  obtain ⟨dropped, front⟩ := Path.trimmed_suffix before
  have all : parts path.toList =
      (trimmed before).reverse ++ (dropped.reverse ++ last :: passed.reverse) := by
    rw [← List.reverse_inj, ← spelled, eq,
      show last :: before = last :: (dropped ++ trimmed before) by rw [front]]
    simp
  rw [String.toList_ofList]
  constructor
  · rw [← Path.glue_parts path.toList, all, Path.glue_append deep' (by simp)]
    exact List.prefix_append _ _
  · refine Path.parts_glue deep' fun part mem => ?_
    exact Path.slash_not_mem_parts (all ▸ List.mem_append_left _ mem)

/-- A path whose parent is a directory leads somewhere, or cannot be spelled. -/
theorem resolve_of_parent (named : path ≠ "")
    (parent : ∀ p, Path.parent? path = some p → p ≠ "" → d.isDirectory p = .ok true) :
    d.resolve path ≠ .error .missing := by
  by_cases clean : '\x00' ∈ path.toList
  · rw [resolve, if_pos (by simpa using clean)]
    exact fun h => by cases h
  rw [resolve_eq clean named]
  cases eq : leading (parts path.toList).reverse with
  | nil => exact fun h => by cases h
  | cons last before =>
    have down : ∃ l, d.descend (d.origin path) before.reverse = .ok l := by
      rw [← descend_trimmed]
      by_cases deep : trimmed before = []
      · rw [deep]
        exact ⟨_, rfl⟩
      obtain ⟨p, is, front, cut⟩ := parent_cases eq deep
      rw [← cut]
      by_cases empty : p = ""
      · rw [empty]
        exact ⟨_, rfl⟩
      · rw [origin_front d empty front]
        exact descend_of_isDirectory (parent p is empty)
    obtain ⟨l, down⟩ := down
    simp only
    split
    · rename_i up
      rw [List.reverse_cons, descend_append, down, Except.ok_bind, descend_cons, up]
      exact fun h => by cases h
    · rw [down, Except.ok_bind]
      unfold checkName
      split
      · exact fun h => by cases h
      · exact fun h => by cases h

theorem isDirectory_of_keeps {d' : Disk} (kept : KeepsDirectories d d')
    (there : d.isDirectory path = .ok true) : d'.isDirectory path = .ok true := by
  obtain ⟨t, leads, look⟩ := Except.bind_eq_ok.1 there
  rw [isDirectory, resolve_of_keeps kept leads, Except.ok_bind]
  split at look
  · cases look
  · rename_i dir
    rw [kept.directory dir]
  · split at look <;> cases look

theorem ensureDirectory_there (there : d.isDirectory path = .ok true) :
    d.ensureDirectory path = .ok d := by
  obtain ⟨t, leads, look⟩ := Except.bind_eq_ok.1 there
  have exists' : d.makeDirectory path = .error .exists := by
    rw [makeDirectory, leads, Except.ok_bind]
    split
    · rfl
    · rename_i none
      rw [none] at look
      cases look
  rw [ensureDirectory, exists', there]

theorem isDirectory_of_ensure {d' : Disk} (made : d.ensureDirectory path = .ok d') :
    d'.isDirectory path = .ok true := by
  unfold ensureDirectory at made
  split at made
  · rename_i new
    cases made
    obtain ⟨t, leads, set⟩ := Except.bind_eq_ok.1 new
    split at set
    · cases set
    · rename_i none
      cases set
      have inside : t.location ≠ Location.root := not_root (d := d) (by simp [none])
      have kept : KeepsDirectories d (d.set t.location .directory) := by
        refine ⟨rfl, fun {l} dir => ?_⟩
        rw [node?_set _ _ _ _ inside]
        split
        · rfl
        · exact dir
      rw [isDirectory, resolve_of_keeps kept leads, Except.ok_bind, node?_set _ _ _ _ inside, if_pos rfl]
  · split at made
    · rename_i there
      cases made
      exact there
    · cases made

theorem isDirectory_of_makePath {d' : Disk} (named : path ≠ "") (made : d.makePath path = .ok d') :
    d'.isDirectory path = .ok true := by
  unfold makePath makeDirectories at made
  rw [if_neg named] at made
  split at made
  · split at made
    · cases made
    · obtain ⟨between, -, made⟩ := Except.bind_eq_ok.1 made
      exact isDirectory_of_ensure made
  · exact isDirectory_of_ensure made

theorem makePath_there (there : path = "" ∨ d.isDirectory path = .ok true) :
    d.makePath path = .ok d := by
  unfold makePath makeDirectories
  rcases there with rfl | there
  · rfl
  · split
    · rfl
    · rw [ensureDirectory_there there]

end Disk

end Telemetry
