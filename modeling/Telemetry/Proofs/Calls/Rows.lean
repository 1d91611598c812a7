/-
Rows of a table that mirror a snapshot.

In the table a name has one row, and so one kind. When every name is used for one kind only
(`kindOf`), the rows are the snapshot's values in some order (`Mirrors`), and every write
to the table goes as the write to the snapshot goes, the refusals included (`Follows`).
What is read from the table is what the snapshot holds, but for the sign of zeros, which the
column of the gauges' values forgets.
-/
import Telemetry.Proofs.Contents
import Telemetry.Proofs.Samples

namespace Telemetry

/-- The value as a table gives it back. -/
def Sample.plain : Sample → Sample
  | .gauge x => .gauge x.plainZero
  | .counter d => .counter d

theorem Binary64.isFinite_plainZero (x : Binary64) : x.plainZero.isFinite = x.isFinite := by
  cases x with
  | finite s m =>
    rw [plainZero]
    split <;> rfl
  | infinite s => rfl
  | nan => rfl

namespace Snapshot

/-- The snapshot as a table gives it back. -/
def plain (s : Snapshot) : Snapshot :=
  ⟨s.gauges.mapValues .plainZero, s.counters⟩

theorem samples_plain (s : Snapshot) :
    s.plain.samples = s.samples.map fun w => (w.1, w.2.plain) := by
  simp only [samples, plain, NameMap.mapValues, List.map_append, List.map_map]
  rfl

theorem checkFinite_plain {s : Snapshot} (finite : s.checkFinite = .ok ()) :
    s.plain.checkFinite = .ok () := by
  rw [checkFinite_eq_ok] at finite ⊢
  intro name x get
  rw [plain, NameMap.get?_mapValues] at get
  obtain ⟨y, held, rfl⟩ := Option.map_eq_some_iff.1 get
  rw [Binary64.isFinite_plainZero]
  exact finite name y held

end Snapshot

namespace Table

/-! ## Rows -/

/-- The row of a value under its name. -/
def Row.of (w : String × Sample) : Row :=
  match w.2 with
  | .gauge x => .gauge w.1 x
  | .counter d => .counter w.1 d

variable {w : String × Sample} {name : String} {row r : Row} {rows : List Row}

@[simp] theorem Row.id_of (w : String × Sample) : (Row.of w).id = some w.1 := by
  obtain ⟨name, x⟩ := w
  cases x <;> rfl

@[simp] theorem Row.kind_of (w : String × Sample) : (Row.of w).kind = w.2.kind.name := by
  obtain ⟨name, x⟩ := w
  cases x <;> rfl

theorem Row.sample_of (finite : ∀ x, w.2 = .gauge x → x.isFinite = true) (offset : Nat) :
    (Row.of w).sample offset = .ok (some w.2.plain) := by
  obtain ⟨name, x⟩ := w
  cases x with
  | gauge x =>
    have number : x ≠ .nan := by
      rintro rfl
      cases finite .nan rfl
    simp [Row.of, Row.sample, Row.gauge, Cell.asReal, number, Cell.readReal, Cell.readInteger,
      Kind.ofName?_name, Sample.plain]
  | counter d =>
    simp [Row.of, Row.sample, Row.counter, Cell.readReal, Cell.readInteger, Kind.ofName?_name,
      Sample.plain]

theorem hasId_iff : r.hasId name = true ↔ r.id = some name := by
  simp [Row.hasId]

/-- A name's row is wanted under the name in any kind, or in its own. -/
theorem Row.wanted_of {kindOf : String → Kind} {kind : Option Kind} {x : Sample}
    (own : x.kind = kindOf name) :
    ((Row.of (name, x)).hasId name && kind.all fun k => (Row.of (name, x)).kind = k.name) = true ↔
      x.kind = kind.getD (kindOf name) := by
  rw [Bool.and_eq_true, hasId_iff, Row.id_of, Row.kind_of]
  cases kind with
  | none => simp [own]
  | some k => simpa using Kind.name_inj

theorem find?_of_nodup {p : Row → Bool} (nodup : (rows.map Row.id).Nodup) (mem : row ∈ rows)
    (found : p row = true) (same : ∀ r ∈ rows, p r = true → r.id = row.id) :
    rows.find? p = some row := by
  obtain ⟨r, first⟩ := Option.isSome_iff_exists.1 (List.find?_isSome.2 ⟨row, mem, found⟩)
  have held : r ∈ rows := List.mem_of_find?_eq_some first
  have id : r.id = row.id := same r held (List.find?_some first)
  rw [first, List.inj_on_of_nodup_map nodup held mem id]

/-- The name's row takes the place of whatever rows the name had. -/
theorem mem_replaceRow : r ∈ replaceRow rows name row ↔ r = row ∨ r ∈ rows ∧ r.id ≠ some name := by
  unfold replaceRow
  split
  · rename_i present
    obtain ⟨old, mem, own⟩ := List.any_eq_true.1 present
    rw [List.mem_map]
    constructor
    · rintro ⟨q, held, rfl⟩
      split
      · exact .inl rfl
      · rename_i other
        exact .inr ⟨held, fun same => other (hasId_iff.2 same)⟩
    · rintro (rfl | ⟨held, other⟩)
      · exact ⟨old, mem, if_pos own⟩
      · exact ⟨r, held, if_neg fun own => other (hasId_iff.1 own)⟩
  · rename_i absent
    rw [List.mem_append, List.mem_singleton]
    constructor
    · rintro (held | rfl)
      · refine .inr ⟨held, fun same => absent ?_⟩
        exact List.any_eq_true.2 ⟨r, held, hasId_iff.2 same⟩
      · exact .inl rfl
    · rintro (rfl | ⟨held, -⟩)
      · exact .inr rfl
      · exact .inl held

theorem nodup_replaceRow (nodup : (rows.map Row.id).Nodup) (own : row.id = some name) :
    ((replaceRow rows name row).map Row.id).Nodup := by
  unfold replaceRow
  split
  · have same : (rows.map fun r => if r.hasId name then row else r).map Row.id = rows.map Row.id := by
      rw [List.map_map]
      refine List.map_congr_left fun r _ => ?_
      simp only [Function.comp]
      split
      · rename_i is
        rw [own, hasId_iff.1 is]
      · rfl
    rw [same]
    exact nodup
  · rename_i absent
    rw [List.map_append, List.nodup_append]
    refine ⟨nodup, List.nodup_singleton _, ?_⟩
    intro id mem other last same
    obtain ⟨r, held, rfl⟩ := List.mem_map.1 mem
    rw [List.map_singleton, List.mem_singleton, own] at last
    exact absent (List.any_eq_true.2 ⟨r, held, hasId_iff.2 (same.trans last)⟩)

/-! ## Mirrors -/

/-- The rows are the snapshot's values in some order, and each name has its kind. -/
structure Mirrors (kindOf : String → Kind) (rows : List Row) (s : Snapshot) : Prop where
  perm : rows.Perm (s.samples.map Row.of)
  kinds : ∀ w ∈ s.samples, w.2.kind = kindOf w.1
  finite : s.checkFinite = .ok ()

variable {kindOf : String → Kind} {s t : Snapshot}

theorem nodup_ids (kinds : ∀ w ∈ s.samples, w.2.kind = kindOf w.1) :
    ((s.samples.map Row.of).map Row.id).Nodup := by
  have places : s.samples.map Snapshot.place = (s.samples.map (·.1)).map fun n => (kindOf n, n) := by
    rw [List.map_map]
    refine List.map_congr_left fun w mem => ?_
    rw [Snapshot.place, kinds w mem]
    rfl
  have names : (s.samples.map (·.1)).Nodup := by
    have apart := s.nodup_places
    rw [places] at apart
    exact apart.of_map
  have ids : (s.samples.map Row.of).map Row.id = (s.samples.map (·.1)).map some := by
    rw [List.map_map, List.map_map]
    exact List.map_congr_left fun w _ => Row.id_of w
  rw [ids]
  exact names.map fun _ _ => Option.some.inj

theorem mirrors_empty (kindOf : String → Kind) : Mirrors kindOf [] .empty :=
  ⟨List.Perm.refl _, fun _ mem => absurd mem List.not_mem_nil, rfl⟩

namespace Mirrors

variable (m : Mirrors kindOf rows s)

include m

theorem nodup : (rows.map Row.id).Nodup :=
  (m.perm.map Row.id).nodup_iff.2 (nodup_ids m.kinds)

theorem mem : r ∈ rows ↔ ∃ w ∈ s.samples, Row.of w = r :=
  m.perm.mem_iff.trans List.mem_map

theorem kind_of_held {kind : Kind} {x : Sample} (held : s.get? kind name = some x) :
    kind = kindOf name := by
  rw [← Snapshot.kind_of_get? held]
  exact m.kinds (name, x) (Snapshot.mem_samples_of_get? held)

theorem find?_wanted (kind : Option Kind) (name : String) :
    rows.find? (fun r => r.hasId name && kind.all fun k => r.kind = k.name) =
      (s.get? (kind.getD (kindOf name)) name).map fun x => Row.of (name, x) := by
  cases held : s.get? (kind.getD (kindOf name)) name with
  | none =>
    rw [Option.map_none, List.find?_eq_none]
    intro r mem found
    obtain ⟨⟨other, x⟩, sample, rfl⟩ := m.mem.1 mem
    have id := hasId_iff.1 (Bool.and_eq_true_iff.1 found).1
    rw [Row.id_of] at id
    obtain rfl : other = name := Option.some.inj id
    have is : x.kind = kind.getD (kindOf other) := (Row.wanted_of (m.kinds _ sample)).1 found
    rw [Snapshot.mem_samples, is, held] at sample
    cases sample
  | some x =>
    have sample : (name, x) ∈ s.samples := Snapshot.mem_samples_of_get? held
    have here : Row.of (name, x) ∈ rows := m.mem.2 ⟨(name, x), sample, rfl⟩
    refine find?_of_nodup m.nodup here ?_ fun r _ found => ?_
    · exact (Row.wanted_of (m.kinds _ sample)).2 (Snapshot.kind_of_get? held)
    · rw [Row.id_of, hasId_iff.1 (Bool.and_eq_true_iff.1 found).1]

theorem sample_of {kind : Kind} {x : Sample} (held : s.get? kind name = some x) (offset : Nat) :
    (Row.of (name, x)).sample offset = .ok (some x.plain) :=
  Row.sample_of (s.finite_of_mem m.finite (Snapshot.mem_samples_of_get? held)) offset

theorem find_eq (kind : Option Kind) (name : String) :
    find rows kind name = .ok ((s.get? (kind.getD (kindOf name)) name).map .plain) := by
  simp only [find, m.find?_wanted]
  cases held : s.get? (kind.getD (kindOf name)) name with
  | none => rfl
  | some x => simp only [Option.map_some, m.sample_of held]

/-- What a counter's delta is added to is the snapshot's total. -/
theorem heldTotal_eq (name : String) : heldTotal rows name = .ok (s.total name) := by
  have found : rows.find? (Row.hasId name) =
      (s.get? (kindOf name) name).map fun x => Row.of (name, x) := by
    simpa using m.find?_wanted none name
  have counted (d : Int64) (get : s.counters.get? name = some d) : kindOf name = .counter := by
    have held : s.get? .counter name = some (.counter d) := congrArg (Option.map Sample.counter) get
    exact (m.kind_of_held held).symm
  rw [heldTotal, found, Snapshot.total]
  cases kind : kindOf name with
  | gauge =>
    have none : s.counters.get? name = none := by
      cases get : s.counters.get? name with
      | none => rfl
      | some d =>
        rw [counted d get] at kind
        cases kind
    rw [none]
    cases held : s.get? .gauge name with
    | none => rfl
    | some x =>
      obtain ⟨y, -, rfl⟩ := Option.map_eq_some_iff.1 held
      rfl
  | counter =>
    simp only [Snapshot.get?]
    cases s.counters.get? name <;> rfl

theorem listRows_eq : ∀ {l : List (String × Sample)} {t : Snapshot}, (∀ w ∈ l, w ∈ s.samples) →
    listRows t (l.map Row.of) =
      (t.mergeSamples (l.map fun w => (w.1, w.2.plain))).mapError .rejected
  | [], _, _ => rfl
  | w :: rest, t, held => by
    have sample := Row.sample_of (s.finite_of_mem m.finite (held w List.mem_cons_self)) 1
    simp only [List.map_cons, listRows, Row.id_of, sample, Snapshot.mergeSamples]
    cases t.mergeSample w.1 w.2.plain with
    | error e => rfl
    | ok u => exact listRows_eq fun v mem => held v (List.mem_cons_of_mem _ mem)

/-- The rows are listed as the snapshot, in whatever order they are. -/
theorem list_eq : listRows .empty rows = .ok s.plain := by
  obtain ⟨l, perm, rows⟩ := perm_map_iff.1 m.perm
  have plain : (l.map fun w => (w.1, w.2.plain)).Perm s.plain.samples := by
    rw [Snapshot.samples_plain]
    exact perm.map _
  rw [rows, m.listRows_eq fun w mem => perm.mem_iff.1 mem,
    Snapshot.mergeSamples_of_perm (Snapshot.checkFinite_plain m.finite) plain, Except.mapError_ok]

theorem set {y : Sample} (kind : y.kind = kindOf name)
    (finite : (s.setSample name y).checkFinite = .ok ()) :
    Mirrors kindOf (replaceRow rows name (.of (name, y))) (s.setSample name y) := by
  have kinds : ∀ w ∈ (s.setSample name y).samples, w.2.kind = kindOf w.1 := by
    intro w mem
    rcases Snapshot.mem_samples_setSample.1 mem with rfl | ⟨held, -⟩
    · exact kind
    · exact m.kinds w held
  have ids : ((replaceRow rows name (.of (name, y))).map Row.id).Nodup :=
    nodup_replaceRow m.nodup (Row.id_of _)
  refine ⟨?_, kinds, finite⟩
  -- Neither list repeats a row, so it is enough that they have the same rows.
  rw [List.perm_ext_iff_of_nodup ids.of_map (nodup_ids kinds).of_map]
  intro r
  rw [mem_replaceRow, m.mem, List.mem_map]
  constructor
  · rintro (rfl | ⟨⟨w, held, rfl⟩, other⟩)
    · exact ⟨(name, y), Snapshot.mem_samples_setSample.2 (.inl rfl), rfl⟩
    · refine ⟨w, Snapshot.mem_samples_setSample.2 (.inr ⟨held, fun same => other ?_⟩), rfl⟩
      rw [Row.id_of, (Prod.mk.inj same).2]
  · rintro ⟨w, mem, rfl⟩
    rcases Snapshot.mem_samples_setSample.1 mem with rfl | ⟨held, apart⟩
    · exact .inl rfl
    · refine .inr ⟨⟨w, held, rfl⟩, fun same => apart ?_⟩
      rw [Row.id_of] at same
      have own : w.1 = name := Option.some.inj same
      rw [Snapshot.place, Snapshot.place, m.kinds w held, own, kind]

end Mirrors

/-! ## Databases -/

/-- The table of metrics mirrors the snapshot. -/
def Holds (kindOf : String → Kind) (d : Database) (s : Snapshot) : Prop :=
  ∃ rows, d.metrics = some rows ∧ Mirrors kindOf rows s

/-- A change of a database goes as a change of a snapshot goes: refused for the same reason, or
else the database holds what the snapshot is. -/
def Follows (kindOf : String → Kind) (y : Answer Database) (x : Outcome Snapshot) : Prop :=
  match x with
  | .ok t => ∃ d, y = .ok d ∧ Holds kindOf d t
  | .error e => y = .error (.rejected e)

variable {d : Database} {l : List (String × Sample)}

/-- One value written is refused as in the snapshot, or has its row. Of what is in the table only
the total counts that a counter is added to. -/
theorem put_eq {x : Sample} (table : d.metrics = some rows)
    (held : x.kind = .counter → heldTotal rows name = .ok (s.total name)) :
    d.put name x = ((s.result name x).map fun y =>
      { d with metrics := some (replaceRow rows name (.of (name, y))) }).mapError .rejected := by
  cases x with
  | gauge x =>
    simp only [Database.put, Snapshot.result]
    cases finiteGauge name x with
    | error e => rfl
    | ok y =>
      simp only [Database.onRows, Database.rows, table, Except.ok_bind]
      rfl
  | counter delta =>
    simp only [Database.put, Snapshot.result, Database.onRows, Database.rows, table, Except.ok_bind,
      addCounter_eq (held rfl)]
    cases checkedTotal name (s.total name) delta <;> rfl

theorem put_follows (holds : Holds kindOf d s) {x : Sample}
    (kind : ∀ t, s.mergeSample name x = .ok t → x.kind = kindOf name) :
    Follows kindOf (d.put name x) (s.mergeSample name x) := by
  obtain ⟨rows, table, m⟩ := holds
  have merged := s.mergeSample_eq name x
  rw [put_eq table fun _ => m.heldTotal_eq name]
  cases result : s.result name x with
  | error e =>
    rw [merged, result]
    rfl
  | ok y =>
    rw [result] at merged
    have finite := Snapshot.checkFinite_mergeSample m.finite merged
    have own : y.kind = kindOf name := (Snapshot.kind_of_result result).trans (kind _ merged)
    rw [merged]
    exact ⟨_, rfl, _, rfl, m.set own finite⟩

theorem putSamples_done : ∀ {l : List (String × Sample)} {d : Database} {s : Snapshot},
    Holds kindOf d s → (∀ w ∈ l, w.2.kind = kindOf w.1) → s.mergeSamples l = .ok t →
      ∃ d', d.putSamples l = .ok d' ∧ Holds kindOf d' t
  | [], d, _, holds, _, merged => ⟨d, rfl, Except.ok.inj merged ▸ holds⟩
  | (name, x) :: rest, d, s, holds, kinds, merged => by
    simp only [Snapshot.mergeSamples, Except.bind_eq_ok] at merged
    obtain ⟨u, first, others⟩ := merged
    have follows := put_follows holds fun _ _ => kinds (name, x) List.mem_cons_self
    rw [first] at follows
    obtain ⟨mid, put, held⟩ := follows
    rw [Database.putSamples, put]
    exact putSamples_done held (fun w mem => kinds w (List.mem_cons_of_mem _ mem)) others

/-- No name is in the list both as a gauge's and as a counter's. -/
def OneKind (l : List (String × Sample)) : Prop :=
  ∀ w ∈ l, ∀ v ∈ l, w.1 = v.1 → w.2.kind = v.2.kind

instance (l : List (String × Sample)) : Decidable (OneKind l) :=
  inferInstanceAs (Decidable (∀ w ∈ l, ∀ v ∈ l, w.1 = v.1 → w.2.kind = v.2.kind))

theorem oneKind_iff : OneKind l ↔ ∃ kindOf : String → Kind, ∀ w ∈ l, w.2.kind = kindOf w.1 := by
  constructor
  · intro one
    refine ⟨fun name => if ∃ w ∈ l, w.1 = name ∧ w.2.kind = .gauge then .gauge else .counter, ?_⟩
    intro w mem
    dsimp only
    split
    · rename_i gauge
      obtain ⟨v, mem', same, kind⟩ := gauge
      exact (one w mem v mem' same.symm).trans kind
    · rename_i none
      cases kind : w.2.kind with
      | counter => rfl
      | gauge => exact absurd ⟨w, mem, rfl, kind⟩ none
  · rintro ⟨kindOf, kinds⟩ w mem v mem' same
    rw [kinds w mem, kinds v mem', same]

/-- A value set changes the total of its own counter, and a gauge's row is no counter's. -/
theorem heldTotal_set {y : Sample} {other : String} (held : heldTotal rows other = .ok (s.total other))
    (counter : other = name → y.kind = .counter) :
    heldTotal (replaceRow rows name (.of (name, y))) other =
      .ok ((s.setSample name y).total other) := by
  have own : (Row.of (name, y)).hasId name = true := hasId_iff.2 (Row.id_of _)
  by_cases here : other = name
  · subst here
    rw [heldTotal_replaceRow_self rows own]
    cases y with
    | gauge x => cases counter rfl
    | counter total =>
      rw [Snapshot.setSample, Snapshot.total, Snapshot.setCounter, NameMap.get?_insert_self]
      rfl
  · rw [heldTotal_replaceRow_other rows here own, held]
    cases y with
    | gauge x => rfl
    | counter total =>
      rw [Snapshot.setSample, Snapshot.total, Snapshot.total, Snapshot.setCounter,
        NameMap.get?_insert_other _ here]

/-- A batch that is refused is refused for the same reason, though the rows are not what the
snapshot is any more when gauges took the place of counters: those counters are not in it. -/
theorem putSamples_refused {e : Failure} : ∀ {l : List (String × Sample)} {d : Database}
    {rows : List Row} {s : Snapshot}, d.metrics = some rows → OneKind l →
      (∀ name delta, (name, .counter delta) ∈ l → heldTotal rows name = .ok (s.total name)) →
        s.mergeSamples l = .error e → d.putSamples l = .error (.rejected e)
  | [], _, _, _, _, _, _, merged => nomatch merged
  | (name, x) :: rest, d, rows, s, table, one, held, merged => by
    have here : x.kind = .counter → heldTotal rows name = .ok (s.total name) := by
      intro counter
      cases x with
      | gauge x => cases counter
      | counter delta => exact held name delta List.mem_cons_self
    rw [Snapshot.mergeSamples, Snapshot.mergeSample_eq] at merged
    rw [Database.putSamples, put_eq table here]
    cases result : s.result name x with
    | error f =>
      rw [result] at merged
      rw [← Except.error.inj merged]
      rfl
    | ok y =>
      rw [result] at merged
      -- The induction keeps the totals of the counters to come, not that the rows are a mirror: the
      -- batch may set a gauge where the snapshot has a counter, as long as it is refused later.
      refine putSamples_refused (d := { d with metrics := _ }) rfl ?_ ?_ merged
      · intro w left v right
        exact one w (List.mem_cons_of_mem _ left) v (List.mem_cons_of_mem _ right)
      · intro other delta mem
        refine heldTotal_set (held other delta (List.mem_cons_of_mem _ mem)) ?_
        rintro rfl
        rw [Snapshot.kind_of_result result]
        exact one _ List.mem_cons_self _ (List.mem_cons_of_mem _ mem) rfl

/-- A batch goes as in the snapshot, if its names have one kind each and, when it is written, the
kinds that the table has them in. -/
theorem putSamples_follows (holds : Holds kindOf d s) (one : OneKind l)
    (kinds : ∀ t, s.mergeSamples l = .ok t → ∀ w ∈ l, w.2.kind = kindOf w.1) :
    Follows kindOf (d.putSamples l) (s.mergeSamples l) := by
  cases merged : s.mergeSamples l with
  | ok t => exact putSamples_done holds (kinds t merged) merged
  | error e =>
    obtain ⟨rows, table, m⟩ := holds
    exact putSamples_refused table one (fun name _ _ => m.heldTotal_eq name) merged

theorem replaceAll_follows (holds : Holds kindOf d s) (finite : t.checkFinite = .ok ())
    (kinds : ∀ w ∈ t.samples, w.2.kind = kindOf w.1) :
    Follows kindOf (d.replaceAll t) (.ok t) := by
  obtain ⟨rows, table, -⟩ := holds
  have cleared : d.onRows (fun _ => .ok []) = .ok { d with metrics := some [] } :=
    onRows_eq_ok.2 ⟨rows, [], table, rfl, rfl⟩
  rw [Database.replaceAll, cleared]
  exact putSamples_done ⟨[], rfl, mirrors_empty kindOf⟩ kinds
    (Snapshot.mergeSamples_of_perm finite (List.Perm.refl _))

theorem list_follows (holds : Holds kindOf d s) : d.list = .ok s.plain := by
  obtain ⟨rows, table, m⟩ := holds
  rw [Database.list, Database.rows, table, Except.ok_bind, m.list_eq]

end Table

end Telemetry
