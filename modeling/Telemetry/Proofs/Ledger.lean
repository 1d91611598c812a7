/-
A table of metrics as one map from names to values.

A name has one row, so a table holds one value a name (`Ledger`). A gauge takes the name over from
whatever stood there; a counter is added to a counter, and begins anew in the place of a
gauge. The rows are the entries of the map, cell by cell and in some order (`Represents`). Every
write to the table goes as the write to the map goes, the refusals included (`Carries`), and
what is read is what the map has.
-/
import Telemetry.Proofs.Calls.Rows

namespace Telemetry

/-- The value of a gauge. -/
def Sample.gauge? : Sample → Option Binary64
  | .gauge x => some x
  | .counter _ => none

/-- The total of a counter. -/
def Sample.counter? : Sample → Option Int64
  | .gauge _ => none
  | .counter d => some d

theorem Sample.kind_plain (x : Sample) : x.plain.kind = x.kind := by
  cases x <;> rfl

theorem Binary64.plainZero_plainZero (x : Binary64) : x.plainZero.plainZero = x.plainZero := by
  cases x with
  | finite s m =>
    rw [plainZero]
    split
    · rfl
    · rename_i some
      rw [plainZero, if_neg some]
  | infinite s => rfl
  | nan => rfl

/-- One value a name: a gauge, in which the sign of zero is forgotten, or a counter. -/
abbrev Ledger :=
  NameMap Sample

namespace Ledger

variable {m m' : Ledger} {name : String}

/-- What a counter's delta is added to: a counter's total, else nothing. -/
def total (m : Ledger) (name : String) : Int64 :=
  match m.get? name with
  | some (.counter d) => d
  | _ => 0

/-- The value that stands under a name when a value was written there. -/
def value (m : Ledger) (name : String) : Sample → Outcome Sample
  | .gauge x => (finiteGauge name x).map fun x => .gauge x.plainZero
  | .counter d => (checkedTotal name (m.total name) d).map .counter

/-- One value written, in the place of whatever the name had. -/
def write (m : Ledger) (name : String) (x : Sample) : Outcome Ledger :=
  (m.value name x).map (m.insert name)

/-- Values written one after another, up to the first refusal. -/
def writeAll (m : Ledger) : List (String × Sample) → Outcome Ledger
  | [] => .ok m
  | (name, x) :: rest => do
    let m ← m.write name x
    writeAll m rest

/-- The value under a name, in any kind or in one. -/
def found? (m : Ledger) (kind : Option Kind) (name : String) : Option Sample :=
  (m.get? name).filter fun x => kind.all fun k => x.kind = k

/-- The value under a name, or a failure that names it. -/
def find (m : Ledger) (kind : Option Kind) (name : String) : Outcome Sample :=
  match m.found? kind name with
  | some x => .ok x
  | none => .error (.notFound kind name)

/-- All gauges and all counters. -/
def snapshot (m : Ledger) : Snapshot :=
  ⟨m.filterMap Sample.gauge?, m.filterMap Sample.counter?⟩

/-! ## The ledger as a snapshot -/

theorem get?_snapshot (m : Ledger) (kind : Kind) (name : String) :
    m.snapshot.get? kind name = m.found? (some kind) name := by
  cases kind with
  | gauge =>
    rw [Snapshot.get?, snapshot, NameMap.get?_filterMap, found?]
    cases m.get? name with
    | none => rfl
    | some x => cases x <;> rfl
  | counter =>
    rw [Snapshot.get?, snapshot, NameMap.get?_filterMap, found?]
    cases m.get? name with
    | none => rfl
    | some x => cases x <;> rfl

theorem total_snapshot (m : Ledger) (name : String) : m.snapshot.total name = m.total name := by
  rw [Snapshot.total, snapshot, NameMap.get?_filterMap, total]
  cases m.get? name with
  | none => rfl
  | some x => cases x <;> rfl

/-- The kind that a name has; one without a value counts as a gauge's. -/
def kindOf (m : Ledger) (name : String) : Kind :=
  ((m.get? name).map Sample.kind).getD .gauge

theorem kind_of_get? {x : Sample} (get : m.get? name = some x) : x.kind = m.kindOf name := by
  rw [kindOf, get]
  rfl

/-- In the kind that a name has, all is found that stands under it. -/
theorem found?_kindOf (m : Ledger) (kind : Option Kind) (name : String) :
    m.snapshot.get? (kind.getD (m.kindOf name)) name = m.found? kind name := by
  cases kind with
  | some kind => exact m.get?_snapshot kind name
  | none =>
    rw [Option.getD_none, get?_snapshot, found?, found?, kindOf]
    cases m.get? name with
    | none => rfl
    | some x => simp [Option.filter]

theorem mem_samples_snapshot {w : String × Sample} : w ∈ m.snapshot.samples ↔ w ∈ m.entries := by
  obtain ⟨name, x⟩ := w
  rw [Snapshot.mem_samples, NameMap.mem_entries, get?_snapshot, found?, Option.filter_eq_some_iff]
  simp

theorem samples_snapshot (m : Ledger) : m.snapshot.samples.Perm m.entries := by
  rw [List.perm_ext_iff_of_nodup m.snapshot.nodup_places.of_map m.nodup_entries]
  exact fun _ => mem_samples_snapshot

/-- A value is what it would be beside the snapshot, with the sign of zero forgotten. -/
theorem value_eq (m : Ledger) (name : String) (x : Sample) :
    m.value name x = (m.snapshot.result name x).map .plain := by
  cases x with
  | gauge x =>
    rw [value, Snapshot.result]
    cases finiteGauge name x <;> rfl
  | counter d =>
    rw [value, Snapshot.result, total_snapshot]
    cases checkedTotal name (m.total name) d <;> rfl

end Ledger

namespace Table

open Ledger (found?)

/-! ## Rows -/

/-- The row of an entry, cell by cell. -/
def Row.ofEntry : String × Sample → Row
  | (name, .gauge x) => ⟨some name, "gauge", .real x, .null⟩
  | (name, .counter d) => ⟨some name, "counter", .null, .integer d⟩

theorem Row.of_plain {name : String} {y : Sample} (finite : ∀ x, y = .gauge x → x.isFinite = true) :
    Row.of (name, y) = Row.ofEntry (name, y.plain) := by
  cases y with
  | gauge x =>
    have number : x ≠ .nan := by
      rintro rfl
      cases finite .nan rfl
    simp only [Row.of, Row.gauge, Cell.asReal, if_neg number]
    rfl
  | counter d => rfl

@[simp] theorem Row.id_ofEntry (w : String × Sample) : (Row.ofEntry w).id = some w.1 := by
  obtain ⟨name, x⟩ := w
  cases x <;> rfl

/-- A gauge that a table can hold: finite, and no minus zero. -/
def IsHeld (x : Sample) : Prop :=
  ∀ y, x = .gauge y → y.isFinite = true ∧ y.plainZero = y

theorem IsHeld.plain {x : Sample} (held : IsHeld x) : x.plain = x := by
  cases x with
  | gauge y => rw [Sample.plain, (held y rfl).2]
  | counter d => rfl

theorem IsHeld.row {x : Sample} (held : IsHeld x) (name : String) :
    Row.of (name, x) = Row.ofEntry (name, x) := by
  rw [Row.of_plain fun y eq => (held y eq).1, held.plain]

theorem isHeld_plain {x : Sample} (finite : ∀ y, x = .gauge y → y.isFinite = true) :
    IsHeld x.plain := by
  cases x with
  | gauge y =>
    rintro _ ⟨⟩
    exact ⟨by rw [Binary64.isFinite_plainZero]; exact finite y rfl, y.plainZero_plainZero⟩
  | counter d => exact fun _ eq => nomatch eq

/-- The rows are the entries of the map in some order, and each of its gauges can be held. -/
structure Represents (rows : List Row) (m : Ledger) : Prop where
  perm : rows.Perm (m.entries.map Row.ofEntry)
  held : ∀ name x, m.get? name = some x → IsHeld x

variable {rows : List Row} {m m' : Ledger} {name : String} {d : Database}

theorem represents_empty : Represents [] .empty :=
  ⟨.refl _, fun _ _ get => nomatch get⟩

namespace Represents

/-- The rows mirror the map's gauges and counters, each name in the kind that it has. -/
theorem mirrors (r : Represents rows m) : Mirrors m.kindOf rows m.snapshot where
  perm := by
    have same : m.entries.map Row.ofEntry = m.entries.map Row.of :=
      List.map_congr_left fun w mem => ((r.held w.1 w.2 (NameMap.mem_entries.1 mem)).row w.1).symm
    exact (same ▸ r.perm).trans (m.samples_snapshot.map _).symm
  kinds w mem := Ledger.kind_of_get? (NameMap.mem_entries.1 (Ledger.mem_samples_snapshot.1 mem))
  finite := by
    refine Snapshot.checkFinite_eq_ok.2 fun name x get => ?_
    have mem := Ledger.mem_samples_snapshot.1 (Snapshot.gauge_mem_samples.2 get)
    exact (r.held name _ (NameMap.mem_entries.1 mem) x rfl).1

theorem nodup (r : Represents rows m) : (rows.map Row.id).Nodup :=
  r.mirrors.nodup

theorem find_eq (r : Represents rows m) (kind : Option Kind) (name : String) :
    find rows kind name = .ok (m.found? kind name) := by
  rw [r.mirrors.find_eq, m.found?_kindOf]
  cases found : m.found? kind name with
  | none => rfl
  | some x =>
    have get := (Option.filter_eq_some_iff.1 found).1
    rw [Option.map_some, (r.held name x get).plain]

theorem list_eq (r : Represents rows m) : listRows .empty rows = .ok m.snapshot := by
  have gauges : m.snapshot.plain.gauges = m.snapshot.gauges := by
    refine NameMap.ext_get? fun name => ?_
    rw [Snapshot.plain, NameMap.get?_mapValues]
    cases get : m.snapshot.gauges.get? name with
    | none => rfl
    | some x =>
      have mem := Ledger.mem_samples_snapshot.1 (Snapshot.gauge_mem_samples.2 get)
      rw [Option.map_some, (r.held name _ (NameMap.mem_entries.1 mem) x rfl).2]
  have plain : m.snapshot.plain = m.snapshot :=
    congrArg (Snapshot.mk · m.snapshot.counters) gauges
  rw [r.mirrors.list_eq, plain]

theorem insert (r : Represents rows m) {y : Sample} (held : IsHeld y) (name : String) :
    Represents (replaceRow rows name (.ofEntry (name, y))) (m.insert name y) := by
  have ids : ((replaceRow rows name (.ofEntry (name, y))).map Row.id).Nodup :=
    nodup_replaceRow r.nodup (Row.id_ofEntry _)
  have entries : ((m.insert name y).entries.map Row.ofEntry).Nodup := by
    have names : (((m.insert name y).entries.map (·.1)).map some).Nodup :=
      (m.insert name y).nodup_names.map fun _ _ => Option.some.inj
    have same : ((m.insert name y).entries.map Row.ofEntry).map Row.id =
        ((m.insert name y).entries.map (·.1)).map some := by
      rw [List.map_map, List.map_map]
      exact List.map_congr_left fun w _ => Row.id_ofEntry w
    exact (same ▸ names).of_map
  have mem_rows {row : Row} : row ∈ rows ↔ ∃ other x, m.get? other = some x ∧
      Row.ofEntry (other, x) = row := by
    rw [r.perm.mem_iff, List.mem_map]
    simp only [Prod.exists, NameMap.mem_entries]
  refine ⟨?_, fun other x get => ?_⟩
  · -- Neither list repeats a row, so it is enough that they have the same rows.
    rw [List.perm_ext_iff_of_nodup ids.of_map entries]
    intro row
    rw [mem_replaceRow, mem_rows, List.mem_map]
    simp only [Prod.exists, NameMap.mem_entries, NameMap.get?_insert]
    constructor
    · rintro (rfl | ⟨⟨other, x, get, rfl⟩, apart⟩)
      · exact ⟨name, y, if_pos rfl, rfl⟩
      · refine ⟨other, x, ?_, rfl⟩
        rw [if_neg fun same => apart (by rw [Row.id_ofEntry, same]), get]
    · rintro ⟨other, x, get, rfl⟩
      by_cases same : other = name
      · rw [if_pos same] at get
        rw [same, ← Option.some.inj get]
        exact .inl rfl
      · rw [if_neg same] at get
        refine .inr ⟨⟨other, x, get, rfl⟩, fun own => same ?_⟩
        rw [Row.id_ofEntry] at own
        exact Option.some.inj own
  · rw [NameMap.get?_insert] at get
    split at get
    · rw [← Option.some.inj get]
      exact held
    · exact r.held other x get

end Represents

/-- A change of a database goes as a change of a map goes: refused for the same reason, or else the
rows represent the changed map and nothing but the rows is changed. -/
def Carries (d : Database) (y : Answer Database) (x : Outcome Ledger) : Prop :=
  match x with
  | .ok m => ∃ rows, y = .ok { d with metrics := some rows } ∧ Represents rows m
  | .error e => y = .error (.rejected e)

theorem put_carries (table : d.metrics = some rows) (r : Represents rows m) (name : String)
    (x : Sample) : Carries d (d.put name x) (m.write name x) := by
  have held : x.kind = .counter → heldTotal rows name = .ok (m.snapshot.total name) :=
    fun _ => r.mirrors.heldTotal_eq name
  rw [put_eq table held, Ledger.write, m.value_eq]
  cases result : m.snapshot.result name x with
  | error e => rfl
  | ok y =>
    have finite : ∀ z, y = .gauge z → z.isFinite = true := by
      rintro z rfl
      cases x with
      | gauge x =>
        obtain ⟨_, checked, same⟩ := Except.map_eq_ok.1 result
        obtain ⟨finite, rfl⟩ := finiteGauge_eq_ok.1 checked
        rw [← Sample.gauge.inj same]
        exact finite
      | counter d => cases Snapshot.kind_of_result result
    refine ⟨_, rfl, ?_⟩
    rw [Row.of_plain finite]
    exact r.insert (isHeld_plain finite) name

theorem putSamples_carries : ∀ {l : List (String × Sample)} {d : Database} {rows : List Row}
    {m : Ledger}, d.metrics = some rows → Represents rows m →
      Carries d (d.putSamples l) (m.writeAll l)
  | [], d, rows, m, table, r => ⟨rows, by rw [← table]; rfl, r⟩
  | (name, x) :: rest, d, rows, m, table, r => by
    have first := put_carries table r name x
    rw [Ledger.writeAll, Database.putSamples]
    cases written : m.write name x with
    | error e =>
      rw [written] at first
      rw [show d.put name x = .error (.rejected e) from first]
      rfl
    | ok m' =>
      rw [written] at first
      obtain ⟨rows', put, r'⟩ := first
      rw [put]
      exact putSamples_carries (d := { d with metrics := some rows' }) rfl r'

/-- All rows are replaced by those of a snapshot, which begin with none. -/
theorem replaceAll_carries (table : d.metrics = some rows) (s : Snapshot) :
    Carries d (d.replaceAll s) (Ledger.writeAll .empty s.samples) := by
  have cleared : d.onRows (fun _ => .ok []) = .ok { d with metrics := some [] } :=
    onRows_eq_ok.2 ⟨rows, [], table, rfl, rfl⟩
  rw [Database.replaceAll, cleared]
  exact putSamples_carries (d := { d with metrics := some [] }) rfl represents_empty

end Table

end Telemetry
