/-
Records sent to a database as one batch, and sent one by one.

A name has one row, so a gauge takes the name over and a counter begins anew behind it
(`Ledger.counted_writeAll`). Sent one by one, records are written in their own order. A batch
is folded first, gauges and counters apart, and is written with the gauges before the counters:
where a name is given both kinds, the counter stands there afterwards, with the sum of all its deltas.
So the two ways agree exactly when that is also what the order of the records says (`InOrder`,
`batch_agrees_iff`).
-/
import Telemetry.Proofs.Accounting
import Telemetry.Proofs.Holdings

namespace Telemetry

/-- The total of a counter; nothing for a gauge, and where nothing stands. -/
def Sample.totalOf : Option Sample → Int64
  | some (.counter d) => d
  | _ => 0

/-- What stands under a name, where `old` stood before these deltas were added. -/
inductive Counted (old : Option Sample) : List Int64 → Option Sample → Prop where
  | kept : Counted old [] old
  | added {deltas : List Int64} {total : Int64} (any : deltas ≠ [])
      (sum : total.toInt = (Sample.totalOf old).toInt + deltaSum deltas) :
      Counted old deltas (some (.counter total))

namespace Counted

variable {old a b : Option Sample} {ds es : List Int64}

/-- Of the deltas only their sum counts, and whether there are any. -/
theorem congr (h : Counted old ds a) (empty : ds = [] ↔ es = []) (sum : deltaSum ds = deltaSum es) :
    Counted old es a := by
  cases h with
  | kept => rw [empty.1 rfl]; exact .kept
  | added any total => exact .added (mt empty.2 any) (sum ▸ total)

theorem unique (ha : Counted old ds a) (hb : Counted old ds b) : a = b := by
  cases ha with
  | kept =>
    cases hb with
    | kept => rfl
    | added any _ => exact absurd rfl any
  | added any sum =>
    cases hb with
    | kept => exact absurd rfl any
    | added _ sum' => rw [Int64.toInt_inj.1 (sum.trans sum'.symm)]

theorem cons {d total : Int64} (h : Counted (some (.counter total)) ds a)
    (sum : total.toInt = (Sample.totalOf old).toInt + d.toInt) : Counted old (d :: ds) a := by
  cases h with
  | kept =>
    exact .added (List.cons_ne_nil _ _) (by rw [sum, deltaSum_cons, deltaSum_nil, Int.add_zero])
  | added _ sum' =>
    exact .added (List.cons_ne_nil _ _)
      (by rw [sum', Sample.totalOf, sum, deltaSum_cons, Int.add_assoc])

/-- On top of a gauge, the same stands after some deltas as after others exactly when they add up to
the same and neither or both are none at all. -/
theorem eq_iff {x : Binary64} (ha : Counted (some (.gauge x)) ds a)
    (hb : Counted (some (.gauge x)) es b) :
    a = b ↔ (ds = [] ↔ es = []) ∧ deltaSum ds = deltaSum es := by
  refine ⟨fun same => ?_, fun ⟨empty, sum⟩ => (ha.congr empty sum).unique hb⟩
  cases ha with
  | kept =>
    cases hb with
    | kept => exact ⟨Iff.rfl, rfl⟩
    | added _ _ => cases same
  | added any sum =>
    cases hb with
    | kept => cases same
    | added any' sum' =>
      obtain rfl := Sample.counter.inj (Option.some.inj same)
      exact ⟨iff_of_false any any', Int.add_left_cancel (sum.symm.trans sum')⟩

/-- On top of a gauge stands a counter if there are deltas, and else the gauge. -/
theorem kind_of_gauge {x : Binary64} (h : Counted (some (.gauge x)) ds a) :
    a.map Sample.kind = some (if ds = [] then .gauge else .counter) := by
  cases h with
  | kept => rfl
  | added any _ => rw [if_neg any]; rfl

theorem kind_of_any (h : Counted old ds a) (any : ds ≠ []) : a.map Sample.kind = some .counter := by
  cases h with
  | kept => exact absurd rfl any
  | added _ _ => rfl

end Counted

namespace Ledger

variable {m m' : Ledger} {name : String} {l : List (String × Sample)}

theorem total_eq (m : Ledger) (name : String) : m.total name = Sample.totalOf (m.get? name) := by
  rw [total]
  cases m.get? name with
  | none => rfl
  | some x => cases x <;> rfl

theorem write_gauge {x : Binary64} (h : m.write name (.gauge x) = .ok m') :
    m'.get? name = some (.gauge x.plainZero) := by
  obtain ⟨y, value, rfl⟩ := Except.map_eq_ok.1 h
  obtain ⟨z, checked, rfl⟩ := Except.map_eq_ok.1 value
  obtain ⟨-, rfl⟩ := finiteGauge_eq_ok.1 checked
  exact NameMap.get?_insert_self _ _ _

theorem write_counter {d : Int64} (h : m.write name (.counter d) = .ok m') :
    ∃ total, m'.get? name = some (.counter total) ∧
      total.toInt = (Sample.totalOf (m.get? name)).toInt + d.toInt := by
  obtain ⟨y, value, rfl⟩ := Except.map_eq_ok.1 h
  obtain ⟨total, checked, rfl⟩ := Except.map_eq_ok.1 value
  obtain ⟨-, sum⟩ := toInt_of_checkedTotal checked
  exact ⟨total, NameMap.get?_insert_self _ _ _, by rw [sum, m.total_eq]⟩

theorem write_other {other : String} {x : Sample} (h : m.write other x = .ok m') (ne : name ≠ other) :
    m'.get? name = m.get? name := by
  obtain ⟨y, -, rfl⟩ := Except.map_eq_ok.1 h
  exact NameMap.get?_insert_other _ ne _

/-- Without a gauge among them, writes to a name count on from what stands there. -/
theorem counted_writeAll : ∀ {l : List (String × Sample)} {m m' : Ledger},
    m.writeAll l = .ok m' → gaugeWrites name l = [] →
      Counted (m.get? name) (counterWrites name l) (m'.get? name)
  | [], _, _, h, _ => by
    rw [← Except.ok.inj h]
    exact .kept
  | (other, x) :: rest, m, m', h, counted => by
    obtain ⟨mid, first, others⟩ := Except.bind_eq_ok.1 h
    by_cases same : other = name
    · rw [same] at first counted ⊢
      cases x with
      | gauge y => simp [gaugeWrites] at counted
      | counter d =>
        obtain ⟨total, get, sum⟩ := write_counter first
        have later := counted_writeAll others (by simpa [gaugeWrites] using counted)
        have here : counterWrites name ((name, .counter d) :: rest) = d :: counterWrites name rest := by
          simp [counterWrites]
        rw [here]
        rw [get] at later
        exact later.cons sum
    · have gauges : gaugeWrites name ((other, x) :: rest) = gaugeWrites name rest := by
        cases x <;> simp [gaugeWrites, same]
      have counters : counterWrites name ((other, x) :: rest) = counterWrites name rest := by
        cases x <;> simp [counterWrites, same]
      rw [counters, ← write_other first (Ne.symm same)]
      exact counted_writeAll others (gauges ▸ counted)

theorem writeAll_append : ∀ (l₁ l₂ : List (String × Sample)) (m : Ledger),
    m.writeAll (l₁ ++ l₂) = (m.writeAll l₁ >>= fun m => m.writeAll l₂)
  | [], _, _ => rfl
  | (name, x) :: rest, l₂, m => by
    simp only [List.cons_append, writeAll]
    cases m.write name x with
    | error e => rfl
    | ok mid => exact writeAll_append rest l₂ mid

/-- From its last gauge on, the writes to a name count from nothing. -/
theorem counted_since {before after : List (String × Sample)} {x : Binary64}
    (h : m.writeAll (before ++ (name, .gauge x) :: after) = .ok m') (last : gaugeWrites name after = []) :
    Counted (some (.gauge x.plainZero)) (counterWrites name after) (m'.get? name) := by
  rw [writeAll_append] at h
  obtain ⟨mid, -, h⟩ := Except.bind_eq_ok.1 h
  obtain ⟨mid', gauge, others⟩ := Except.bind_eq_ok.1 h
  rw [← write_gauge gauge]
  exact counted_writeAll others last

theorem isSome_snapshot (m : Ledger) (kind : Kind) (name : String) :
    (m.snapshot.get? kind name).isSome ↔ (m.get? name).map Sample.kind = some kind := by
  rw [get?_snapshot, found?]
  cases m.get? name with
  | none => simp
  | some x => by_cases same : x.kind = kind <;> simp [Option.filter, same]

theorem snapshot_inj (h : m.snapshot = m'.snapshot) : m = m' := by
  refine NameMap.ext_get? fun name => ?_
  have found (kind : Kind) : m.found? (some kind) name = m'.found? (some kind) name := by
    rw [← get?_snapshot, ← get?_snapshot, h]
  have gauge := found .gauge
  have counter := found .counter
  cases get : m.get? name with
  | none =>
    cases get' : m'.get? name with
    | none => rfl
    | some y => cases y <;> simp [found?, get, get', Sample.kind, Option.filter] at gauge counter
  | some x =>
    cases get' : m'.get? name with
    | none => cases x <;> simp [found?, get, get', Sample.kind, Option.filter] at gauge counter
    | some y => cases x <;> cases y <;> simp_all [found?, Sample.kind, Option.filter]

end Ledger

/-! ## A folded batch -/

theorem exists_last_gauge {name : String} : ∀ {l : List (String × Sample)}, gaugeWrites name l ≠ [] →
    ∃ before x after, l = before ++ (name, .gauge x) :: after ∧ gaugeWrites name after = []
  | [], any => absurd rfl any
  | w :: rest, any => by
    by_cases later : gaugeWrites name rest = []
    · obtain ⟨other, sample⟩ := w
      cases sample with
      | counter d => exact absurd later (by simpa [gaugeWrites] using any)
      | gauge x =>
        have same : other = name := by
          by_contra ne
          exact any (by rw [← later]; simp [gaugeWrites, ne])
        exact ⟨[], x, rest, by rw [same]; rfl, later⟩
    · obtain ⟨before, x, after, rfl, last⟩ := exists_last_gauge later
      exact ⟨w :: before, x, after, rfl, last⟩

theorem gaugeWrites_gauge (name : String) (x : Binary64) (l : List (String × Sample)) :
    gaugeWrites name ((name, .gauge x) :: l) = x :: gaugeWrites name l := by
  simp [gaugeWrites]

theorem counterWrites_gauge (name other : String) (x : Binary64) (l : List (String × Sample)) :
    counterWrites name ((other, .gauge x) :: l) = counterWrites name l := by
  simp [counterWrites]

/-- Around a gauge of a snapshot: no counter is before it, and no other gauge of its name behind it. -/
theorem Snapshot.samples_at_gauge {s : Snapshot} {name : String} {x : Binary64}
    (held : s.gauges.get? name = some x) :
    ∃ front back, s.samples = front ++ (name, .gauge x) :: back ∧
      counterWrites name front = [] ∧ gaugeWrites name back = [] := by
  obtain ⟨gauges, counters, parts, silent, counted⟩ : ∃ gauges counters,
      s.samples = gauges ++ counters ∧
        counterWrites name gauges = [] ∧ gaugeWrites name counters = [] :=
    ⟨_, _, rfl, counterWrites_gauges name _, gaugeWrites_counters name _⟩
  have own : gaugeWrites name gauges = [x] := by
    have all := gaugeWrites_samples s name
    rwa [parts, gaugeWrites_append, counted, List.append_nil, held] at all
  obtain ⟨front, y, back, rfl, last⟩ := exists_last_gauge (own ▸ List.cons_ne_nil x [])
  rw [gaugeWrites_append, gaugeWrites_gauge, last] at own
  obtain rfl : y = x := by
    simpa using (List.append_inj' (own.trans (List.nil_append [x]).symm) rfl).2
  rw [counterWrites_append] at silent
  refine ⟨front, back ++ counters, by simp [parts], (List.append_eq_nil_iff.1 silent).1, ?_⟩
  rw [gaugeWrites_append, last, counted, List.append_nil]

namespace Written

variable {s : Snapshot} {l before after : List (String × Sample)} {name : String} {x : Binary64}
  {m m' : Ledger}

/-- The deltas of a folded batch are those of the list, added up. -/
theorem counterWrites_folded (folded : Written .empty l s) (name : String) :
    (counterWrites name s.samples = [] ↔ counterWrites name l = []) ∧
      deltaSum (counterWrites name s.samples) = deltaSum (counterWrites name l) := by
  rw [counterWrites_samples]
  by_cases untouched : counterWrites name l = []
  · rw [folded.untouched name untouched, untouched]
    exact ⟨Iff.rfl, rfl⟩
  · obtain ⟨total, get, sum⟩ := folded.added name untouched
    refine ⟨by simp [get, untouched], ?_⟩
    rw [get, Option.toList_some, deltaSum_cons, deltaSum_nil, Int.add_zero, sum]
    simp [Snapshot.total, Snapshot.empty]

/-- A batch without a gauge under a name counts on from what stands there. -/
theorem folded_counted (folded : Written .empty l s) (h : m.writeAll s.samples = .ok m')
    (counted : gaugeWrites name l = []) :
    Counted (m.get? name) (counterWrites name l) (m'.get? name) := by
  have gauges : gaugeWrites name s.samples = [] := by
    rw [gaugeWrites_samples, folded.gauges, counted]
    rfl
  obtain ⟨empty, sum⟩ := folded.counterWrites_folded name
  exact (Ledger.counted_writeAll h gauges).congr empty sum

/-- A batch with a gauge under a name writes the last one, and all deltas behind it. -/
theorem folded_gauge (folded : Written .empty (before ++ (name, .gauge x) :: after) s)
    (h : m.writeAll s.samples = .ok m') (last : gaugeWrites name after = []) :
    Counted (some (.gauge x.plainZero)) (counterWrites name (before ++ (name, .gauge x) :: after))
      (m'.get? name) := by
  have held : s.gauges.get? name = some x := by
    rw [folded.gauges, gaugeWrites_append, gaugeWrites_gauge, last, List.getLast?_concat]
    rfl
  obtain ⟨front, back, parts, silent, none⟩ := s.samples_at_gauge held
  have deltas : counterWrites name s.samples = counterWrites name back := by
    rw [parts, counterWrites_append, silent, counterWrites_gauge, List.nil_append]
  obtain ⟨empty, sum⟩ := folded.counterWrites_folded name
  rw [parts] at h
  have since := Ledger.counted_since h none
  rw [← deltas] at since
  exact since.congr empty sum

end Written

/-! ## Both ways -/

/-- A name ends as what it is given last, with gauges written before counters or not: the deltas that
come before its last gauge are none, or they add up to nothing and others follow. -/
def InOrder (name : String) (l : List (String × Sample)) : Prop :=
  gaugeWrites name l = [] ∨ ∃ before x after, l = before ++ (name, .gauge x) :: after ∧
    gaugeWrites name after = [] ∧ (counterWrites name before = [] ∨
      counterWrites name after ≠ [] ∧ deltaSum (counterWrites name before) = 0)

/-- The kind that a name ends as when it is written with others in one batch. -/
def batchKind (name : String) (l : List (String × Sample)) : Kind :=
  if counterWrites name l = [] then .gauge else .counter

namespace Ledger

variable {m m' m'' : Ledger} {s : Snapshot} {l : List (String × Sample)} {name : String}

/-- Under a name the two ways leave the same exactly when its writes are in order. -/
theorem same_iff_inOrder (folded : Written .empty l s) (whole : m.writeAll s.samples = .ok m')
    (apart : m.writeAll l = .ok m'') : m'.get? name = m''.get? name ↔ InOrder name l := by
  -- At a last gauge both ways begin anew, one with all deltas and one with those that follow.
  have split {before after : List (String × Sample)} {x : Binary64}
      (eq : l = before ++ (name, .gauge x) :: after) (last : gaugeWrites name after = []) :
      m'.get? name = m''.get? name ↔ counterWrites name before = [] ∨
        counterWrites name after ≠ [] ∧ deltaSum (counterWrites name before) = 0 := by
    subst eq
    rw [(folded.folded_gauge whole last).eq_iff (counted_since apart last), counterWrites_append,
      counterWrites_gauge, deltaSum_append, List.append_eq_nil_iff]
    by_cases none : counterWrites name before = []
    · simp [none]
    · simp only [none, false_and, false_iff, false_or, ne_eq]
      exact and_congr_right fun _ => by omega
  constructor
  · intro same
    by_cases counted : gaugeWrites name l = []
    · exact .inl counted
    · obtain ⟨before, x, after, eq, last⟩ := exists_last_gauge counted
      exact .inr ⟨before, x, after, eq, last, (split eq last).1 same⟩
  · rintro (counted | ⟨before, x, after, eq, last, order⟩)
    · exact (folded.folded_counted whole counted).unique (counted_writeAll apart counted)
    · exact (split eq last).2 order

theorem kind_batch (folded : Written .empty l s) (whole : m.writeAll s.samples = .ok m')
    {x : Sample} (mem : (name, x) ∈ l) :
    (m'.get? name).map Sample.kind = some (batchKind name l) := by
  by_cases counted : gaugeWrites name l = []
  · have any : counterWrites name l ≠ [] := by
      cases x with
      | gauge y => exact absurd (mem_gaugeWrites.2 mem) (by simp [counted])
      | counter d => exact List.ne_nil_of_mem (mem_counterWrites.2 mem)
    rw [(folded.folded_counted whole counted).kind_of_any any, batchKind, if_neg any]
  · obtain ⟨before, y, after, rfl, last⟩ := exists_last_gauge counted
    exact (folded.folded_gauge whole last).kind_of_gauge

end Ledger

namespace Sync.Codec

open Table (Represents)

variable {codec : Codec} {rs : List Record} {m m' : Ledger} {site after : Site} {n : Nat}

/-- Records sent one by one, each as a batch of its own, up to the first refusal; gives their number. -/
def applyOneByOne (codec : Codec) : List Record → Action Site Nat
  | [] => pure 0
  | r :: rest => do
    let n ← codec.applyTo [r]
    let m ← codec.applyOneByOne rest
    pure (n + m)

/-- The site is a connection to a database of which the rows represent the map. -/
def LedgerAt (site : Site) (m : Ledger) : Prop :=
  ∃ c rows, site.backend = .database (some c) ∧ (c.database site.host.disk).metrics = some rows ∧
    Represents rows m

theorem LedgerAt.held (stands : LedgerAt site m) : site.held? = some m.snapshot := by
  obtain ⟨c, rows, backend, table, represents⟩ := stands
  simp only [Site.held?, backend, Table.Database.list, Table.Database.rows, table, Except.ok_bind,
    represents.list_eq]
  rfl

theorem applyTo_ledger (stands : LedgerAt site m) (done : codec.applyTo rs site = (.ok n, after)) :
    ∃ batch m', codec.decode rs = .ok batch ∧ m.writeAll batch.samples = .ok m' ∧
      LedgerAt after m' := by
  obtain ⟨backend, host⟩ := site
  obtain ⟨c, rows, rfl, table, represents⟩ := stands
  rw [applyTo] at done
  cases decoded : codec.decode rs with
  | error e => simp [decoded, Action.bind_ofOutcome_error] at done
  | ok batch =>
    rw [decoded, Action.bind_ofOutcome_ok] at done
    have carries := Table.putSamples_carries (l := batch.samples) table represents
    have writes := Session.putMetrics_writes batch
    cases written : m.writeAll batch.samples with
    | error e =>
      rw [written] at carries
      have refused : ((c.database host.disk).putAll batch).mapError (·.failure "batch write failed") =
          .error e := by
        rw [Table.Database.putAll, show Table.Database.putSamples _ _ = _ from carries]
        rfl
      have failed : Backend.putMetrics batch ⟨.database (some c), host⟩ =
          (.error e, ⟨.database (some c), host⟩) := by
        simp only [Backend.putMetrics, Backend.perform, writes.refused refused]
      rw [Action.bind_of_error failed] at done
      cases done
    | ok m' =>
      rw [written] at carries
      obtain ⟨rows', put, represents'⟩ := carries
      have succeeded : ((c.database host.disk).putAll batch).mapError (·.failure "batch write failed") =
          .ok { c.database host.disk with metrics := some rows' } := by
        rw [Table.Database.putAll, put]
        rfl
      obtain ⟨c', host', stored, leads⟩ := writes.done succeeded
      have step : Backend.putMetrics batch ⟨.database (some c), host⟩ =
          (.ok (), ⟨.database (some c'), host'⟩) := by
        simp only [Backend.putMetrics, Backend.perform, stored]
      rw [Action.bind_of_ok step] at done
      obtain rfl := (Prod.mk.inj done).2
      exact ⟨batch, m', rfl, written, c', rows', rfl, by rw [leads], represents'⟩

theorem applyOneByOne_ledger : ∀ {rs : List Record} {m : Ledger} {site after : Site} {n : Nat},
    LedgerAt site m → codec.applyOneByOne rs site = (.ok n, after) →
      ∃ l m', Record.writes? rs = some l ∧ m.writeAll l = .ok m' ∧ LedgerAt after m'
  | [], m, site, after, n, stands, done => by
    obtain rfl := (Prod.mk.inj done).2
    exact ⟨[], m, rfl, rfl, stands⟩
  | r :: rest, m, site, after, n, stands, done => by
    cases first : codec.applyTo [r] site with
    | mk outcome mid =>
      cases outcome with
      | error e =>
        rw [applyOneByOne, Action.bind_of_error first] at done
        cases done
      | ok k =>
        rw [applyOneByOne, Action.bind_of_ok first] at done
        cases others : codec.applyOneByOne rest mid with
        | mk outcome last =>
          cases outcome with
          | error e =>
            rw [Action.bind_of_error others] at done
            cases done
          | ok j =>
            rw [Action.bind_of_ok others] at done
            obtain rfl := (Prod.mk.inj done).2
            obtain ⟨batch, m₁, decoded, written, at₁⟩ := applyTo_ledger stands first
            obtain ⟨l, m₂, writes, writtenRest, at₂⟩ := applyOneByOne_ledger at₁ others
            obtain ⟨x, payload, one⟩ := decode_one decoded
            rw [Contents.samples_of_one one] at written
            obtain ⟨m₁', here, none⟩ := Except.bind_eq_ok.1 written
            obtain rfl := Except.ok.inj none
            refine ⟨(r.id, x) :: l, m₂, ?_, ?_, at₂⟩
            · simp [Record.writes?, Record.write?_of_sample payload, writes]
            · rw [Ledger.writeAll, here, Except.ok_bind, writtenRest]

/-- **One batch leaves what its records leave one by one exactly if each name is in order.** -/
theorem batch_agrees_iff {c : Connection} {h : Host} {k : Nat} {whole apart : Site}
    (own : Table.Own (c.database h.disk))
    (batch : codec.applyTo rs ⟨.database (some c), h⟩ = (.ok n, whole))
    (each : codec.applyOneByOne rs ⟨.database (some c), h⟩ = (.ok k, apart)) :
    ∃ l s t, Record.writes? rs = some l ∧ whole.held? = some s ∧ apart.held? = some t ∧
      (s = t ↔ ∀ name, InOrder name l) ∧
      ∀ name w, (l.filter fun w => w.1 = name).getLast? = some w → ∀ kind,
        ((s.get? kind name).isSome ↔ kind = batchKind name l) ∧
          ((t.get? kind name).isSome ↔ kind = w.2.kind) := by
  obtain ⟨rows, m, table, represents⟩ := own.sound
  have stands : LedgerAt ⟨.database (some c), h⟩ m := ⟨c, rows, rfl, table, represents⟩
  obtain ⟨folded, m', decoded, written, at'⟩ := applyTo_ledger stands batch
  obtain ⟨l, m'', writes, writtenEach, at''⟩ := applyOneByOne_ledger stands each
  obtain ⟨l', writes', made⟩ := foldAll_written decoded
  obtain rfl := Option.some.inj (writes.symm.trans writes')
  refine ⟨l, m'.snapshot, m''.snapshot, writes, at'.held, at''.held, ?_, fun name w last kind => ?_⟩
  · constructor
    · intro same name
      rw [← Ledger.same_iff_inOrder made written writtenEach, Ledger.snapshot_inj same]
    · intro inOrder
      have same : m' = m'' := NameMap.ext_get? fun name =>
        (Ledger.same_iff_inOrder made written writtenEach).2 (inOrder name)
      rw [same]
  · obtain ⟨other, x⟩ := w
    obtain ⟨mem, named⟩ := List.mem_filter.1 (List.mem_of_getLast? last)
    obtain rfl : other = name := of_decide_eq_true named
    have lastKind : (m''.get? other).map Sample.kind = _ := Ledger.kind_writeAll writtenEach
    rw [last] at lastKind
    rw [Ledger.isSome_snapshot, Ledger.isSome_snapshot, Ledger.kind_batch made written mem, lastKind]
    simp [eq_comm]

/-- Deltas that cancel out before the last gauge, and one after it: a batch leaves that one too. -/
theorem batch_agrees_iff_cancelled :
    let l : List (String × Sample) := [("hits", .counter 2), ("hits", .counter (-2)),
      ("hits", .gauge (.ofNat 7)), ("hits", .counter 3), ("load", .gauge (.ofNat 1))]
    let rs := l.map fun w => Record.ofSample w.1 w.2
    let c : Connection := .inMemory Table.Database.empty.migrate.database
    let h : Host := ⟨⟨.empty, "/home"⟩, []⟩
    let whole := plain.applyTo rs ⟨.database (some c), h⟩
    let apart := plain.applyOneByOne rs ⟨.database (some c), h⟩
    whole.1 = .ok 5 ∧ apart.1 = .ok 5 ∧ whole.2.held? = apart.2.held? := by
  intro l rs c h whole apart
  have own : Table.Own (c.database h.disk) := .made
  have batch : whole.1 = .ok 5 := by decide +kernel
  have each : apart.1 = .ok 5 := by decide +kernel
  have whole' : plain.applyTo rs ⟨.database (some c), h⟩ = (.ok 5, whole.2) := by rw [← batch]
  have apart' : plain.applyOneByOne rs ⟨.database (some c), h⟩ = (.ok 5, apart.2) := by rw [← each]
  refine ⟨batch, each, ?_⟩
  obtain ⟨l', s, t, writes, left, left', agree, -⟩ := batch_agrees_iff own whole' apart'
  obtain rfl : l = l' := Option.some.inj writes
  rw [left, left', agree.2]
  intro name
  by_cases hits : name = "hits"
  · exact hits ▸ .inr ⟨[("hits", .counter 2), ("hits", .counter (-2))], .ofNat 7, _, rfl, by decide,
      .inr ⟨by decide, by decide⟩⟩
  · by_cases load : name = "load"
    · exact load ▸ .inr ⟨[("hits", .counter 2), ("hits", .counter (-2)), ("hits", .gauge (.ofNat 7)),
        ("hits", .counter 3)], .ofNat 1, [], rfl, rfl, .inl (by decide)⟩
    · exact .inl (by simp [l, gaugeWrites, Ne.symm hits, Ne.symm load])

/-- A counter before a gauge of its name: a batch leaves the counter, and one by one they leave the gauge. -/
theorem batch_differs_gauge_last :
    let rs : List Record := [.ofSample "X" (.counter 1), .ofSample "X" (.gauge (.ofNat 2))]
    let c : Connection := .inMemory Table.Database.empty.migrate.database
    let h : Host := ⟨⟨.empty, "/home"⟩, []⟩
    let whole := plain.applyTo rs ⟨.database (some c), h⟩
    let apart := plain.applyOneByOne rs ⟨.database (some c), h⟩
    Table.Own (c.database h.disk) ∧ (∀ r ∈ rs, r.hash = none ∧ ∃ x, r.Valid x) ∧
      whole.1 = .ok 2 ∧ apart.1 = .ok 2 ∧
      whole.2.held? = some (Snapshot.empty.setCounter "X" 1) ∧
      apart.2.held? = some (Snapshot.empty.setGauge "X" (.ofNat 2)) ∧
      whole.2.held? ≠ apart.2.held? := by
  intro rs c h whole apart
  refine ⟨.made, ?_, by decide +kernel, by decide +kernel, by decide +kernel, by decide +kernel,
    by decide +kernel⟩
  refine List.forall_mem_cons.2 ⟨⟨rfl, .counter 1, .counter (by decide) rfl rfl⟩, ?_⟩
  exact List.forall_mem_singleton.2
    ⟨rfl, .gauge (.ofNat 2), .gauge (by decide) rfl rfl (by decide +kernel)⟩

end Sync.Codec

end Telemetry
