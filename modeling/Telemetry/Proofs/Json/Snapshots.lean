/-
What a written snapshot is read as.

Names and counters are read back exactly. A gauge is read back as its rereading
(`Binary64.reread?`), which is near the gauge and not always the gauge: digits are
rounded to a double before their power of ten is applied. So a snapshot is read as its
rereading (`read_tree_eq_ok`), and as itself exactly when each of its gauges is
(`reread_self`).
-/
import Telemetry.Metric.Snapshot
import Telemetry.Proofs.Json.Documents
import Telemetry.Proofs.Merge
import Telemetry.Proofs.Number.Rounding

namespace Telemetry

/-- What a reader makes of the text that a double is written as. -/
def Binary64.reread? (x : Binary64) : Option Binary64 :=
  ((Json.Document.ofText x.wire).read Json.Tree.asDouble).toOption

namespace Json

theorem read_whole {α : Type} (t : Tree) (read : Tree → Except Fault α) :
    Document.read ⟨t, false⟩ read = read t := by
  cases result : read t <;> simp [Document.read, result]

theorem reread?_eq (x : Binary64) : x.reread? = (doubleTree x).asDouble.toOption := by
  have spelled {cs : List Char} {v : Value} (h : Lexes cs v.tokens) :
      Document.ofText (String.ofList cs) = ⟨v.tree, false⟩ := by
    rw [Document.ofText, String.toList_ofList]
    exact ofUnits_of_lexes h
  cases x with
  | finite s m =>
    have lexes : Lexes (Binary64.chars Magnitude.wireChars (.finite s m))
        (Value.double (.finite s m)).tokens := Lexes.double (.finite s m)
    rw [Binary64.reread?, Binary64.wire, spelled lexes, read_whole, Value.tree]
  | infinite s => cases s <;> rfl
  | nan => rfl

/-- A number that is read has 64 bits or is a finite double. -/
theorem quantity?_cases {n : Numeral} {q : Quantity} (h : n.quantity? = some q) :
    (∃ w < UInt64.size, q = .whole w ∨ q = .negative w) ∨ ∃ x, q = .double x ∧ x.isFinite = true := by
  unfold Numeral.quantity? at h
  simp only at h
  split at h
  · rename_i plain
    split at h
    · exact .inl ⟨_, plain.2, .inl (Option.some.inj h).symm⟩
    · split at h
      · refine .inr ⟨_, (Option.some.inj h).symm, ?_⟩
        rw [Binary64.isFinite_neg, Binary64.isFinite_ofNat plain.2]
      · exact .inl ⟨_, plain.2, .inr (Option.some.inj h).symm⟩
  · obtain ⟨m, -, rfl⟩ := Option.map_eq_some_iff.1 h
    exact .inr ⟨_, rfl, rfl⟩

theorem asDouble_finite {t : Tree} {x : Binary64} (h : t.asDouble = .ok x) : x.isFinite = true := by
  cases t with
  | number n =>
    rw [Tree.asDouble] at h
    cases read : n.quantity? with
    | none =>
      rw [read] at h
      cases h
    | some q =>
      rw [read] at h
      rcases quantity?_cases read with ⟨w, fits, rfl | rfl⟩ | ⟨y, rfl, finite⟩
      · rw [← Except.ok.inj h]
        exact Binary64.isFinite_ofNat fits
      · rw [← Except.ok.inj h, Binary64.isFinite_neg]
        exact Binary64.isFinite_ofNat fits
      · rw [← Except.ok.inj h]
        exact finite
  | _ => cases h

theorem reread?_finite {x y : Binary64} (h : x.reread? = some y) : y.isFinite = true := by
  rw [reread?_eq, Except.toOption_eq_some] at h
  exact asDouble_finite h

theorem readMembers_eq_ok {α β : Type} (read : Tree → Except Fault β) (tree : α → Tree)
    (value : α → β) : ∀ {es : List (String × α)}, (∀ e ∈ es, read (tree e.2) = .ok (value e.2)) →
      Tree.readMembers read true (es.map fun (k, x) => (some k, tree x)) =
        .ok (es.map fun (k, x) => (k, value x))
  | [], _ => rfl
  | (k, x) :: rest, h => by
    have first : read (tree x) = .ok (value x) := h _ List.mem_cons_self
    have others := readMembers_eq_ok read tree value fun e mem => h e (List.mem_cons_of_mem _ mem)
    simp only [List.map_cons, Tree.readMembers, first, Except.ok_bind]
    rw [others]
    rfl

theorem of_readMembers_ok {α β : Type} {read : Tree → Except Fault β} {tree : α → Tree} :
    ∀ {es : List (String × α)} {ys : List (String × β)},
      Tree.readMembers read true (es.map fun (k, x) => (some k, tree x)) = .ok ys →
        ys.map (·.1) = es.map (·.1) ∧ ∀ k x, (k, x) ∈ es → ∃ y, read (tree x) = .ok y ∧ (k, y) ∈ ys
  | [], ys, h => by
    rw [← Except.ok.inj h]
    simp
  | (k, x) :: rest, ys, h => by
    simp only [List.map_cons, Tree.readMembers, Except.bind_eq_ok] at h
    obtain ⟨y, first, ys', others, h⟩ := h
    obtain ⟨names, each⟩ := of_readMembers_ok others
    rw [← Except.ok.inj h]
    refine ⟨by simp [names], fun k' x' mem => ?_⟩
    rcases List.mem_cons.1 mem with here | there
    · obtain ⟨rfl, rfl⟩ := Prod.mk.inj here
      exact ⟨y, first, List.mem_cons_self⟩
    · obtain ⟨y', read, mem⟩ := each k' x' there
      exact ⟨y', read, List.mem_cons_of_mem _ mem⟩

end Json

namespace Snapshot

/-- What a reader makes of a written snapshot: the same counters, and every gauge reread. -/
structure Reread (s t : Snapshot) : Prop where
  counters : t.counters = s.counters
  gauges : ∀ name, (t.gauges.get? name).map some = (s.gauges.get? name).map Binary64.reread?

/-- Every gauge is read back as itself. -/
def Rereads (s : Snapshot) : Prop :=
  ∀ name x, s.gauges.get? name = some x → x.reread? = some x

theorem reread_self {s : Snapshot} : s.Reread s ↔ s.Rereads := by
  constructor
  · intro h name x get
    have same := h.gauges name
    rw [get] at same
    exact (Option.some.inj same).symm
  · refine fun h => ⟨rfl, fun name => ?_⟩
    cases get : s.gauges.get? name with
    | none => rfl
    | some x => rw [Option.map_some, Option.map_some, h name x get]

/-- The snapshot with its gauges reread; one that cannot be read counts as zero. -/
def reread (s : Snapshot) : Snapshot :=
  ⟨s.gauges.mapValues fun x => x.reread?.getD .zero, s.counters⟩

theorem reread_reread {s : Snapshot}
    (h : ∀ name x, s.gauges.get? name = some x → ∃ y, x.reread? = some y) : s.Reread s.reread := by
  refine ⟨rfl, fun name => ?_⟩
  rw [reread, NameMap.get?_mapValues]
  cases get : s.gauges.get? name with
  | none => rfl
  | some x =>
    obtain ⟨y, reads⟩ := h name x get
    simp [reads]

theorem checkFinite_reread (s : Snapshot) : s.reread.checkFinite = .ok () := by
  refine checkFinite_eq_ok.2 fun name y get => ?_
  rw [reread, NameMap.get?_mapValues] at get
  obtain ⟨x, -, rfl⟩ := Option.map_eq_some_iff.1 get
  cases reads : x.reread? with
  | none => rfl
  | some z => exact Json.reread?_finite reads

theorem Reread.eq {s t : Snapshot} (h : s.Reread t) : t = s.reread := by
  have gauges : t.gauges = s.reread.gauges := by
    refine NameMap.ext_get? fun name => ?_
    have here := h.gauges name
    rw [reread, NameMap.get?_mapValues]
    cases get : s.gauges.get? name with
    | none =>
      rw [get, Option.map_none, Option.map_eq_none_iff] at here
      rw [here, Option.map_none]
    | some x =>
      rw [get, Option.map_some] at here
      obtain ⟨y, value, reads⟩ := Option.map_eq_some_iff.1 here
      rw [value, Option.map_some, ← reads, Option.getD_some]
  calc t = ⟨t.gauges, t.counters⟩ := rfl
    _ = s.reread := by rw [gauges, h.counters]; rfl

theorem tree_toJson (s : Snapshot) :
    s.toJson.tree = .object [
      (some "Gauges", .object (s.gauges.entries.map fun (k, x) => (some k, Json.doubleTree x)) .closed),
      (some "Counters", .object (s.counters.entries.map fun (k, d) =>
        (some k, .number (Json.integerParts d.toInt).numeral)) .closed)] .closed := by
  simp only [toJson, Json.Value.tree, Json.Value.memberTrees, Json.memberTrees_eq, List.map_map]
  rfl

/-- A written snapshot is read map by map; no counter is read wrong. -/
theorem read_tree (s : Snapshot) :
    shape.read s.toJson.tree =
      (Json.Tree.readMembers Json.Tree.asDouble true
        (s.gauges.entries.map fun (k, x) => (some k, Json.doubleTree x))).map
          fun es => ⟨.ofList es, s.counters⟩ := by
  have counters : Json.Tree.readMembers Json.Tree.asInt64 true (s.counters.entries.map fun (k, d) =>
      (some k, .number (Json.integerParts d.toInt).numeral)) = .ok s.counters.entries := by
    rw [Json.readMembers_eq_ok Json.Tree.asInt64
      (fun d : Int64 => .number (Json.integerParts d.toInt).numeral) (fun d => d)
      (fun e _ => Json.asInt64_integer e.2)]
    simp
  rw [tree_toJson]
  cases gauges : Json.Tree.readMembers Json.Tree.asDouble true
    (s.gauges.entries.map fun (k, x) => (some k, Json.doubleTree x)) with
  | error fault =>
    simp [Json.Shape.read, shape, Json.Shape.readObject, Json.Tree.asMap, gauges, Except.map]
  | ok es =>
    simp [Json.Shape.read, shape, Json.Shape.readObject, Json.Tree.asMap, gauges, counters,
      Json.Shape.missing?, NameMap.ofList_entries, Except.map]

/-- **What a written snapshot is read as.** -/
theorem read_tree_eq_ok {s t : Snapshot} : shape.read s.toJson.tree = .ok t ↔ s.Reread t := by
  rw [read_tree, Except.map_eq_ok]
  constructor
  · rintro ⟨es, read, rfl⟩
    obtain ⟨names, each⟩ := Json.of_readMembers_ok read
    have nodup : (es.map (·.1)).Nodup := names ▸ s.gauges.nodup_names
    refine ⟨rfl, fun name => ?_⟩
    rw [NameMap.get?_ofList name nodup]
    cases get : s.gauges.get? name with
    | none =>
      have absent : name ∉ es.map (·.1) := by
        rw [names, List.mem_map]
        rintro ⟨⟨k, x⟩, mem, rfl⟩
        rw [NameMap.mem_entries.1 mem] at get
        cases get
      rw [NameMap.lookup_of_not_mem absent]
      rfl
    | some x =>
      obtain ⟨y, reads, mem⟩ := each name x (NameMap.mem_entries.2 get)
      rw [NameMap.lookup_of_mem nodup mem, Option.map_some, Option.map_some, Json.reread?_eq, reads]
      rfl
  · intro h
    have reads : ∀ e ∈ s.gauges.entries,
        (Json.doubleTree e.2).asDouble = .ok (e.2.reread?.getD .zero) := by
      rintro ⟨name, x⟩ mem
      have same := h.gauges name
      rw [NameMap.mem_entries.1 mem, Option.map_some] at same
      obtain ⟨y, -, reread⟩ := Option.map_eq_some_iff.1 same
      rw [← reread, Option.getD_some, ← Except.toOption_eq_some, ← Json.reread?_eq, reread]
    refine ⟨_, Json.readMembers_eq_ok _ _ (fun x => x.reread?.getD .zero) reads, ?_⟩
    rw [h.eq]
    exact congrArg (Snapshot.mk · s.counters) (NameMap.ofList_entries s.reread.gauges)

end Snapshot

end Telemetry
