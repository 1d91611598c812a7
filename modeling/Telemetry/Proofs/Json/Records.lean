/-
What a written record is read as.

A name, a kind, a delta and a hash are read back exactly; a gauge's value is read back
as its rereading, like that of a snapshot. A list of records is read record by record.
-/
import Telemetry.Proofs.Batch
import Telemetry.Proofs.Json.Snapshots

namespace Telemetry

/-- What a reader makes of a written value. -/
def Sample.reread? : Sample → Option Sample
  | .gauge x => x.reread?.map .gauge
  | .counter d => some (.counter d)

/-- The value as it is read; one that cannot be read counts as zero. -/
def Sample.reread : Sample → Sample
  | .gauge x => .gauge (x.reread?.getD .zero)
  | .counter d => .counter d

theorem Sample.reread_eq {x y : Sample} (h : x.reread? = some y) : x.reread = y := by
  cases x with
  | gauge x =>
    obtain ⟨z, reads, rfl⟩ := Option.map_eq_some_iff.1 h
    rw [reread, reads, Option.getD_some]
  | counter d => exact Option.some.inj h

theorem Snapshot.samples_reread (s : Snapshot) :
    s.reread.samples = s.samples.map fun (id, x) => (id, x.reread) := by
  simp only [samples, Snapshot.reread, NameMap.mapValues, List.map_append, List.map_map]
  rfl

theorem Sample.finite_of_reread? {x : Sample} {y : Binary64} (h : x.reread? = some (.gauge y)) :
    y.isFinite = true := by
  cases x with
  | gauge x =>
    obtain ⟨z, reads, same⟩ := Option.map_eq_some_iff.1 h
    rw [← Sample.gauge.inj same]
    exact Json.reread?_finite reads
  | counter d => cases h

namespace Json

theorem readItems_eq_ok {α β : Type} {read : Tree → Except Fault β} {tree : α → Tree}
    {value : α → β} : ∀ {l : List α}, (∀ x ∈ l, read (tree x) = .ok (value x)) →
      Tree.readItems read true (l.map tree) = .ok (l.map value)
  | [], _ => rfl
  | x :: rest, h => by
    have others := readItems_eq_ok fun y mem => h y (List.mem_cons_of_mem _ mem)
    simp only [List.map_cons, Tree.readItems, h x List.mem_cons_self, Except.ok_bind, others]

theorem of_readItems_ok {α β : Type} {read : Tree → Except Fault β} {tree : α → Tree} :
    ∀ {l : List α} {ys : List β}, Tree.readItems read true (l.map tree) = .ok ys →
      ∀ x ∈ l, ∃ y ∈ ys, read (tree x) = .ok y
  | [], _, _ => fun _ mem => absurd mem List.not_mem_nil
  | x :: rest, ys, h => by
    simp only [List.map_cons, Tree.readItems, Except.bind_eq_ok] at h
    obtain ⟨y, first, ys', others, h⟩ := h
    rw [← Except.ok.inj h]
    intro x' mem
    rcases List.mem_cons.1 mem with rfl | mem
    · exact ⟨y, List.mem_cons_self, first⟩
    · obtain ⟨y', mem, reads⟩ := of_readItems_ok others x' mem
      exact ⟨y', List.mem_cons_of_mem _ mem, reads⟩

end Json

namespace Record

theorem asOptional_asDouble {x : Binary64} (finite : x.isFinite = true) :
    (Json.doubleTree x).asOptional Json.Tree.asDouble = (Json.doubleTree x).asDouble.map some := by
  cases x with
  | finite s m => rfl
  | infinite s => cases finite
  | nan => cases finite

theorem asText_string (s : String) (expected : Json.Expected) :
    (Json.Tree.string (some s)).asText expected = .ok s := rfl

theorem asOptional_text (h : String) :
    (Json.Tree.string (some h)).asOptional (fun t => t.asText .text) = .ok (some h) := rfl

theorem asOptional_asInt64 (d : Int64) :
    (Json.Tree.number (Json.integerParts d.toInt).numeral).asOptional Json.Tree.asInt64 =
      .ok (some d) := by
  rw [Json.Tree.asOptional, Json.asInt64_integer]
  · rfl
  · simp

theorem asVariant_kind (kind : Kind) :
    (Json.Tree.string (some kind.name)).asVariant kinds = .ok kind := by
  cases kind <;> rfl

/-- The tree of a record: its name and kind, and what it has of a delta, a value and a hash. -/
theorem tree_toJson (r : Record) : r.toJson.tree = .object
    ((some "id", .string (some r.id)) :: (some "type", .string (some r.kind.name)) ::
      ((r.delta.map fun d => (some "delta", .number (Json.integerParts d.toInt).numeral)).toList ++
        (r.value.map fun x => (some "value", Json.doubleTree x)).toList ++
        (r.hash.map fun h => (some "hash", .string (some h))).toList)) .closed := by
  obtain ⟨id, kind, delta, value, hash⟩ := r
  cases delta <;> cases value <;> cases hash <;> rfl

/-- What a record is read as: itself, but for the value; one that is not finite would be left out. -/
theorem read_toJson {r : Record} (finite : ∀ x, r.value = some x → x.isFinite = true) :
    shape.read r.toJson.tree =
      (r.value.elim (.ok none) fun x => (Json.doubleTree x).asDouble.map some).map
        fun value => { r with value := value } := by
  obtain ⟨id, kind, delta, value, hash⟩ := r
  rw [tree_toJson]
  cases value with
  | none =>
    cases delta <;> cases hash <;>
      simp [Json.Shape.read, shape, Json.Shape.readObject, Json.Shape.missing?, idField, kindField,
        asText_string, asVariant_kind, asOptional_asInt64, asOptional_text, Except.map]
  | some x =>
    cases read : (Json.doubleTree x).asDouble <;> cases delta <;> cases hash <;>
      simp [Json.Shape.read, shape, Json.Shape.readObject, Json.Shape.missing?, idField, kindField,
        asText_string, asVariant_kind, asOptional_asDouble (finite x rfl), asOptional_asInt64,
        asOptional_text, read, Except.map]

theorem read_carrying {id : String} {sample : Sample} (hash : Option String)
    (finite : ∀ x, sample = .gauge x → x.isFinite = true) :
    (shape.read (carrying id sample hash).toJson.tree).toOption =
      sample.reread?.map fun y => carrying id y hash := by
  cases sample with
  | gauge x =>
    have only : ∀ y, (carrying id (.gauge x) hash).value = some y → y.isFinite = true := by
      rintro y same
      exact finite y (congrArg Sample.gauge (Option.some.inj same))
    rw [read_toJson only, Sample.reread?, Json.reread?_eq]
    simp only [carrying, ofSample, Option.elim_some]
    cases (Json.doubleTree x).asDouble <;> rfl
  | counter d =>
    rw [read_toJson (fun _ none => by cases none)]
    rfl

theorem listOfDocument_compact (rs : List Record) :
    listOfDocument (.ofBytes (Text.Utf8.encode (listToJson rs).compact)) =
      Json.Tree.readItems shape.read true (rs.map fun r => r.toJson.tree) := by
  rw [Json.ofBytes_compact, listOfDocument, Json.read_whole, listToJson, Json.Value.tree,
    Json.itemTrees_eq, List.map_map]
  rfl

end Record

end Telemetry
