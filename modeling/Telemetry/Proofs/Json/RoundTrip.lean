/-
Decoding undoes encoding.

What a record, a list of records or a snapshot is written as is read back as the very value, provided that
each double in it is read back from its own text. Of the text of a record or a snapshot only the
members count: their order does not, nor do blanks, the way a key is spelled, and further members
with any well-formed value (`Shape.Rearranged`).
-/
import Telemetry.Proofs.Json.Acceptance
import Telemetry.Proofs.Json.Members
import Telemetry.Proofs.Json.Records
import Telemetry.Proofs.Json.Rereading

namespace Telemetry

namespace Json.Shape

variable {δ : Type} {shape : Shape δ}

/-- The second text is an object with the members of the first in any order, and with further ones
whose keys name no field. -/
def Rearranged (shape : Shape δ) (text text' : String) : Prop :=
  ∃ members members' further, IsObject text.toList members ∧ IsObject text'.toList members' ∧
    members'.Perm (members ++ further) ∧ ∀ m ∈ further, ∀ field ∈ shape.fields, field.name ≠ m.1

theorem ofBytes_object {text : String} {members : List (String × List Char)}
    (h : IsObject text.toList members) : Document.ofBytes (Text.Utf8.encode text) =
      ⟨.object (memberTreesOf members) .closed, false⟩ := by
  rw [Document.ofBytes, Text.Utf8.units_encode, h.document]

/-- What a text is read as depends on its members alone. -/
theorem read_rearranged (independent : shape.Independent) {text text' : String}
    (h : shape.Rearranged text text') :
    ((Document.ofBytes (Text.Utf8.encode text')).read shape.read).toOption =
      ((Document.ofBytes (Text.Utf8.encode text)).read shape.read).toOption := by
  obtain ⟨members, members', further, object, object', perm, unknown⟩ := h
  rw [ofBytes_object object, ofBytes_object object', read_whole, read_whole]
  have trees : (memberTreesOf members').Perm (memberTreesOf members ++ memberTreesOf further) := by
    rw [memberTreesOf, memberTreesOf, memberTreesOf, ← List.map_append]
    exact perm.map _
  refine read_of_perm independent trees (List.forall_mem_map.2 fun m mem => ⟨⟨m.1, rfl, ?_⟩, ?_⟩)
  · exact List.find?_eq_none.2 fun field here => by simpa using unknown m mem field here
  · exact object'.whole m (perm.mem_iff.2 (List.mem_append_right _ mem))

end Json.Shape

namespace Record

/-- The value, if there is one, is read back as itself. -/
def Rereads (r : Record) : Prop :=
  ∀ x, r.value = some x → x.reread? = some x

theorem read_self {r : Record} (h : r.Rereads) : shape.read r.toJson.tree = .ok r := by
  rw [read_toJson fun x value => Json.reread?_finite (h x value)]
  obtain ⟨id, kind, delta, value, hash⟩ := r
  cases value with
  | none => rfl
  | some x =>
    have reads := h x rfl
    rw [Json.reread?_eq, Except.toOption_eq_some] at reads
    simp only [Option.elim_some, reads]
    rfl

theorem shape_independent : shape.Independent := by
  have id : (idField fun (r : Record) id => { r with id := id }).Puts (fun t => t.asText .text) _ :=
    fun _ _ => rfl
  have kind : (kindField fun (r : Record) kind => { r with kind := kind }).Puts
    (fun t => t.asVariant kinds) _ := fun _ _ => rfl
  have delta := Json.Field.puts_bind "delta" false (Json.Tree.asOptional Json.Tree.asInt64)
    fun (r : Record) d => { r with delta := d }
  have value := Json.Field.puts_bind "value" false (Json.Tree.asOptional Json.Tree.asDouble)
    fun (r : Record) x => { r with value := x }
  have hash := Json.Field.puts_bind "hash" false (Json.Tree.asOptional fun t => t.asText .text)
    fun (r : Record) h => { r with hash := h }
  simp only [Json.Shape.Independent, shape, List.pairwise_cons, List.mem_cons, List.not_mem_nil,
    forall_eq_or_imp, or_false, forall_eq, false_implies, implies_true, List.Pairwise.nil, and_true]
  exact ⟨⟨id.commutes kind fun _ _ _ => rfl, id.commutes delta fun _ _ _ => rfl,
      id.commutes value fun _ _ _ => rfl, id.commutes hash fun _ _ _ => rfl⟩,
    ⟨kind.commutes delta fun _ _ _ => rfl, kind.commutes value fun _ _ _ => rfl,
      kind.commutes hash fun _ _ _ => rfl⟩,
    ⟨delta.commutes value fun _ _ _ => rfl, delta.commutes hash fun _ _ _ => rfl⟩,
    value.commutes hash fun _ _ _ => rfl⟩

end Record

namespace Snapshot

theorem shape_independent : shape.Independent := by
  have gauges := Json.Field.puts_bind "Gauges" false (Json.Tree.asMap Json.Tree.asDouble)
    fun (s : Snapshot) es => { s with gauges := .ofList es }
  have counters := Json.Field.puts_bind "Counters" false (Json.Tree.asMap Json.Tree.asInt64)
    fun (s : Snapshot) es => { s with counters := .ofList es }
  simp only [Json.Shape.Independent, shape, List.pairwise_cons, List.mem_cons, List.not_mem_nil,
    forall_eq, or_false, false_implies, implies_true, List.Pairwise.nil, and_true]
  exact gauges.commutes counters fun _ _ _ => rfl

end Snapshot

/-- **Decoding undoes encoding.** A record whose value is read back from its own text is read back whole
from what it is written as, and so are a list of such records and a snapshot of such gauges, on one
line and on a page. What is read of a record or a snapshot is the same for its members in any order and
with any further well-formed members among them that it has no field for; a text that is refused stays
refused, though the fault that is met first may be another. -/
theorem Json.read_as_written :
    (∀ r : Record, r.Rereads →
      Record.ofDocument (.ofBytes (Text.Utf8.encode r.toJson.compact)) = .ok r) ∧
    (∀ rs : List Record, (∀ r ∈ rs, r.Rereads) →
      Record.listOfDocument (.ofBytes (Text.Utf8.encode (Record.listToJson rs).compact)) = .ok rs) ∧
    (∀ s : Snapshot, s.Rereads →
      Snapshot.ofDocument (.ofBytes (Text.Utf8.encode s.toJson.compact)) = .ok s ∧
      Snapshot.ofDocument (.ofBytes (Text.Utf8.encode s.toJson.pretty)) = .ok s) ∧
    (∀ text text', Record.shape.Rearranged text text' →
      (Record.ofDocument (.ofBytes (Text.Utf8.encode text'))).toOption =
        (Record.ofDocument (.ofBytes (Text.Utf8.encode text))).toOption) ∧
    (∀ text text', Snapshot.shape.Rearranged text text' →
      (Snapshot.ofDocument (.ofBytes (Text.Utf8.encode text'))).toOption =
        (Snapshot.ofDocument (.ofBytes (Text.Utf8.encode text))).toOption) := by
  refine ⟨fun r rereads => ?_, fun rs rereads => ?_, fun s rereads => ?_,
    fun _ _ => Shape.read_rearranged Record.shape_independent,
    fun _ _ => Shape.read_rearranged Snapshot.shape_independent⟩
  · rw [ofBytes_compact, Record.ofDocument, read_whole, Record.read_self rereads]
  · have each : ∀ r ∈ rs, Record.shape.read r.toJson.tree = .ok (id r) :=
      fun r mem => Record.read_self (rereads r mem)
    rw [Record.listOfDocument_compact, readItems_eq_ok each, List.map_id]
  · have reads := Snapshot.read_tree_eq_ok.2 (Snapshot.reread_self.2 rereads)
    rw [ofBytes_compact, ofBytes_pretty, Snapshot.ofDocument, read_whole, reads]
    exact ⟨rfl, rfl⟩

/-- A gauge of minus zero with the least delta beside it, named by a control character and a quote, is read
from a page that has its members the other way round, behind one that no field is for. -/
theorem Json.read_as_written_turned :
    (Record.ofDocument (.ofBytes (Text.Utf8.encode
        ("\x7b\n  \"seen\": [\n    null\n  ],\n  \"value\": -0.0,\n" ++
          "  \"delta\": -9223372036854775808,\n  \"type\": \"gauge\",\n" ++
          "  \"id\": \"\\u0000\\\"\"\n\x7d")))).toOption =
      some ⟨"\x00\"", .gauge, some Int64.minValue, some (.finite true .zero), none⟩ := by
  obtain ⟨records, -, -, turned, -⟩ := read_as_written
  let r : Record := ⟨"\x00\"", .gauge, some Int64.minValue, some (.finite true .zero), none⟩
  let members : List (String × Value) := [("seen", .array [.null]),
    ("value", .double (.finite true .zero)), ("delta", .integer (-9223372036854775808)),
    ("type", .text "gauge"), ("id", .text "\x00\"")]
  have rearranged : Record.shape.Rearranged r.toJson.compact (Value.object members).pretty :=
    ⟨_, _, [("seen", (Value.array [.null]).prettyChars 1)], isObject_compact members.tail.reverse,
      isObject_pretty members, List.reverse_perm [_, _, _, _, _], by
        simp [Record.shape, Record.idField, Record.kindField]⟩
  have rereads : r.Rereads := fun x value => by
    rw [← Option.some.inj value]
    exact Binary64.reread?_zero true rfl
  have read : (Record.ofDocument (.ofBytes (Text.Utf8.encode (Value.object members).pretty))).toOption =
      some r := by
    rw [turned _ _ rearranged, records r rereads]
    rfl
  refine (congrArg (fun text => (Record.ofDocument (.ofBytes (Text.Utf8.encode text))).toOption) ?_).trans
    read
  decide

end Telemetry
