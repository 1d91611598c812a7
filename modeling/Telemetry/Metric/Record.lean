/-
A metric on the wire: an identity, a kind, the payload of that kind, and
optionally a hash over all of it.
-/
import Telemetry.Metric.Snapshot

namespace Telemetry

/-- One entry of a batch. A gauge carries a value and a counter a delta. -/
structure Record where
  id : String
  kind : Kind
  delta : Option Int64
  value : Option Binary64
  hash : Option String
  deriving DecidableEq, Repr

namespace Record

/-- A record of a value, without a hash. -/
def ofSample (id : String) : Sample → Record
  | .gauge x => ⟨id, .gauge, none, some x, none⟩
  | .counter d => ⟨id, .counter, some d, none, none⟩

/-- The payload that the record's kind asks for. -/
def sample (r : Record) : Outcome Sample :=
  match r.kind with
  | .gauge =>
    match r.value with
    | some x => .ok (.gauge x)
    | none => .error (.rejected (.noValue r.id))
  | .counter =>
    match r.delta with
    | some d => .ok (.counter d)
    | none => .error (.rejected (.noDelta r.id))

/-- The payload of a record with a name and, for a gauge, a finite value. -/
def validate (r : Record) : Outcome Sample :=
  if Text.isBlankText r.id then .error (.rejected .blankId)
  else
    match r.sample with
    | .error e => .error e
    | .ok (.gauge x) => (finiteGauge r.id x).map .gauge
    | .ok (.counter d) => .ok (.counter d)

/-! ## JSON -/

/-- The member of an optional field, which is left out when absent. -/
def optionalMember {α : Type} (name : String) (toJson : α → Json.Value) :
    Option α → List (String × Json.Value)
  | none => []
  | some x => [(name, toJson x)]

def toJson (r : Record) : Json.Value :=
  .object (
    [("id", .text r.id), ("type", .text r.kind.name)] ++
      optionalMember "delta" (fun (d : Int64) => .integer d.toInt) r.delta ++
      optionalMember "value" .double r.value ++
      optionalMember "hash" .text r.hash)

def listToJson (rs : List Record) : Json.Value :=
  .array (rs.map toJson)

def kinds : List (String × Kind) :=
  [("gauge", .gauge), ("counter", .counter)]

def idField {δ : Type} (set : δ → String → δ) : Json.Field δ where
  name := "id"
  set := fun r t => (t.asText .text).map (set r)
  required := true

def kindField {δ : Type} (set : δ → Kind → δ) : Json.Field δ where
  name := "type"
  set := fun r t => (t.asVariant kinds).map (set r)
  required := true

def shape : Json.Shape Record where
  name := "MetricRecord"
  fields := [
    idField fun r id => { r with id := id },
    kindField fun r kind => { r with kind := kind },
    { name := "delta"
      set := fun r t => do
        let d ← t.asOptional Json.Tree.asInt64
        .ok { r with delta := d }
      required := false },
    { name := "value"
      set := fun r t => do
        let x ← t.asOptional Json.Tree.asDouble
        .ok { r with value := x }
      required := false },
    { name := "hash"
      set := fun r t => do
        let h ← t.asOptional fun t => t.asText .text
        .ok { r with hash := h }
      required := false }]
  initial := ⟨"", .gauge, none, none, none⟩

def ofDocument (d : Json.Document) : Except Json.Fault Record :=
  d.read shape.read

def listOfDocument (d : Json.Document) : Except Json.Fault (List Record) :=
  d.read (Json.Tree.asList shape.read)

end Record

end Telemetry
