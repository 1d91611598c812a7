/-
Typed values from trees.

Readers go through a tree in the order of the text and stop at the first thing
wrong. A record (`Shape`) is read from an object, whose unknown keys are skipped,
or from an array of its fields in order; both begin with the shape's initial draft
and set one field after another.
-/
import Telemetry.Json.Fault
import Telemetry.Json.Tree

namespace Telemetry.Json

/-- What a number is when a place expects no number. -/
def Numeral.found (n : Numeral) : Except Fault Found :=
  match n.quantity? with
  | none => .error .malformed
  | some (.whole w) => .ok (.integer w)
  | some (.negative w) => .ok (.integer (-(w : Int)))
  | some (.double x) => .ok (.double x)

/-- What a tree is when a place expects something else. -/
def Tree.found : Tree → Except Fault Found
  | .null => .ok .null
  | .boolean b => .ok (.boolean b)
  | .number n => n.found
  | .string (some s) => .ok (.text s)
  | .string none => .error .malformed
  | .array _ _ => .ok .sequence
  | .object _ _ => .ok .map
  | .broken => .error .malformed

/-- What a token is where a key should be. -/
def Token.found : Token → Except Fault Found
  | .null => .ok .null
  | .boolean b => .ok (.boolean b)
  | .number n => n.found
  | .openArray => .ok .sequence
  | .openObject => .ok .map
  | _ => .error .malformed

/-- A wrong type; what cannot be named is malformed. -/
def mismatch (found : Except Fault Found) (expected : Expected) : Fault :=
  match found with
  | .ok f => .invalidType f expected
  | .error e => e

namespace Tree

def asText (t : Tree) (expected : Expected) : Except Fault String :=
  match t with
  | .string (some s) => .ok s
  | t => .error (mismatch t.found expected)

def asBoolean : Tree → Except Fault Bool
  | .boolean b => .ok b
  | t => .error (mismatch t.found .boolean)

/-- A whole number, with what it is checked against. -/
def asInteger (t : Tree) (expected : Expected) : Except Fault Int :=
  match t with
  | .number n =>
    match n.quantity? with
    | some (.whole w) => .ok w
    | some (.negative w) => .ok (-(w : Int))
    | _ => .error (mismatch t.found expected)
  | t => .error (mismatch t.found expected)

/-- A whole number of 64 bits with a sign. -/
def asInt64 (t : Tree) : Except Fault Int64 := do
  let i ← t.asInteger .int64
  if i ≤ Int64.maxValue.toInt then .ok (Int64.ofInt i) else .error (.invalidValue i .int64)

/-- A whole number of 64 bits without a sign. -/
def asUInt64 (t : Tree) : Except Fault UInt64 := do
  let i ← t.asInteger .uint64
  if 0 ≤ i then .ok (UInt64.ofNat i.toNat) else .error (.invalidValue i .uint64)

/-- A double; any number will do. -/
def asDouble (t : Tree) : Except Fault Binary64 :=
  match t with
  | .number n =>
    match n.quantity? with
    | none => .error .malformed
    | some (.whole w) => .ok (Binary64.ofNat w)
    | some (.negative w) => .ok (Binary64.ofNat w).neg
    | some (.double x) => .ok x
  | t => .error (mismatch t.found .double)

def asOptional {α : Type} (read : Tree → Except Fault α) : Tree → Except Fault (Option α)
  | .null => .ok none
  | t => (read t).map some

/-- The items of an array that has to be closed. -/
def readItems {α : Type} (read : Tree → Except Fault α) (closed : Bool) :
    List Tree → Except Fault (List α)
  | [] => if closed then .ok [] else .error .malformed
  | t :: rest => do
    let x ← read t
    let xs ← readItems read closed rest
    .ok (x :: xs)

def asList {α : Type} (read : Tree → Except Fault α) : Tree → Except Fault (List α)
  | .array items closed => readItems read closed items
  | t => .error (mismatch t.found .sequence)

/-- The members of an object that has to be closed. -/
def readMembers {α : Type} (read : Tree → Except Fault α) (closed : Bool) :
    List (Option String × Tree) → Except Fault (List (String × α))
  | [] => if closed then .ok [] else .error .malformed
  | (none, _) :: _ => .error .malformed
  | (some key, t) :: rest => do
    let x ← read t
    let xs ← readMembers read closed rest
    .ok ((key, x) :: xs)

/-- Named values in the order of the text. -/
def asMap {α : Type} (read : Tree → Except Fault α) : Tree → Except Fault (List (String × α))
  | .object members ending => readMembers read (decide (ending = .closed)) members
  | t => .error (mismatch t.found .map)

/-- The name of a variant, alone or as the only key of an object with the value `null`. -/
def asVariant {α : Type} (known : List (String × α)) : Tree → Except Fault α
  | .string (some s) => pick s
  | .object [] (.stray token) => .error (mismatch token.found .variant)
  | .object ((some key, content) :: rest) ending => do
    let x ← pick key
    match content with
    | .null => if rest.isEmpty ∧ ending = .closed then .ok x else .error .malformed
    | t => .error (mismatch t.found .unit)
  | _ => .error .malformed
where
  pick (name : String) : Except Fault α :=
    match known.find? (·.1 == name) with
    | some (_, x) => .ok x
    | none => .error (.unknownVariant name (known.map (·.1)))

end Tree

/-- A field of a record: how a tree sets it in a draft, and whether it must be there. -/
structure Field (δ : Type) where
  name : String
  set : δ → Tree → Except Fault δ
  required : Bool

/-- A record: its name, its fields in order, and the draft that every reading begins with. -/
structure Shape (δ : Type) where
  name : String
  fields : List (Field δ)
  initial : δ

namespace Shape

variable {δ : Type}

/-- Sets the fields that an object has; gives the keys that it had. -/
def readObject (shape : Shape δ) (closed : Bool) :
    List (Option String × Tree) → List String → δ → Except Fault (List String × δ)
  | [], seen, draft => if closed then .ok (seen, draft) else .error .malformed
  | (none, _) :: _, _, _ => .error .malformed
  | (some key, t) :: rest, seen, draft =>
    match shape.fields.find? (·.name == key) with
    | none =>
      if t.isWhole then readObject shape closed rest seen draft else .error .malformed
    | some field =>
      if seen.contains key then .error (.duplicateField key)
      else do
        let draft ← field.set draft t
        readObject shape closed rest (key :: seen) draft

/-- The first required field that an object did not have. -/
def missing? (shape : Shape δ) (seen : List String) : Option String :=
  (shape.fields.find? fun f => f.required && !seen.contains f.name).map (·.name)

/-- Sets the fields in order from the items of an array. -/
def readArray (shape : Shape δ) (closed : Bool) :
    List (Field δ) → List Tree → Nat → δ → Except Fault δ
  | [], [], _, draft => if closed then .ok draft else .error .malformed
  | [], _ :: _, _, _ => .error .malformed
  | field :: fields, [], n, draft =>
    if closed = false then .error .malformed
    else if field.required then .error (.invalidLength n shape.name shape.fields.length)
    else readArray shape closed fields [] n draft
  | field :: fields, t :: rest, n, draft => do
    let draft ← field.set draft t
    readArray shape closed fields rest (n + 1) draft

def read (shape : Shape δ) : Tree → Except Fault δ
  | .object members ending => do
    let (seen, draft) ← shape.readObject (decide (ending = .closed)) members [] shape.initial
    match shape.missing? seen with
    | some name => .error (.missingField name)
    | none => .ok draft
  | .array items closed => shape.readArray closed shape.fields items 0 shape.initial
  | t => .error (mismatch t.found (.structure shape.name))

end Shape

/-- The typed value of a document; nothing may follow it. -/
def Document.read {α : Type} (d : Document) (read : Tree → Except Fault α) : Except Fault α := do
  let x ← read d.tree
  if d.trailing then .error .malformed else .ok x

end Telemetry.Json
