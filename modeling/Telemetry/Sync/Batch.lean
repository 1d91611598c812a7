/-
Batches: a snapshot as a list of records, and back.

An agent sends all its gauges and then all its counters, signed when it has a key
(`encode`). A collector checks each record in turn, its payload before its hash,
and folds it into a snapshot by the merge rule (`decode`); the first fault rejects
the whole batch. A record without a hash is taken even when there is a key.
-/
import Telemetry.Metric.Store
import Telemetry.Sync.Key

namespace Telemetry.Sync

/-- How batches are signed and checked: with a key or without. -/
structure Codec where
  key : Option Key
  deriving DecidableEq

namespace Codec

/-- Neither signs nor checks. -/
def plain : Codec :=
  ⟨none⟩

instance : Inhabited Codec := ⟨plain⟩

def ofSecret (secret : Option String) : Codec :=
  ⟨Key.ofSetting secret⟩

def isSigning (codec : Codec) : Bool :=
  codec.key.isSome

/-- The record with its hash, if there is a key. -/
def sign (codec : Codec) (r : Record) : Outcome Record :=
  match codec.key with
  | some key => key.signRecord r
  | none => .ok r

/-- The records of a snapshot: gauges by name, then counters by name. -/
def encode (codec : Codec) (s : Snapshot) : Outcome (List Record) :=
  (s.samples.map fun (id, sample) => Record.ofSample id sample).mapM codec.sign

/-- The hash of a record is right, or there is none, or no key to check it with. -/
def accepts (codec : Codec) (r : Record) (sample : Sample) : Bool :=
  match codec.key, r.hash with
  | some key, some hash => key.verify r.id sample hash
  | _, _ => true

/-- One record checked and folded in. -/
def fold (codec : Codec) (s : Snapshot) (r : Record) : Outcome Snapshot := do
  let sample ← r.validate
  if codec.accepts r sample then s.mergeSample r.id sample else .error (.hashMismatch r.id)

def foldAll (codec : Codec) (s : Snapshot) : List Record → Outcome Snapshot
  | [] => .ok s
  | r :: rest => do
    let s ← codec.fold s r
    codec.foldAll s rest

def decode (codec : Codec) (rs : List Record) : Outcome Snapshot :=
  codec.foldAll .empty rs

/-- The store with a batch written, and how many records it had. -/
def apply (codec : Codec) (store : Store) (rs : List Record) : Outcome (Store × Nat) := do
  let batch ← codec.decode rs
  let store ← store.putBatch batch
  .ok (store, rs.length)

end Codec

end Telemetry.Sync
