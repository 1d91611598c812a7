/-
The shared secret of agent and collector.

A metric is signed over its canonical text, which ends in a kind and a number: the
text after the last two colons tells the kind and the value, so the name may
hold anything. A gauge counts with six decimals.
-/
import Telemetry.Digest.Hmac
import Telemetry.Metric.Record
import Telemetry.Text.Hex

namespace Telemetry.Sync

/-- A secret that is not empty. -/
structure Key where
  secret : Text.Bytes
  nonempty : secret ≠ []
  deriving DecidableEq

namespace Key

def ofBytes (secret : Text.Bytes) : Outcome Key :=
  if h : secret ≠ [] then .ok ⟨secret, h⟩ else .error (.settings .emptySecret)

/-- The key of a setting; a blank one means no key. -/
def ofSetting : Option String → Option Key
  | none => none
  | some s => if Text.isBlankText s then none else (ofBytes (Text.Utf8.encode s)).toOption

/-- What a key shows of itself. -/
def description : String :=
  "IntegrityKey \x7b .. \x7d"

/-- The text that is signed for a metric. -/
def canonical (id : String) : Sample → String
  | .gauge x => id ++ ":gauge:" ++ x.sixPlaces
  | .counter d => id ++ ":counter:" ++ toString d.toInt

def digest (key : Key) (id : String) (sample : Sample) : Text.Bytes :=
  Digest.hmac key.secret (Text.Utf8.encode (canonical id sample))

/-- The hash of a metric: its digest in lower-case hexadecimal. -/
def sign (key : Key) (id : String) (sample : Sample) : String :=
  Text.Hex.encode (key.digest id sample)

/-- The hash is the metric's; blanks around it and the case of its digits do not count. -/
def verify (key : Key) (id : String) (sample : Sample) (hash : String) : Bool :=
  match Text.Hex.decode? (Text.trimChars hash.toList) with
  | some bytes => bytes == key.digest id sample
  | none => false

def signRecord (key : Key) (r : Record) : Outcome Record := do
  let sample ← r.sample
  .ok { r with hash := some (key.sign r.id sample) }

end Key

end Telemetry.Sync
