/-
The paths that the collector answers.

Paths are compared part by part, before anything in them is decoded. A part that
stands for a kind, a name or a value may be empty unless it is the last one. Reads
are for GET (and HEAD), and what sends something is for POST.
-/
import Telemetry.Disk.Path
import Telemetry.Text.Percent

namespace Telemetry.Service

/-- What a path asks for, with its parts as they are written. -/
inductive Endpoint where
  | listing
  | ping
  | updatePath (kind name value : String)
  | updateRecord
  | updateBatch
  | valuePath (kind name : String)
  | valueRecord
  deriving DecidableEq, Repr

namespace Endpoint

/-- The path of a target: what stands before its query or fragment. -/
def path (target : String) : List Char :=
  target.toList.takeWhile fun c => c ≠ '?' ∧ c ≠ '#'

/-- The endpoint of a target, if there is one. -/
def ofTarget? (target : String) : Option Endpoint :=
  match (Path.parts (path target)).map String.ofList with
  | ["", ""] => some .listing
  | ["", "ping"] => some .ping
  | ["", "update", ""] => some .updateRecord
  | ["", "updates", ""] => some .updateBatch
  | ["", "value", ""] => some .valueRecord
  | ["", "value", kind, name] => if name = "" then none else some (.valuePath kind name)
  | ["", "update", kind, name, value] =>
    if value = "" then none else some (.updatePath kind name value)
  | _ => none

/-- The endpoint only reads. -/
def isRead : Endpoint → Bool
  | .listing | .ping | .valuePath _ _ => true
  | _ => false

def methods (e : Endpoint) : List String :=
  if e.isRead then ["GET", "HEAD"] else ["POST"]

def readsBody : Endpoint → Bool
  | .updateRecord | .updateBatch | .valueRecord => true
  | _ => false

/-- The endpoint with its parts decoded; none if one of them spells no text. -/
def decoded? : Endpoint → Option Endpoint
  | .updatePath kind name value => do
    some (.updatePath (← Text.Percent.decode? kind) (← Text.Percent.decode? name)
      (← Text.Percent.decode? value))
  | .valuePath kind name => do
    some (.valuePath (← Text.Percent.decode? kind) (← Text.Percent.decode? name))
  | e => some e

end Endpoint

end Telemetry.Service
