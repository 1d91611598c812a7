/-
Requests and responses of the collector.

A response names its status and what its body is; a refusal has a small JSON body
with its wording and status. Bodies of the protocol's own making are plain text.
-/
import Telemetry.Failure
import Telemetry.Json.Value
import Telemetry.Text.Utf8

namespace Telemetry.Service

open Text (Bytes)

/-- A request: its target is a path with an optional query, and header names are in
lower case. -/
structure Request where
  method : String
  target : String
  headers : List (String × String)
  body : Bytes

def Request.header? (r : Request) (name : String) : Option String :=
  r.headers.lookup name

/-- A response. -/
structure Response where
  status : Nat
  contentType : Option String
  allow : Option String
  encoding : Option String
  body : Bytes
  deriving DecidableEq, Repr

namespace Response

def plainType : String := "text/plain; charset=utf-8"

def pageType : String := "text/html; charset=utf-8"

def jsonType : String := "application/json"

def empty (status : Nat) : Response :=
  ⟨status, none, none, none, []⟩

def ofText (status : Nat) (contentType text : String) : Response :=
  ⟨status, some contentType, none, none, Text.Utf8.encode text⟩

def ofJson (status : Nat) (v : Json.Value) : Response :=
  ofText status jsonType v.compact

end Response

/-- A request that was refused, by whose fault it was. -/
inductive Refusal where
  | internal (message : String)
  | notFound (message : String)
  | badRequest (message : String)
  deriving DecidableEq, Repr

namespace Refusal

def ofFailure (e : Failure) : Refusal :=
  match e with
  | .notFound _ _ => .notFound e.message
  | e => if e.isClient then .badRequest e.message else .internal e.message

def status : Refusal → Nat
  | .internal _ => 500
  | .notFound _ => 404
  | .badRequest _ => 400

def message : Refusal → String
  | .internal m => m
  | .notFound m => m
  | .badRequest m => m

def description : Refusal → String
  | .internal m => "internal server error: " ++ m
  | .notFound m => "not found: " ++ m
  | .badRequest m => "bad request: " ++ m

def response (r : Refusal) : Response :=
  .ofJson r.status (.object [("error", .text r.message), ("status", .integer r.status)])

end Refusal

end Telemetry.Service
