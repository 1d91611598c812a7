/-
Compression of bodies, as request and response agree on it.

A request may say that its body is compressed. A response of 32 bytes or more is
compressed when the request accepts that and does not like the plain form better.
-/
import Telemetry.Gzip.Member
import Telemetry.Number.Reading
import Telemetry.Service.Message
import Telemetry.Text.Blank

namespace Telemetry.Service

open Text (Bytes)

/-! ## Requests -/

/-- The largest body that is read, after decompression. -/
def bodyLimit : Nat := 2097152

/-- How a request's body is written. -/
inductive BodyForm where
  | plain
  | gzip
  deriving DecidableEq, Repr

/-- The form that a request declares, if it is one of ours. -/
def BodyForm.ofHeader? : Option String → Option BodyForm
  | none => some .plain
  | some "identity" => some .plain
  | some "gzip" => some .gzip
  | some _ => none

/-- Why a body could not be read. -/
inductive BodyFault where
  | tooLong
  | corrupt
  deriving DecidableEq, Repr

/-- The text of a body. An empty one is empty in any form. -/
def readBody (form : BodyForm) (body : Bytes) : Except BodyFault Bytes :=
  match form with
  | .plain => if bodyLimit < body.length then .error .tooLong else .ok body
  | .gzip =>
    if body = [] then .ok []
    else
      match Gzip.decode false bodyLimit body with
      | .ok text => .ok text
      | .error .tooLong => .error .tooLong
      | .error .corrupt => .error .corrupt

/-- The response to a body that could not be read. -/
def BodyFault.response : BodyFault → Response
  | .tooLong =>
    .ofText 413 Response.plainType
      "Failed to buffer the request body: length limit exceeded"
  | .corrupt => .ofText 400 Response.plainType "Failed to buffer the request body"

/-! ## Responses -/

def cutAt (mark : Char) : List Char → List (List Char)
  | [] => [[]]
  | c :: cs =>
    match cutAt mark cs with
    | [] => [[]]
    | first :: rest => if c = mark then [] :: first :: rest else (c :: first) :: rest

/-- A weight in thousandths: a whole number, or up to three digits after a point. -/
def weight? (cs : List Char) : Option Nat :=
  let digits (ds : List Char) : Option (List Nat) := ds.mapM digit?
  match cs with
  | ['0'] => some 0
  | ['1'] => some 1000
  | '0' :: '.' :: ds =>
    if 3 < ds.length then none
    else (digits ds).map fun ds => natOfDigits ds * Nat.pow 10 (3 - ds.length)
  | '1' :: '.' :: ds =>
    if 3 < ds.length then none
    else (digits ds).bind fun ds => if natOfDigits ds = 0 then some 1000 else none
  | _ => none

/-- A form that is accepted, with its weight. -/
def accepted? (entry : List Char) : Option (BodyForm × Nat) := do
  let (name, parameters) ← match cutAt ';' entry with
    | name :: rest => some (Text.trimChars name, rest)
    | [] => none
  let form ← match String.ofList (lowered name) with
    | "gzip" => some BodyForm.gzip
    | "x-gzip" => some BodyForm.gzip
    | "identity" => some BodyForm.plain
    | _ => none
  let weight ← match parameters with
    | [] => some 1000
    | [parameter] =>
      match Text.trimChars parameter with
      | 'q' :: '=' :: w => weight? w
      | 'Q' :: '=' :: w => weight? w
      | _ => none
    | _ => none
  if weight = 0 then none else some (form, weight)

/-- The request accepts compression and likes nothing better. -/
def prefersGzip (header : Option String) : Bool :=
  let entries := (cutAt ',' (header.getD "").toList).filterMap accepted?
  let best (form : BodyForm) : Nat :=
    ((entries.filter fun e => e.1 = form).map (·.2)).foldl max 0
  0 < best .gzip ∧ best .plain ≤ best .gzip

/-- A response in the form that the request prefers. -/
def negotiate (accept : Option String) (r : Response) : Response :=
  if prefersGzip accept ∧ 32 ≤ r.body.length then
    { r with encoding := some "gzip", body := Gzip.encode 6 r.body }
  else r

end Telemetry.Service
