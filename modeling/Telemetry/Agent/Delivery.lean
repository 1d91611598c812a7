/-
How a batch gets to a collector: one request, once.

A refused batch is the caller's failure if the collector says so, and else one of
the network. A batch is never sent twice, since its counters would count twice.
-/
import Telemetry.Agent.Address
import Telemetry.Journal
import Telemetry.Metric.Record
import Telemetry.Service.Handler

namespace Telemetry.Agent

/-- The way to a collector: its address, and what is done to bodies. -/
structure Transport where
  address : String
  codec : Option BodyCodec

namespace Transport

/-- The way to an address, whose slashes at the end count for nothing. -/
def ofAddress (address : String) (codec : Option BodyCodec) : Transport :=
  ⟨Text.dropSlashEnd address, codec⟩

/-- The records as they are before the codec. -/
def plainBody (rs : List Record) : Text.Bytes :=
  Text.Utf8.encode (Record.listToJson rs).compact

def body (t : Transport) (rs : List Record) : Text.Bytes :=
  match t.codec with
  | none => plainBody rs
  | some c => c.encode (plainBody rs)

/-- The request that sends some records, if the address can be asked at all. -/
def request? (t : Transport) (rs : List Record) : Option Service.Request :=
  (target? t.address).map fun target => {
    method := "POST"
    target := target
    headers := ("content-type", Service.Response.jsonType) ::
      (match t.codec.bind BodyCodec.encoding with
        | some encoding => [("content-encoding", encoding)]
        | none => [])
    body := t.body rs }

/-- The event of a batch about to be sent. -/
def sending (t : Transport) (rs : List Record) : Event :=
  .sending rs.length (plainBody rs).length (t.body rs).length

end Transport

/-- What comes back: nothing, or a status with a text that may break off. -/
inductive Reply where
  | none
  | status (code : Nat) (text : Option String)
  deriving DecidableEq, Repr, Inhabited

namespace Reply

def outcome : Reply → Outcome Unit
  | .none => .error (.undelivered .requestFailed)
  | .status code text =>
    if Service.Status.isSuccess code then .ok ()
    else
      let text := if Service.Status.isBodiless code then "" else Text.trim (text.getD "")
      if code = 400 then .error (.rejected (.refusedBatch text))
      else .error (.undelivered (.status code text))

/-- What a reply reports: a text that was needed and broke off. -/
def events : Reply → List Event
  | .none => []
  | .status code text =>
    if Service.Status.isSuccess code ∨ text.isSome then [] else [.replyNotRead]

end Reply

end Telemetry.Agent
