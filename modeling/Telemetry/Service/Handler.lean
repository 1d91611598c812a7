/-
What each endpoint does.

A write that is refused, and every read, leaves the metrics as they were. After a
write the snapshot scheduler is told, if there is one. A single record is written
like a batch of one.
-/
import Telemetry.Flush.Scheduler
import Telemetry.Service.Endpoint
import Telemetry.Service.Negotiation
import Telemetry.Service.Page
import Telemetry.Sync.Batch

namespace Telemetry

/-- A transformation of whole bodies: what a sender does to one, and how it is undone. -/
structure BodyCodec where
  encode : Text.Bytes → Text.Bytes
  decode : Text.Bytes → Outcome Text.Bytes
  encoding : Option String

namespace BodyCodec

def identity : BodyCodec :=
  ⟨id, .ok, none⟩

/-- Compresses, at a level from 0 to 9. -/
def gzip (level : Nat) : BodyCodec where
  encode := Gzip.encode (min level 9)
  decode := fun b => (Gzip.decode true (1 <<< 62) b).mapError fun _ => .rejected .undecodable
  encoding := some "gzip"

def defaultLevel : Nat := 6

end BodyCodec

/-- A collector that answers requests: where the metrics are, how batches are checked, an
optional codec of batch bodies, and the scheduler if there is one. -/
structure Collector where
  backend : Backend
  scheduler : Option Scheduler
  codec : Sync.Codec
  inbound : Option BodyCodec
  host : Host

namespace Collector

def onBackend {α : Type} (a : Action Site α) : Action Collector α :=
  a.on (fun s => ⟨s.backend, s.host⟩) fun s t => { s with backend := t.backend, host := t.host }

/-- An action of the scheduler; nothing without one. -/
def onScheduler (a : Action Flushing Unit) : Action Collector Unit := fun s =>
  match s.scheduler with
  | none => (.ok (), s)
  | some scheduler =>
    let (x, t) := a ⟨s.backend, scheduler, s.host⟩
    (x, { s with backend := t.live, scheduler := some t.scheduler, host := t.host })

def log (e : Event) : Action Collector Unit :=
  .modify fun s => { s with host := s.host.enter e }

def codec? : Action Collector Sync.Codec :=
  fun s => (.ok s.codec, s)

def afterWrite : Action Collector Unit :=
  onScheduler Flushing.notifyWrite

def parse {α : Type} (read : Json.Document → Except Json.Fault α) (body : Text.Bytes) :
    Action Collector α :=
  .ofOutcome ((read (.ofBytes body)).mapError .malformed)

/-- A record of a metric, signed if there is a key. -/
def signedRecord (id : String) (sample : Sample) : Action Collector Service.Response := do
  let codec ← codec?
  let r ← .ofOutcome (codec.sign (.ofSample id sample))
  pure (.ofJson 200 r.toJson)

/-! ## Endpoints -/

def listing : Action Collector Service.Response := do
  let s ← onBackend Backend.getMetrics
  pure (.ofText 200 Service.Response.pageType (Service.Page.render s))

def ping : Action Collector Service.Response := fun s =>
  match onBackend Backend.ping s with
  | (.ok (), s) => (.ok (.ofText 200 Service.Response.plainType "ok"), s)
  | (.error e, s) =>
    let refusal := Service.Refusal.internal
      (s.backend.name ++ " backend unreachable: " ++ e.message)
    (.ok refusal.response, s)

/-- A value written under a name, all three given as text. -/
def updatePath (kind name value : String) : Action Collector Service.Response := do
  let kind ← .ofOutcome (Kind.parse kind)
  let sample ← .ofOutcome (Sample.parse kind value)
  onBackend (Backend.put name sample)
  afterWrite
  pure (.empty 200)

/-- A record written; answered with the metric's value afterwards. -/
def updateRecord (body : Text.Bytes) : Action Collector Service.Response := do
  let r ← parse Record.ofDocument body
  let batch ← .ofOutcome ((← codec?).decode [r])
  onBackend (Backend.putMetrics batch)
  afterWrite
  let current ← onBackend (Backend.getTyped r.kind r.id)
  signedRecord r.id current

/-- A batch body as it was before the sender's codec. -/
def decodeInbound (body : Text.Bytes) : Action Collector Text.Bytes := fun s =>
  match s.inbound with
  | none => (.ok body, s)
  | some c => (c.decode body, s)

/-- A batch written, or nothing of it. -/
def updateBatch (body : Text.Bytes) : Action Collector Service.Response := do
  let body ← decodeInbound body
  let rs ← parse Record.listOfDocument body
  let batch ← .ofOutcome ((← codec?).decode rs)
  onBackend (Backend.putMetrics batch)
  afterWrite
  log (.batchApplied rs.length)
  pure (.ofJson 200 (.object [("accepted", .integer rs.length)]))

def valuePath (kind name : String) : Action Collector Service.Response := do
  let kind ← .ofOutcome (Kind.parse kind)
  let sample ← onBackend (Backend.getTyped kind name)
  pure (.ofText 200 Service.Response.plainType sample.text)

def wanted : Json.Shape (String × Kind) where
  name := "ValueRequest"
  fields := [
    Record.idField fun w id => (id, w.2),
    Record.kindField fun w kind => (w.1, kind)]
  initial := ("", .gauge)

def valueRecord (body : Text.Bytes) : Action Collector Service.Response := do
  let (id, kind) ← parse (fun d => d.read wanted.read) body
  let sample ← onBackend (Backend.getTyped kind id)
  signedRecord id sample

/-- What an endpoint, its parts decoded, answers to a body. -/
def handle (endpoint : Service.Endpoint) (body : Text.Bytes) : Action Collector Service.Response :=
  match endpoint with
  | .listing => listing
  | .ping => ping
  | .updatePath kind name value => updatePath kind name value
  | .updateRecord => updateRecord body
  | .updateBatch => updateBatch body
  | .valuePath kind name => valuePath kind name
  | .valueRecord => valueRecord body

/-- The answer to a failed operation; the system's own failures are reported. -/
def refuse (e : Failure) (s : Collector) : Service.Response × Collector :=
  let s := match Service.Refusal.ofFailure e with
    | .internal _ => { s with host := s.host.enter (.requestFailed e) }
    | _ => s
  ((Service.Refusal.ofFailure e).response, s)

/-- An endpoint's response, whatever happens. -/
def serve (endpoint : Service.Endpoint) (body : Text.Bytes) (s : Collector) :
    Service.Response × Collector :=
  match handle endpoint body s with
  | (.ok r, s) => (r, s)
  | (.error e, s) => refuse e s

/-! ## Requests -/

/-- The answer of an endpoint: its parts are decoded first, then the body is read if it
needs one. -/
def answerAt (endpoint : Service.Endpoint) (form : Service.BodyForm) (body : Text.Bytes)
    (s : Collector) : Service.Response × Collector :=
  match endpoint.decoded? with
  | none => (.ofText 400 Service.Response.plainType "Invalid URL: Invalid UTF-8", s)
  | some endpoint =>
    if endpoint.readsBody then
      match Service.readBody form body with
      | .error fault => (fault.response, s)
      | .ok body => serve endpoint body s
    else serve endpoint [] s

/-- The answer to a request, before compression. -/
def answer (r : Service.Request) (s : Collector) : Service.Response × Collector :=
  match Service.BodyForm.ofHeader? (r.header? "content-encoding") with
  | none => (.empty 415, s)
  | some form =>
    match Service.Endpoint.ofTarget? r.target with
    | none => (.empty 404, s)
    | some endpoint =>
      if endpoint.methods.contains r.method then answerAt endpoint form r.body s
      else
        ({ Service.Response.empty 405 with allow := some (",".intercalate endpoint.methods) }, s)

/-- The response to a request. One to HEAD has no body. -/
def respond (r : Service.Request) (s : Collector) : Service.Response × Collector :=
  let (response, s) := answer r s
  let response := Service.negotiate (r.header? "accept-encoding") response
  (if r.method = "HEAD" then { response with body := [] } else response, s)

end Collector

end Telemetry
