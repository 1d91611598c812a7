/-
What a request does to the metrics, and what a run of requests comes to.

A write is answered 200 exactly when the contents take what it carries, and it then
has changed them by that and nothing else; the look at the new value and its hash,
which follow the change, cannot fail. Every other request leaves the contents. So the
accepted writes of a run, sent alone, get the same answers and make the same contents
(`accepted_writes_alone`).
-/
import Telemetry.Proofs.Batch
import Telemetry.Proofs.Standing

namespace Telemetry

open Service

namespace Service

/-- The endpoint changes metrics. -/
def Endpoint.isWrite : Endpoint → Bool
  | .updatePath _ _ _ | .updateRecord | .updateBatch => true
  | _ => false

/-- The endpoint that a request reaches, with its parts and the body decoded. -/
def Request.reaches? (r : Request) : Option (Endpoint × Text.Bytes) := do
  let form ← BodyForm.ofHeader? (r.header? "content-encoding")
  let endpoint ← Endpoint.ofTarget? r.target
  if endpoint.methods.contains r.method then
    let endpoint ← endpoint.decoded?
    if endpoint.readsBody then
      match readBody form r.body with
      | .ok body => some (endpoint, body)
      | .error _ => none
    else some (endpoint, [])
  else none

/-- The request reaches an endpoint that changes metrics. -/
def Request.isWrite (r : Request) : Bool :=
  r.reaches?.any fun (e, _) => e.isWrite

theorem Request.isWrite_iff {r : Request} :
    r.isWrite = true ↔ ∃ e body, r.reaches? = some (e, body) ∧ e.isWrite = true := by
  simp only [isWrite, Option.any_eq_true, Prod.exists]

/-- The response in the form that the request asks for. -/
def Request.formed (r : Request) (response : Response) : Response :=
  let response := negotiate (r.header? "accept-encoding") response
  if r.method = "HEAD" then { response with body := [] } else response

theorem formed_status (r : Request) (response : Response) :
    (r.formed response).status = response.status := by
  unfold Request.formed negotiate
  split <;> split <;> rfl

theorem refusal_status (r : Refusal) : r.response.status ≠ 200 := by
  cases r <;> simp [Refusal.response, Response.ofJson, Response.ofText, Refusal.status]

/-- The response that an outcome gives. -/
def Response.ofOutcome : Outcome Response → Response
  | .ok r => r
  | .error e => (Refusal.ofFailure e).response

theorem bodyFault_status (fault : BodyFault) : fault.response.status ≠ 200 := by
  cases fault <;> simp [BodyFault.response, Response.ofText]

end Service

/-- The contents after an accepted request: what a write carries, put into them. -/
def Standing.written (v : Standing) (e : Endpoint) (body : Text.Bytes) : Outcome Contents :=
  match e with
  | .updatePath kind name value => do
    let kind ← Kind.parse kind
    let sample ← Sample.parse kind value
    v.contents.put name sample
  | .updateRecord => do
    let r ← (Record.ofDocument (.ofBytes body)).mapError Failure.malformed
    let batch ← v.codec.decode [r]
    v.contents.putMetrics batch
  | .updateBatch => do
    let text ← v.unwrap body
    let rs ← (Record.listOfDocument (.ofBytes text)).mapError Failure.malformed
    let batch ← v.codec.decode rs
    v.contents.putMetrics batch
  | _ => .ok v.contents

namespace Collector

/-! ## Endpoints -/

/-- Where `P` holds an action ends as `x` does: in a response with status 200, and what `x` gives has
`Q` then, or in the failure that `x` is, and `P` still holds. -/
def Ends {γ : Type} (P : Collector → Prop) (a : Action Collector Response) (x : Outcome γ)
    (Q : γ → Collector → Prop) : Prop :=
  match x with
  | .ok c => ∃ r, r.status = 200 ∧ Action.Gives P a (.ok r) (Q c)
  | .error e => Action.Gives P a (.error e) P

/-- Where `P` holds a change is made, and what `x` gives has `R` then, or it fails as `x` does, and `P`
still holds. -/
def Changes {γ : Type} (P : Collector → Prop) (a : Action Collector Unit) (x : Outcome γ)
    (R : γ → Collector → Prop) : Prop :=
  match x with
  | .ok c => Action.Gives P a (.ok ()) (R c)
  | .error e => Action.Gives P a (.error e) P

namespace Ends

variable {α γ : Type} {P : Collector → Prop} {Q R : γ → Collector → Prop}

theorem step {a : Action Collector α} {y : Outcome α} {f : α → Action Collector Response}
    {x : α → Outcome γ} (gives : Action.Gives P a y P)
    (rest : ∀ z, y = .ok z → Ends P (f z) (x z) Q) : Ends P (a >>= f) (y >>= x) Q := by
  cases y with
  | error e => exact gives.bind_error
  | ok z =>
    have ends := rest z rfl
    rw [Except.ok_bind]
    cases result : x z with
    | error e =>
      rw [result] at ends
      exact gives.bind ends
    | ok c =>
      rw [result] at ends
      obtain ⟨r, status, done⟩ := ends
      exact ⟨r, status, gives.bind done⟩

theorem after {a : Action Collector α} {y : α} {f : α → Action Collector Response}
    {x : Outcome γ} (gives : Action.Gives P a (.ok y) P) (rest : Ends P (f y) x Q) :
    Ends P (a >>= f) x Q :=
  step (x := fun _ => x) gives fun _ e => Except.ok.inj e ▸ rest

theorem change {a : Action Collector Unit} {f : Unit → Action Collector Response} {x : Outcome γ}
    (changes : Changes P a x R)
    (rest : ∀ c, x = .ok c → ∃ r, r.status = 200 ∧ Action.Gives (R c) (f ()) (.ok r) (Q c)) :
    Ends P (a >>= f) x Q := by
  cases x with
  | error e => exact Action.Gives.bind_error changes
  | ok c =>
    obtain ⟨r, status, done⟩ := rest c rfl
    exact ⟨r, status, Action.Gives.bind changes done⟩

end Ends

/-- An action ends in a response with status 200 and the contents that `x` gives, or in the
failure that `x` is and the contents from before. -/
def Settles (a : Action Collector Response) (v : Standing) (x : Outcome Contents) : Prop :=
  Ends (·.standing? = some v) a x fun c s => s.standing? = some { v with contents := c }

namespace Settles

variable {α : Type} {v : Standing}

theorem step {a : Action Collector α} {y : Outcome α} {f : α → Action Collector Response}
    {x : α → Outcome Contents} (does : Does a v y v)
    (rest : ∀ z, y = .ok z → Settles (f z) v (x z)) : Settles (a >>= f) v (y >>= x) :=
  Ends.step does rest

theorem after {a : Action Collector α} {y : α} {f : α → Action Collector Response}
    {x : Outcome Contents} (does : Does a v (.ok y) v) (rest : Settles (f y) v x) :
    Settles (a >>= f) v x :=
  Ends.after does rest

theorem change {a : Action Collector Unit} {f : Unit → Action Collector Response}
    {x : Outcome Contents}
    (does : match x with
      | .ok c => Does a v (.ok ()) { v with contents := c }
      | .error e => Does a v (.error e) v)
    (rest : ∀ c, x = .ok c → ∃ r, r.status = 200 ∧
      Does (f ()) { v with contents := c } (.ok r) { v with contents := c }) :
    Settles (a >>= f) v x := by
  have changes : Changes (·.standing? = some v) a x
      fun c s => s.standing? = some { v with contents := c } := by
    cases x with
    | error e => exact does
    | ok c => exact does
  exact Ends.change changes rest

end Settles

theorem updatePath_settles (v : Standing) (kind name value : String) (body : Text.Bytes) :
    Settles (updatePath kind name value) v (v.written (.updatePath kind name value) body) :=
  .step (.ofOutcome v _) fun _ _ => .step (.ofOutcome v _) fun sample _ =>
    .change (put_does v name sample) fun _ _ =>
      ⟨.empty 200, rfl, .bind (afterWrite_does _) (.pure _ _)⟩

/-- A value is always given as a record, with a key or without. -/
theorem signedRecord_gives {P : Collector → Prop} {codec : Sync.Codec} (own : ∀ s, P s → s.codec = codec)
    (id : String) (sample : Sample) :
    ∃ r, r.status = 200 ∧ Action.Gives P (signedRecord id sample) (.ok r) P := by
  have signed : ∃ r, codec.sign (.ofSample id sample) = .ok r := by
    unfold Sync.Codec.sign
    cases codec.key with
    | none => exact ⟨_, rfl⟩
    | some key => cases sample <;> exact ⟨_, rfl⟩
  obtain ⟨r, signed⟩ := signed
  have known : Action.Gives P codec? (.ok codec) P := fun s h => ⟨congrArg Except.ok (own s h), h⟩
  have sign : Action.Gives P (.ofOutcome (codec.sign (.ofSample id sample))) (.ok r) P :=
    fun _ h => ⟨signed, h⟩
  exact ⟨.ofJson 200 r.toJson, rfl, known.bind (sign.bind (.pure _))⟩

theorem signedRecord_does (v : Standing) (id : String) (sample : Sample) :
    ∃ r, r.status = 200 ∧ Does (signedRecord id sample) v (.ok r) v :=
  signedRecord_gives (fun _ h => (standing?_eq_some.1 h).2.1) id sample

theorem updateRecord_settles (v : Standing) (body : Text.Bytes) :
    Settles (updateRecord body) v (v.written .updateRecord body) := by
  refine .step (.ofOutcome v _) fun r _ => .after (codec?_does v) <|
    .step (.ofOutcome v _) fun batch decoded => .change (putMetrics_does v batch) fun c put => ?_
  obtain ⟨sample, payload, one⟩ := Sync.Codec.decode_one decoded
  have kind := Record.kind_of_sample payload
  obtain ⟨current, found⟩ := Contents.getTyped_after one put
  have look := getTyped_does { v with contents := c } r.kind r.id
  rw [← kind, found, kind] at look
  obtain ⟨response, status, signed⟩ := signedRecord_does { v with contents := c } r.id current
  exact ⟨response, status, .bind (afterWrite_does _) (.bind look signed)⟩

theorem updateBatch_settles (v : Standing) (body : Text.Bytes) :
    Settles (updateBatch body) v (v.written .updateBatch body) :=
  .step (decodeInbound_does v body) fun _ _ => .step (.ofOutcome v _) fun rs _ =>
    .after (codec?_does v) <| .step (.ofOutcome v _) fun batch _ =>
      .change (putMetrics_does v batch) fun _ _ =>
        ⟨.ofJson 200 (.object [("accepted", .integer rs.length)]), rfl,
          .bind (afterWrite_does _) (.bind (log_does _ _) (.pure _ _))⟩

/-- A write settles to what it carries, put into the contents. -/
theorem handle_settles (v : Standing) {e : Endpoint} (write : e.isWrite = true)
    (body : Text.Bytes) : Settles (handle e body) v (v.written e body) := by
  cases e with
  | updatePath kind name value => exact updatePath_settles v kind name value body
  | updateRecord => exact updateRecord_settles v body
  | updateBatch => exact updateBatch_settles v body
  | _ => cases write

/-- A chain of steps that leave what stands leaves it, wherever the chain breaks off. -/
theorem Does.chain {α β : Type} {a : Action Collector α} {f : α → Action Collector β}
    {v : Standing} {x : Outcome α} (does : Does a v x v)
    (rest : ∀ y, ∃ z, Does (f y) v z v) : ∃ z, Does (a >>= f) v z v :=
  Action.Gives.chain does rest

theorem ping_gives {P : Collector → Prop} (answers : Action.Gives P (onBackend Backend.ping) (.ok ()) P) :
    ∃ x, Action.Gives P ping x P := by
  refine ⟨.ok (.ofText 200 Response.plainType "ok"), fun s h => ?_⟩
  obtain ⟨gives, leaves⟩ := answers s h
  have step : onBackend Backend.ping s = (.ok (), (onBackend Backend.ping s).2) :=
    Prod.ext gives rfl
  unfold ping
  rw [step]
  exact ⟨rfl, leaves⟩

theorem handle_reads (v : Standing) {e : Endpoint} (read : e.isWrite = false)
    (body : Text.Bytes) : ∃ x, Does (handle e body) v x v := by
  cases e with
  | listing => exact (getMetrics_does v).chain fun _ => ⟨_, .pure v _⟩
  | ping => exact ping_gives (ping_does v)
  | valuePath kind name =>
    exact (Does.ofOutcome v (Kind.parse kind)).chain fun kind =>
      (getTyped_does v kind name).chain fun _ => ⟨_, .pure v _⟩
  | valueRecord =>
    refine Does.chain (Does.ofOutcome v _) fun w => (getTyped_does v w.2 w.1).chain fun sample => ?_
    obtain ⟨r, -, done⟩ := signedRecord_does v w.1 sample
    exact ⟨.ok r, done⟩
  | _ => cases read

/-! ## Requests -/

/-- A request gets the response `r` wherever `v` stands, and leaves `w` standing. -/
def Answers (request : Request) (v : Standing) (r : Response) (w : Standing) : Prop :=
  ∀ s, s.standing? = some v →
    (respond request s).1 = r ∧ (respond request s).2.standing? = some w

/-- A request is served by the endpoint that it reaches; one that reaches none is refused. -/
theorem answer_eq (request : Request) :
    match request.reaches? with
    | some (e, body) => ∀ s, answer request s = serve e body s
    | none => ∃ r, r.status ≠ 200 ∧ ∀ s, answer request s = (r, s) := by
  unfold Request.reaches? answer
  cases BodyForm.ofHeader? (request.header? "content-encoding") with
  | none => exact ⟨.empty 415, by decide, fun _ => rfl⟩
  | some form =>
    cases Endpoint.ofTarget? request.target with
    | none => exact ⟨.empty 404, by decide, fun _ => rfl⟩
    | some e =>
      simp only [Option.bind_eq_bind, Option.bind_some]
      by_cases method : e.methods.contains request.method = true
      · simp only [method, if_true]
        unfold answerAt
        cases e.decoded? with
        | none => exact ⟨.ofText 400 _ _, by simp [Response.ofText], fun _ => rfl⟩
        | some e =>
          simp only [Option.bind_some]
          cases e.readsBody with
          | false => exact fun _ => rfl
          | true =>
            simp only [if_true]
            cases readBody form request.body with
            | error fault => exact ⟨fault.response, bodyFault_status fault, fun _ => rfl⟩
            | ok body => exact fun _ => rfl
      · simp only [method]
        exact ⟨_, by simp [Response.empty], fun _ => rfl⟩

theorem respond_eq (request : Request) (s : Collector) :
    respond request s = (request.formed (answer request s).1, (answer request s).2) := rfl

theorem refuse_standing (e : Failure) (s : Collector) :
    (refuse e s).1 = (Refusal.ofFailure e).response ∧ (refuse e s).2.standing? = s.standing? := by
  unfold refuse
  cases Refusal.ofFailure e <;> exact ⟨rfl, rfl⟩

theorem serve_of_does {v w : Standing} {e : Endpoint} {body : Text.Bytes} {x : Outcome Response}
    (does : Does (handle e body) v x w) {s : Collector} (h : s.standing? = some v) :
    (serve e body s).1 = .ofOutcome x ∧ (serve e body s).2.standing? = some w := by
  obtain ⟨gives, leaves⟩ := does s h
  unfold serve
  cases result : handle e body s with
  | mk y t =>
    rw [result] at gives leaves
    simp only at gives leaves
    subst gives
    cases y with
    | ok r => exact ⟨rfl, leaves⟩
    | error f => exact ⟨(refuse_standing f t).1, (refuse_standing f t).2.trans leaves⟩

/-- A write that is served leaves what it carries in the contents, or else the contents. -/
theorem serve_write {v : Standing} {e : Endpoint} (write : e.isWrite = true) (body : Text.Bytes)
    {s : Collector} (h : s.standing? = some v) :
    match v.written e body with
    | .ok c => (serve e body s).1.status = 200 ∧
        (serve e body s).2.standing? = some { v with contents := c }
    | .error f => (serve e body s).1 = (Refusal.ofFailure f).response ∧
        (serve e body s).2.standing? = some v := by
  have settles := handle_settles v write body
  cases written : v.written e body with
  | ok c =>
    rw [written] at settles
    obtain ⟨r, status, does⟩ := settles
    obtain ⟨gives, leaves⟩ := serve_of_does does h
    exact ⟨by rw [gives]; exact status, leaves⟩
  | error f =>
    rw [written] at settles
    exact serve_of_does settles h

/-- **What becomes of a write.** It is answered 200 and has put what it carries into the
contents, or it is refused and they are as before. -/
theorem write_answers (v : Standing) {request : Request} {e : Endpoint} {body : Text.Bytes}
    (reaches : request.reaches? = some (e, body)) (write : e.isWrite = true) :
    match v.written e body with
    | .ok c => ∃ r, r.status = 200 ∧ Answers request v r { v with contents := c }
    | .error _ => ∃ r, r.status ≠ 200 ∧ Answers request v r v := by
  have served := answer_eq request
  have settles := handle_settles v write body
  rw [reaches] at served
  cases written : v.written e body with
  | ok c =>
    rw [written] at settles
    obtain ⟨r, status, does⟩ := settles
    refine ⟨request.formed r, by rw [formed_status, status], fun s h => ?_⟩
    obtain ⟨gives, leaves⟩ := serve_of_does does h
    rw [respond_eq, served]
    exact ⟨congrArg request.formed gives, leaves⟩
  | error f =>
    rw [written] at settles
    refine ⟨request.formed (Refusal.ofFailure f).response, ?_, fun s h => ?_⟩
    · rw [formed_status]
      exact refusal_status _
    · obtain ⟨gives, leaves⟩ := serve_of_does settles h
      rw [respond_eq, served]
      exact ⟨congrArg request.formed gives, leaves⟩

theorem read_answers (v : Standing) {request : Request} (read : request.isWrite = false) :
    ∃ r, Answers request v r v := by
  have served := answer_eq request
  cases reaches : request.reaches? with
  | none =>
    rw [reaches] at served
    obtain ⟨r, -, refused⟩ := served
    refine ⟨request.formed r, fun s h => ?_⟩
    rw [respond_eq, refused]
    exact ⟨rfl, h⟩
  | some reached =>
    obtain ⟨e, body⟩ := reached
    rw [reaches] at served
    obtain ⟨x, does⟩ := handle_reads v (e := e)
      (by simpa [Request.isWrite, reaches] using read) body
    refine ⟨request.formed (.ofOutcome x), fun s h => ?_⟩
    obtain ⟨gives, leaves⟩ := serve_of_does does h
    rw [respond_eq, served]
    exact ⟨congrArg request.formed gives, leaves⟩

/-- Requests answered one after another: each with its response, and the collector at last. -/
def respondAll : List Request → Collector → List (Request × Response) × Collector
  | [], s => ([], s)
  | request :: rest, s =>
    let (r, s) := respond request s
    let (answers, s) := respondAll rest s
    ((request, r) :: answers, s)

/-- The answer accepts a write. -/
def isAccepted (answer : Request × Response) : Bool :=
  answer.1.isWrite && answer.2.status = 200

/-- Wherever `v` stands, the requests get these answers and leave `w` standing. -/
def Runs (requests : List Request) (v : Standing) (answers : List (Request × Response))
    (w : Standing) : Prop :=
  ∀ s, s.standing? = some v →
    (respondAll requests s).1 = answers ∧ (respondAll requests s).2.standing? = some w

theorem Runs.nil (v : Standing) : Runs [] v [] v :=
  fun _ h => ⟨rfl, h⟩

theorem Runs.cons {request : Request} {requests : List Request} {r : Response}
    {answers : List (Request × Response)} {u v w : Standing} (first : Answers request u r v)
    (rest : Runs requests v answers w) :
    Runs (request :: requests) u ((request, r) :: answers) w := by
  intro s h
  obtain ⟨gives, leaves⟩ := first s h
  obtain ⟨gives', leaves'⟩ := rest _ leaves
  simp only [respondAll, gives, gives']
  exact ⟨trivial, leaves'⟩

/-- Of a run, the accepted writes alone make a run with the same answers and the same end. The
induction is on the requests: a request that is left out has left what stood. -/
theorem runs_accepted : ∀ (requests : List Request) (v : Standing), ∃ answers w,
    Runs requests v answers w ∧
      Runs ((answers.filter isAccepted).map (·.1)) v (answers.filter isAccepted) w
  | [], v => ⟨[], v, .nil v, .nil v⟩
  | request :: rest, v => by
    have leftOut {r : Response} (same : Answers request v r v)
        (out : isAccepted (request, r) = false) : ∃ answers w,
        Runs (request :: rest) v answers w ∧
          Runs ((answers.filter isAccepted).map (·.1)) v (answers.filter isAccepted) w := by
      obtain ⟨answers, w, run, alone⟩ := runs_accepted rest v
      refine ⟨(request, r) :: answers, w, .cons same run, ?_⟩
      rw [List.filter_cons_of_neg (by simp [out])]
      exact alone
    cases write : request.isWrite with
    | false =>
      obtain ⟨r, same⟩ := read_answers v write
      exact leftOut same (by simp [isAccepted, write])
    | true =>
      obtain ⟨e, body, reaches, writes⟩ := Request.isWrite_iff.1 write
      have answered := write_answers v reaches writes
      cases written : v.written e body with
      | error f =>
        rw [written] at answered
        obtain ⟨r, status, same⟩ := answered
        exact leftOut same (by simp [isAccepted, status])
      | ok c =>
        rw [written] at answered
        obtain ⟨r, status, answered⟩ := answered
        obtain ⟨answers, w, run, alone⟩ := runs_accepted rest { v with contents := c }
        refine ⟨(request, r) :: answers, w, .cons answered run, ?_⟩
        rw [List.filter_cons_of_pos (by simp [isAccepted, write, status])]
        exact .cons answered alone

/-- **A request writes what it carries or nothing, and only accepted writes count.** After
any requests, the next one leaves the contents unless it is a write that is answered 200, and
that has put what it carries into them. The accepted writes of the run, sent alone, get the
answers that they got and make the contents that the run made. -/
theorem accepted_writes_alone {s : Collector} {v : Standing} (h : s.standing? = some v)
    (requests : List Request) :
    ∃ w, (respondAll requests s).2.standing? = some w ∧
      (∀ request r after, respond request (respondAll requests s).2 = (r, after) →
        (r.status ≠ 200 ∨ request.isWrite = false → after.standing? = some w) ∧
        (r.status = 200 → ∀ e body, request.reaches? = some (e, body) → e.isWrite = true →
          ∃ c, w.written e body = .ok c ∧ after.standing? = some { w with contents := c })) ∧
      let kept := (respondAll requests s).1.filter isAccepted
      (respondAll (kept.map (·.1)) s).1 = kept ∧
        (respondAll (kept.map (·.1)) s).2.standing? = some w := by
  obtain ⟨answers, w, run, alone⟩ := runs_accepted requests v
  obtain ⟨gives, leaves⟩ := run s h
  refine ⟨w, leaves, fun request r after eq => ?_, by simp only [gives]; exact alone s h⟩
  have here {r' : Response} {u : Standing} (answered : Answers request w r' u) :
      r = r' ∧ after.standing? = some u := by
    have now := answered _ leaves
    rw [eq] at now
    exact now
  refine ⟨fun unwritten => ?_, fun status e body reaches write => ?_⟩
  · cases write : request.isWrite with
    | false =>
      obtain ⟨_, same⟩ := read_answers w write
      exact (here same).2
    | true =>
      obtain ⟨e, body, reaches, writes⟩ := Request.isWrite_iff.1 write
      have answered := write_answers w reaches writes
      cases written : w.written e body with
      | error f =>
        rw [written] at answered
        obtain ⟨_, -, same⟩ := answered
        exact (here same).2
      | ok c =>
        rw [written] at answered
        obtain ⟨_, status, answered⟩ := answered
        obtain ⟨rfl, -⟩ := here answered
        simp [status, write] at unwritten
  · have answered := write_answers w reaches write
    cases written : w.written e body with
    | error f =>
      rw [written] at answered
      obtain ⟨_, refused, same⟩ := answered
      obtain ⟨rfl, -⟩ := here same
      exact absurd status refused
    | ok c =>
      rw [written] at answered
      obtain ⟨_, -, answered⟩ := answered
      exact ⟨c, rfl, (here answered).2⟩

/-- A counter written twice to a fresh collector. -/
theorem accepted_writes_alone_fresh :
    let s : Collector := ⟨.memory .empty, none, .plain, none, ⟨⟨.empty, "/home"⟩, []⟩⟩
    let write : Request := ⟨"POST", "/update/counter/jobs/2", [], []⟩
    let kept := (respondAll [write, write] s).1.filter isAccepted
    s.standing? = some ⟨.store .empty, .plain, none⟩ ∧
      ∃ w, (respondAll [write, write] s).2.standing? = some w ∧
        (respondAll (kept.map (·.1)) s).2.standing? = some w := by
  refine ⟨rfl, ?_⟩
  obtain ⟨w, final, -, -, alone⟩ := accepted_writes_alone
    (s := ⟨.memory .empty, none, .plain, none, ⟨⟨.empty, "/home"⟩, []⟩⟩) rfl
    [⟨"POST", "/update/counter/jobs/2", [], []⟩, ⟨"POST", "/update/counter/jobs/2", [], []⟩]
  exact ⟨w, final, alone⟩

/-! ## Collectors from settings -/

/-- A collector begins with a store in memory, whatever was restored into it, or with the database
that was opened. -/
theorem ofSettings_cases {settings : CollectorSettings} {h h' : Host} {s : Collector}
    (made : ofSettings settings h = (.ok s, h')) :
    (∃ store, s.standing? = some ⟨.store store, .ofSecret settings.key, none⟩) ∨
      ∃ source c t, Connection.openSource source h = (.ok c, t) ∧
        s.standing? = some ⟨.database (c.database t.disk), .ofSecret settings.key, none⟩ := by
  unfold ofSettings at made
  split at made
  · unfold openDatabase at made
    split at made
    · cases made
    · rename_i source _ _ c t opened
      rw [← Except.ok.inj (Prod.mk.inj made).1]
      refine .inr ⟨source, c, t, opened, ?_⟩
      -- That a file is not used is only entered in the journal.
      cases settings.filePath <;> rfl
  · unfold openFile at made
    split at made
    · cases made
    · rename_i file h _
      rw [← Except.ok.inj (Prod.mk.inj made).1]
      have live := Flushing.start_preserves
        ⟨.memory .empty, .new (.file file) settings.storeInterval settings.restore, h⟩ ⟨.empty, rfl⟩
      obtain ⟨store, live⟩ := live
      exact .inl ⟨store, standing?_eq_some.2 ⟨by simp only [contents?, live], rfl, rfl⟩⟩
  · rw [← Except.ok.inj (Prod.mk.inj made).1]
    exact .inl ⟨.empty, rfl⟩

/-- Whatever the settings ask for, the collector's backend is its own. -/
theorem ofSettings_standing {settings : CollectorSettings} {h h' : Host} {s : Collector}
    (made : ofSettings settings h = (.ok s, h')) : ∃ v, s.standing? = some v := by
  rcases ofSettings_cases made with ⟨_, standing⟩ | ⟨_, _, _, -, standing⟩
  · exact ⟨_, standing⟩
  · exact ⟨_, standing⟩

end Collector

end Telemetry
