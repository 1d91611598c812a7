/-
The statuses of a collector's answers: what a client sends is never a fault of the system.

Whatever reaches an endpoint ends well, by the input's fault, or without what it looked up
(`Collector.handle_accounted`). So every answer is 200, 400 or 404. What the contents hold after a run
is told by the writes that were accepted, so it is known from the run which lookups are answered 404
(`Collector.never_internal`). A collector stands in the case when it starts, whatever snapshot file it
restores, unless others wrote its database (`Collector.ofSettings_own`).
-/
import Telemetry.Proofs.Flush.Serving
import Telemetry.Proofs.Holdings

namespace Telemetry

open Service

/-- The kind and the name that an endpoint looks up, if it does and they can be read. -/
def Service.Endpoint.sought? (body : Text.Bytes) : Endpoint → Option (Kind × String)
  | .valuePath kind name => (Kind.ofName? kind).map fun kind => (kind, name)
  | .valueRecord =>
    match (Json.Document.ofBytes body).read Collector.wanted.read with
    | .ok (name, kind) => some (kind, name)
    | .error _ => none
  | _ => none

/-- The endpoint looks something up that is not held. -/
def Standing.Misses (v : Standing) (e : Endpoint) (body : Text.Bytes) : Prop :=
  ∃ kind name, e.sought? body = some (kind, name) ∧ ¬ v.contents.Has kind name

/-- What a write carries is checked, and put into sound contents, by the fault of nobody else. -/
theorem Standing.written_blames {v : Standing} (sound : v.contents.Sound) (plain : v.inbound = none)
    (e : Endpoint) (body : Text.Bytes) : BlamesInput (v.written e body) := by
  cases e with
  | updatePath kind name value =>
    exact (BlamesInput.parseKind kind).bind fun kind => (BlamesInput.parseSample kind value).bind
      fun x => Contents.put_blames sound name x
  | updateRecord =>
    exact (BlamesInput.malformed _).bind fun r => (BlamesInput.foldAll v.codec [r] .empty).bind
      fun batch => Contents.putMetrics_blames sound batch
  | updateBatch =>
    rw [written, unwrap, plain, Except.ok_bind]
    exact (BlamesInput.malformed _).bind fun rs => (BlamesInput.foldAll v.codec rs .empty).bind
      fun batch => Contents.putMetrics_blames sound batch
  | listing => exact .ok _
  | ping => exact .ok _
  | valuePath kind name => exact .ok _
  | valueRecord => exact .ok _

theorem Standing.wrote_of_written {v : Standing} {c : Contents} (plain : v.inbound = none)
    {e : Endpoint} {body : Text.Bytes} (written : v.written e body = .ok c) :
    ∃ l, e.carried v.codec body = .ok l ∧ v.contents.Wrote l c := by
  cases e with
  | updatePath kind name value =>
    obtain ⟨kind, named, written⟩ := Except.bind_eq_ok.1 written
    obtain ⟨x, parsed, put⟩ := Except.bind_eq_ok.1 written
    refine ⟨[(name, x)], ?_, Contents.wrote_put put⟩
    rw [Endpoint.carried, named, Except.ok_bind, parsed, Except.ok_bind]
  | updateRecord =>
    obtain ⟨r, read, written⟩ := Except.bind_eq_ok.1 written
    obtain ⟨batch, decoded, put⟩ := Except.bind_eq_ok.1 written
    refine ⟨batch.samples, ?_, Contents.wrote_putMetrics put⟩
    rw [Endpoint.carried, read, Except.ok_bind, decoded, Except.ok_bind]
  | updateBatch =>
    rw [Standing.written, unwrap, plain, Except.ok_bind] at written
    obtain ⟨rs, read, written⟩ := Except.bind_eq_ok.1 written
    obtain ⟨batch, decoded, put⟩ := Except.bind_eq_ok.1 written
    refine ⟨batch.samples, ?_, Contents.wrote_putMetrics put⟩
    rw [Endpoint.carried, read, Except.ok_bind, decoded, Except.ok_bind]
  | listing => exact ⟨[], rfl, Except.ok.inj written ▸ .nil v.contents⟩
  | ping => exact ⟨[], rfl, Except.ok.inj written ▸ .nil v.contents⟩
  | valuePath kind name => exact ⟨[], rfl, Except.ok.inj written ▸ .nil v.contents⟩
  | valueRecord => exact ⟨[], rfl, Except.ok.inj written ▸ .nil v.contents⟩

namespace Collector

/-- How an endpoint may end: well, by the input's fault, or without what it looked up. -/
inductive Accounted (missing : Prop) : Outcome Response → Prop where
  | done {r : Response} (status : r.status = 200) (there : ¬ missing) : Accounted missing (.ok r)
  | refused {e : Failure} (bad : e.IsBad) (there : ¬ missing) : Accounted missing (.error e)
  | missed {kind : Option Kind} {name : String} (gone : missing) :
      Accounted missing (.error (.notFound kind name))

namespace Accounted

variable {missing : Prop} {x : Outcome Response}

theorem status (accounted : Accounted missing x) :
    (Response.ofOutcome x).status ∈ [200, 400, 404] ∧
      ((Response.ofOutcome x).status = 404 ↔ missing) := by
  cases accounted with
  | done status there =>
    rw [Response.ofOutcome, status]
    exact ⟨by simp, iff_of_false (by simp) there⟩
  | refused bad there =>
    have status : (Response.ofOutcome (.error ‹_›)).status = 400 := bad.status
    rw [status]
    exact ⟨by simp, iff_of_false (by simp) there⟩
  | missed gone =>
    have status : (Response.ofOutcome (.error (.notFound ‹_› ‹_›))).status = 404 := rfl
    rw [status]
    exact ⟨by simp, iff_of_true rfl gone⟩

theorem congr {missing' : Prop} (accounted : Accounted missing x) (same : missing ↔ missing') :
    Accounted missing' x :=
  propext same ▸ accounted

theorem isClient {e : Failure} (accounted : Accounted missing (.error e)) : e.isClient = true := by
  cases accounted with
  | refused bad there => exact bad.1
  | missed gone => rfl

end Accounted

variable {v : Standing}

/-- A lookup that shows what it finds misses what is not held, and nothing else. -/
theorem lookup_accounted (sound : v.contents.Sound) (kind : Kind) (name : String)
    {f : Sample → Action Collector Response}
    (shows : ∀ x, ∃ r, r.status = 200 ∧ Does (f x) v (.ok r) v) :
    ∃ x, Does (onBackend (Backend.getTyped kind name) >>= f) v x v ∧
      Accounted (¬ v.contents.Has kind name) x := by
  have look := getTyped_does v kind name
  rcases Contents.getTyped_of_sound sound kind name with ⟨x, found⟩ | missing
  · rw [found] at look
    obtain ⟨r, status, shown⟩ := shows x
    exact ⟨.ok r, look.bind shown, .done status (not_not_intro ⟨x, found⟩)⟩
  · rw [missing] at look
    refine ⟨_, look.bind_error, .missed ?_⟩
    rintro ⟨x, found⟩
    rw [missing] at found
    cases found

theorem ping_does_ok (v : Standing) :
    Does ping v (.ok (.ofText 200 Response.plainType "ok")) v := by
  intro s h
  obtain ⟨gives, leaves⟩ := ping_does v s h
  have step : onBackend Backend.ping s = (.ok (), (onBackend Backend.ping s).2) := Prod.ext gives rfl
  unfold ping
  rw [step]
  exact ⟨rfl, leaves⟩

theorem handle_accounted (sound : v.contents.Sound) (plain : v.inbound = none) (e : Endpoint)
    (body : Text.Bytes) : ∃ x w, Does (handle e body) v x w ∧ Accounted (v.Misses e body) x := by
  have nothing (none : e.sought? body = none) : ¬ v.Misses e body := by
    rintro ⟨kind, name, sought, -⟩
    rw [none] at sought
    cases sought
  have missing {kind : Kind} {name : String} (sought : e.sought? body = some (kind, name)) :
      ¬ v.contents.Has kind name ↔ v.Misses e body := by
    simp [Standing.Misses, sought]
  have write (isWrite : e.isWrite = true) (none : e.sought? body = none) :
      ∃ x w, Does (handle e body) v x w ∧ Accounted (v.Misses e body) x := by
    have settles := handle_settles v isWrite body
    cases written : v.written e body with
    | ok c =>
      rw [written] at settles
      obtain ⟨r, status, does⟩ := settles
      exact ⟨_, _, does, .done status (nothing none)⟩
    | error f =>
      rw [written] at settles
      exact ⟨_, _, settles, .refused (v.written_blames sound plain e body f written) (nothing none)⟩
  cases e with
  | updatePath kind name value => exact write rfl rfl
  | updateRecord => exact write rfl rfl
  | updateBatch => exact write rfl rfl
  | listing =>
    obtain ⟨s, listed⟩ := Contents.getMetrics_of_sound sound
    have look := getMetrics_does v
    rw [listed] at look
    exact ⟨_, v, look.bind (.pure v _), .done rfl (nothing rfl)⟩
  | ping => exact ⟨_, v, ping_does_ok v, .done rfl (nothing rfl)⟩
  | valuePath kind name =>
    cases named : Kind.ofName? kind with
    | none =>
      have refused : Kind.parse kind = .error (.unsupportedKind kind) := by rw [Kind.parse, named]
      have none : (Endpoint.valuePath kind name).sought? body = none := by
        rw [Endpoint.sought?, named]
        rfl
      refine ⟨_, v, ?_, .refused (BlamesInput.parseKind kind _ refused) (nothing none)⟩
      rw [handle, valuePath, refused]
      exact (Does.ofOutcome v _).bind_error
    | some k =>
      have parsed : Kind.parse kind = .ok k := by rw [Kind.parse, named]
      have sought : (Endpoint.valuePath kind name).sought? body = some (k, name) := by
        rw [Endpoint.sought?, named]
        rfl
      obtain ⟨x, does, accounted⟩ := lookup_accounted sound k name fun x =>
        ⟨.ofText 200 Response.plainType x.text, rfl, .pure v _⟩
      refine ⟨x, v, ?_, accounted.congr (missing sought)⟩
      rw [handle, valuePath, parsed]
      exact (Does.ofOutcome v _).bind does
  | valueRecord =>
    cases read : (Json.Document.ofBytes body).read wanted.read with
    | error fault =>
      have none : Endpoint.valueRecord.sought? body = none := by rw [Endpoint.sought?, read]
      refine ⟨_, v, ?_, .refused (.malformed fault) (nothing none)⟩
      rw [handle, valueRecord, parse, read]
      exact (Does.ofOutcome v _).bind_error
    | ok w =>
      obtain ⟨name, kind⟩ := w
      have sought : Endpoint.valueRecord.sought? body = some (kind, name) := by
        rw [Endpoint.sought?, read]
      obtain ⟨x, does, accounted⟩ := lookup_accounted sound kind name fun x =>
        signedRecord_does v name x
      refine ⟨x, v, ?_, accounted.congr (missing sought)⟩
      rw [handle, valueRecord, parse, read]
      exact (Does.ofOutcome v _).bind does

/-! ## Runs -/

/-- The values that the accepted writes among some requests carried, in the order in which they were
put. -/
def acceptedWrites (codec : Sync.Codec) (answers : List (Request × Response)) : List (String × Sample) :=
  (answers.filter isAccepted).flatMap fun answer => (answer.1.carried codec).toOption.getD []

theorem acceptedWrites_cons (codec : Sync.Codec) (answer : Request × Response)
    (answers : List (Request × Response)) : acceptedWrites codec (answer :: answers) =
      acceptedWrites codec [answer] ++ acceptedWrites codec answers := by
  rw [acceptedWrites, ← List.singleton_append, List.filter_append, List.flatMap_append]
  rfl

/-- A request puts what it carries into the contents if it is an accepted write, and nothing else. -/
theorem respond_wrote (plain : v.inbound = none) (request : Request) {s : Collector}
    (h : s.standing? = some v) : ∃ c, (respond request s).2.standing? = some { v with contents := c } ∧
      v.contents.Wrote (acceptedWrites v.codec [(request, (respond request s).1)]) c := by
  have left {r : Response} (same : Answers request v r v)
      (out : isAccepted (request, r) = false) :
      ∃ c, (respond request s).2.standing? = some { v with contents := c } ∧
        v.contents.Wrote (acceptedWrites v.codec [(request, (respond request s).1)]) c := by
    obtain ⟨gives, leaves⟩ := same s h
    refine ⟨v.contents, leaves, ?_⟩
    rw [gives, acceptedWrites, List.filter_cons_of_neg (by simp [out])]
    exact .nil _
  cases write : request.isWrite with
  | false =>
    obtain ⟨r, same⟩ := read_answers v write
    exact left same (by simp [isAccepted, write])
  | true =>
    obtain ⟨e, body, reaches, isWrite⟩ := Request.isWrite_iff.1 write
    have answered := write_answers v reaches isWrite
    cases written : v.written e body with
    | error f =>
      rw [written] at answered
      obtain ⟨r, status, same⟩ := answered
      exact left same (by simp [isAccepted, status])
    | ok c =>
      rw [written] at answered
      obtain ⟨r, status, answered⟩ := answered
      obtain ⟨gives, leaves⟩ := answered s h
      obtain ⟨l, carried, wrote⟩ := v.wrote_of_written plain written
      refine ⟨c, leaves, ?_⟩
      have own : request.carried v.codec = .ok l := by
        rw [Request.carried, reaches]
        exact carried
      rw [gives, acceptedWrites, List.filter_cons_of_pos (by simp [isAccepted, write, status])]
      simpa [own, Except.toOption] using wrote

theorem respondAll_wrote : ∀ (requests : List Request) {v : Standing} {s : Collector},
    v.inbound = none → s.standing? = some v →
      ∃ c, (respondAll requests s).2.standing? = some { v with contents := c } ∧
        v.contents.Wrote (acceptedWrites v.codec (respondAll requests s).1) c
  | [], v, s, _, h => ⟨v.contents, h, .nil _⟩
  | request :: rest, v, s, plain, h => by
    obtain ⟨c, first, wrote⟩ := respond_wrote plain request h
    obtain ⟨c', others, wrote'⟩ := respondAll_wrote rest (v := { v with contents := c }) plain first
    refine ⟨c', others, ?_⟩
    rw [respondAll, acceptedWrites_cons]
    exact wrote.append wrote'

/-- A request that reaches no endpoint is refused, and not by a fault of the system. -/
theorem unreached_status {request : Request} (unreached : request.reaches? = none) (s : Collector) :
    (answer request s).1.status ∈ [400, 404, 405, 413, 415] := by
  unfold Request.reaches? at unreached
  unfold answer
  cases known : BodyForm.ofHeader? (request.header? "content-encoding") with
  | none => simp [Response.empty]
  | some form =>
    cases found : Endpoint.ofTarget? request.target with
    | none => simp [Response.empty]
    | some e =>
      by_cases method : e.methods.contains request.method = true
      · simp only [method, if_true]
        unfold answerAt
        cases decoded : e.decoded? with
        | none => simp [Response.ofText]
        | some e' =>
          simp only [known, found, method, decoded, Option.bind_eq_bind, Option.bind_some, if_true]
            at unreached ⊢
          cases reads : e'.readsBody with
          | false => simp [reads] at unreached
          | true =>
            simp only [reads, if_true] at unreached ⊢
            cases read : readBody form request.body with
            | ok body => simp [read] at unreached
            | error fault => cases fault <;> simp [BodyFault.response, Response.ofText]
      · simp only [method]
        simp [Response.empty]

/-- **What a client sends is never a fault of the system.** A collector over a store in memory,
whatever the store begins with, or over a database that nobody else wrote, with a key or without one
and without a layer that seals its bodies, answers no request with 500, whatever was sent before. What
reaches an endpoint fails by the client's fault only and is answered 200, 400 or 404; and it is
answered 404 exactly when it looks for a name in a kind that the contents did not begin with and that
no accepted write gave it or, in a database, that a later write of the other kind took from it. -/
theorem never_internal {s : Collector} (h : s.standing? = some v) (own : v.contents.Own)
    (plain : v.inbound = none) (requests : List Request) (request : Request) :
    let t := (respondAll requests s).2
    let wrote := acceptedWrites v.codec (respondAll requests s).1
    (respond request t).1.status ≠ 500 ∧
      ∀ e body, request.reaches? = some (e, body) →
        (∀ f, (handle e body t).1 = .error f → f.isClient = true) ∧
          (respond request t).1.status ∈ [200, 400, 404] ∧
          ((respond request t).1.status = 404 ↔
            ∃ kind name, e.sought? body = some (kind, name) ∧ ¬ v.contents.HasAfter wrote kind name) := by
  intro t wrote
  have sound := own.sound
  obtain ⟨c, standing, written⟩ := respondAll_wrote requests plain h
  have served := answer_eq request
  cases reaches : request.reaches? with
  | none =>
    have status := unreached_status reaches t
    rw [respond_eq, formed_status]
    exact ⟨fun internal => by simp [internal] at status, fun _ _ => nofun⟩
  | some reached =>
    obtain ⟨e, body⟩ := reached
    rw [reaches] at served
    obtain ⟨x, w, does, accounted⟩ := handle_accounted (v := { v with contents := c })
      (written.sound sound) plain e body
    have answered : (respond request t).1.status = (Response.ofOutcome x).status := by
      rw [respond_eq, formed_status, served, (serve_of_does does standing).1]
    obtain ⟨status, missing⟩ := accounted.status
    have known : Standing.Misses { v with contents := c } e body ↔ ∃ kind name,
        e.sought? body = some (kind, name) ∧ ¬ v.contents.HasAfter wrote kind name := by
      simp only [Standing.Misses, written.has_iff sound, wrote]
    rw [answered, missing, known]
    refine ⟨?_, ?_⟩
    · intro internal
      rw [internal] at status
      simp at status
    · rintro e' body' ⟨⟩
      refine ⟨fun f failed => ?_, status, Iff.rfl⟩
      obtain rfl : x = .error f := (does t standing).1.symm.trans failed
      exact accounted.isClient

/-- A counter is written, and a gauge of that name is looked for. -/
theorem never_internal_jobs :
    let s : Collector := ⟨.memory .empty, none, .plain, none, ⟨⟨.empty, "/home"⟩, []⟩⟩
    let v : Standing := ⟨.store .empty, .plain, none⟩
    let t := (respondAll [⟨"POST", "/update/counter/jobs/2", [], []⟩] s).2
    s.standing? = some v ∧ v.contents.Own ∧ v.inbound = none ∧
      (respond ⟨"GET", "/value/gauge/jobs", [], []⟩ t).1.status = 404 ∧
      (respond ⟨"GET", "/value/counter/jobs", [], []⟩ t).1.status ≠ 404 := by
  intro s v t
  have written : acceptedWrites .plain (respondAll [⟨"POST", "/update/counter/jobs/2", [], []⟩] s).1 =
      [("jobs", .counter 2)] := by decide +kernel
  obtain ⟨-, look⟩ := never_internal (s := s) (v := v) rfl trivial rfl
    [⟨"POST", "/update/counter/jobs/2", [], []⟩] ⟨"GET", "/value/gauge/jobs", [], []⟩
  obtain ⟨-, find⟩ := never_internal (s := s) (v := v) rfl trivial rfl
    [⟨"POST", "/update/counter/jobs/2", [], []⟩] ⟨"GET", "/value/counter/jobs", [], []⟩
  obtain ⟨-, -, missing⟩ := look (.valuePath "gauge" "jobs") [] (by decide +kernel)
  obtain ⟨-, -, found⟩ := find (.valuePath "counter" "jobs") [] (by decide +kernel)
  refine ⟨rfl, trivial, rfl, missing.2 ⟨.gauge, "jobs", rfl, ?_⟩, fun gone => ?_⟩
  · rw [written]
    rintro (⟨x, held⟩ | ⟨x, mem, kind⟩)
    · cases held
    · obtain rfl : x = .counter 2 := by simpa using mem
      cases kind
  · obtain ⟨kind, name, sought, lost⟩ := found.1 gone
    obtain ⟨rfl, rfl⟩ : Kind.counter = kind ∧ "jobs" = name := by
      simpa using (show some (Kind.counter, "jobs") = some (kind, name) from sought)
    rw [written] at lost
    exact lost (.inr ⟨.counter 2, by simp, rfl⟩)

/-! ## Collectors from settings -/

/-- Whatever the settings ask for, and whatever is in a snapshot file that is restored, a collector
stands in this case when it starts, unless others wrote a database. -/
theorem ofSettings_own {settings : CollectorSettings} {host host' : Host} {s : Collector}
    (own : host.disk.Own) (made : ofSettings settings host = (.ok s, host')) :
    ∃ v, s.standing? = some v ∧ v.contents.Own ∧ v.inbound = none := by
  rcases ofSettings_cases made with ⟨store, standing⟩ | ⟨source, c, t, opened, standing⟩
  · exact ⟨_, standing, trivial, rfl⟩
  · exact ⟨_, standing, Connection.openSource_own own opened, rfl⟩

end Collector

end Telemetry
