/-
What comes of a value that is read from a collector and written back.

The answer to a read is the value's text, and the path of a write takes any text that
`Sample.parse` reads. Since a value is read back from its own text (`Sample.parse_text`),
writing it back is writing the value: a gauge is what it was, and a counter is added to itself
(`written_back`).
-/
import Telemetry.Proofs.Number.Plain
import Telemetry.Proofs.Requests

namespace Telemetry

theorem NameMap.insert_held {α : Type} {m : NameMap α} {name : String} {x : α}
    (held : m.get? name = some x) : m.insert name x = m := by
  refine NameMap.ext_get? fun other => ?_
  rw [NameMap.get?_insert]
  split
  · rename_i same
    rw [same, held]
  · rfl

namespace Store

variable {store : Store} {name : String}

theorem put_held_gauge {x : Binary64} (held : store.snapshot.get? .gauge name = some (.gauge x))
    (finite : x.isFinite = true) : store.put name (.gauge x) = .ok store := by
  have there : store.gauges.get? name = some x := by
    simpa [Snapshot.get?, snapshot] using held
  simp only [put, finiteGauge, finite, if_true, Except.ok_bind, NameMap.insert_held there]

/-- A counter is added to itself, if 64 bits hold the sum. -/
theorem put_held_counter {d : Int64} (held : store.snapshot.get? .counter name = some (.counter d)) :
    store.put name (.counter d) =
      if InRange (d.toInt + d.toInt) then
        .ok { store with counters := store.counters.insert name (Int64.ofInt (d.toInt + d.toInt)) }
      else .error (.rejected (.overflow name d d)) := by
  have there : store.counters.get? name = some d := by
    simpa [Snapshot.get?, snapshot] using held
  simp only [put, there, Option.getD_some, checkedTotal_eq]
  split <;> rfl

end Store

namespace Collector

open Service

variable {s : Collector} {store : Store} {kind : Kind} {spelling name : String} {x : Sample}

theorem standing_of_live (live : s.backend = .memory store) :
    s.standing? = some ⟨.store store, s.codec, s.inbound⟩ := by
  simp only [standing?, contents?, live, Option.map_some]

theorem live_of_standing {codec : Sync.Codec} {inbound : Option BodyCodec}
    (stands : s.standing? = some ⟨.store store, codec, inbound⟩) : s.backend = .memory store := by
  obtain ⟨contents, -⟩ := standing?_eq_some.1 stands
  rcases contents?_cases contents with ⟨t, live, same⟩ | ⟨_, _, _, same⟩
  · rw [live, Contents.store.inj same]
  · cases same

theorem answer_valuePath {get : Request} {body : Text.Bytes} (live : s.backend = .memory store)
    (held : store.snapshot.get? kind name = some x) (spelled : Kind.parse spelling = .ok kind)
    (reaches : get.reaches? = some (.valuePath spelling name, body)) :
    answer get s = (.ofText 200 Response.plainType x.text, s) := by
  have served := answer_eq get
  rw [reaches] at served
  have found : store.getTyped kind name = .ok x := by simp only [Store.getTyped, held]
  have look : onBackend (Backend.getTyped kind name) s = (.ok x, s) := by
    obtain ⟨_, scheduler, codec, inbound, host⟩ := s
    cases live
    simp only [onBackend, Action.on, Backend.getTyped, Backend.perform, Backend.onStore, Backend.reading,
      found, Except.map]
  rw [served s, serve]
  simp only [handle, valuePath, spelled, Action.bind_ofOutcome_ok, Action.bind_of_ok look]
  rfl

theorem answer_updatePath {post : Request} {body : Text.Bytes} {raw : String}
    (live : s.backend = .memory store) (spelled : Kind.parse spelling = .ok kind)
    (read : Sample.parse kind raw = .ok x)
    (reaches : post.reaches? = some (.updatePath spelling name raw, body)) :
    match store.put name x with
    | .ok store' => (answer post s).1.status = 200 ∧ (answer post s).2.backend = .memory store'
    | .error e => (answer post s).1 = (Refusal.ofFailure e).response ∧
        (answer post s).2.backend = .memory store := by
  have served := answer_eq post
  rw [reaches] at served
  have wrote := serve_write (e := .updatePath spelling name raw) rfl body (standing_of_live live)
  simp only [Standing.written, spelled, read, Except.ok_bind, Contents.put] at wrote
  rw [served s]
  cases put : store.put name x with
  | ok store' =>
    rw [put] at wrote
    exact ⟨wrote.1, live_of_standing wrote.2⟩
  | error e =>
    rw [put] at wrote
    exact ⟨wrote.1, live_of_standing wrote.2⟩

/-- **Reading and writing text agree.** A collector with a store in memory answers a read with a text
that is read back as the very value, whatever blanks are put around it. So a gauge that is written
back leaves the store as it was, and a counter is doubled; where 64 bits do not hold the
double it is refused, and the store is as it was. -/
theorem written_back (live : s.backend = .memory store)
    (held : store.snapshot.get? kind name = some x)
    (finite : ∀ y, x = .gauge y → y.isFinite = true) (spelled : Kind.parse spelling = .ok kind) :
    (∀ get body, get.reaches? = some (.valuePath spelling name, body) →
      answer get s = (.ofText 200 Response.plainType x.text, s)) ∧
    ∀ before after, Text.isBlankText before = true → Text.isBlankText after = true →
      Sample.parse kind (before ++ x.text ++ after) = .ok x ∧
      ∀ post body,
        post.reaches? = some (.updatePath spelling name (before ++ x.text ++ after), body) →
        match x with
        | .gauge _ => (answer post s).1.status = 200 ∧ (answer post s).2.backend = .memory store
        | .counter d =>
          if InRange (2 * d.toInt) then
            (answer post s).1.status = 200 ∧ ∃ double : Int64, double.toInt = 2 * d.toInt ∧
              (answer post s).2.backend =
                .memory { store with counters := store.counters.insert name double }
          else
            (answer post s).1 = (Refusal.ofFailure (.rejected (.overflow name d d))).response ∧
              (answer post s).2.backend = .memory store := by
  have own : x.kind = kind := by
    cases kind <;> obtain ⟨y, -, rfl⟩ := Option.map_eq_some_iff.1 held <;> rfl
  refine ⟨fun get body reaches => answer_valuePath live held spelled reaches,
    fun before after opens closes => ?_⟩
  have read : Sample.parse kind (before ++ x.text ++ after) = .ok x := by
    rw [← own]
    exact Sample.parse_text finite opens closes
  refine ⟨read, fun post body reaches => ?_⟩
  have wrote := answer_updatePath live spelled read reaches
  subst own
  cases x with
  | gauge y =>
    rw [Store.put_held_gauge held (finite y rfl)] at wrote
    exact wrote
  | counter d =>
    rw [Store.put_held_counter held, ← Int.two_mul] at wrote
    by_cases fits : InRange (2 * d.toInt)
    · rw [if_pos fits] at wrote
      simp only [if_pos fits]
      exact ⟨wrote.1, Int64.ofInt (2 * d.toInt), toInt_ofInt fits, wrote.2⟩
    · rw [if_neg fits] at wrote
      simp only [if_neg fits]
      exact wrote

/-- Minus zero is read as it is, and written back between blanks it stays minus zero. -/
theorem written_back_minus_zero :
    let store : Store := ⟨NameMap.empty.insert "load" (.finite true .zero), .empty⟩
    let s : Collector := ⟨.memory store, none, .plain, none, ⟨⟨.empty, "/home"⟩, []⟩⟩
    let get : Request := ⟨"GET", "/value/gauge/load", [], []⟩
    let post : Request := ⟨"POST", "/update/gauge/load/%C2%A0-0%20", [], []⟩
    store.snapshot.get? .gauge "load" = some (.gauge (.finite true .zero)) ∧
      answer get s = (.ofText 200 Response.plainType "-0", s) ∧
      Sample.parse .gauge "\u00a0-0 " = .ok (.gauge (.finite true .zero)) ∧
      (answer post s).1.status = 200 ∧ (answer post s).2.backend = .memory store := by
  intro store s get post
  have held : store.snapshot.get? .gauge "load" = some (.gauge (.finite true .zero)) := by decide +kernel
  have finite : ∀ y, Sample.gauge (.finite true .zero) = .gauge y → y.isFinite = true := by
    rintro _ ⟨⟩
    rfl
  have spelled : Kind.parse "gauge" = .ok .gauge := rfl
  obtain ⟨reads, writes⟩ := written_back (s := s) rfl held finite spelled
  obtain ⟨parsed, wrote⟩ := writes "\u00a0" " " (by decide) (by decide)
  exact ⟨held, reads get [] (by decide +kernel), parsed, wrote post [] (by decide +kernel)⟩

end Collector

end Telemetry
