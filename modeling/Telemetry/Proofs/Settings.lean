/-
How the layers of settings come together.

Each setting of a program is its flag if that is given, else its variable if that is not blank, else its
member of the settings file, else its default (`Settings.pick`), whatever the other settings are. There
are two exceptions: two flags of the agent only switch something off, and a blank path in the environment
means that there is no file. A program gets settings exactly when the file, the variables
and the settings as a whole are right, also where a layer above would hide what is wrong (`layered_settings`).
-/
import Telemetry.Command.Agent
import Telemetry.Command.Collector
import Telemetry.Proofs.Command.Given
import Telemetry.Proofs.Json.Acceptance
import Telemetry.Proofs.Json.Members
import Telemetry.Proofs.Json.Snapshots

namespace Telemetry

open Command

/-- What a setting is: its flag, else its variable, else its member, else its default. -/
def Settings.pick {α : Type} (flag spelled member : Option α) (fallback : α) : α :=
  ((flag.or spelled).or member).getD fallback

theorem Settings.pick_eq {α : Type} (flag spelled member : Option α) (fallback : α) :
    pick flag spelled member fallback = flag.getD (spelled.getD (member.getD fallback)) := by
  cases flag <;> cases spelled <;> rfl

/-- The number that characters spell. -/
def Settings.number? (cs : List Char) : Option UInt64 :=
  (uint64OfChars cs).toOption

open Settings (pick number?)

namespace Command.Notes

/-- The number that is given to a flag. -/
def number? (notes : Notes) (name : String) : Option UInt64 :=
  (notes.lookup name).bind fun v => Settings.number? v.toList

def truth? (notes : Notes) (name : String) : Option Bool :=
  (notes.lookup name).bind fun v => boolOfChars v.toList

/-- The flag is given. -/
def has (notes : Notes) (name : String) : Bool :=
  (notes.lookup name).isSome

end Command.Notes

namespace Environment

variable {α : Type} {setting : String} {env : Environment} {o : Option α}

/-- What a variable spells when the blanks around it are taken off, unless it is blank. -/
def value? (env : Environment) (setting : String) (parse : List Char → Option α) : Option α :=
  (env.text setting).bind fun v => parse (Text.trimChars v.toList)

/-- The variable of a setting is blank, or it spells a value. -/
def Spells (env : Environment) (setting : String) (parse : List Char → Option α) : Prop :=
  ∀ v ∈ env.text setting, (parse (Text.trimChars v.toList)).isSome

instance (parse : List Char → Option α) : Decidable (env.Spells setting parse) :=
  inferInstanceAs (Decidable (∀ v ∈ env.text setting, (parse (Text.trimChars v.toList)).isSome = true))

theorem parsed_eq_ok {parse : List Char → Except VariableFault α} {spelled : List Char → Option α}
    (same : ∀ cs, (parse cs).toOption = spelled cs) :
    env.parsed setting parse = .ok o ↔ env.Spells setting spelled ∧ o = env.value? setting spelled := by
  obtain rfl : (fun cs => (parse cs).toOption) = spelled := funext same
  unfold parsed Spells value?
  cases env.text setting with
  | none =>
    exact ⟨fun h => ⟨(fun _ v => nomatch v), (Except.ok.inj h).symm⟩, fun h => congrArg Except.ok h.2.symm⟩
  | some v =>
    simp only [Option.mem_def, Option.some.injEq, forall_eq', Option.bind_some]
    cases parse (Text.trimChars v.toList) with
    | error fault => exact ⟨(fun h => nomatch h), fun h => nomatch h.1⟩
    | ok x => exact ⟨fun h => ⟨rfl, (Except.ok.inj h).symm⟩, fun h => congrArg Except.ok h.2.symm⟩

theorem number_eq_ok {o : Option UInt64} : env.number setting = .ok o ↔
    env.Spells setting number? ∧ o = env.value? setting number? := by
  refine parsed_eq_ok fun cs => ?_
  rw [number?]
  cases uint64OfChars cs <;> rfl

theorem truth_eq_ok {o : Option Bool} : env.truth setting = .ok o ↔
    env.Spells setting boolOfChars ∧ o = env.value? setting boolOfChars := by
  refine parsed_eq_ok fun cs => ?_
  cases boolOfChars cs <;> rfl

end Environment

/-- The action comes to its end if this holds, and then it has made that of the settings. -/
def Lays {σ : Type} (a : Action σ Unit) (spelled : Prop) (lay : σ → σ) : Prop :=
  ∀ s t, a s = (.ok (), t) ↔ spelled ∧ t = lay s

namespace Lays

variable {σ α β : Type} {a b : Action σ Unit} {p q : Prop} {f g : σ → σ}
  {value : Outcome (Option α)} {x : Option α} {set : σ → α → σ}

/-- What is laid over settings is put into its own part of them. -/
theorem overlay_as (spells : ∀ o, value = .ok o ↔ p ∧ o = x) (as : α → β) (put : σ → β → σ)
    (get : σ → β) (same : ∀ s, put s (get s) = s) (sets : ∀ s v, set s v = put s (as v)) :
    Lays (overlay value set) p fun s => put s ((x.map as).getD (get s)) := by
  intro s t
  have placed : x.elim s (set s) = put s ((x.map as).getD (get s)) := by
    cases x with
    | none => exact (same s).symm
    | some v => exact sets s v
  show _ ↔ p ∧ t = put s ((x.map as).getD (get s))
  rw [← placed]
  cases value with
  | error e => exact ⟨(fun h => nomatch h), fun h => nomatch (spells x).2 ⟨h.1, rfl⟩⟩
  | ok o =>
    have known := (spells o).1 rfl
    rw [← known.2, and_iff_right known.1]
    cases o with
    | none => exact ⟨fun h => (Prod.mk.inj h).2.symm, fun h => Prod.ext rfl h.symm⟩
    | some v => exact ⟨fun h => (Prod.mk.inj h).2.symm, fun h => Prod.ext rfl h.symm⟩

theorem overlay (spells : ∀ o, value = .ok o ↔ p ∧ o = x) (get : σ → α)
    (same : ∀ s, set s (get s) = s) : Lays (overlay value set) p fun s => set s (x.getD (get s)) := by
  have lays := overlay_as spells id set get same fun _ _ => rfl
  rwa [Option.map_id] at lays

theorem andThen (first : Lays a p f) (second : Lays b q g) :
    Lays (do a; b) (p ∧ q) fun s => g (f s) := by
  intro s t
  rw [Action.run_bind]
  cases result : a s with
  | mk y u =>
    cases y with
    | error e =>
      have fails : ¬ p := fun holds => by
        have ends := (first s (f s)).2 ⟨holds, rfl⟩
        rw [result] at ends
        exact nomatch ends
      exact ⟨(fun h => nomatch h), fun h => absurd h.1.1 fails⟩
    | ok y =>
      obtain ⟨holds, rfl⟩ := (first s u).1 result
      rw [second, and_iff_right holds]

theorem congr (lays : Lays a p f) (holds : p ↔ q) (same : ∀ s, f s = g s) : Lays a q g :=
  fun s t => by rw [← same, ← holds, lays]

end Lays

theorem Environment.text_eq_ok {o x : Option String} : (Except.ok x : Outcome _) = .ok o ↔ True ∧ o = x := by
  simp [eq_comm]

/-! ## A settings file -/

/-- The members of a settings file, each with what its text is read as. -/
abbrev Settings.Members :=
  List (String × Json.Tree)

/-- What a member says, if it is there. -/
def Settings.Members.value? {α : Type} (members : Members) (name : String)
    (read : Json.Tree → Except Json.Fault α) : Option α :=
  (members.lookup name).bind fun t => (read t).toOption

open Settings (Members)

namespace Json.Shape

variable {δ : Type} {shape : Shape δ} {filed : Members → δ → δ}

/-- Members laid over a draft: only those count that name a field, and a field takes the one that names it. -/
structure Fills (shape : Shape δ) (filed : Members → δ → δ) : Prop where
  nothing : ∀ d, filed [] d = d
  same : ∀ members members' d, (∀ field ∈ shape.fields,
    members.lookup field.name = members'.lookup field.name) → filed members d = filed members' d
  own : ∀ field ∈ shape.fields, ∀ t members d d', field.set d t = .ok d' →
    members.lookup field.name = none → filed members d' = filed ((field.name, t) :: members) d

/-- A field that no member names is not looked up. -/
theorem lookup_of_fresh {members : Members} {key : String} {field : Field δ}
    (found : shape.field? key = some field)
    (fresh : key ∉ shape.keys (members.map fun m => (some m.1, m.2))) : members.lookup key = none := by
  rw [List.lookup_eq_none_iff]
  intro m mem
  rw [bne_iff_ne]
  rintro rfl
  refine fresh (List.mem_filterMap.2 ⟨(some m.1, m.2), List.mem_map_of_mem mem, ?_⟩)
  simp [key?, found]

theorem Fills.foldl (fills : shape.Fills filed) {members : Members} {d x : δ}
    (nodup : (shape.keys (members.map fun m => (some m.1, m.2))).Nodup)
    (fold : (members.map fun m => (some m.1, m.2)).foldl shape.take (some d) = some x) :
    x = filed members d := by
  induction members generalizing d with
  | nil => exact (Option.some.inj fold).symm.trans (fills.nothing d).symm
  | cons m rest ih =>
    obtain ⟨key, t⟩ := m
    rw [List.map_cons] at nodup
    simp only [List.map_cons, List.foldl_cons, take] at fold
    cases found : shape.field? key with
    | none =>
      -- No field has this name, so the member counts for nothing.
      rw [keys_skip found] at nodup
      have passed : filed ((key, t) :: rest) d = filed rest d := by
        refine fills.same _ _ d fun field mem => ?_
        have apart : field.name ≠ key := by simpa using List.find?_eq_none.1 found field mem
        rw [List.lookup_cons, beq_false_of_ne apart]
      rw [passed]
      simp only [found] at fold
      split at fold
      · exact ih nodup fold
      · rw [foldl_take_none] at fold
        contradiction
    | some field =>
      -- A field has it, and as no later member does, what this one sets stays.
      rw [keys_name found] at nodup
      obtain ⟨fresh, apart⟩ := List.nodup_cons.1 nodup
      have name := List.find?_some found
      obtain rfl : field.name = key := beq_iff_eq.1 name
      simp only [found, Option.bind_some, Field.set?] at fold
      cases set : field.set d t with
      | error e =>
        rw [set, Except.toOption, foldl_take_none] at fold
        contradiction
      | ok d' =>
        rw [set] at fold
        rw [ih apart fold]
        exact fills.own field (List.mem_of_find?_eq_some found) t rest d d' set (lookup_of_fresh found fresh)

theorem Fills.read (fills : shape.Fills filed) {members : Members} {x : δ}
    (read : shape.read (.object (members.map fun m => (some m.1, m.2)) .closed) = .ok x) :
    x = filed members shape.initial := by
  obtain ⟨nodup, fold, -⟩ := read_object_iff.1 read
  exact fills.foldl nodup fold

end Json.Shape

/-- How a field of settings takes the member that names it. -/
theorem AgentSettings.field_takes {δ α : Type} {name : String} {read : Json.Tree → Except Json.Fault α}
    {put : δ → α → δ} {filed : Members → δ → δ}
    (h : ∀ t v members d, read t = .ok v → members.lookup name = none →
      filed members (put d v) = filed ((name, t) :: members) d)
    (t : Json.Tree) (members : Members) (d d' : δ) (set : (field name read put).set d t = .ok d')
    (fresh : members.lookup name = none) : filed members d' = filed ((name, t) :: members) d := by
  obtain ⟨v, spelled, rfl⟩ := Except.map_eq_ok.1 set
  exact h t v members d spelled fresh

/-! ## The agent -/

namespace AgentSettings

open Json (Tree)

/-- The settings with flags over them. Two of the flags switch something off, and none switches it on. -/
def flagged (flags : Notes) (s : AgentSettings) : AgentSettings where
  serverAddress := (flags.lookup "address").getD s.serverAddress
  pollSeconds := (flags.number? "poll-interval").getD s.pollSeconds
  reportSeconds := (flags.number? "report-interval").getD s.reportSeconds
  timeoutMilliseconds := (flags.number? "request-timeout-ms").getD s.timeoutMilliseconds
  key := ((flags.lookup "key").map some).getD s.key
  compress := !flags.has "no-compress" && s.compress
  systemMetrics := !flags.has "no-system-metrics" && s.systemMetrics

/-- The settings with the variables over them that are not blank. -/
def surrounded (env : Environment) (s : AgentSettings) : AgentSettings where
  serverAddress := (env.text "ADDRESS").getD s.serverAddress
  pollSeconds := (env.value? "POLL_INTERVAL" number?).getD s.pollSeconds
  reportSeconds := (env.value? "REPORT_INTERVAL" number?).getD s.reportSeconds
  timeoutMilliseconds := (env.value? "REQUEST_TIMEOUT_MS" number?).getD s.timeoutMilliseconds
  key := ((env.text "KEY").map some).getD s.key
  compress := (env.value? "COMPRESS" boolOfChars).getD s.compress
  systemMetrics := (env.value? "SYSTEM_METRICS" boolOfChars).getD s.systemMetrics

/-- The settings with members of a file over them. -/
def filed (members : Members) (s : AgentSettings) : AgentSettings where
  serverAddress := (members.value? "server_address" fun t => t.asText .text).getD s.serverAddress
  pollSeconds := (members.value? "poll_interval_secs" Tree.asUInt64).getD s.pollSeconds
  reportSeconds := (members.value? "report_interval_secs" Tree.asUInt64).getD s.reportSeconds
  timeoutMilliseconds := (members.value? "request_timeout_ms" Tree.asUInt64).getD s.timeoutMilliseconds
  key := (members.value? "key" optionalText).getD s.key
  compress := (members.value? "compress" Tree.asBoolean).getD s.compress
  systemMetrics := (members.value? "system_metrics" Tree.asBoolean).getD s.systemMetrics

/-- Every variable of a number or of a truth value is blank or spells one. -/
structure Spelled (env : Environment) : Prop where
  poll : env.Spells "POLL_INTERVAL" number?
  report : env.Spells "REPORT_INTERVAL" number?
  timeout : env.Spells "REQUEST_TIMEOUT_MS" number?
  compress : env.Spells "COMPRESS" boolOfChars
  system : env.Spells "SYSTEM_METRICS" boolOfChars

theorem flagged_skip : ∀ name ∈ ["config", "log-level"], ∀ (notes : Notes) (v : String) (s : AgentSettings),
    flagged ((name, v) :: notes) s = flagged notes s := by
  refine List.forall_mem_cons.2 ⟨fun notes v s => ?_, List.forall_mem_singleton.2 fun notes v s => ?_⟩
  all_goals simp only [flagged, Notes.number?, Notes.has, List.lookup_cons, String.reduceBEq]

theorem flags_overlay : ∀ f ∈ Agent.program.ownFlags, f.name ≠ "config" ∧ f.Overlays flagged := by
  simp only [Agent.program, Agent.flags, List.forall_mem_cons]
  refine ⟨⟨by decide, Flag.overlays_text fun notes v s => ?_⟩,
    ⟨by decide, Flag.overlays_number fun notes v n s spelled => ?_⟩,
    ⟨by decide, Flag.overlays_number fun notes v n s spelled => ?_⟩,
    ⟨by decide, Flag.overlays_text fun notes v s => ?_⟩,
    ⟨by decide, Flag.overlays_number fun notes v n s spelled => ?_⟩,
    ⟨by decide, Flag.overlays_switch fun notes v s => ?_⟩,
    ⟨by decide, Flag.overlays_switch fun notes v s => ?_⟩, by simp⟩
  all_goals simp only [flagged, Notes.number?, Notes.has, number?, List.lookup_cons, String.reduceBEq, *,
    Option.map_some, Option.bind_some, Option.getD_some, Option.isSome_some, Bool.not_true, Bool.false_and]

theorem applyEnvironment_lays (env : Environment) :
    Lays (applyEnvironment env) (Spelled env) (surrounded env) := by
  have lays : Lays (applyEnvironment env) _ _ :=
    .andThen (.overlay (fun _ => Environment.text_eq_ok) serverAddress fun _ => rfl) <|
    .andThen (.overlay (fun _ => env.number_eq_ok) pollSeconds fun _ => rfl) <|
    .andThen (.overlay (fun _ => env.number_eq_ok) reportSeconds fun _ => rfl) <|
    .andThen (.overlay (fun _ => env.number_eq_ok) timeoutMilliseconds fun _ => rfl) <|
    .andThen (.overlay_as (fun _ => Environment.text_eq_ok) some (fun s v => { s with key := v }) key
      (fun _ => rfl) fun _ _ => rfl) <|
    .andThen (.overlay (fun _ => env.truth_eq_ok) compress fun _ => rfl)
      (.overlay (fun _ => env.truth_eq_ok) systemMetrics fun _ => rfl)
  refine lays.congr ⟨?_, ?_⟩ fun s => rfl
  · rintro ⟨-, poll, report, timeout, -, compress, system⟩
    exact ⟨poll, report, timeout, compress, system⟩
  · rintro ⟨poll, report, timeout, compress, system⟩
    exact ⟨trivial, poll, report, timeout, trivial, compress, system⟩

theorem fills : shape.Fills filed where
  nothing _ := rfl
  same members members' d same := by
    simp only [shape, field, List.forall_mem_cons] at same
    simp only [filed, Members.value?, same]
  own := by
    simp only [shape, List.forall_mem_cons]
    refine ⟨field_takes ?_, field_takes ?_, field_takes ?_, field_takes ?_, field_takes ?_,
      field_takes ?_, field_takes ?_, by simp⟩
    all_goals
      intro t v members d spelled fresh
      simp only [filed, Members.value?, List.lookup_cons, String.reduceBEq, spelled, fresh, Option.bind_some,
        Option.bind_none, Option.getD_none, Except.toOption, Option.getD_some]

/-- **The agent's settings**, each from the layer that is highest where it is given. -/
def merged (flags : Notes) (env : Environment) (members : Members) : AgentSettings where
  serverAddress := pick (flags.lookup "address") (env.text "ADDRESS")
    (members.value? "server_address" fun t => t.asText .text) default.serverAddress
  pollSeconds := pick (flags.number? "poll-interval") (env.value? "POLL_INTERVAL" number?)
    (members.value? "poll_interval_secs" Tree.asUInt64) default.pollSeconds
  reportSeconds := pick (flags.number? "report-interval") (env.value? "REPORT_INTERVAL" number?)
    (members.value? "report_interval_secs" Tree.asUInt64) default.reportSeconds
  timeoutMilliseconds := pick (flags.number? "request-timeout-ms")
    (env.value? "REQUEST_TIMEOUT_MS" number?) (members.value? "request_timeout_ms" Tree.asUInt64)
    default.timeoutMilliseconds
  key := pick ((flags.lookup "key").map some) ((env.text "KEY").map some)
    (members.value? "key" optionalText) default.key
  compress := !flags.has "no-compress" && pick none (env.value? "COMPRESS" boolOfChars)
    (members.value? "compress" Tree.asBoolean) default.compress
  systemMetrics := !flags.has "no-system-metrics" && pick none
    (env.value? "SYSTEM_METRICS" boolOfChars) (members.value? "system_metrics" Tree.asBoolean)
    default.systemMetrics

theorem merged_eq (flags : Notes) (env : Environment) (members : Members) :
    merged flags env members = ((default.filed members).surrounded env).flagged flags := by
  simp only [merged, Settings.pick_eq, flagged, surrounded, filed, Option.getD_none]

end AgentSettings

/-! ## The collector -/

namespace CollectorSettings

open Json (Tree)

def flagged (flags : Notes) (s : CollectorSettings) : CollectorSettings where
  address := (flags.lookup "address").getD s.address
  storeSeconds := (flags.number? "store-interval").getD s.storeSeconds
  filePath := ((flags.lookup "file-storage-path").map some).getD s.filePath
  restore := (flags.truth? "restore").getD s.restore
  removeBroken := (flags.truth? "remove-broken").getD s.removeBroken
  databaseSource := ((flags.lookup "database-dsn").map some).getD s.databaseSource
  key := ((flags.lookup "key").map some).getD s.key

/-- The path of the snapshot file in the environment; a blank one says that there is no file. -/
def pathIn (env : Environment) : Option (Option String) :=
  (env.raw "FILE_STORAGE_PATH").map fun v => if Text.isBlankText v then none else some v

def surrounded (env : Environment) (s : CollectorSettings) : CollectorSettings where
  address := (env.text "ADDRESS").getD s.address
  storeSeconds := (env.value? "STORE_INTERVAL" number?).getD s.storeSeconds
  filePath := (pathIn env).getD s.filePath
  restore := (env.value? "RESTORE" boolOfChars).getD s.restore
  removeBroken := (env.value? "REMOVE_BROKEN" boolOfChars).getD s.removeBroken
  databaseSource := ((env.text "DATABASE_DSN").map some).getD s.databaseSource
  key := ((env.text "KEY").map some).getD s.key

def filed (members : Members) (s : CollectorSettings) : CollectorSettings where
  address := (members.value? "address" fun t => t.asText .text).getD s.address
  storeSeconds := (members.value? "store_interval_secs" Tree.asUInt64).getD s.storeSeconds
  filePath := (members.value? "file_storage_path" optionalPath).getD s.filePath
  restore := (members.value? "restore" Tree.asBoolean).getD s.restore
  removeBroken := (members.value? "remove_broken" Tree.asBoolean).getD s.removeBroken
  databaseSource := (members.value? "database_dsn" AgentSettings.optionalText).getD s.databaseSource
  key := (members.value? "key" AgentSettings.optionalText).getD s.key

structure Spelled (env : Environment) : Prop where
  store : env.Spells "STORE_INTERVAL" number?
  restore : env.Spells "RESTORE" boolOfChars
  remove : env.Spells "REMOVE_BROKEN" boolOfChars

theorem flagged_skip : ∀ name ∈ ["config", "log-level"], ∀ (notes : Notes) (v : String) (s : CollectorSettings),
    flagged ((name, v) :: notes) s = flagged notes s := by
  refine List.forall_mem_cons.2 ⟨fun notes v s => ?_, List.forall_mem_singleton.2 fun notes v s => ?_⟩
  all_goals simp only [flagged, Notes.number?, Notes.truth?, List.lookup_cons, String.reduceBEq]

theorem flags_overlay : ∀ f ∈ Collector.program.ownFlags, f.name ≠ "config" ∧ f.Overlays flagged := by
  simp only [Collector.program, Collector.flags, List.forall_mem_cons]
  refine ⟨⟨by decide, Flag.overlays_text fun notes v s => ?_⟩,
    ⟨by decide, Flag.overlays_number fun notes v n s spelled => ?_⟩,
    ⟨by decide, Flag.overlays_path fun notes v s => ?_⟩,
    ⟨by decide, Flag.overlays_truth fun notes v b s spelled => ?_⟩,
    ⟨by decide, Flag.overlays_truth fun notes v b s spelled => ?_⟩,
    ⟨by decide, Flag.overlays_text fun notes v s => ?_⟩,
    ⟨by decide, Flag.overlays_text fun notes v s => ?_⟩, by simp⟩
  all_goals simp only [flagged, Notes.number?, Notes.truth?, number?, List.lookup_cons, String.reduceBEq, *,
    Option.map_some, Option.bind_some, Option.getD_some]

theorem applyEnvironment_lays (env : Environment) :
    Lays (applyEnvironment env) (Spelled env) (surrounded env) := by
  have lays : Lays (applyEnvironment env) _ _ :=
    .andThen (.overlay (fun _ => Environment.text_eq_ok) address fun _ => rfl) <|
    .andThen (.overlay (fun _ => env.number_eq_ok) storeSeconds fun _ => rfl) <|
    .andThen (.overlay_as (fun _ => Environment.text_eq_ok)
      (fun v => if Text.isBlankText v then none else some v) (fun s v => { s with filePath := v }) filePath
      (fun _ => rfl) fun _ _ => rfl) <|
    .andThen (.overlay (fun _ => env.truth_eq_ok) restore fun _ => rfl) <|
    .andThen (.overlay (fun _ => env.truth_eq_ok) removeBroken fun _ => rfl) <|
    .andThen (.overlay_as (fun _ => Environment.text_eq_ok) some
      (fun s v => { s with databaseSource := v }) databaseSource (fun _ => rfl) fun _ _ => rfl)
      (.overlay_as (fun _ => Environment.text_eq_ok) some (fun s v => { s with key := v }) key
        (fun _ => rfl) fun _ _ => rfl)
  refine lays.congr ⟨?_, ?_⟩ fun s => rfl
  · rintro ⟨-, store, -, restore, remove, -, -⟩
    exact ⟨store, restore, remove⟩
  · rintro ⟨store, restore, remove⟩
    exact ⟨trivial, store, trivial, restore, remove, trivial, trivial⟩

theorem fills (initial : CollectorSettings) : (shape initial).Fills filed where
  nothing _ := rfl
  same members members' d same := by
    simp only [shape, AgentSettings.field, List.forall_mem_cons] at same
    simp only [filed, Members.value?, same]
  own := by
    simp only [shape, List.forall_mem_cons]
    open AgentSettings (field_takes) in
    refine ⟨field_takes ?_, field_takes ?_, field_takes ?_, field_takes ?_, field_takes ?_,
      field_takes ?_, field_takes ?_, by simp⟩
    all_goals
      intro t v members d spelled fresh
      simp only [filed, Members.value?, List.lookup_cons, String.reduceBEq, spelled, fresh, Option.bind_some,
        Option.bind_none, Option.getD_none, Except.toOption, Option.getD_some]

/-- **The collector's settings**, each from the layer that is highest where it is given. -/
def merged (flags : Notes) (env : Environment) (members : Members) : CollectorSettings where
  address := pick (flags.lookup "address") (env.text "ADDRESS")
    (members.value? "address" fun t => t.asText .text) (Collector.defaults env).address
  storeSeconds := pick (flags.number? "store-interval") (env.value? "STORE_INTERVAL" number?)
    (members.value? "store_interval_secs" Tree.asUInt64) (Collector.defaults env).storeSeconds
  filePath := pick ((flags.lookup "file-storage-path").map some) (pathIn env)
    (members.value? "file_storage_path" optionalPath) (Collector.defaults env).filePath
  restore := pick (flags.truth? "restore") (env.value? "RESTORE" boolOfChars)
    (members.value? "restore" Tree.asBoolean) (Collector.defaults env).restore
  removeBroken := pick (flags.truth? "remove-broken") (env.value? "REMOVE_BROKEN" boolOfChars)
    (members.value? "remove_broken" Tree.asBoolean) (Collector.defaults env).removeBroken
  databaseSource := pick ((flags.lookup "database-dsn").map some) ((env.text "DATABASE_DSN").map some)
    (members.value? "database_dsn" AgentSettings.optionalText) (Collector.defaults env).databaseSource
  key := pick ((flags.lookup "key").map some) ((env.text "KEY").map some)
    (members.value? "key" AgentSettings.optionalText) (Collector.defaults env).key

theorem merged_eq (flags : Notes) (env : Environment) (members : Members) : merged flags env members =
    (((Collector.defaults env).filed members).surrounded env).flagged flags := by
  simp only [merged, Settings.pick_eq, flagged, surrounded, filed]

end CollectorSettings

/-! ## Programs -/

/-- What is looked at for settings: no file, or an object with these members. -/
inductive Settings.Source (d : Disk) : Option String → Option String → Members → Prop where
  | absent : Source d none none []
  | object {path text : String} {bytes : Text.Bytes} {members : List (String × List Char)}
      (read : d.read path = .ok bytes) (decoded : Text.Utf8.decode? bytes = some text)
      (object : Json.IsObject text.toList members) :
      Source d (some path) (some text) (members.map fun m => (m.1, Json.treeOf m.2))

namespace Command.Program

variable {σ : Type} {p : Program σ} {env : Environment} {h : Host} {path : Option String}

/-- The settings below the environment: the defaults where there is no file, else what the file says. -/
inductive Below (p : Program σ) (env : Environment) (d : Disk) : Option String → σ → Prop where
  | defaults : Below p env d none (p.defaults env)
  | file {path text : String} {bytes : Text.Bytes} {below : σ} (read : d.read path = .ok bytes)
      (decoded : Text.Utf8.decode? bytes = some text)
      (parsed : p.ofDocument env (.ofText text) = .ok below) : Below p env d (some path) below

/-- The layers of a program's settings, each as what it lays over those below it. -/
structure HasLayers (p : Program σ) (spelled : Environment → Prop) (flagged : Notes → σ → σ)
    (surrounded : Environment → σ → σ) (filed : Members → σ → σ) : Prop where
  flags : ∀ {arguments l}, p.line arguments = .ok l →
    l.path = (p.given arguments).lookup "config" ∧ ∀ s, l.change s = flagged (p.given arguments) s
  environment : ∀ env, Lays (p.applyEnvironment env) (spelled env) (surrounded env)
  nothing : ∀ s, filed [] s = s
  file : ∀ {env members x}, p.ofDocument env
    ⟨.object (members.map fun m => (some m.1, m.2)) .closed, false⟩ = .ok x → x = filed members (p.defaults env)

theorem load_eq_ok (ofDocument : Json.Document → Except Json.Fault σ) (file : String) (h : Host) (x : σ) :
    (Settings.load ofDocument file h).1 = .ok x ↔ ∃ bytes text, h.disk.read file = .ok bytes ∧
      Text.Utf8.decode? bytes = some text ∧ ofDocument (.ofText text) = .ok x := by
  unfold Settings.load
  cases h.disk.read file with
  | error fault => simp
  | ok bytes =>
    cases decoded : Text.Utf8.decode? bytes with
    | none => simp [decoded]
    | some text =>
      cases parsed : ofDocument (.ofText text) with
      | error fault => simp [decoded, parsed]
      | ok y => simp [decoded, parsed]

/-- What a file gives is below the environment, and so are the defaults without one. -/
theorem layered_eq_ok (p : Program σ) (env : Environment) (path : Option String) (h : Host) (t : σ) :
    (p.layered env path h).1 = .ok t ↔
      ∃ below, p.Below env h.disk path below ∧ p.applyEnvironment env below = (.ok (), t) := by
  have ends (below : σ) (g : Host) : (Action.ofOutcome ((p.applyEnvironment env below).1.map fun _ =>
      (p.applyEnvironment env below).2) g).1 = .ok t ↔ p.applyEnvironment env below = (.ok (), t) := by
    cases p.applyEnvironment env below with
    | mk outcome u =>
      cases outcome with
      | error e => exact ⟨(fun h => nomatch h), fun h => nomatch h⟩
      | ok x => exact ⟨fun h => Prod.ext rfl (Except.ok.inj h), fun h => congrArg Except.ok (Prod.mk.inj h).2⟩
  cases path with
  | none =>
    refine (ends (p.defaults env) h).trans ⟨fun applied => ⟨_, .defaults, applied⟩, ?_⟩
    intro ⟨below, found, applied⟩
    cases found
    exact applied
  | some file =>
    rw [layered, Action.run_bind]
    have loads := load_eq_ok (p.ofDocument env) file h
    cases loaded : Settings.load (p.ofDocument env) file h with
    | mk x g =>
      rw [loaded] at loads
      cases x with
      | error e =>
        refine ⟨(fun h => nomatch h), fun ⟨below, found, _⟩ => ?_⟩
        cases found with
        | file given decoded parsed => exact nomatch (loads below).2 ⟨_, _, given, decoded, parsed⟩
      | ok below =>
        refine (ends below g).trans ⟨fun applied => ?_, fun ⟨below', found, applied⟩ => ?_⟩
        · obtain ⟨bytes, text, given, decoded, parsed⟩ := (loads below).1 rfl
          exact ⟨below, .file given decoded parsed, applied⟩
        · cases found with
          | file given decoded parsed =>
            rw [Except.ok.inj ((loads below').2 ⟨_, _, given, decoded, parsed⟩)]
            exact applied

variable {spelled : Environment → Prop} {flagged : Notes → σ → σ} {surrounded : Environment → σ → σ}
  {filed : Members → σ → σ}

theorem checked_eq_ok {σ' : Type} {valid : Outcome Unit} {g : σ'} {s t : σ} :
    ((do Action.ofOutcome valid; pure t : Action σ' σ) g).1 = .ok s ↔ s = t ∧ valid = .ok () := by
  cases valid with
  | error e => exact ⟨(fun h => nomatch h), fun h => nomatch h.2⟩
  | ok u => exact ⟨fun h => ⟨(Except.ok.inj h).symm, rfl⟩, fun h => congrArg Except.ok h.1.symm⟩

theorem HasLayers.settings_eq_ok (layers : p.HasLayers spelled flagged surrounded filed)
    {arguments : List String} {l : Line σ} (line : p.line arguments = .ok l) {s : σ} :
    (p.settings env l h).1 = .ok s ↔ ∃ below, p.Below env h.disk
      (Settings.path? env ((p.given arguments).lookup "config") p.fileName h.disk) below ∧ spelled env ∧
        s = flagged (p.given arguments) (surrounded env below) ∧ p.validate s = .ok () := by
  obtain ⟨path, change⟩ := layers.flags line
  rw [← path]
  -- The file is looked for on the disk as it is before anything is read.
  have layered := p.layered_eq_ok env (Settings.path? env l.path p.fileName h.disk) h
  simp only [layers.environment env _ _] at layered
  show ((p.layered env (Settings.path? env l.path p.fileName h.disk) >>= fun below => do
    Action.ofOutcome (p.validate (l.change below))
    pure (l.change below)) h).1 = .ok s ↔ _
  rw [Action.run_bind]
  cases result : p.layered env (Settings.path? env l.path p.fileName h.disk) h with
  | mk x g =>
    rw [result] at layered
    cases x with
    | error e =>
      refine ⟨(fun h => nomatch h), fun ⟨below, found, spelled, _⟩ => ?_⟩
      exact nomatch (layered _).2 ⟨below, found, spelled, rfl⟩
    | ok t =>
      refine checked_eq_ok.trans ⟨?_, ?_⟩
      · rintro ⟨rfl, valid⟩
        obtain ⟨below, found, spelled, rfl⟩ := (layered t).1 rfl
        exact ⟨below, found, spelled, change _, valid⟩
      · rintro ⟨below, found, spelled, rfl, valid⟩
        have same := Except.ok.inj ((layered _).2 ⟨below, found, spelled, rfl⟩)
        rw [same, change]
        exact ⟨rfl, valid⟩

/-- **The settings of a program are layered.** Where no file is looked at, or one that is an object, a
command line has settings exactly when the file is read, the variables spell what they have to, and
the merged settings are valid; and those are the settings. A file that is not read leaves none. -/
structure IsLayered (p : Program σ) (spelled : Environment → Prop)
    (merged : Notes → Environment → Members → σ) : Prop where
  settings : ∀ (env : Environment) (arguments : List String) (h : Host) (l : Line σ)
    (text : Option String) (members : Members), p.line arguments = .ok l →
    Settings.Source h.disk
      (Settings.path? env ((p.given arguments).lookup "config") p.fileName h.disk) text members →
    ∀ s, (p.settings env l h).1 = .ok s ↔
      (∀ t ∈ text, ∃ below, p.ofDocument env (.ofText t) = .ok below) ∧ spelled env ∧
        s = merged (p.given arguments) env members ∧ p.validate s = .ok ()
  unread : ∀ (env : Environment) (arguments : List String) (h : Host) (l : Line σ),
    p.line arguments = .ok l →
    (∀ below, ¬ p.Below env h.disk
      (Settings.path? env ((p.given arguments).lookup "config") p.fileName h.disk) below) →
    ∀ s, (p.settings env l h).1 ≠ .ok s

theorem HasLayers.isLayered (layers : p.HasLayers spelled flagged surrounded filed)
    {merged : Notes → Environment → Members → σ} (same : ∀ notes env members, merged notes env members =
      flagged notes (surrounded env (filed members (p.defaults env)))) : p.IsLayered spelled merged where
  settings env arguments h l text members line source s := by
    rw [layers.settings_eq_ok line, same]
    generalize Settings.path? env ((p.given arguments).lookup "config") p.fileName h.disk = path at source ⊢
    cases source with
    | absent =>
      rw [layers.nothing]
      refine ⟨fun ⟨below, found, rest⟩ => ?_, fun ⟨_, rest⟩ => ⟨_, .defaults, rest⟩⟩
      cases found
      exact ⟨by simp, rest⟩
    | @object file text bytes members given decoded object =>
      have document : Json.Document.ofText text = ⟨.object ((members.map fun m =>
          (m.1, Json.treeOf m.2)).map fun m => (some m.1, m.2)) .closed, false⟩ := by
        rw [List.map_map]
        exact object.document
      have parses : ∀ below, p.ofDocument env (.ofText text) = .ok below →
          below = filed (members.map fun m => (m.1, Json.treeOf m.2)) (p.defaults env) :=
        fun below parsed => layers.file (document ▸ parsed)
      refine ⟨fun ⟨below, found, rest⟩ => ?_, fun ⟨parsed, rest⟩ => ?_⟩
      · cases found with
        | @file _ text' bytes' _ given' decoded' parsed =>
          obtain rfl := Except.ok.inj (given.symm.trans given')
          obtain rfl := Option.some.inj (decoded.symm.trans decoded')
          obtain rfl := parses below parsed
          exact ⟨fun t mem => Option.some.inj mem ▸ ⟨_, parsed⟩, rest⟩
      · obtain ⟨below, parsed⟩ := parsed text rfl
        obtain rfl := parses below parsed
        exact ⟨_, .file given decoded parsed, rest⟩
  unread env arguments h l line missing s ends := by
    obtain ⟨below, found, -⟩ := (layers.settings_eq_ok line).1 ends
    exact missing below found

theorem agent_hasLayers : Agent.program.HasLayers AgentSettings.Spelled AgentSettings.flagged
    AgentSettings.surrounded AgentSettings.filed where
  flags := changes_given (fun _ => rfl) AgentSettings.flagged_skip AgentSettings.flags_overlay
  environment := AgentSettings.applyEnvironment_lays
  nothing _ := rfl
  file parsed := AgentSettings.fills.read ((Json.read_whole _ _).symm.trans parsed)

theorem collector_hasLayers : Collector.program.HasLayers CollectorSettings.Spelled CollectorSettings.flagged
    CollectorSettings.surrounded CollectorSettings.filed where
  flags := changes_given (fun _ => rfl) CollectorSettings.flagged_skip CollectorSettings.flags_overlay
  environment := CollectorSettings.applyEnvironment_lays
  nothing _ := rfl
  file parsed := (CollectorSettings.fills _).read ((Json.read_whole _ _).symm.trans parsed)

end Command.Program

/-- **The settings of both programs are layered**, each of them by itself. -/
theorem layered_settings :
    Agent.program.IsLayered AgentSettings.Spelled AgentSettings.merged ∧
      Collector.program.IsLayered CollectorSettings.Spelled CollectorSettings.merged :=
  ⟨Program.agent_hasLayers.isLayered AgentSettings.merged_eq,
    Program.collector_hasLayers.isLayered CollectorSettings.merged_eq⟩

/-- An agent with a file, variables and flags, one of which takes back what the file says; and a collector
whose path is blank in the environment. -/
theorem layered_settings_of_all_layers :
    let file : Json.Value := .object [("poll_interval_secs", .integer 7), ("report_interval_secs", .integer 15),
      ("key", .null), ("compress", .boolean true)]
    let h : Host := ⟨⟨NameMap.empty.insert "/agent.json" (.file (Text.Utf8.encode file.compact)), "/home"⟩, []⟩
    let env : Environment := fun name =>
      if name = "TALLY_REPORT_INTERVAL" then some " 20 " else if name = "TALLY_KEY" then some "secret"
        else if name = "TALLY_FILE_STORAGE_PATH" then some " " else none
    let arguments := ["-c", "/agent.json", "--address=collector:80", "--no-compress"]
    (∃ l, Agent.program.line arguments = .ok l ∧
      (Agent.program.settings env l h).1 = .ok ⟨"collector:80", 7, 20, 5000, some "secret", false, true⟩) ∧
    ∃ l, Collector.program.line ["--restore", "false"] = .ok l ∧ (Collector.program.settings env l h).1 =
      .ok ⟨"localhost:8080", 300, none, false, false, none, some "secret"⟩ := by
  intro file h env arguments
  have spells (v : Json.Value) : Json.Document.ofUnits (v.compactChars.map some) = ⟨v.tree, false⟩ :=
    Json.ofUnits_of_lexes (Json.compact_lexes v)
  have holds : h.disk.read "/agent.json" = .ok (Text.Utf8.encode file.compact) := by rfl
  have decoded : Text.Utf8.decode? (Text.Utf8.encode file.compact) = some file.compact := by decide +kernel
  have parsed : ∃ below, AgentSettings.ofDocument (.ofText file.compact) = .ok below := by
    rw [Json.Document.ofText, Json.Value.compact, String.toList_ofList, spells]
    exact ⟨⟨"localhost:8080", 7, 15, 5000, none, true, true⟩, by rfl⟩
  have source := Settings.Source.object holds decoded (Json.isObject_compact _)
  simp only [List.map_cons, List.map_nil, Json.treeOf, spells, Json.Value.tree] at source
  constructor
  · have given : Agent.program.given arguments =
        [("no-compress", ""), ("address", "collector:80"), ("config", "/agent.json")] := by rfl
    obtain ⟨l, line⟩ : ∃ l, Agent.program.line arguments = .ok l := ⟨_, rfl⟩
    refine ⟨l, line, (layered_settings.1.settings env arguments h l _ _ line source _).2 ⟨?_, ?_, ?_, rfl⟩⟩
    · exact fun t text => Option.some.inj text ▸ parsed
    · exact ⟨by decide, by decide, by decide, by decide, by decide⟩
    · rw [given]
      rfl
  · have given : Collector.program.given ["--restore", "false"] = [("restore", "false")] := by rfl
    obtain ⟨l, line⟩ : ∃ l, Collector.program.line ["--restore", "false"] = .ok l := ⟨_, rfl⟩
    refine ⟨l, line, (layered_settings.2.settings env _ h l none [] line .absent _).2 ⟨?_, ?_, ?_, rfl⟩⟩
    · simp
    · exact ⟨by decide, by decide, by decide⟩
    · rw [given]
      rfl

end Telemetry
