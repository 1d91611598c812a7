/-
Which flags a command line gives, and with what values.

A reader of flags can note what it is given (`Flag.noted`) without reading anything else for it
(`read_noted`). What a command line comes to is then what its notes come to, one flag after another
(`Assigned`), so nothing but the flags given counts.
-/
import Telemetry.Command.Program
import Telemetry.Proofs.Outcome

namespace Telemetry.Command

variable {σ : Type}

/-- The names of flags with their values, the flag given last first; a switch has the empty value. -/
abbrev Notes :=
  List (String × String)

/-- A value taken, and noted under a name. -/
def noting (name : String) (set : σ → String → Option σ) (s : σ × Notes) (v : String) :
    Option (σ × Notes) :=
  (set s.1 v).map fun t => (t, (name, v) :: s.2)

/-- The flag, which also notes that it is given. -/
def Flag.noted (f : Flag σ) : Flag (σ × Notes) where
  name := f.name
  letter := f.letter
  about := f.about
  effect :=
    match f.effect with
    | .interrupts i => .interrupts i
    | .switches set => .switches fun s => (set s.1, (f.name, "") :: s.2)
    | .takes set => .takes (noting f.name set)

/-- The flags that a command line gives a program. -/
def Program.given (p : Program σ) (arguments : List String) : Notes :=
  match read (p.flags.map Flag.noted) (.plain, []) arguments with
  | .ok s => s.2
  | .error _ => []

namespace Flag

variable (name : String) (letter : Option Char) (about : String) (s : σ) (v : String)

/-- What a flag makes of a value that is given to it; a switch does not look at it. -/
def assign? (f : Flag σ) (s : σ) (v : String) : Option σ :=
  match f.effect with
  | .interrupts _ => none
  | .switches set => some (set s)
  | .takes set => set s v

@[simp] theorem assign?_text (set : σ → String → σ) :
    (text name letter about set).assign? s v = some (set s v) := rfl

@[simp] theorem assign?_path (set : σ → String → σ) :
    (path name letter about set).assign? s v = if v = "" then none else some (set s v) := rfl

@[simp] theorem assign?_number (set : σ → UInt64 → σ) :
    (number name letter about set).assign? s v = (uint64OfChars v.toList).toOption.map (set s) := rfl

@[simp] theorem assign?_truth (set : σ → Bool → σ) :
    (truth name letter about set).assign? s v = (boolOfChars v.toList).map (set s) := rfl

@[simp] theorem assign?_switch (set : σ → σ) :
    (switch name letter about set).assign? s v = some (set s) := rfl

@[simp] theorem assign?_interrupts (i : Interruption) :
    assign? ⟨name, letter, about, .interrupts i⟩ s v = none := rfl

end Flag

/-- What flags make of a first value, one after another. -/
inductive Assigned (flags : List (Flag σ)) (first : σ) : Notes → σ → Prop where
  | nothing : Assigned flags first [] first
  | given {f : Flag σ} {notes : Notes} {s t : σ} {v : String} (mem : f ∈ flags)
      (before : Assigned flags first notes s) (made : f.assign? s v = some t) :
      Assigned flags first ((f.name, v) :: notes) t

namespace Reading

variable {flags : List (Flag σ)} {r : Reading σ}

/-- What an argument is where no value is still to come. -/
theorem next_idle (opened : r.closed = false) (idle : r.pending = none) (argument : String) :
    r.next flags argument =
      match argument.toList with
      | ['-', '-'] => .ok { r with closed := true }
      | '-' :: '-' :: cs => r.named flags cs
      | '-' :: c :: cs => r.lettered flags (c :: cs)
      | _ => .error .misuse := by
  unfold next
  rw [opened, idle]
  split
  · contradiction
  · split <;> simp_all

/-- What an argument is where a value is still to come. -/
theorem next_waiting {set : σ → String → Option σ} (opened : r.closed = false)
    (waiting : r.pending = some set) (argument : String) :
    r.next flags argument =
      match argument.toList with
      | '-' :: _ :: _ => .error .misuse
      | _ => r.take set argument := by
  unfold next
  rw [opened, waiting]
  split
  · contradiction
  · split <;> simp_all

theorem next_closed (closed : r.closed = true) (argument : String) :
    r.next flags argument = .error .misuse :=
  if_pos closed

end Reading

/-! ## Two readers -/

/-- Two readers end alike: both with results that are related, or both for the same reason. -/
def Alike {α β : Type} (R : α → β → Prop) : Except Interruption α → Except Interruption β → Prop
  | .ok x, .ok y => R x y
  | .error i, .error j => i = j
  | _, _ => False

theorem Alike.map {α β α' β' : Type} {R : α → β → Prop} {S : α' → β' → Prop}
    {x : Except Interruption α} {y : Except Interruption β} {f : α → α'} {g : β → β'}
    (alike : Alike R x y) (next : ∀ a b, R a b → S (f a) (g b)) : Alike S (x.map f) (y.map g) := by
  cases x with
  | error i =>
    cases y with
    | error j => exact alike
    | ok b => exact alike.elim
  | ok a =>
    cases y with
    | error j => exact alike.elim
    | ok b => exact next a b alike

theorem Alike.bind {α β α' β' : Type} {R : α → β → Prop} {S : α' → β' → Prop}
    {x : Except Interruption α} {y : Except Interruption β} {f : α → Except Interruption α'}
    {g : β → Except Interruption β'} (alike : Alike R x y)
    (next : ∀ a b, R a b → Alike S (f a) (g b)) : Alike S (x.bind f) (y.bind g) := by
  cases x with
  | error i =>
    cases y with
    | error j => exact alike
    | ok b => exact alike.elim
  | ok a =>
    cases y with
    | error j => exact alike.elim
    | ok b => exact next a b alike

/-- Both readers wait for nothing, or both for the value of the same flag. -/
inductive Awaits (flags : List (Flag σ)) : Option (σ → String → Option σ) →
    Option (σ × Notes → String → Option (σ × Notes)) → Prop where
  | nothing : Awaits flags none none
  | value {f : Flag σ} {set : σ → String → Option σ} (mem : f ∈ flags) (effect : f.effect = .takes set) :
      Awaits flags (some set) (some (noting f.name set))

/-- The second reader has read what the first one has, and has noted what that comes of. -/
structure Tracks (flags : List (Flag σ)) (first : σ) (r : Reading σ) (q : Reading (σ × Notes)) :
    Prop where
  assigned : Assigned flags first q.result.2 r.result
  result : q.result.1 = r.result
  given : q.given = r.given
  pending : Awaits flags r.pending q.pending
  closed : q.closed = r.closed

namespace Tracks

variable {flags : List (Flag σ)} {first : σ} {r : Reading σ} {q : Reading (σ × Notes)} {f : Flag σ}

theorem note (tracks : Tracks flags first r q) (f : Flag σ) :
    Alike (Tracks flags first) (r.note f) (q.note f.noted) := by
  unfold Reading.note
  rw [tracks.given, show f.noted.name = f.name from rfl]
  split
  · rfl
  · exact { tracks with given := rfl }

theorem take {set : σ → String → Option σ} (tracks : Tracks flags first r q) (mem : f ∈ flags)
    (effect : f.effect = .takes set) (v : String) :
    Alike (Tracks flags first) (r.take set v) (q.take (noting f.name set) v) := by
  simp only [Reading.take, noting, tracks.result]
  cases made : set r.result v with
  | none => rfl
  | some t =>
    have given : f.assign? r.result v = some t := by
      rw [Flag.assign?, effect]
      exact made
    exact { tracks with
      assigned := .given mem tracks.assigned given, result := rfl, pending := .nothing }

theorem give (tracks : Tracks flags first r q) (mem : f ∈ flags) :
    Alike (Tracks flags first) (r.give f) (q.give f.noted) := by
  unfold Reading.give
  cases effect : f.effect with
  | interrupts i => simp only [Flag.noted, effect]; rfl
  | switches set =>
    have made : f.noted.effect = .switches fun s => (set s.1, (f.name, "") :: s.2) := by
      simp only [Flag.noted, effect]
    simp only [made]
    refine (tracks.note f).map fun r q tracks => ?_
    exact { tracks with
      assigned := .given mem tracks.assigned (by rw [Flag.assign?, effect])
      result := congrArg set tracks.result }
  | takes set =>
    have made : f.noted.effect = .takes (noting f.name set) := by simp only [Flag.noted, effect]
    simp only [made]
    exact (tracks.note f).map fun r q tracks => { tracks with pending := .value mem effect }

theorem giveWith (tracks : Tracks flags first r q) (mem : f ∈ flags) (v : List Char) :
    Alike (Tracks flags first) (r.giveWith f v) (q.giveWith f.noted v) := by
  unfold Reading.giveWith
  cases effect : f.effect with
  | interrupts i => simp only [Flag.noted, effect]; rfl
  | switches set => simp only [Flag.noted, effect]; rfl
  | takes set =>
    have made : f.noted.effect = .takes (noting f.name set) := by simp only [Flag.noted, effect]
    simp only [made]
    exact (tracks.note f).bind fun r q tracks => tracks.take mem effect _

theorem find?_noted (flags : List (Flag σ)) (wanted : String → Option Char → Bool) :
    (flags.map Flag.noted).find? (fun f => wanted f.name f.letter) =
      (flags.find? fun f => wanted f.name f.letter).map Flag.noted := by
  rw [List.find?_map]
  rfl

theorem named (tracks : Tracks flags first r q) (cs : List Char) :
    Alike (Tracks flags first) (r.named flags cs) (q.named (flags.map Flag.noted) cs) := by
  unfold Reading.named
  rw [find?_noted flags fun name _ => name.toList = cs.takeWhile (· ≠ '=')]
  cases found : flags.find? fun f => decide (f.name.toList = cs.takeWhile (· ≠ '=')) with
  | none => rfl
  | some f =>
    have mem := List.mem_of_find?_eq_some found
    cases cs.dropWhile (· ≠ '=') with
    | nil => exact tracks.give mem
    | cons _ v => exact tracks.giveWith mem v

theorem lettered (tracks : Tracks flags first r q) (cs : List Char) :
    Alike (Tracks flags first) (r.lettered flags cs) (q.lettered (flags.map Flag.noted) cs) := by
  induction cs generalizing r q with
  | nil => exact tracks
  | cons c cs ih =>
    unfold Reading.lettered
    rw [find?_noted flags fun _ letter => letter = some c]
    cases found : flags.find? fun f => decide (f.letter = some c) with
    | none => rfl
    | some f =>
      have mem := List.mem_of_find?_eq_some found
      have on : Alike (Tracks flags first) ((r.give f).bind fun r => r.lettered flags cs)
          ((q.give f.noted).bind fun q => q.lettered (flags.map Flag.noted) cs) :=
        (tracks.give mem).bind fun r q tracks => ih tracks
      have with_ := tracks.giveWith mem (Reading.attached cs)
      simp only [Option.map_some]
      cases effect : f.effect with
      | interrupts i =>
        rw [show f.noted.effect = .interrupts i by simp only [Flag.noted, effect]]
        exact on
      | switches set =>
        rw [show f.noted.effect = .switches fun s => (set s.1, (f.name, "") :: s.2) by
          simp only [Flag.noted, effect]]
        exact on
      | takes set =>
        rw [show f.noted.effect = .takes (noting f.name set) by simp only [Flag.noted, effect]]
        cases cs with
        | nil => exact on
        | cons d cs => exact with_

theorem next (tracks : Tracks flags first r q) (argument : String) :
    Alike (Tracks flags first) (r.next flags argument) (q.next (flags.map Flag.noted) argument) := by
  obtain ⟨assigned, result, given, pending, closed⟩ := tracks
  cases opened : r.closed with
  | true =>
    rw [Reading.next_closed opened, Reading.next_closed (closed.trans opened)]
    rfl
  | false =>
    have opened' : q.closed = false := closed.trans opened
    generalize waiting : r.pending = p, waiting' : q.pending = p' at pending
    have tracks : Tracks flags first r q := ⟨assigned, result, given, waiting ▸ waiting' ▸ pending, closed⟩
    -- What an argument is depends on whether a value is awaited, which both readers agree on.
    cases pending with
    | nothing =>
      rw [Reading.next_idle opened waiting, Reading.next_idle opened' waiting']
      split
      · exact { tracks with closed := rfl }
      · exact tracks.named _
      · exact tracks.lettered _
      · rfl
    | value mem effect =>
      rw [Reading.next_waiting opened waiting, Reading.next_waiting opened' waiting']
      split
      · rfl
      · exact tracks.take mem effect argument

theorem arguments (tracks : Tracks flags first r q) (arguments : List String) :
    Alike (Tracks flags first) (arguments.foldlM (Reading.next flags) r)
      (arguments.foldlM (Reading.next (flags.map Flag.noted)) q) := by
  induction arguments generalizing r q with
  | nil => exact tracks
  | cons argument rest ih =>
    rw [List.foldlM_cons, List.foldlM_cons]
    exact (tracks.next argument).bind fun r q tracks => ih tracks

theorem finish (tracks : Tracks flags first r q) :
    Alike (fun x y => y.1 = x ∧ Assigned flags first y.2 x) r.finish q.finish := by
  obtain ⟨assigned, result, -, pending, -⟩ := tracks
  generalize waiting : r.pending = p, waiting' : q.pending = p' at pending
  simp only [Reading.finish, waiting, waiting']
  cases pending with
  | nothing => exact ⟨result, assigned⟩
  | value mem effect => rfl

end Tracks

/-- **A reader that notes what it is given reads the same**, and its notes say what came of them. -/
theorem read_noted (flags : List (Flag σ)) (first : σ) (arguments : List String) :
    Alike (fun x y => y.1 = x ∧ Assigned flags first y.2 x) (read flags first arguments)
      (read (flags.map Flag.noted) (first, []) arguments) := by
  have tracks : Tracks flags first (.start first) (.start (first, [])) :=
    ⟨.nothing, rfl, rfl, .nothing, rfl⟩
  exact (tracks.arguments arguments).bind fun r q tracks => tracks.finish

/-- What a command line comes to is what the flags come to that it gives. -/
theorem Program.assigned_given {p : Program σ} {arguments : List String} {l : Line σ}
    (line : p.line arguments = .ok l) : Assigned p.flags .plain (p.given arguments) l := by
  have noted := read_noted p.flags .plain arguments
  rw [show read p.flags .plain arguments = .ok l from line] at noted
  unfold Program.given
  split
  · rename_i x eq
    rw [eq] at noted
    exact noted.2
  · rename_i i eq
    rw [eq] at noted
    exact noted.elim

/-! ## Settings over which flags are given -/

namespace Flag

variable {lay : Notes → σ → σ} {name : String} {letter : Option Char} {about : String}

/-- Once the flags given so far are over some settings, this one comes over them as well. -/
def Overlays (f : Flag (Line σ)) (lay : Notes → σ → σ) : Prop :=
  ∀ notes l t v, (∀ s, l.change s = lay notes s) → f.assign? l v = some t →
    t.path = l.path ∧ ∀ s, t.change s = lay ((f.name, v) :: notes) s

theorem overlays_text {put : σ → String → σ}
    (h : ∀ notes v s, put (lay notes s) v = lay ((name, v) :: notes) s) :
    (text name letter about (Line.andThen put)).Overlays lay := by
  intro notes l t v change made
  obtain rfl := Option.some.inj made
  exact ⟨rfl, fun s => (congrArg (put · v) (change s)).trans (h notes v s)⟩

theorem overlays_path {put : σ → String → σ}
    (h : ∀ notes v s, put (lay notes s) v = lay ((name, v) :: notes) s) :
    (path name letter about (Line.andThen put)).Overlays lay := by
  intro notes l t v change made
  rw [assign?_path] at made
  split at made
  · exact nomatch made
  · obtain rfl := Option.some.inj made
    exact ⟨rfl, fun s => (congrArg (put · v) (change s)).trans (h notes v s)⟩

theorem overlays_number {put : σ → UInt64 → σ}
    (h : ∀ notes v n s, (uint64OfChars v.toList).toOption = some n →
      put (lay notes s) n = lay ((name, v) :: notes) s) :
    (number name letter about (Line.andThen put)).Overlays lay := by
  intro notes l t v change made
  obtain ⟨n, spelled, rfl⟩ := Option.map_eq_some_iff.1 made
  exact ⟨rfl, fun s => (congrArg (put · n) (change s)).trans (h notes v n s spelled)⟩

theorem overlays_truth {put : σ → Bool → σ}
    (h : ∀ notes v b s, boolOfChars v.toList = some b → put (lay notes s) b = lay ((name, v) :: notes) s) :
    (truth name letter about (Line.andThen put)).Overlays lay := by
  intro notes l t v change made
  obtain ⟨b, spelled, rfl⟩ := Option.map_eq_some_iff.1 made
  exact ⟨rfl, fun s => (congrArg (put · b) (change s)).trans (h notes v b s spelled)⟩

theorem overlays_switch {put : σ → Bool → σ} {b : Bool}
    (h : ∀ notes v s, put (lay notes s) b = lay ((name, v) :: notes) s) :
    (switch name letter about fun l => l.andThen put b).Overlays lay := by
  intro notes l t v change made
  obtain rfl := Option.some.inj made
  exact ⟨rfl, fun s => (congrArg (put · b) (change s)).trans (h notes v s)⟩

end Flag

/-- **A command line changes settings as the flags do that it gives**, and it names the file that the first
flag of every program gives. -/
theorem Program.changes_given {p : Program σ} {lay : Notes → σ → σ} {arguments : List String}
    {l : Line σ} (nothing : ∀ s, lay [] s = s)
    (others : ∀ name ∈ ["config", "log-level"], ∀ notes v s, lay ((name, v) :: notes) s = lay notes s)
    (own : ∀ f ∈ p.ownFlags, f.name ≠ "config" ∧ f.Overlays lay) (line : p.line arguments = .ok l) :
    l.path = (p.given arguments).lookup "config" ∧ ∀ s, l.change s = lay (p.given arguments) s := by
  have assigned := p.assigned_given line
  clear line
  generalize p.given arguments = notes at assigned
  induction assigned with
  | nothing => exact ⟨rfl, fun s => (nothing s).symm⟩
  | @given f notes l t v mem before made ih =>
    obtain ⟨path, change⟩ := ih
    -- The flags of every program stand around its own; of those, only the file's path counts here.
    rw [Program.flags, List.mem_append, List.mem_append] at mem
    rcases mem with (first | mem) | last
    · obtain rfl := List.mem_singleton.1 first
      rw [Flag.assign?_path] at made
      split at made
      · exact nomatch made
      · obtain rfl := Option.some.inj made
        exact ⟨rfl, fun s => (change s).trans (others "config" (by simp) notes v s).symm⟩
    · obtain ⟨other, overlays⟩ := own f mem
      obtain ⟨same, changes⟩ := overlays notes l t v change made
      refine ⟨?_, changes⟩
      rw [same, path, List.lookup_cons, beq_false_of_ne (Ne.symm other)]
    · rw [Line.lastFlags, List.mem_cons, List.mem_cons, List.mem_singleton] at last
      rcases last with rfl | rfl | rfl
      · obtain rfl := Option.some.inj made
        exact ⟨path, fun s => (change s).trans (others "log-level" (by simp) notes v s).symm⟩
      · exact nomatch made
      · exact nomatch made

end Telemetry.Command
