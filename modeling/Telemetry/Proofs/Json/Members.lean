/-
The members of an object, in any order.

A reader goes through the members one by one. What it ends with is a fold over them (`read_object_iff`)
in which a member that names no field is passed over and one that names a field sets it. Where any
two fields may be set in either order (`Independent`), the fold comes to the same for the members in any
order and with any further ones that name no field (`read_of_perm`).
-/
import Mathlib.Data.List.Pairwise
import Telemetry.Json.Decode
import Telemetry.Proofs.Outcome

namespace Telemetry.Json

variable {δ : Type}

/-- The draft with the field set, if the field takes the tree. -/
def Field.set? (f : Field δ) (draft : δ) (t : Tree) : Option δ :=
  (f.set draft t).toOption

/-- Two fields may be set in either order. -/
def Field.Commutes (f g : Field δ) : Prop :=
  ∀ draft t u, (f.set? draft t).bind (g.set? · u) = (g.set? draft u).bind (f.set? · t)

/-- The field reads a tree whatever the draft is, and puts what it read in its own part of it. -/
def Field.Puts {α : Type} (f : Field δ) (read : Tree → Except Fault α) (put : δ → α → δ) : Prop :=
  ∀ draft t, f.set draft t = (read t).map (put draft)

theorem Field.puts_bind {α : Type} (name : String) (required : Bool) (read : Tree → Except Fault α)
    (put : δ → α → δ) : Field.Puts ⟨name, fun draft t => do
      let x ← read t
      .ok (put draft x), required⟩ read put := by
  intro draft t
  cases h : read t <;> simp [h, Except.map]

theorem Field.Puts.commutes {α β : Type} {f g : Field δ} {readF : Tree → Except Fault α}
    {readG : Tree → Except Fault β} {putF : δ → α → δ} {putG : δ → β → δ} (hf : f.Puts readF putF)
    (hg : g.Puts readG putG) (apart : ∀ draft x y, putG (putF draft x) y = putF (putG draft y) x) :
    f.Commutes g := by
  intro draft t u
  have setF : ∀ draft t, f.set draft t = (readF t).map (putF draft) := hf
  have setG : ∀ draft t, g.set draft t = (readG t).map (putG draft) := hg
  simp only [Field.set?, setF, setG]
  cases readF t with
  | error e => cases readG u <;> rfl
  | ok x =>
    cases readG u with
    | error e => rfl
    | ok y => exact congrArg some (apart draft x y)

namespace Shape

variable {shape : Shape δ}

/-- Any two fields may be set in either order. -/
def Independent (shape : Shape δ) : Prop :=
  shape.fields.Pairwise Field.Commutes

/-- The field of a name. -/
def field? (shape : Shape δ) (key : String) : Option (Field δ) :=
  shape.fields.find? (·.name == key)

/-- The field's name that a member has for its key. -/
def key? (shape : Shape δ) (m : Option String × Tree) : Option String :=
  m.1.filter fun key => (shape.field? key).isSome

/-- The fields' names among the keys of an object. -/
def keys (shape : Shape δ) (members : List (Option String × Tree)) : List String :=
  members.filterMap shape.key?

/-- What a member makes of a draft: a field set, or the draft as it is when no field has the key. -/
def take (shape : Shape δ) (draft : Option δ) (m : Option String × Tree) : Option δ :=
  match m.1 with
  | none => none
  | some key =>
    match shape.field? key with
    | none => if m.2.isWhole then draft else none
    | some field => draft.bind (field.set? · m.2)

/-- A member that is passed over: a key that names no field, and a whole value. -/
def Skips (shape : Shape δ) (m : Option String × Tree) : Prop :=
  (∃ key, m.1 = some key ∧ shape.field? key = none) ∧ m.2.isWhole = true

theorem take_none (m : Option String × Tree) : shape.take none m = none := by
  unfold take
  split
  · rfl
  · split
    · exact ite_self _
    · rfl

theorem foldl_take_none (members : List (Option String × Tree)) :
    members.foldl shape.take none = none := by
  induction members with
  | nil => rfl
  | cons m rest ih => rw [List.foldl_cons, take_none, ih]

theorem keys_skip {key : String} {t : Tree} {rest : List (Option String × Tree)}
    (absent : shape.field? key = none) : shape.keys ((some key, t) :: rest) = shape.keys rest :=
  List.filterMap_cons_none (by simp [key?, absent])

theorem keys_name {key : String} {t : Tree} {rest : List (Option String × Tree)} {field : Field δ}
    (found : shape.field? key = some field) :
    shape.keys ((some key, t) :: rest) = key :: shape.keys rest :=
  List.filterMap_cons_some (by simp [key?, found])

/-- **What a reader ends with.** No field may be named twice, and every member is taken in its turn. -/
theorem readObject_iff : ∀ {members : List (Option String × Tree)} {seen seen' : List String}
    {draft draft' : δ}, shape.readObject true members seen draft = .ok (seen', draft') ↔
      (shape.keys members).Nodup ∧ (∀ key ∈ shape.keys members, key ∉ seen) ∧
        members.foldl shape.take (some draft) = some draft' ∧
        seen' = (shape.keys members).reverse ++ seen
  | [], seen, seen', draft, draft' => by
    simp [readObject, keys, eq_comm, and_comm]
  | (none, t) :: rest, seen, seen', draft, draft' => by
    rw [List.foldl_cons, show shape.take (some draft) (none, t) = none from rfl, foldl_take_none]
    simp [readObject]
  | (some key, t) :: rest, seen, seen', draft, draft' => by
    unfold readObject
    cases found : shape.fields.find? (·.name == key) with
    | none =>
      have taken : shape.take (some draft) (some key, t) = if t.isWhole then some draft else none := by
        simp only [take, field?, found]
      rw [keys_skip found, List.foldl_cons, taken]
      cases whole : t.isWhole with
      | false => simp [foldl_take_none]
      | true => simpa using readObject_iff
    | some field =>
      have taken : shape.take (some draft) (some key, t) = field.set? draft t := by
        simp only [take, field?, found, Option.bind_some]
      rw [keys_name found, List.foldl_cons, taken, Field.set?]
      by_cases named : key ∈ seen
      · simp [named]
      · simp only [List.contains_eq_mem, named, decide_false, Bool.false_eq_true, if_false]
        cases set : field.set draft t with
        | error e => simp [Except.toOption, foldl_take_none]
        | ok next =>
          rw [Except.ok_bind, readObject_iff, Except.toOption]
          simp only [List.nodup_cons, List.mem_cons, forall_eq_or_imp, not_or, List.reverse_cons,
            List.append_assoc, List.singleton_append]
          constructor
          · rintro ⟨nodup, apart, fold, rfl⟩
            exact ⟨⟨fun mem => (apart key mem).1 rfl, nodup⟩, ⟨named, fun k mem => (apart k mem).2⟩,
              fold, rfl⟩
          · rintro ⟨⟨fresh, nodup⟩, ⟨-, apart⟩, fold, rfl⟩
            exact ⟨nodup, fun k mem => ⟨fun same => fresh (same ▸ mem), apart k mem⟩, fold, rfl⟩

theorem missing?_eq_none {seen : List String} : shape.missing? seen = none ↔
    ∀ field ∈ shape.fields, field.required = true → field.name ∈ seen := by
  simp [missing?]

/-- An object is read as a record if no field is named twice, none that is required is left out,
and every member is taken. -/
theorem read_object_iff {members : List (Option String × Tree)} {x : δ} :
    shape.read (.object members .closed) = .ok x ↔
      (shape.keys members).Nodup ∧ members.foldl shape.take (some shape.initial) = some x ∧
        ∀ field ∈ shape.fields, field.required = true → field.name ∈ shape.keys members := by
  simp only [read, decide_true, Except.bind_eq_ok, Prod.exists, readObject_iff]
  constructor
  · rintro ⟨seen, draft, ⟨nodup, -, fold, rfl⟩, given⟩
    split at given
    · cases given
    · rename_i none
      rw [← Except.ok.inj given]
      refine ⟨nodup, fold, ?_⟩
      simpa using missing?_eq_none.1 none
  · rintro ⟨nodup, fold, given⟩
    refine ⟨_, x, ⟨nodup, by simp, fold, rfl⟩, ?_⟩
    rw [missing?_eq_none.2 (by simpa using given)]

/-! ## Order -/

/-- A member spoils every draft, leaves every draft as it is, or sets a field that it names. -/
theorem take_cases (shape : Shape δ) (m : Option String × Tree) :
    (∀ draft, shape.take draft m = none) ∨ (∀ draft, shape.take draft m = draft) ∨
      ∃ key field, shape.key? m = some key ∧ shape.field? key = some field ∧
        ∀ draft, shape.take draft m = draft.bind (field.set? · m.2) := by
  obtain ⟨name, t⟩ := m
  cases name with
  | none => exact .inl fun _ => rfl
  | some key =>
    cases found : shape.field? key with
    | none =>
      cases whole : t.isWhole with
      | false => exact .inl fun draft => by simp [take, found, whole]
      | true => exact .inr (.inl fun draft => by simp [take, found, whole])
    | some field =>
      exact .inr (.inr ⟨key, field, by simp [key?, found], found, fun draft => by simp [take, found]⟩)

theorem commutes (independent : shape.Independent) {key key' : String} {f g : Field δ}
    (hf : shape.field? key = some f) (hg : shape.field? key' = some g) (apart : key ≠ key') :
    f.Commutes g := by
  have symm : Std.Symm (Field.Commutes (δ := δ)) := ⟨fun _ _ h draft t u => (h draft u t).symm⟩
  have distinct : f ≠ g := by
    rintro rfl
    have name := List.find?_some hf
    have name' := List.find?_some hg
    exact apart ((beq_iff_eq.1 name).symm.trans (beq_iff_eq.1 name'))
  exact independent.forall (List.mem_of_find?_eq_some hf) (List.mem_of_find?_eq_some hg) distinct

/-- Members that do not name the same field may be taken in either order. -/
theorem take_comm (independent : shape.Independent) {m m' : Option String × Tree}
    (apart : ∀ key, shape.key? m = some key → shape.key? m' ≠ some key) (draft : Option δ) :
    shape.take (shape.take draft m) m' = shape.take (shape.take draft m') m := by
  rcases shape.take_cases m with spoils | keeps | ⟨key, f, named, hf, sets⟩
  · rw [spoils, spoils, take_none]
  · rw [keeps, keeps]
  · rcases shape.take_cases m' with spoils | keeps | ⟨key', g, named', hg, sets'⟩
    · rw [spoils, spoils, take_none]
    · rw [keeps, keeps]
    · have distinct : key ≠ key' := by
        rintro rfl
        exact apart key named named'
      rw [sets, sets', sets', sets]
      cases draft with
      | none => rfl
      | some d => exact commutes independent hf hg distinct d m.2 m'.2

/-- Members that name no field twice come to the same in any order. -/
theorem foldl_take_of_perm (independent : shape.Independent)
    {members members' : List (Option String × Tree)} (perm : members'.Perm members)
    (nodup : (shape.keys members').Nodup) (draft : Option δ) :
    members'.foldl shape.take draft = members.foldl shape.take draft := by
  -- Without a name twice, any two different members name different fields, and so they commute.
  have apart := List.pairwise_filterMap.1 nodup
  refine perm.foldl_eq' (fun m mem m' mem' z => ?_) draft
  by_cases same : m = m'
  · rw [same]
  · have symm : Std.Symm fun a a' : Option String × Tree =>
        ∀ b, shape.key? a = some b → ∀ b', shape.key? a' = some b' → b ≠ b' :=
      ⟨fun _ _ h b hb b' hb' => (h b' hb' b hb).symm⟩
    have differ := apart.forall mem mem' same
    exact take_comm independent (fun key named named' => differ key named key named' rfl) z

theorem keys_append (members further : List (Option String × Tree)) :
    shape.keys (members ++ further) = shape.keys members ++ shape.keys further :=
  List.filterMap_append

theorem keys_skips {further : List (Option String × Tree)} (skips : ∀ m ∈ further, shape.Skips m) :
    shape.keys further = [] := by
  refine List.filterMap_eq_nil_iff.2 fun m mem => ?_
  obtain ⟨⟨key, named, absent⟩, -⟩ := skips m mem
  simp [key?, named, absent]

theorem foldl_take_skips {further : List (Option String × Tree)}
    (skips : ∀ m ∈ further, shape.Skips m) (draft : Option δ) :
    further.foldl shape.take draft = draft := by
  induction further with
  | nil => rfl
  | cons m rest ih =>
    obtain ⟨⟨⟨key, named, absent⟩, whole⟩, others⟩ := List.forall_mem_cons.1 skips
    have kept : shape.take draft m = draft := by simp [take, named, absent, whole]
    rw [List.foldl_cons, kept]
    exact ih others

/-- **The order of the members does not count**, nor do further members that are passed over. -/
theorem read_of_perm (independent : shape.Independent)
    {members members' further : List (Option String × Tree)}
    (perm : members'.Perm (members ++ further)) (skips : ∀ m ∈ further, shape.Skips m) :
    (shape.read (.object members' .closed)).toOption =
      (shape.read (.object members .closed)).toOption := by
  have names : (shape.keys members').Perm (shape.keys members) := by
    have all : (shape.keys members').Perm (shape.keys (members ++ further)) := perm.filterMap _
    rwa [keys_append, keys_skips skips, List.append_nil] at all
  have fold (nodup : (shape.keys members').Nodup) :
      members'.foldl shape.take (some shape.initial) =
        members.foldl shape.take (some shape.initial) := by
    rw [foldl_take_of_perm independent perm nodup, List.foldl_append, foldl_take_skips skips]
  refine Option.ext fun x => ?_
  rw [Except.toOption_eq_some, Except.toOption_eq_some, read_object_iff, read_object_iff,
    names.nodup_iff]
  refine and_congr_right fun nodup => ?_
  rw [fold (names.nodup_iff.2 nodup)]
  simp only [names.mem_iff]

end Shape

end Telemetry.Json
