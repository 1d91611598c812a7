/-
What the operations of a name map do to the value under each name.

`get?_insert` says it of one value set, `get?_insertAll` of many under different
names. Two maps with the same value under every name are the same map (`ext_get?`),
so a map is known by its values alone.
-/
import Telemetry.Metric.Store

namespace Telemetry.NameMap

variable {α : Type}

theorem lookup_insertEntry_self (name : String) (value : α) :
    ∀ es : List (String × α), (insertEntry name value es).lookup name = some value
  | [] => by simp [insertEntry]
  | (k, v) :: rest => by
    unfold insertEntry
    split
    · simp
    · rename_i ne
      split
      · simp
      · rw [List.lookup_cons, beq_false_of_ne ne]
        exact lookup_insertEntry_self name value rest

theorem lookup_insertEntry_other {name other : String} (ne : other ≠ name) (value : α) :
    ∀ es : List (String × α), (insertEntry name value es).lookup other = es.lookup other
  | [] => by simp [insertEntry, ne]
  | (k, v) :: rest => by
    unfold insertEntry
    split
    · rename_i e
      subst e
      simp [List.lookup_cons, beq_false_of_ne ne]
    · split
      · rw [List.lookup_cons, beq_false_of_ne ne]
      · rw [List.lookup_cons, List.lookup_cons, lookup_insertEntry_other ne value rest]

theorem nodup_names (m : NameMap α) : (m.entries.map (·.1)).Nodup := by
  rw [List.Nodup, List.pairwise_map]
  exact m.sorted.imp fun {a b} lt (e : a.1 = b.1) => String.lt_irrefl b.1 (e ▸ lt)

theorem nodup_entries (m : NameMap α) : m.entries.Nodup :=
  m.sorted.imp fun {a b} lt (e : a = b) => String.lt_irrefl b.1 (e ▸ lt)

theorem lookup_of_mem {es : List (String × α)} (nodup : (es.map (·.1)).Nodup) {name : String}
    {value : α} (mem : (name, value) ∈ es) : es.lookup name = some value := by
  induction es with
  | nil => simp at mem
  | cons e rest ih =>
    obtain ⟨k, v⟩ := e
    simp only [List.map_cons, List.nodup_cons] at nodup
    rcases List.mem_cons.1 mem with h | h
    · obtain ⟨rfl, rfl⟩ := Prod.mk.inj h
      simp
    · have ne : name ≠ k := fun e => nodup.1 (e ▸ List.mem_map_of_mem h)
      rw [List.lookup_cons, beq_false_of_ne ne]
      exact ih nodup.2 h

theorem lookup_of_not_mem {es : List (String × α)} {name : String} (h : name ∉ es.map (·.1)) :
    es.lookup name = none :=
  List.lookup_eq_none_iff.2 fun _ mem =>
    bne_iff_ne.2 fun e => h (e ▸ List.mem_map_of_mem mem)

/-- Under different names, what stands under one of them is one value or none. -/
theorem filterMap_lookup (name : String) {es : List (String × α)} (nodup : (es.map (·.1)).Nodup) :
    es.filterMap (fun e => if e.1 = name then some e.2 else none) = (es.lookup name).toList := by
  induction es with
  | nil => rfl
  | cons e rest ih =>
    obtain ⟨k, v⟩ := e
    simp only [List.map_cons, List.nodup_cons] at nodup
    rw [List.filterMap_cons, List.lookup_cons, ih nodup.2]
    by_cases e : k = name
    · subst e
      simp [lookup_of_not_mem nodup.1]
    · simp [e, beq_false_of_ne (Ne.symm e)]

theorem lookup_map {β : Type} (f : α → β) (name : String) (es : List (String × α)) :
    (es.map fun (k, x) => (k, f x)).lookup name = (es.lookup name).map f := by
  induction es with
  | nil => rfl
  | cons e rest ih =>
    obtain ⟨k, v⟩ := e
    rw [List.map_cons, List.lookup_cons, List.lookup_cons, ih]
    cases name == k <;> rfl

theorem mem_of_lookup {es : List (String × α)} {name : String} {value : α}
    (h : es.lookup name = some value) : (name, value) ∈ es := by
  obtain ⟨before, after, rfl, -⟩ := List.lookup_eq_some_iff.1 h
  simp

theorem mem_entries {m : NameMap α} {name : String} {value : α} :
    (name, value) ∈ m.entries ↔ m.get? name = some value :=
  ⟨lookup_of_mem m.nodup_names, mem_of_lookup⟩

/-! ## Values by name -/

@[simp] theorem get?_empty (name : String) : (empty : NameMap α).get? name = none := rfl

@[simp] theorem get?_insert_self (m : NameMap α) (name : String) (value : α) :
    (m.insert name value).get? name = some value :=
  lookup_insertEntry_self name value m.entries

theorem get?_insert_other (m : NameMap α) {name other : String} (ne : other ≠ name) (value : α) :
    (m.insert name value).get? other = m.get? other :=
  lookup_insertEntry_other ne value m.entries

theorem get?_insert (m : NameMap α) (name other : String) (value : α) :
    (m.insert name value).get? other = if other = name then some value else m.get? other := by
  split
  · rename_i e
    rw [e, get?_insert_self]
  · rename_i ne
    exact get?_insert_other m ne value

theorem get?_erase (m : NameMap α) (name other : String) :
    (m.erase name).get? other = if other = name then none else m.get? other := by
  have kept (es : List (String × α)) :
      (es.filter fun (k, _) => k ≠ name).lookup other =
        if other = name then none else es.lookup other := by
    induction es with
    | nil => simp
    | cons e rest ih =>
      obtain ⟨k, v⟩ := e
      by_cases own : k = name
      · rw [List.filter_cons_of_neg (by simp [own]), ih, own]
        by_cases e : other = name
        · simp [e]
        · simp [e, List.lookup_cons, beq_false_of_ne e]
      · rw [List.filter_cons_of_pos (by simp [own]), List.lookup_cons, List.lookup_cons, ih]
        by_cases e : other = k
        · subst e
          simp [own]
        · simp [beq_false_of_ne e]
  exact kept m.entries

/-- **A map is its values.** Maps with the same value under every name are equal. -/
theorem ext_get? {m n : NameMap α} (h : ∀ name, m.get? name = n.get? name) : m = n := by
  have perm : m.entries.Perm n.entries := by
    rw [List.perm_ext_iff_of_nodup m.nodup_entries n.nodup_entries]
    rintro ⟨name, value⟩
    rw [mem_entries, mem_entries, h]
  have entries : m.entries = n.entries :=
    perm.eq_of_pairwise (fun a b _ _ ab ba => absurd (String.lt_trans ab ba) (String.lt_irrefl _))
      m.sorted n.sorted
  cases m
  cases n
  simp_all

theorem isEmpty_iff {m : NameMap α} : m.isEmpty = true ↔ ∀ name, m.get? name = none := by
  rw [isEmpty, List.isEmpty_iff]
  constructor
  · intro none name
    rw [get?, none]
    rfl
  · refine fun absent => List.eq_nil_iff_forall_not_mem.2 fun ⟨name, value⟩ mem => ?_
    have here := absent name
    rw [mem_entries.1 mem] at here
    cases here

/-- Values set under different names: each name has its value, the rest what they had. -/
theorem get?_insertAll (name : String) : ∀ {es : List (String × α)} (m : NameMap α),
    (es.map (·.1)).Nodup →
      (Store.insertAll m es).get? name = (es.lookup name).or (m.get? name)
  | [], m, _ => by simp [Store.insertAll]
  | (k, v) :: rest, m, nodup => by
    simp only [List.map_cons, List.nodup_cons] at nodup
    have step := get?_insertAll name (m.insert k v) nodup.2
    rw [show Store.insertAll m ((k, v) :: rest) = Store.insertAll (m.insert k v) rest from rfl, step,
      get?_insert, List.lookup_cons]
    by_cases e : name = k
    · subst e
      simp [lookup_of_not_mem nodup.1]
    · simp [e, beq_false_of_ne e]

theorem get?_ofList (name : String) {es : List (String × α)} (nodup : (es.map (·.1)).Nodup) :
    (ofList es).get? name = es.lookup name := by
  have h := get?_insertAll name empty nodup
  rw [get?_empty, Option.or_none] at h
  exact h

theorem mem_of_get?_insertAll {name : String} {value : α} : ∀ {es : List (String × α)} {m : NameMap α},
    (Store.insertAll m es).get? name = some value → (name, value) ∈ es ∨ m.get? name = some value
  | [], _, get => .inr get
  | (k, v) :: rest, m, get => by
    rcases mem_of_get?_insertAll (m := m.insert k v) get with mem | get
    · exact .inl (List.mem_cons_of_mem _ mem)
    · rw [get?_insert] at get
      split at get
      · rename_i e
        rw [e, ← Option.some.inj get]
        exact .inl List.mem_cons_self
      · exact .inr get

theorem ofList_entries (m : NameMap α) : ofList m.entries = m :=
  ext_get? fun name => get?_ofList name m.nodup_names

/-- The values turned into others under the same names. -/
def mapValues {β : Type} (f : α → β) (m : NameMap α) : NameMap β :=
  ⟨m.entries.map fun (k, x) => (k, f x), List.pairwise_map.2 m.sorted⟩

theorem get?_mapValues {β : Type} (f : α → β) (m : NameMap α) (name : String) :
    (m.mapValues f).get? name = (m.get? name).map f :=
  lookup_map f name m.entries

/-- Some of the values turned into others, and the rest left out. -/
def filterMap {β : Type} (f : α → Option β) (m : NameMap α) : NameMap β where
  entries := m.entries.filterMap fun (k, x) => (f x).map (k, ·)
  sorted := by
    refine m.sorted.filterMap _ fun a b lt c here d there => ?_
    obtain ⟨_, -, rfl⟩ := Option.map_eq_some_iff.1 here
    obtain ⟨_, -, rfl⟩ := Option.map_eq_some_iff.1 there
    exact lt

theorem get?_filterMap {β : Type} (f : α → Option β) (m : NameMap α) (name : String) :
    (m.filterMap f).get? name = (m.get? name).bind f := by
  refine Option.ext fun y => ?_
  rw [← mem_entries, Option.bind_eq_some_iff, filterMap, List.mem_filterMap]
  constructor
  · rintro ⟨⟨k, x⟩, mem, turned⟩
    obtain ⟨z, found, same⟩ := Option.map_eq_some_iff.1 turned
    obtain ⟨rfl, rfl⟩ := Prod.mk.inj same
    exact ⟨x, mem_entries.1 mem, found⟩
  · rintro ⟨x, get, found⟩
    exact ⟨(name, x), mem_entries.2 get, by simp [found]⟩

end Telemetry.NameMap
