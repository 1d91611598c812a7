/-
Values by name, in the order of the names.

The entries are sorted and their names differ (`sorted`), so two maps with the
same entries are equal, and a listing needs no sorting.
-/

namespace Telemetry

/-- Values by name. -/
structure NameMap (α : Type) where
  entries : List (String × α)
  sorted : entries.Pairwise fun a b => a.1 < b.1

namespace NameMap

variable {α : Type}

instance [DecidableEq α] : DecidableEq (NameMap α) := fun a b =>
  if h : a.entries = b.entries then
    .isTrue (by cases a; cases b; simp_all)
  else .isFalse (fun e => h (congrArg NameMap.entries e))

instance [Repr α] : Repr (NameMap α) where
  reprPrec m n := reprPrec m.entries n

def empty : NameMap α :=
  ⟨[], .nil⟩

instance : Inhabited (NameMap α) := ⟨empty⟩

/-- The entries with the value set under the name, in its place in the order. -/
def insertEntry (name : String) (value : α) : List (String × α) → List (String × α)
  | [] => [(name, value)]
  | (k, v) :: rest =>
    if name = k then (name, value) :: rest
    else if name < k then (name, value) :: (k, v) :: rest
    else (k, v) :: insertEntry name value rest

theorem mem_insertEntry {name : String} {value : α} {e : String × α} :
    ∀ {es : List (String × α)}, e ∈ insertEntry name value es → e = (name, value) ∨ e ∈ es
  | [], h => by simpa [insertEntry] using h
  | (k, v) :: rest, h => by
    unfold insertEntry at h
    split at h
    · simp only [List.mem_cons] at h ⊢
      exact h.imp_right Or.inr
    · split at h
      · simpa using h
      · simp only [List.mem_cons] at h ⊢
        rcases h with h | h
        · exact Or.inr (Or.inl h)
        · exact (mem_insertEntry h).imp_right Or.inr

theorem pairwise_insertEntry (name : String) (value : α) :
    ∀ {es : List (String × α)}, es.Pairwise (fun a b => a.1 < b.1) →
      (insertEntry name value es).Pairwise fun a b => a.1 < b.1
  | [], _ => by simp [insertEntry]
  | (k, v) :: rest, h => by
    have ⟨first, others⟩ := List.pairwise_cons.1 h
    unfold insertEntry
    split
    · rename_i e
      exact List.pairwise_cons.2 ⟨fun b hb => e ▸ first b hb, others⟩
    · rename_i ne
      split
      · rename_i lt
        refine List.pairwise_cons.2 ⟨fun b hb => ?_, h⟩
        rcases List.mem_cons.1 hb with rfl | hb
        · exact lt
        · exact String.lt_trans lt (first b hb)
      · rename_i nlt
        have gt : k < name := by
          refine Decidable.byContradiction fun ngt => ne ?_
          exact String.le_antisymm (String.not_lt.1 ngt) (String.not_lt.1 nlt)
        refine List.pairwise_cons.2 ⟨fun b hb => ?_, pairwise_insertEntry name value others⟩
        rcases mem_insertEntry hb with rfl | hb
        · exact gt
        · exact first b hb

def insert (m : NameMap α) (name : String) (value : α) : NameMap α :=
  ⟨insertEntry name value m.entries, pairwise_insertEntry name value m.sorted⟩

def get? (m : NameMap α) (name : String) : Option α :=
  m.entries.lookup name

def filter (m : NameMap α) (keep : String → α → Bool) : NameMap α :=
  ⟨m.entries.filter fun (k, v) => keep k v, m.sorted.sublist List.filter_sublist⟩

def erase (m : NameMap α) (name : String) : NameMap α :=
  m.filter fun k _ => k ≠ name

def size (m : NameMap α) : Nat :=
  m.entries.length

def isEmpty (m : NameMap α) : Bool :=
  m.entries.isEmpty

/-- The map of a list of values, of which the last under a name counts. -/
def ofList (es : List (String × α)) : NameMap α :=
  es.foldl (fun m (k, v) => m.insert k v) empty

end NameMap

end Telemetry
