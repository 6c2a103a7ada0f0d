/-!
# Tables

A table maps finitely many keys to values.  Its view is `Table.find?`; the order in which entries
were added is kept, so that traversals are functions of the table, but no operation depends on it.

## Main definitions

* `ActorLocation.Table` — a list of entries with distinct keys.
* `Table.find?`, `Table.insert`, `Table.erase`, `Table.filter`, `Table.eraseIf` — look-up and
  update.
* `Table.Same` — two tables answer every look-up alike.

## Main results

* `Table.mem_entries_iff` — an entry is in the list iff look-up finds it.
* `Table.find?_insert`, `find?_erase`, `find?_filter`, `find?_eraseIf` — look-up after an update.
-/

namespace ActorLocation

/-- A finite map, as the list of its entries in the order in which their keys were added. -/
structure Table (κ ν : Type) where
  /-- The entries. -/
  entries : List (κ × ν)
  /-- No key has two entries. -/
  nodup_keys : (entries.map Prod.fst).Nodup
deriving DecidableEq

namespace Table

variable {κ ν : Type}

/-- The table without entries. -/
def empty : Table κ ν := ⟨[], List.nodup_nil⟩

instance : EmptyCollection (Table κ ν) := ⟨empty⟩

instance : Inhabited (Table κ ν) := ⟨empty⟩

/-- The keys, in the order in which they were added. -/
def keys (t : Table κ ν) : List κ := t.entries.map Prod.fst

/-- The values, in the order of their keys. -/
def values (t : Table κ ν) : List ν := t.entries.map Prod.snd

/-- The number of entries. -/
def size (t : Table κ ν) : Nat := t.entries.length

/-- Whether there is no entry. -/
def isEmpty (t : Table κ ν) : Bool := t.entries.isEmpty

/-- The entries that satisfy `p`. -/
def filter (t : Table κ ν) (p : κ → ν → Bool) : Table κ ν where
  entries := t.entries.filter fun e => p e.1 e.2
  nodup_keys := t.nodup_keys.sublist (List.filter_sublist.map Prod.fst)

variable [DecidableEq κ]

/-- The value of `k`, if it has an entry. -/
def find? (t : Table κ ν) (k : κ) : Option ν := (t.entries.find? fun e => e.1 = k).map Prod.snd

/-- Replaces the entries' values at `k` by `v`. -/
private def overwrite (k : κ) (v : ν) (l : List (κ × ν)) : List (κ × ν) :=
  l.map fun e => if e.1 = k then (k, v) else e

/-- Overwriting changes values only, so the keys stay distinct. -/
private theorem keys_overwrite (k : κ) (v : ν) (l : List (κ × ν)) :
    (overwrite k v l).map Prod.fst = l.map Prod.fst := by
  simp only [overwrite, List.map_map]
  refine List.map_congr_left fun e _ => ?_
  by_cases h : e.1 = k <;> simp [h]

/-- Gives `k` the value `v`, in place of the value that it had, if any. -/
def insert (t : Table κ ν) (k : κ) (v : ν) : Table κ ν where
  entries := if k ∈ t.keys then overwrite k v t.entries else t.entries ++ [(k, v)]
  nodup_keys := by
    split
    · rw [keys_overwrite]; exact t.nodup_keys
    · next h =>
      simp only [List.map_append, List.map_cons, List.map_nil]
      refine List.nodup_append.2 ⟨t.nodup_keys, by simp, fun a ha b hb => ?_⟩
      obtain rfl : b = k := by simpa using hb
      exact fun hab => h (hab ▸ ha)

/-- Removes the entry of `k`, if there is one. -/
def erase (t : Table κ ν) (k : κ) : Table κ ν := t.filter fun k' _ => k' ≠ k

/-- Removes the entry of `k` if its value satisfies `p`. -/
def eraseIf (t : Table κ ν) (k : κ) (p : ν → Bool) : Table κ ν :=
  t.filter fun k' v => !(k' = k && p v)

/-- The table of the given entries; the last of several entries with one key counts. -/
def ofList (l : List (κ × ν)) : Table κ ν := l.foldl (fun t e => t.insert e.1 e.2) ∅

/-- Two tables are the same when they have equally many entries and each entry of the first is
one of the second, in whatever order they were added. -/
def Same [DecidableEq ν] (t u : Table κ ν) : Prop :=
  t.size = u.size ∧ ∀ e ∈ t.entries, u.find? e.1 = some e.2

instance [DecidableEq ν] (t u : Table κ ν) : Decidable (t.Same u) :=
  inferInstanceAs (Decidable (_ ∧ _))

/-! ### Look-up -/

/-- An entry is in the table iff look-up at its key finds its value.

**Proof sketch.** Induction on the entries.  If the first one is at `k`, no later one is, because
keys are distinct; otherwise both sides pass on to the rest. -/
theorem mem_entries_iff {t : Table κ ν} {k : κ} {v : ν} :
    (k, v) ∈ t.entries ↔ t.find? k = some v := by
  obtain ⟨l, hl⟩ := t
  simp only [find?]
  induction l with
  | nil => simp
  | cons a r ih =>
    obtain ⟨a₁, a₂⟩ := a
    simp only [List.map_cons, List.nodup_cons] at hl
    by_cases h : a₁ = k
    · subst h
      have : (a₁, v) ∉ r := fun hm => hl.1 (List.mem_map.2 ⟨_, hm, rfl⟩)
      simp [this, eq_comm]
    · have : (k, v) ≠ (a₁, a₂) := fun he => h (congrArg Prod.fst he).symm
      simp [h, this, ih hl.2]

/-- Look-up fails exactly at what is not a key. -/
theorem find?_eq_none_iff {t : Table κ ν} {k : κ} : t.find? k = none ↔ k ∉ t.keys := by
  simp only [find?, Option.map_eq_none_iff, List.find?_eq_none, decide_eq_true_eq, keys,
    List.mem_map, not_exists, not_and]

/-- A value is in the table iff look-up finds it at some key. -/
theorem mem_values_iff {t : Table κ ν} {v : ν} : v ∈ t.values ↔ ∃ k, t.find? k = some v := by
  constructor
  · intro h
    obtain ⟨⟨k, v'⟩, he, rfl⟩ := List.mem_map.1 h
    exact ⟨k, mem_entries_iff.1 he⟩
  · rintro ⟨k, h⟩
    exact List.mem_map.2 ⟨(k, v), mem_entries_iff.2 h, rfl⟩

/-- Nothing is found in the table without entries. -/
@[simp] theorem find?_empty (k : κ) : (∅ : Table κ ν).find? k = none := rfl

/-- A table in which nothing is found has no entries. -/
theorem eq_empty_iff {t : Table κ ν} : t = ∅ ↔ ∀ k, t.find? k = none := by
  constructor
  · rintro rfl k
    rfl
  · intro h
    obtain ⟨l, hl⟩ := t
    cases l with
    | nil => rfl
    | cons e l =>
      have hmem : (e.1, e.2) ∈ (Table.mk (e :: l) hl).entries := List.mem_cons_self
      rw [mem_entries_iff, h e.1] at hmem
      contradiction

/-- What was just inserted is found, whether or not the key had a value before. -/
@[simp] theorem find?_insert_self (t : Table κ ν) (k : κ) (v : ν) :
    (t.insert k v).find? k = some v := by
  rw [← mem_entries_iff]
  simp only [insert]
  split
  · next h =>
    obtain ⟨e, he, rfl⟩ := List.mem_map.1 h
    exact List.mem_map.2 ⟨e, he, if_pos rfl⟩
  · simp

/-- An insertion is not seen at other keys.

**Proof sketch.** Both sides are compared through the entries, by `mem_entries_iff`.  Overwriting
leaves an entry at `k'` as it is and makes none, as what it writes is at `k`; appending adds one
entry, which is at `k` too. -/
theorem find?_insert_of_ne (t : Table κ ν) {k k' : κ} (v : ν) (h : k' ≠ k) :
    (t.insert k v).find? k' = t.find? k' := by
  refine Option.ext fun w => ?_
  rw [← mem_entries_iff, ← mem_entries_iff]
  simp only [insert]
  split
  · simp only [overwrite, List.mem_map]
    constructor
    · rintro ⟨e, he, hw⟩
      split at hw
      · exact absurd (congrArg Prod.fst hw).symm h
      · exact hw ▸ he
    · exact fun hw => ⟨_, hw, if_neg h⟩
  · simp [h]

/-- Look-up after an insertion. -/
theorem find?_insert (t : Table κ ν) (k k' : κ) (v : ν) :
    (t.insert k v).find? k' = if k' = k then some v else t.find? k' := by
  split
  · next h => rw [h, find?_insert_self]
  · next h => exact find?_insert_of_ne t v h

/-- Look-up after a filter. -/
theorem find?_filter (t : Table κ ν) (p : κ → ν → Bool) (k : κ) :
    (t.filter p).find? k = (t.find? k).filter (p k) := by
  refine Option.ext fun v => ?_
  rw [← mem_entries_iff, Option.filter_eq_some_iff, ← mem_entries_iff]
  simp [filter]

/-- Look-up after an erasure. -/
theorem find?_erase (t : Table κ ν) (k k' : κ) :
    (t.erase k).find? k' = if k' = k then none else t.find? k' := by
  rw [erase, find?_filter]
  by_cases h : k' = k
  · cases t.find? k' <;> simp [h]
  · cases t.find? k' <;> simp [h]

/-- Look-up after a conditional erasure. -/
theorem find?_eraseIf (t : Table κ ν) (k k' : κ) (p : ν → Bool) :
    (t.eraseIf k p).find? k' =
      if k' = k then (t.find? k').filter (fun v => !p v) else t.find? k' := by
  rw [eraseIf, find?_filter]
  by_cases h : k' = k
  · cases t.find? k' <;> simp [h]
  · cases t.find? k' <;> simp [h]

end Table

end ActorLocation
