import ActorLocation.Json.Shape
/-!
# What is read of a record

If the names of a record are distinct, its members are found by name.  Their order does not matter
then, nor do members that are not asked for, and a name that no member has is found to be left out.

## Main results

* `ActorLocation.Json.fields?_record` — the fields that are read of a record are looked up by name.
-/

namespace ActorLocation

/-- A list is read item by item. -/
theorem mapM_eq_some_map {α β : Type} {f : α → Option β} {g : α → β} {l : List α}
    (h : ∀ a ∈ l, f a = some (g a)) : l.mapM f = some (l.map g) := by
  induction l with
  | nil => rfl
  | cons a l ih =>
    rw [List.mapM_cons, h a List.mem_cons_self, ih fun b hb => h b (List.mem_cons_of_mem _ hb)]
    rfl

namespace Json

/-! ### Simple values -/

/-- A text is read back from the value that holds it. -/
@[simp] theorem text?_text (t : String) : (text t).text? = some t := rfl

/-- A natural number is read back from its numeral. -/
@[simp] theorem nat?_nat (n : Nat) : (nat n).nat? = some n := by
  simp [nat, nat?, Numeral.toNat?, Numeral.ofNat, Numeral.isInteger]

/-- A word is read back from its numeral. -/
@[simp] theorem word?_word (w : UInt64) : (word w).word? = some w := by
  simp [word, word?, w.toNat_lt]

/-! ### Records -/

variable {fields : List (String × Json)}

/-- The only member with a given name is the one that is looked up, if there is one.

**Proof sketch.** Induction on the fields.  If the first one has the name, no other one has, because
names are distinct; otherwise it is passed over on both sides. -/
theorem filter_record (h : (fields.map Prod.fst).Nodup) (name : String) :
    (fields.map fun f => (some f.1, f.2)).filter (fun m => m.1 = some name) =
      ((fields.lookup name).map fun j => (some name, j)).toList := by
  induction fields with
  | nil => rfl
  | cons f fields ih =>
    obtain ⟨hf, hfields⟩ := List.nodup_cons.1 h
    by_cases hname : f.1 = name
    · subst hname
      have hnone : fields.lookup f.1 = none :=
        List.lookup_eq_none_iff.2 fun g hg => by
          simpa using fun heq => hf (List.mem_map.2 ⟨g, hg, heq.symm⟩)
      rw [List.map_cons, List.filter_cons_of_pos (by simp), ih hfields, hnone,
        List.lookup_cons_self]
      rfl
    · have hne : (name == f.1) = false := by simpa using Ne.symm hname
      rw [List.map_cons, List.filter_cons_of_neg (by simpa using hname), ih hfields,
        List.lookup_cons, hne]

/-- A field is looked up by its name, and it is no error that it is left out. -/
theorem field?_record (h : (fields.map Prod.fst).Nodup) (name : String) :
    field? (fields.map fun f => (some f.1, f.2)) name = some (fields.lookup name) := by
  rw [field?, filter_record h]
  cases fields.lookup name <;> rfl

/-- The fields that are read of a record are looked up by name. -/
theorem fields?_record (h : (fields.map Prod.fst).Nodup) (names : List String) :
    fields? names (record fields) = some (names.map fun name => fields.lookup name) := by
  have hnamed : allNamed (fields.map fun f => (some f.1, f.2)) = true := by simp [allNamed]
  rw [record_eq, fields?, memberFields?, if_pos hnamed]
  exact mapM_eq_some_map fun name _ => field?_record h name

end Json

end ActorLocation
