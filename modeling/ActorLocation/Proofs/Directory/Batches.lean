import ActorLocation.Proofs.Directory.Contents
/-!
# Deleting many registrations

When many registrations are deleted, each one is dealt with or reported as failed, however the list
is cut into batches and whichever deletions fail.  A registration is dealt with when nothing is left
that its holder may delete.

## Main definitions

* `Contents.Shrinks` — nothing new is held.
* `Contents.FreeOf` — nothing is held that a registration releases.

## Main results

* `Directory.freeOf_unregisterMany` — each registration is dealt with or reported.
-/

namespace ActorLocation

/-- The holder of a registration may delete it as long as it is held unchanged. -/
theorem Registration.releases_self (r : Registration) : r.Releases r :=
  ⟨⟨rfl, rfl, rfl⟩, fun _ h => h⟩

/-! ### Contents -/

namespace Contents

variable {c c' c'' : Contents} {r : Registration}

/-- Says that nothing is held in `c'` that is not held in `c`. -/
def Shrinks (c c' : Contents) : Prop := ∀ id s, c' id = some s → c id = some s

/-- Nothing new is held if nothing changes. -/
theorem Shrinks.refl (c : Contents) : c.Shrinks c := fun _ _ => id

/-- Nothing new is held after two changes of which neither adds anything. -/
theorem Shrinks.trans (h : c.Shrinks c') (h' : c'.Shrinks c'') : c.Shrinks c'' :=
  fun id s hs => h id s (h' id s hs)

/-- A release only takes away. -/
theorem shrinks_release (c : Contents) (r : Registration) : c.Shrinks (c.release r) := by
  intro id s hs
  rw [release] at hs
  split at hs
  · exact (Option.filter_eq_some_iff.1 hs).1
  · exact hs

/-- Dropping nodes only takes away. -/
theorem shrinks_dropNodes (c : Contents) (nodes : List Node) : c.Shrinks (c.dropNodes nodes) :=
  fun _ _ hs => (Option.filter_eq_some_iff.1 hs).1

/-- Says that nothing is held that the holder of `r` may delete. -/
def FreeOf (c : Contents) (r : Registration) : Prop := ∀ s, c r.actor = some s → ¬ r.Releases s

/-- What has been dealt with stays so as long as nothing new is held. -/
theorem FreeOf.of_shrinks (h : c.FreeOf r) (hc : c.Shrinks c') : c'.FreeOf r :=
  fun s hs => h s (hc _ s hs)

/-- An actor for which nothing is held has nothing that could be deleted. -/
theorem freeOf_of_eq_none (h : c r.actor = none) : c.FreeOf r := by
  intro s hs
  rw [h] at hs
  contradiction

/-- After a release nothing is left that its holder may delete: something else may still be held for
the actor. -/
theorem freeOf_release (c : Contents) (r : Registration) : (c.release r).FreeOf r := by
  intro s hs
  rw [release, if_pos rfl] at hs
  exact of_decide_eq_true (Option.filter_eq_some_iff.1 hs).2

/-- In particular, the registration itself is not held. -/
theorem FreeOf.ne (h : c.FreeOf r) : c r.actor ≠ some r := fun hr => h r hr r.releases_self

end Contents

/-! ### Single deletions -/

section Answers

variable {c c' : Contents} {r : Registration}

/-- However the deletion of a registration ends, it adds nothing. -/
theorem Unregistered.shrinks {answer : Except DirectoryError Unit}
    (h : Unregistered c r answer c') : c.Shrinks c' := by
  cases h with
  | released => exact c.shrinks_release r
  | failed _ _ => exact .refl c

/-- However a deletion by nodes ends, it adds nothing. -/
theorem Dropped.shrinks {nodes : List Node} {answer : Except DirectoryError (List Registration)}
    (h : Dropped c nodes answer c') : c.Shrinks c' := by
  cases h with
  | dropped _ => exact c.shrinks_dropNodes nodes
  | failed _ => exact .refl c

/-- A deletion that fails without being worth another try concerns an actor without
registration. -/
theorem Unregistered.freeOf {answer : Except DirectoryError Unit} (h : Unregistered c r answer c')
    (hanswer : ∀ e, answer = .error e → e.isTransient = false) : c'.FreeOf r := by
  cases h with
  | released => exact c.freeOf_release r
  | failed e h =>
    have he := hanswer e rfl
    rw [he] at h
    exact Contents.freeOf_of_eq_none (h.resolve_left Bool.false_ne_true)

end Answers

/-! ### Batches -/

/-- The failures of a batch are those of its first deletion and those of the others. -/
theorem failuresOf_cons (r : Registration) (rs : List Registration)
    (answer : Except DirectoryError Unit) (answers : List (Except DirectoryError Unit)) :
    failuresOf (r :: rs) (answer :: answers) =
      failuresOf [r] [answer] ++ failuresOf rs answers := by
  simp only [failuresOf, List.zip_cons_cons, List.zip_nil_left, List.filterMap_cons,
    List.filterMap_nil]
  split <;> rfl

/-- A deletion that is not reported did not fail, or met a corrupted entry. -/
theorem not_isTransient_of_failuresOf {r : Registration} {answer : Except DirectoryError Unit}
    (h : failuresOf [r] [answer] = []) (e : DirectoryError) (he : answer = .error e) :
    e.isTransient = false := by
  subst he
  cases e with
  | unavailable reason => simp [failuresOf] at h
  | corrupted id reason => rfl
  | encoding id reason => rfl

variable {σ : Type} [Backend σ] [LawfulBackend σ]

/-- Deletions one after the other add nothing. -/
theorem shrinks_unregisterEach (s : σ) (l : List Registration) :
    (LawfulBackend.contents s).Shrinks
      (LawfulBackend.contents (unregisterEach Backend.unregister s l).2) := by
  induction l generalizing s with
  | nil => exact .refl _
  | cons r l ih => exact (LawfulBackend.unregistered s r).shrinks.trans (ih _)

/-- Each registration of a batch is dealt with or reported.

**Proof sketch.** Induction on the batch.  If the registration is the first one, its deletion is
reported, or it deals with the registration (`Unregistered.freeOf`), and what follows adds nothing.
If it comes later, it is the induction hypothesis after the first deletion. -/
theorem freeOf_unregisterEach (s : σ) {l : List Registration} {u : Registration} (hu : u ∈ l) :
    (∃ f ∈ failuresOf l (unregisterEach Backend.unregister s l).1, f.1 = u) ∨
      (LawfulBackend.contents (unregisterEach Backend.unregister s l).2).FreeOf u := by
  induction l generalizing s with
  | nil => contradiction
  | cons r l ih =>
    rw [unregisterEach, failuresOf_cons]
    simp only [List.mem_append]
    rcases List.mem_cons.1 hu with rfl | hu
    · -- Later deletions do not bring back what the first one has deleted.
      cases hfailures : failuresOf [u] [(Backend.unregister s u).1] with
      | nil =>
        have hfree := (LawfulBackend.unregistered s u).freeOf
          (not_isTransient_of_failuresOf hfailures)
        exact .inr (hfree.of_shrinks (shrinks_unregisterEach _ l))
      | cons f fs =>
        have hf : f ∈ failuresOf [u] [(Backend.unregister s u).1] := by simp [hfailures]
        refine .inl ⟨f, .inl List.mem_cons_self, ?_⟩
        simpa using mem_of_mem_failuresOf hf
    · rcases ih (Backend.unregister s r).2 hu with ⟨f, hf, hfu⟩ | hfree
      · exact .inl ⟨f, .inr hf, hfu⟩
      · exact .inr hfree

namespace Directory

/-- Deletions batch after batch add nothing. -/
theorem shrinks_unregisterBatches (d : Directory σ) (bs : List (List Registration)) :
    d.contents.Shrinks (d.unregisterBatches bs).2.contents := by
  induction bs generalizing d with
  | nil => exact .refl _
  | cons b bs ih =>
    have hfirst := shrinks_unregisterEach d.backend b
    rw [← LawfulBackend.unregisterBatch_eq] at hfirst
    exact hfirst.trans (ih (d.withBackend (Backend.unregisterBatch d.backend b).2))

/-- Each registration in one of the batches is dealt with or reported.

**Proof sketch.** Induction on the batches, as for the deletions in one batch
(`freeOf_unregisterEach`): what was dealt with in the first batch stays so in the others. -/
theorem freeOf_unregisterBatches (d : Directory σ) {bs : List (List Registration)}
    {b : List Registration} (hb : b ∈ bs) {u : Registration} (hu : u ∈ b) :
    (∃ f ∈ (d.unregisterBatches bs).1, f.1 = u) ∨ (d.unregisterBatches bs).2.contents.FreeOf u := by
  induction bs generalizing d with
  | nil => contradiction
  | cons b' bs ih =>
    rw [unregisterBatches]
    simp only [List.mem_append]
    rcases List.mem_cons.1 hb with rfl | hb
    · -- The batches that follow do not bring back what this one has deleted.
      have hfirst := freeOf_unregisterEach d.backend hu
      rw [← LawfulBackend.unregisterBatch_eq] at hfirst
      rcases hfirst with ⟨f, hf, hfu⟩ | hfree
      · exact .inl ⟨f, .inl hf, hfu⟩
      · exact .inr (hfree.of_shrinks (shrinks_unregisterBatches _ bs))
    · rcases ih (d.withBackend (Backend.unregisterBatch d.backend b').2) hb with
        ⟨f, hf, hfu⟩ | hfree
      · exact .inl ⟨f, .inr hf, hfu⟩
      · exact .inr hfree

/-- Many deletions bring nothing back. -/
theorem shrinks_unregisterMany (d : Directory σ) (l : List Registration) :
    d.contents.Shrinks (d.unregisterMany l).2.contents :=
  d.shrinks_unregisterBatches (batches d.maxBatch l)

/-- Each of many registrations is dealt with or reported as failed. -/
theorem freeOf_unregisterMany (d : Directory σ) {l : List Registration} {u : Registration}
    (hu : u ∈ l) :
    (∃ f ∈ (d.unregisterMany l).1.failures, f.1 = u) ∨
      (d.unregisterMany l).2.contents.FreeOf u := by
  obtain ⟨b, hb, hub⟩ := d.mem_iff_exists_batch.1 hu
  exact d.freeOf_unregisterBatches hb hub

/-- A deletion by nodes brings nothing back. -/
theorem shrinks_unregisterNodes (d : Directory σ) (nodes : List Node) :
    d.contents.Shrinks (d.unregisterNodes nodes).2.contents := by
  unfold unregisterNodes
  split
  · next hb =>
    have h := (LawfulBackend.dropped d.backend nodes hb).shrinks
    split
    all_goals
      next heq =>
      rw [heq] at h
      exact h
  · exact .refl _

end Directory

end ActorLocation
