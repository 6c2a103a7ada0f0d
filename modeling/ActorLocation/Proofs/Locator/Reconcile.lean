import ActorLocation.Locator.Reconcile
import ActorLocation.Proofs.Directory.Contents
/-!
# What applying a membership does

A pass ends in one of three ways.  A membership that is not newer than the applied one changes
nothing.  Any other one becomes the current one, if it is newer than that, and what is cached on
nodes that have died is dropped; if all deletions succeed it counts as applied and nothing stays
pending, and else what could not be deleted stays pending.

## Main definitions

* `ActorLocation.Locator.evictedBy`, `Locator.evicting` — what a pass drops from the cache, and the
  locator without it.
* `ActorLocation.Locator.Reconciled` — the ways in which a pass can end.

## Main results

* `ActorLocation.Locator.reconciled` — every pass ends in one of these ways, whatever the backend
  does.
* `ActorLocation.Locator.applyMembership_evolves` — which registrations a pass can delete from the
  directory.
-/

namespace ActorLocation

namespace Locator

/-- The registrations that a pass for `s` drops from the cache. -/
def evictedBy (l : Locator) (s : Snapshot) : List Registration :=
  l.cache.values.filter fun r => r.node ∈ s.newlyDeadSince l.applied

/-- The locator after a pass for `s` has dropped registrations from the cache. -/
def evicting (l : Locator) (s : Snapshot) : Locator :=
  ((l.observe s).2.evict (s.newlyDeadSince l.applied)).2

/-- The ways in which a pass for `s` can end, with the locator left behind. -/
inductive Reconciled (l : Locator) (s : Snapshot) :
    Except LocatorError Reconciliation → Locator → Prop where
  /-- The membership was not newer than the applied one. -/
  | stale (h : s.version ≤ l.applied.version) :
    Reconciled l s (.ok (.stale s.version l.applied.version)) l
  /-- The membership was applied. -/
  | applied (h : ¬ s.version ≤ l.applied.version) :
    Reconciled l s
      (.ok (.applied s.version (s.newlyDeadSince l.applied) (l.evictedBy s).length))
      ({ l.evicting s with pending := [] }.markApplied s)
  /-- A deletion failed.  What is pending then was pending before, or was dropped from the cache. -/
  | failed (h : ¬ s.version ≤ l.applied.version) (e : DirectoryError) (pending : List Registration)
    (hp : ∀ p ∈ pending, p ∈ l.pending ∨ p ∈ l.evictedBy s) :
    Reconciled l s (.error (.directory e)) { l.evicting s with pending }

/-- A membership that is seen becomes the current one if it is newer. -/
theorem observe_snd (l : Locator) (s : Snapshot) :
    (l.observe s).2 =
      { l with current := if l.current.version < s.version then s else l.current } := by
  rw [observe]
  split <;> rfl

/-- What a pass evicts, and the locator without it.  That it has looked at the membership before
does not change what is cached. -/
theorem evict_observe (l : Locator) (s : Snapshot) :
    (l.observe s).2.evict (s.newlyDeadSince l.applied) = (l.evictedBy s, l.evicting s) := by
  simp only [evicting, evict, evictedBy, observe]
  split <;> rfl

/-- What a pass changes before it deletes anything: the current membership and the cache. -/
theorem evicting_eq (l : Locator) (s : Snapshot) :
    l.evicting s =
      { l with
        current := (l.observe s).2.current
        cache := l.cache.filter fun _ r => r.node ∉ s.newlyDeadSince l.applied } := by
  simp only [evicting, evict, observe]
  split <;> rfl

/-- Evicting leaves alone what is pending. -/
theorem pending_evicting (l : Locator) (s : Snapshot) : (l.evicting s).pending = l.pending := by
  rw [evicting_eq]

/-- Evicting does not count as applying. -/
theorem applied_evicting (l : Locator) (s : Snapshot) : (l.evicting s).applied = l.applied := by
  rw [evicting_eq]

/-- What is cached after a pass was cached before, on a node that is not newly dead. -/
theorem cached?_evicting (l : Locator) (s : Snapshot) (id : ActorId) :
    (l.evicting s).cached? id =
      (l.cached? id).filter fun r => r.node ∉ s.newlyDeadSince l.applied := by
  rw [evicting_eq, cached?, Table.find?_filter]
  rfl

section Purge

variable {σ : Type} [Backend σ]

/-- A deletion by nodes leaves over what is pending and possibly what was evicted, unless it
fails. -/
theorem purgeNodes_spec (l : Locator) (d : Directory σ) (dead : List Node)
    (evicted : List Registration) :
    (∃ leftovers d', l.purgeNodes d dead evicted = (.ok leftovers, { l with pending := [] }, d') ∧
        ∀ p ∈ leftovers, p ∈ l.pending ∨ p ∈ evicted) ∨
      ∃ e d', l.purgeNodes d dead evicted = (.error e, l, d') := by
  unfold purgeNodes
  split
  · exact .inl ⟨_, _, rfl, fun _ => .inl⟩
  · split
    · exact .inl ⟨_, _, rfl, fun _ => .inl⟩
    · exact .inl ⟨_, _, rfl, fun _ hp => List.mem_append.1 hp⟩
    · exact .inr ⟨_, _, rfl⟩

/-- Deletions one by one leave failed ones pending.

**Proof sketch.** If there is nothing to be deleted, nothing happens.  Otherwise the outcome says
which deletions have failed, and they are among those asked for.  If there are none, the pass goes
on; the first of them gives the error, and all of them stay pending. -/
theorem purge_spec (l : Locator) (d : Directory σ) (leftovers : List Registration) :
    (∃ d', l.purge d leftovers = (.ok (), l, d')) ∨
      ∃ e pending d', l.purge d leftovers = (.error e, { l with pending }, d') ∧
        ∀ p ∈ pending, p ∈ leftovers := by
  unfold purge
  split
  · exact .inl ⟨_, rfl⟩
  · rcases h : d.unregisterMany leftovers with ⟨outcome, d'⟩
    -- Only deletions that were asked for are reported as failed.
    have hmem : ∀ f ∈ outcome.failures, f.1 ∈ leftovers := by
      have houtcome : outcome = (d.unregisterMany leftovers).1 := by rw [h]
      rw [houtcome]
      exact fun f => Directory.mem_of_mem_failures
    dsimp only
    split
    · exact .inl ⟨_, rfl⟩
    · next r e rest hrest =>
      rw [hrest] at hmem
      refine .inr ⟨_, _, _, rfl, ?_⟩
      intro p hp
      rcases List.mem_cons.1 hp with rfl | hp
      · exact hmem _ List.mem_cons_self
      · obtain ⟨f, hf, rfl⟩ := List.mem_map.1 hp
        exact hmem f (List.mem_cons_of_mem _ hf)

/-- Every pass ends in one of the ways of `Reconciled`.

**Proof sketch.** A membership that is not newer is stale.  Otherwise `purgeNodes_spec` and
`purge_spec` tell how the two parts of the pass end.  If both succeed, the membership is applied.
If the first one fails, what was pending stays so; if the second one does, what is pending then was
left over by the first, so it was pending before or has been evicted. -/
theorem reconciled (l : Locator) (d : Directory σ) (s : Snapshot) :
    Reconciled l s (l.applyMembership d s).1 (l.applyMembership d s).2.1 := by
  unfold applyMembership
  split
  · next h => exact .stale h
  · next h =>
    simp only [reconcile, evict_observe]
    rcases (l.evicting s).purgeNodes_spec d (s.newlyDeadSince l.applied) (l.evictedBy s) with
      ⟨leftovers, d₁, heq, hleft⟩ | ⟨e, d₁, heq⟩
    · rw [heq]
      rw [pending_evicting] at hleft
      dsimp only
      rcases purge_spec { l.evicting s with pending := [] } d₁ leftovers with
        ⟨d₂, heq⟩ | ⟨e, pending, d₂, heq, hmem⟩
      · rw [heq]
        exact .applied h
      · rw [heq]
        exact .failed h e pending fun p hp => hleft p (hmem p hp)
    · rw [heq]
      -- The deletion by nodes has failed, which leaves pending what was pending.
      have hfailed := Reconciled.failed h e (l.evicting s).pending fun p hp =>
        .inl (pending_evicting l s ▸ hp)
      exact hfailed

/-- The way in which a pass with a given answer has ended. -/
theorem reconciled_of_eq {l : Locator} {d : Directory σ} {s : Snapshot}
    {answer : Except LocatorError Reconciliation} (h : (l.applyMembership d s).1 = answer) :
    Reconciled l s answer (l.applyMembership d s).2.1 := h ▸ l.reconciled d s

end Purge

section Contents

variable {σ : Type} [Backend σ] [LawfulBackend σ]

/-- A deletion by nodes loses only what is registered there. -/
theorem purgeNodes_evolves (l : Locator) (d : Directory σ) (dead : List Node)
    (evicted : List Registration) :
    d.contents.Evolves (fun _ r => r.node ∈ dead) (l.purgeNodes d dead evicted).2.2.contents := by
  have h := d.evolves_unregisterNodes dead
  unfold purgeNodes
  split
  · exact .refl _ _
  · split
    all_goals
      next heq =>
      rw [heq] at h
      exact h

/-- Deletions one by one lose only what one of them releases. -/
theorem purge_evolves (l : Locator) (d : Directory σ) (leftovers : List Registration) :
    d.contents.Evolves (fun _ r => ∃ u ∈ leftovers, u.Releases r)
      (l.purge d leftovers).2.2.contents := by
  have h := d.evolves_unregisterMany leftovers
  unfold purge
  split
  · exact .refl _ _
  · dsimp only
    split <;> exact h

/-- A pass for a newer membership deletes only registrations on nodes that have died since the last
pass, and what a pending registration releases.

**Proof sketch.** The deletion by nodes loses only what is registered on the nodes that have died.
The deletions one by one lose only what something left over releases.  What is left over was
pending, or it has been evicted: then it was cached on a node that has died, and it releases only
what is on the same node. -/
theorem applyMembership_evolves (l : Locator) (d : Directory σ) (s : Snapshot) :
    d.contents.Evolves
      (fun _ r => ¬ s.version ≤ l.applied.version ∧
        (r.node ∈ s.newlyDeadSince l.applied ∨ ∃ p ∈ l.pending, p.Releases r))
      (l.applyMembership d s).2.2.contents := by
  unfold applyMembership
  split
  · exact .refl _ _
  · next hversion =>
    simp only [reconcile, evict_observe]
    have hnodes := (l.evicting s).purgeNodes_evolves d (s.newlyDeadSince l.applied)
      (l.evictedBy s)
    rcases (l.evicting s).purgeNodes_spec d (s.newlyDeadSince l.applied) (l.evictedBy s) with
      ⟨leftovers, d₁, heq, hleft⟩ | ⟨e, d₁, heq⟩
    · rw [heq] at hnodes ⊢
      rw [pending_evicting] at hleft
      have hone := purge_evolves { l.evicting s with pending := [] } d₁ leftovers
      have hall := (hnodes.mono fun _ _ h => ⟨hversion, .inl h⟩).trans (hone.mono (q := fun _ r =>
        ¬ s.version ≤ l.applied.version ∧
          (r.node ∈ s.newlyDeadSince l.applied ∨ ∃ p ∈ l.pending, p.Releases r)) ?_)
      · dsimp only
        split
        all_goals
          next heq =>
          rw [heq] at hall
          exact hall
      · rintro _ r ⟨u, hu, hr⟩
        rcases hleft u hu with hu | hu
        · exact ⟨hversion, .inr ⟨u, hu, hr⟩⟩
        · -- What was evicted releases only what is registered on the same node.
          have hdead := (List.mem_filter.1 hu).2
          rw [hr.1.2.2] at hdead
          exact ⟨hversion, .inl (of_decide_eq_true hdead)⟩
    · rw [heq] at hnodes ⊢
      exact hnodes.mono fun _ _ h => ⟨hversion, .inl h⟩

end Contents

end Locator

end ActorLocation
