import ActorLocation.Proofs.Directory.Numbering
import ActorLocation.Proofs.Locator.Transparency
/-!
# What calls of locators add

A call stores at most one registration, even if it has to make room for it first, and it caches
nothing but what the directory holds.

## Main results

* `ActorLocation.Locator.progress_perform` — how many registrations a call stores.
* `ActorLocation.Locator.cached?_perform` — what is cached was cached before or is held.
-/

namespace ActorLocation

namespace Locator

/-- How many registrations a call may store. -/
def Call.registrations : Call → Nat
  | .register _ => 1
  | _ => 0

/-- There is nothing to be replaced if the activation itself is stored. -/
theorem replaceDead_of_sameActivation {σ : Type} [Backend σ] (l : Locator)
    {r stored : Registration} (n : Nat) (d : Directory σ) (h : stored.SameActivation r) :
    l.replaceDead r n stored d = (.ok stored, d) := by
  cases n with
  | zero => rfl
  | succ n => rw [replaceDead, if_pos (.inl h)]

section Progress

variable {σ : Type} [Backend σ] [LawfulBackend σ] [NumberedBackend σ]

/-- However often a dead registration is replaced, only one registration is stored: that ends the
loop.

**Proof sketch.** By induction on the number of attempts that are left.  A deletion stores nothing.
The registration after it stores nothing either, and then the induction hypothesis has one
registration to spare, or it stores the activation and answers with it.  In the second case the loop
ends at once by `replaceDead_of_sameActivation`. -/
theorem progress_replaceDead (l : Locator) (r : Registration) (n : Nat) (stored : Registration)
    (d : Directory σ) : d.Progress 1 (l.replaceDead r n stored d).2 := by
  induction n generalizing stored d with
  | zero => exact (Directory.Progress.refl d).mono (Nat.zero_le 1)
  | succ n ih =>
    rw [replaceDead]
    split
    · exact (Directory.Progress.refl d).mono (Nat.zero_le 1)
    · have hunregister := d.progress_unregister stored
      generalize d.unregister stored = answer at hunregister ⊢
      obtain ⟨_ | _, d₁⟩ := answer
      · exact hunregister.mono (Nat.zero_le 1)
      · have hregister := d₁.progress_register r
        dsimp only
        generalize d₁.register r = answer at hregister ⊢
        obtain ⟨_ | stored', d₂⟩ := answer
        · rcases hregister with hregister | ⟨hregister, -⟩
          · exact (hunregister.trans hregister).mono (by omega)
          · exact hunregister.trans hregister
        · -- The registration has stored nothing, or it has stored the activation and answers so.
          rcases hregister with hregister | ⟨hregister, s, hs, hsame⟩
          · exact (hunregister.trans hregister).trans (ih stored' d₂)
          · obtain rfl := Except.ok.inj hs
            dsimp only
            rw [l.replaceDead_of_sameActivation n d₂ hsame]
            exact hunregister.trans hregister

/-- A locator that registers an activation stores one registration at most.

**Proof sketch.** The first registration stores nothing, and then the loop stores at most one, or it
stores the activation and answers with it.  In the second case the loop has nothing to do. -/
theorem progress_register (l : Locator) (d : Directory σ) (r : Registration) :
    d.Progress 1 (l.register d r).2.2 := by
  have hregister := d.progress_register r
  rw [register]
  generalize d.register r = answer at hregister ⊢
  obtain ⟨_ | stored, d₁⟩ := answer
  · rcases hregister with hregister | ⟨hregister, -⟩
    · exact hregister.mono (Nat.zero_le 1)
    · exact hregister
  · -- Either the first registration or the loop stores something, not both.
    have hboth : d.Progress 1 (l.replaceDead r maxReplacements stored d₁).2 := by
      rcases hregister with hregister | ⟨hregister, s, hs, hsame⟩
      · exact hregister.trans (l.progress_replaceDead r maxReplacements stored d₁)
      · obtain rfl := Except.ok.inj hs
        rw [l.replaceDead_of_sameActivation _ d₁ hsame]
        exact hregister
    dsimp only
    generalize l.replaceDead r maxReplacements stored d₁ = answer at hboth ⊢
    obtain ⟨_ | _, d₂⟩ := answer <;> exact hboth

/-- Asking the directory stores nothing. -/
theorem progress_resolveRemotely (l : Locator) (d : Directory σ) (id : ActorId) :
    d.Progress 0 (l.resolveRemotely d id).2.2 := by
  have hlookup := d.progress_lookup id
  rw [resolveRemotely]
  generalize d.lookup id = answer at hlookup ⊢
  obtain ⟨_ | _ | r, d₁⟩ := answer
  · exact hlookup
  · exact hlookup
  · dsimp only
    split
    · exact hlookup.trans (d₁.progress_unregister r)
    · exact hlookup

/-- Finding an actor stores nothing. -/
theorem progress_resolve (l : Locator) (d : Directory σ) (id : ActorId) :
    d.Progress 0 (l.resolve d id).2.2 := by
  rw [resolve]
  split
  · exact .refl d
  · split
    · exact l.progress_resolveRemotely d id
    · split
      · exact (l.forget id).progress_resolveRemotely d id
      · exact .refl d

/-- The first part of a pass stores nothing. -/
theorem progress_purgeNodes (l : Locator) (d : Directory σ) (dead : List Node)
    (evicted : List Registration) : d.Progress 0 (l.purgeNodes d dead evicted).2.2 := by
  have h := d.progress_unregisterNodes dead
  rw [purgeNodes]
  split
  · exact .refl d
  · generalize d.unregisterNodes dead = answer at h ⊢
    obtain ⟨_ | _ | _, d₁⟩ := answer <;> exact h

/-- The second part of a pass stores nothing. -/
theorem progress_purge (l : Locator) (d : Directory σ) (leftovers : List Registration) :
    d.Progress 0 (l.purge d leftovers).2.2 := by
  have h := d.progress_unregisterMany leftovers
  rw [purge]
  split
  · exact .refl d
  · dsimp only
    split <;> exact h

/-- A pass stores nothing.

**Proof sketch.** A pass for a membership that is not newer does nothing.  Any other one is a
deletion by nodes and, unless this fails, deletions one by one. -/
theorem progress_applyMembership (l : Locator) (d : Directory σ) (s : Snapshot) :
    d.Progress 0 (l.applyMembership d s).2.2 := by
  rw [applyMembership]
  split
  · exact .refl d
  · simp only [reconcile, evict_observe]
    have hnodes := (l.evicting s).progress_purgeNodes d (s.newlyDeadSince l.applied) (l.evictedBy s)
    generalize (l.evicting s).purgeNodes d _ _ = answer at hnodes ⊢
    obtain ⟨_ | leftovers, l₁, d₁⟩ := answer
    · exact hnodes
    · have hboth := hnodes.trans (l₁.progress_purge d₁ leftovers)
      dsimp only
      generalize l₁.purge d₁ leftovers = answer at hboth ⊢
      obtain ⟨_ | _, l₂, d₂⟩ := answer <;> exact hboth

/-- A call stores at most as many registrations as it says.

**Proof sketch.** By the call.  Only a registration may store something, by `progress_register`.
The other calls delete, or they do not touch the directory. -/
theorem progress_perform (l : Locator) (d : Directory σ) (c : Call) :
    d.Progress c.registrations (l.perform d c).2.2 := by
  cases c with
  | resolve id => exact l.progress_resolve d id
  | register r => exact l.progress_register d r
  -- A withdrawal makes one deletion, and the locator does not matter for what is stored.
  | unregister r cause =>
    have h := d.progress_unregister r
    change d.Progress 0 (l.unregister d r cause).2.2
    rw [unregister]
    generalize d.unregister r = answer at h ⊢
    obtain ⟨_ | _, d₁⟩ := answer <;> exact h
  | unregisterLocal cause => exact d.progress_unregisterMany l.localRegistrations
  | applyMembership s => exact l.progress_applyMembership d s
  | host h =>
    rw [perform]
    split <;> exact .refl d
  | place | invalidate | observe | release | drain => exact .refl d

end Progress

section Cache

variable {σ : Type} [Backend σ] [LawfulBackend σ]

/-- What is cached once the directory has been asked was cached before, or the directory holds
it. -/
theorem cached?_resolveRemotely {l : Locator} {d : Directory σ} {id id' : ActorId}
    {r : Registration} (h : (l.resolveRemotely d id').2.1.cached? id = some r) :
    l.cached? id = some r ∨ (l.resolveRemotely d id').2.2.contents id = some r := by
  rcases l.resolveRemotely_cache d id' with heq | ⟨s, heq, hs⟩
  · rw [heq] at h
    exact .inl h
  · rw [heq, cached?, Table.find?_insert] at h
    split at h
    · next hid =>
      obtain rfl := Option.some.inj h
      exact .inr (hid ▸ hs)
    · exact .inl h

/-- What is cached once an actor has been found was cached before, or the directory holds it.

**Proof sketch.** By the branches of the definition.  If the actor is hosted, or what is cached for
it is on a live node, nothing changes.  Otherwise the directory is asked, perhaps after the actor
has been forgotten, which only takes something away from the cache. -/
theorem cached?_resolve {l : Locator} {d : Directory σ} {id id' : ActorId} {r : Registration}
    (h : (l.resolve d id').2.1.cached? id = some r) :
    l.cached? id = some r ∨ (l.resolve d id').2.2.contents id = some r := by
  unfold resolve at h ⊢
  split
  · exact .inl (by simpa [*] using h)
  · split
    · exact cached?_resolveRemotely (by simpa [*] using h)
    · split
      · refine (cached?_resolveRemotely (by simpa [*] using h)).imp_left fun h => ?_
        rw [cached?_forget] at h
        split at h
        · contradiction
        · exact h
      · exact .inl (by simpa [*] using h)

/-- What is cached after a registration was cached before, or is what was registered.

**Proof sketch.** If the registration succeeds, what it answers is held and remembered, by
`register_spec`, and it is held for its own actor.  If it fails, the cache is as it was. -/
theorem cached?_register {l : Locator} {d : Directory σ} (hd : d.contents.WellKeyed)
    {r' : Registration} {id : ActorId} {r : Registration}
    (h : (l.register d r').2.1.cached? id = some r) :
    l.cached? id = some r ∨ (l.register d r').2.2.contents id = some r := by
  obtain ⟨hevolves, hok⟩ := l.register_spec hd r'
  cases ho : (l.register d r').1 with
  | ok o =>
    obtain ⟨hheld, -, hl⟩ := hok o ho
    rw [hl, remember, cached?, Table.find?_insert] at h
    split at h
    · next hid =>
      obtain rfl := Option.some.inj h
      -- What is held is held for its own actor.
      have hactor := hd.of_evolves hevolves _ _ hheld
      exact .inr (hid ▸ hactor ▸ hheld)
    · exact .inl h
  | error e =>
    rw [register] at h ho
    split at h
    · exact .inl h
    · split at h
      · exact .inl h
      · simp [*] at ho

/-- A withdrawal adds nothing to the cache. -/
theorem of_cached?_unregister {l : Locator} {d : Directory σ} {r' : Registration}
    (cause : UnregisterCause) {id : ActorId} {r : Registration}
    (h : (l.unregister d r' cause).2.1.cached? id = some r) : l.cached? id = some r := by
  rcases (l.unregister_spec d r' cause).2 with heq | ⟨heq, -⟩
  · rw [heq] at h
    exact (of_cached?_forgetActivation h).1
  · rwa [heq] at h

/-- What is told to be wrong is dropped from the cache, and nothing is added. -/
theorem of_cached?_invalidate {l : Locator} {r' : Registration} {id : ActorId} {r : Registration}
    (h : (l.invalidate r').2.cached? id = some r) : l.cached? id = some r := by
  rw [invalidate] at h
  split at h
  · rw [cached?_forget] at h
    split at h
    · contradiction
    · exact h
  · exact h

omit [LawfulBackend σ] in
/-- A pass adds nothing to the cache. -/
theorem of_cached?_applyMembership {l : Locator} {d : Directory σ} {s : Snapshot} {id : ActorId}
    {r : Registration} (h : (l.applyMembership d s).2.1.cached? id = some r) :
    l.cached? id = some r := by
  have hreconciled := l.reconciled d s
  generalize (l.applyMembership d s).1 = answer at hreconciled
  generalize (l.applyMembership d s).2.1 = l' at h hreconciled
  have hevicting (h : (l.evicting s).cached? id = some r) : l.cached? id = some r := by
    rw [cached?_evicting] at h
    exact (Option.filter_eq_some_iff.1 h).1
  cases hreconciled with
  | stale _ => exact h
  | applied _ => exact hevicting h
  | failed _ _ _ _ => exact hevicting h

/-- What is cached after a call was cached before, or the directory holds it.

**Proof sketch.** By the call.  Finding an actor and registering an activation may add to the cache
what the directory holds then.  All other calls only take something away from it. -/
theorem cached?_perform {l : Locator} {d : Directory σ} (hd : d.contents.WellKeyed) {c : Call}
    {id : ActorId} {r : Registration} (h : (l.perform d c).2.1.cached? id = some r) :
    l.cached? id = some r ∨ (l.perform d c).2.2.contents id = some r := by
  cases c with
  | resolve id' => exact cached?_resolve h
  | register r' => exact cached?_register hd h
  | unregister r' cause => exact .inl (of_cached?_unregister cause h)
  | invalidate r' => exact .inl (of_cached?_invalidate h)
  | unregisterLocal cause => exact .inl (of_cached?_foldl_forgetActivation h).1
  | applyMembership s => exact .inl (of_cached?_applyMembership h)
  -- The remaining calls do not touch the cache.
  | observe s =>
    change (l.observe s).2.cached? id = some r at h
    rw [observe] at h
    split at h <;> exact .inl h
  | host a =>
    rw [perform] at h
    split at h <;> exact .inl h
  | place | release | drain => exact .inl h

end Cache

end Locator

end ActorLocation
