import ActorLocation.Locator.Call
import ActorLocation.Proofs.Directory.Unreliable
import ActorLocation.Simulation.Rivals
/-!
# Directories that locators reach

Whatever the operations of a backend preserve is preserved by the calls of locators, since they have
no other access to it.  So a directory stays well keyed among any locators, whatever goes wrong.

## Main definitions

* `ActorLocation.Directory.Reached` — what any locators, mishaps and rivals may lead to.

## Main results

* `ActorLocation.Locator.preserves_perform` — a call preserves what the backend preserves.
* `ActorLocation.Directory.Reached.keyed` — what is held in memory is held for its own actor.
-/

namespace ActorLocation

section Preserves

variable {σ : Type} [Backend σ] {P : σ → Prop} (h : Backend.Preserves P)
include h

/-! ### Directories -/

namespace Directory

variable {d : Directory σ} (hd : P d.backend)
include hd

/-- A look-up preserves what the backend preserves. -/
theorem preserves_lookup (id : ActorId) : P (d.lookup id).2.backend := by
  rw [lookup_snd]
  exact h.lookup _ id hd

/-- A registration preserves what the backend preserves. -/
theorem preserves_register (r : Registration) : P (d.register r).2.backend := h.register _ r hd

/-- A deletion preserves what the backend preserves. -/
theorem preserves_unregister (r : Registration) : P (d.unregister r).2.backend := by
  rw [unregister_snd]
  exact h.unregister _ r hd

/-- Deletions in batches preserve what the backend preserves, by induction on the batches. -/
theorem preserves_unregisterMany (l : List Registration) : P (d.unregisterMany l).2.backend := by
  suffices hbatches : ∀ bs, P (d.unregisterBatches bs).2.backend from hbatches _
  intro bs
  induction bs generalizing d with
  | nil => exact hd
  | cons b bs ih =>
    exact ih (d := d.withBackend (Backend.unregisterBatch d.backend b).2)
      (h.unregisterBatch _ b hd)

/-- A deletion by nodes preserves what the backend preserves, and does not reach a backend that
cannot delete in this way. -/
theorem preserves_unregisterNodes (nodes : List Node) :
    P (d.unregisterNodes nodes).2.backend := by
  have hnodes := h.unregisterNodes _ nodes hd
  unfold unregisterNodes
  split
  · split
    all_goals
      next heq =>
      rw [heq] at hnodes
      exact hnodes
  · exact hd

end Directory

/-! ### Locators -/

namespace Locator

variable (l : Locator) {d : Directory σ} (hd : P d.backend)
include hd

/-- A locator that asks the directory preserves what the backend preserves.

**Proof sketch.** It makes a look-up, and a deletion if what is found is on a dead node.  By the
answer to the look-up. -/
theorem preserves_resolveRemotely (id : ActorId) :
    P (l.resolveRemotely d id).2.2.backend := by
  have hlookup := Directory.preserves_lookup h hd id
  unfold resolveRemotely
  split
  · next heq =>
    rw [heq] at hlookup
    exact hlookup
  · next heq =>
    rw [heq] at hlookup
    exact hlookup
  · next r d' heq =>
    rw [heq] at hlookup
    split
    · exact Directory.preserves_unregister h hlookup r
    · exact hlookup

/-- A locator that finds an actor preserves what the backend preserves: it answers by itself, or it
asks the directory. -/
theorem preserves_resolve (id : ActorId) : P (l.resolve d id).2.2.backend := by
  unfold resolve
  split
  · exact hd
  · split
    · exact l.preserves_resolveRemotely h hd id
    · split
      · exact (l.forget id).preserves_resolveRemotely h hd id
      · exact hd

/-- The loop that replaces a dead registration preserves what the backend preserves.

**Proof sketch.** By induction on the number of attempts that are left.  An attempt is a deletion
and a registration, in this order, and ends the loop if one of them fails; otherwise the induction
hypothesis is about what is stored then. -/
theorem preserves_replaceDead (r : Registration) (n : Nat) (stored : Registration) :
    P (l.replaceDead r n stored d).2.backend := by
  induction n generalizing stored d with
  | zero => exact hd
  | succ n ih =>
    have hunregister := Directory.preserves_unregister h hd stored
    unfold replaceDead
    split
    · exact hd
    · split
      · next heq =>
        rw [heq] at hunregister
        exact hunregister
      · next d₁ heq =>
        rw [heq] at hunregister
        -- The dead registration is deleted, so the new one is registered next.
        have hregister := Directory.preserves_register h hunregister r
        split
        · next heq =>
          rw [heq] at hregister
          exact hregister
        · next heq =>
          rw [heq] at hregister
          exact ih hregister _

/-- A locator that registers an activation preserves what the backend preserves.

**Proof sketch.** It makes a registration, and if this has an answer it runs the loop of
`preserves_replaceDead`.  Whatever the loop answers, the directory is the one that the loop has
left. -/
theorem preserves_register (r : Registration) : P (l.register d r).2.2.backend := by
  have hregister := Directory.preserves_register h hd r
  unfold register
  split
  · next heq =>
    rw [heq] at hregister
    exact hregister
  · next stored d₁ heq =>
    rw [heq] at hregister
    have hreplace := l.preserves_replaceDead h hregister r maxReplacements stored
    split
    all_goals
      next heq =>
      rw [heq] at hreplace
      exact hreplace

/-- A locator that withdraws an activation preserves what the backend preserves. -/
theorem preserves_unregister (r : Registration) (cause : UnregisterCause) :
    P (l.unregister d r cause).2.2.backend := by
  have hunregister := Directory.preserves_unregister h hd r
  unfold unregister
  split
  all_goals
    next heq =>
    rw [heq] at hunregister
    exact hunregister

/-- The first part of a pass, a deletion by nodes, preserves what the backend preserves. -/
theorem preserves_purgeNodes (dead : List Node) (evicted : List Registration) :
    P (l.purgeNodes d dead evicted).2.2.backend := by
  have hnodes := Directory.preserves_unregisterNodes h hd dead
  unfold purgeNodes
  dsimp only
  split
  · exact hd
  · split
    all_goals
      next heq =>
      rw [heq] at hnodes
      exact hnodes

/-- The second part of a pass, deletions one by one, preserves what the backend preserves. -/
theorem preserves_purge (leftovers : List Registration) :
    P (l.purge d leftovers).2.2.backend := by
  have hmany := Directory.preserves_unregisterMany h hd leftovers
  unfold purge
  split
  · exact hd
  · rcases hrun : d.unregisterMany leftovers with ⟨outcome, d'⟩
    rw [hrun] at hmany
    dsimp only
    split <;> exact hmany

/-- A pass preserves what the backend preserves.

**Proof sketch.** A pass for a membership that is not newer does not touch the directory.  Any other
pass is a deletion by nodes, and deletions one by one unless the first part has failed. -/
theorem preserves_applyMembership (s : Snapshot) :
    P (l.applyMembership d s).2.2.backend := by
  unfold applyMembership
  split
  · exact hd
  · unfold reconcile
    dsimp only
    have hnodes := ((l.observe s).2.evict (s.newlyDeadSince l.applied)).2.preserves_purgeNodes h hd
      (s.newlyDeadSince l.applied) ((l.observe s).2.evict (s.newlyDeadSince l.applied)).1
    split
    · next heq =>
      rw [heq] at hnodes
      exact hnodes
    · next leftovers l₁ d₁ heq =>
      rw [heq] at hnodes
      -- The deletion by nodes has not failed, so the rest is deleted one by one.
      have hpurge := l₁.preserves_purge h hnodes leftovers
      split
      all_goals
        next heq =>
        rw [heq] at hpurge
        exact hpurge

/-- Whatever the operations of the backend preserve, a call of a locator preserves.

**Proof sketch.** By the call.  Those that touch the directory have been dealt with above; a
shutdown makes deletions in batches.  The others leave the directory as it is. -/
theorem preserves_perform (c : Call) : P (l.perform d c).2.2.backend := by
  cases c with
  | resolve id => exact l.preserves_resolve h hd id
  | register r => exact l.preserves_register h hd r
  | unregister r cause => exact l.preserves_unregister h hd r cause
  | unregisterLocal cause =>
    exact Directory.preserves_unregisterMany h hd
      ((l.catalog.drain.1.filter fun h => h.hosting = .single).map Hosted.registration)
  | applyMembership s => exact l.preserves_applyMembership h hd s
  | host hosted =>
    rw [perform]
    split <;> exact hd
  | place | invalidate | observe | release | drain => exact hd

end Locator

end Preserves

/-! ### Reached directories -/

/-- Says that a directory can be reached.  It was empty in memory, or over any store; then came
calls of any locators, mishaps at any time, and whatever somebody else does to the store. -/
inductive Directory.Reached : Directory (Unreliable (AnyBackend ContestedStore)) → Prop where
  /-- The directory is in memory, and empty. -/
  | inMemory (mishaps : List (Option Mishap)) (maxBatch : Nat) (h : 0 < maxBatch) :
    Reached ⟨⟨.inMemory {}, mishaps⟩, maxBatch, h⟩
  /-- The directory is over a store. -/
  | overStore (s : ContestedStore) (mishaps : List (Option Mishap)) (maxBatch : Nat)
    (h : 0 < maxBatch) : Reached ⟨⟨.overStore ⟨s⟩, mishaps⟩, maxBatch, h⟩
  /-- A locator is called. -/
  | call {d : Directory (Unreliable (AnyBackend ContestedStore))} (hd : d.Reached) (l : Locator)
    (c : Locator.Call) : Reached (l.perform d c).2.2
  /-- Other things go wrong from now on. -/
  | planned {d : Directory (Unreliable (AnyBackend ContestedStore))} (hd : d.Reached)
    (mishaps : List (Option Mishap)) : Reached (d.withBackend { d.backend with mishaps })
  /-- Somebody else changes the store, or other rivals are to come. -/
  | disturbed {d : Directory (Unreliable (AnyBackend ContestedStore))} (hd : d.Reached)
    {s : ContestedStore} (h : d.backend.inner = .overStore ⟨s⟩) (s' : ContestedStore) :
    Reached (d.withBackend { d.backend with inner := .overStore ⟨s'⟩ })

/-- Whatever has happened, what is held in memory is held for its own actor. -/
theorem Directory.Reached.keyed {d : Directory (Unreliable (AnyBackend ContestedStore))}
    (hd : d.Reached) : d.backend.inner.Keyed := by
  induction hd with
  | inMemory => exact InMemory.wellKeyed_held_new
  | overStore => exact trivial
  | call hd l c ih => exact l.preserves_perform Unreliable.preserves_keyed ih c
  | planned hd mishaps ih => exact ih
  | disturbed => exact trivial

end ActorLocation
