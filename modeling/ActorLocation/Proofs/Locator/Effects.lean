import ActorLocation.Locator.Call
import ActorLocation.Proofs.Locator.Reconcile
/-!
# What calls of locators delete

A registration is deleted from the directory in five places: when a look-up or a registration meets
one on a dead node, when its holder withdraws it, when its node shuts down, and when a membership is
applied.  This module says for each call which registrations it can delete, whatever the backend
answers.

## Main definitions

* `ActorLocation.Locator.localRegistrations` — the registrations that a shutdown withdraws.
* `ActorLocation.Locator.MayDelete` — the registrations that a call can delete.
* `ActorLocation.Locator.view` — what a locator knows of the membership.
* `ActorLocation.Locator.SameMembership` — two locators know the same of it.

## Main results

* `ActorLocation.Locator.sameMembership_perform` — only a call that hands over a membership changes
  what is known of it.
* `ActorLocation.Locator.perform_evolves` — a call deletes nothing else.
* `ActorLocation.Locator.register_spec` — what a registration returns is held then.
* `ActorLocation.Locator.register_of_alive` — a registration on a live node is returned to everyone
  who registers its actor.
-/

namespace ActorLocation

namespace Locator

/-- The registrations that a shutdown of the node withdraws: those of its activations, except for
stateless workers. -/
def localRegistrations (l : Locator) : List Registration :=
  (l.catalog.all.filter fun h => h.hosting = .single).map Hosted.registration

/-- Says that a call can delete the registration `s`, which is held for the actor `id`. -/
def MayDelete (l : Locator) : Call → (id : ActorId) → (s : Registration) → Prop
  | .resolve id, id', s => id' = id ∧ l.current.IsDead s.node
  | .register r, id, s => id = r.actor ∧ l.current.IsDead s.node
  | .unregister r _, id, s => id = r.actor ∧ r.Releases s
  | .unregisterLocal _, _, s => ∃ u ∈ l.localRegistrations, u.Releases s
  | .applyMembership t, _, s =>
    ¬ t.version ≤ l.applied.version ∧
      (s.node ∈ t.newlyDeadSince l.applied ∨ ∃ p ∈ l.pending, p.Releases s)
  | .place .., _, _ | .invalidate _, _, _ | .observe _, _, _ | .host _, _, _ | .release _, _, _
  | .drain, _, _ => False

/-! ### The view of the membership -/

/-- The membership that a call hands over. -/
def Call.snapshot? : Call → Option Snapshot
  | .observe s | .applyMembership s => some s
  | _ => none

/-- What a locator knows of the membership, and the deletions that are pending. -/
def view (l : Locator) : Snapshot × Snapshot × List Registration :=
  (l.current, l.applied, l.pending)

/-- Says that `l'` is `l`, except for what is hosted and what is cached. -/
def SameMembership (l l' : Locator) : Prop := ∃ catalog cache, l' = { l with catalog, cache }

/-- A locator knows the same of the membership as itself. -/
theorem SameMembership.refl (l : Locator) : l.SameMembership l := ⟨l.catalog, l.cache, rfl⟩

/-- Two steps that change at most what is hosted and what is cached change nothing else together. -/
theorem SameMembership.trans {l l' l'' : Locator} (h : l.SameMembership l')
    (h' : l'.SameMembership l'') : l.SameMembership l'' := by
  obtain ⟨_, _, rfl⟩ := h
  obtain ⟨catalog, cache, rfl⟩ := h'
  exact ⟨catalog, cache, rfl⟩

/-- Locators that know the same of the membership have the same view of it. -/
theorem SameMembership.view {l l' : Locator} (h : l.SameMembership l') : l'.view = l.view := by
  obtain ⟨_, _, rfl⟩ := h
  rfl

section View

variable {σ : Type} [Backend σ]

/-- Asking the directory changes at most what is cached. -/
theorem sameMembership_resolveRemotely (l : Locator) (d : Directory σ) (id : ActorId) :
    l.SameMembership (l.resolveRemotely d id).2.1 := by
  unfold resolveRemotely
  split
  · exact .refl l
  · exact .refl l
  · split
    · exact .refl l
    · exact ⟨_, _, rfl⟩

/-- Forgetting activations changes at most what is cached. -/
theorem sameMembership_foldl_forgetActivation (rs : List Registration) (l : Locator) :
    l.SameMembership (rs.foldl forgetActivation l) := by
  induction rs generalizing l with
  | nil => exact .refl l
  | cons r rs ih =>
    have hfirst : l.SameMembership (l.forgetActivation r) := ⟨_, _, rfl⟩
    exact hfirst.trans (ih (l.forgetActivation r))

/-- Unless a membership is handed over, a call changes nothing but what is hosted and what is
cached.

**Proof sketch.** By the call, and for each one by the branches of its definition.  In every branch
the locator that is left is the one before with another catalog or another cache, or it comes from
two steps of this kind, as when an actor is forgotten before the directory is asked. -/
theorem sameMembership_perform (l : Locator) (d : Directory σ) {c : Call}
    (hc : c.snapshot? = none) : l.SameMembership (l.perform d c).2.1 := by
  cases c with
  | resolve id =>
    change l.SameMembership (l.resolve d id).2.1
    unfold resolve
    split
    · exact .refl l
    · split
      · exact l.sameMembership_resolveRemotely d id
      · -- What is cached may be on a dead node, and is forgotten before the directory is asked.
        split
        · have hforget : l.SameMembership (l.forget id) := ⟨_, _, rfl⟩
          exact hforget.trans ((l.forget id).sameMembership_resolveRemotely d id)
        · exact .refl l
  | register r =>
    change l.SameMembership (l.register d r).2.1
    unfold register
    split
    · exact .refl l
    · split
      · exact .refl l
      · exact ⟨_, _, rfl⟩
  | unregister r cause =>
    change l.SameMembership (l.unregister d r cause).2.1
    unfold unregister
    split
    · exact .refl l
    · exact ⟨_, _, rfl⟩
  | invalidate r =>
    change l.SameMembership (l.invalidate r).2
    unfold invalidate
    split
    · exact ⟨_, _, rfl⟩
    · exact .refl l
  | unregisterLocal cause =>
    have hdrain : l.SameMembership { l with catalog := l.catalog.drain.2 } := ⟨_, _, rfl⟩
    exact hdrain.trans (sameMembership_foldl_forgetActivation l.localRegistrations _)
  | host h =>
    rw [perform]
    split
    · exact ⟨_, _, rfl⟩
    · exact .refl l
  | place | release | drain => exact ⟨_, _, rfl⟩
  | observe | applyMembership => contradiction

/-- The view changes only when a membership is handed over. -/
theorem view_perform (l : Locator) (d : Directory σ) {c : Call} (hc : c.snapshot? = none) :
    (l.perform d c).2.1.view = l.view := (l.sameMembership_perform d hc).view

end View

variable {σ : Type} [Backend σ] [LawfulBackend σ]

/-! ### Finding actors -/

/-- Asking the directory deletes at most a registration of the actor on a dead node.

**Proof sketch.** A look-up changes nothing that is held, whatever it answers.  If it finds a
registration on a dead node, this is deleted.  It is one of the actor, as the directory is well
keyed, and it releases only what is on the same node. -/
theorem resolveRemotely_evolves (l : Locator) {d : Directory σ} (hd : d.contents.WellKeyed)
    (id : ActorId) :
    d.contents.Evolves (fun id' s => id' = id ∧ l.current.IsDead s.node)
      (l.resolveRemotely d id).2.2.contents := by
  have hlooked := d.looked id
  have hsame := d.contents_lookup id
  unfold resolveRemotely
  split
  · next heq =>
    rw [heq] at hsame
    exact hsame ▸ .refl _ _
  · next heq =>
    rw [heq] at hsame
    exact hsame ▸ .refl _ _
  · next r d' heq =>
    rw [heq] at hlooked hsame
    dsimp only at hlooked hsame
    split
    · next hdead =>
      -- What is deleted is the registration found, which is on the dead node.
      have hr : r.actor = id := hd id r hlooked.eq_of_ok
      refine hsame ▸ (d'.unregistered r).evolves.mono ?_
      rintro id' s ⟨hid, hrel⟩
      exact ⟨hid.trans hr, hrel.1.2.2 ▸ hdead⟩
    · exact hsame ▸ .refl _ _

/-- Finding an actor deletes at most a registration of that actor on a dead node. -/
theorem resolve_evolves (l : Locator) {d : Directory σ} (hd : d.contents.WellKeyed)
    (id : ActorId) :
    d.contents.Evolves (fun id' s => id' = id ∧ l.current.IsDead s.node)
      (l.resolve d id).2.2.contents := by
  unfold resolve
  split
  · exact .refl _ _
  · split
    · exact l.resolveRemotely_evolves hd id
    · split
      · exact (l.forget id).resolveRemotely_evolves hd id
      · exact .refl _ _

/-! ### Registering activations -/

/-- Replacing deletes registrations of the actor on dead nodes.

**Proof sketch.** By induction on the number of attempts that are left, with what is stored under
the actor as the invariant.  An attempt deletes what is stored, which is on a dead node, and then
registers the activation.  If the registration has an answer, this is what is stored now, and the
induction hypothesis applies to it.  Where the loop ends without a failure, what it answers is what
is stored. -/
theorem replaceDead_evolves (l : Locator) {r stored : Registration} (n : Nat) {d : Directory σ}
    (hd : d.contents.WellKeyed) (hstored : d.contents r.actor = some stored) :
    d.contents.Evolves (fun id s => id = r.actor ∧ l.current.IsDead s.node)
        (l.replaceDead r n stored d).2.contents ∧
      ∀ s, (l.replaceDead r n stored d).1 = .ok s →
        (l.replaceDead r n stored d).2.contents r.actor = some s := by
  induction n generalizing stored d with
  | zero => exact ⟨.refl _ _, fun s hs => by rw [← Except.ok.inj hs]; exact hstored⟩
  | succ n ih =>
    unfold replaceDead
    split
    · exact ⟨.refl _ _, fun s hs => by rw [← Except.ok.inj hs]; exact hstored⟩
    · next hdead =>
      have hdead : l.current.IsDead stored.node :=
        Decidable.not_not.1 fun h => hdead (.inr h)
      -- What is stored is on a dead node, and so is whatever it releases.
      have hunregistered : d.contents.Evolves (fun id s => id = r.actor ∧ l.current.IsDead s.node)
          (d.unregister stored).2.contents := by
        refine (d.unregistered stored).evolves.mono ?_
        rintro id s ⟨hid, hrel⟩
        exact ⟨hid.trans (hd _ _ hstored), hrel.1.2.2 ▸ hdead⟩
      split
      · next heq =>
        rw [heq] at hunregistered
        exact ⟨hunregistered, fun s hs => by contradiction⟩
      · next d₁ heq =>
        rw [heq] at hunregistered
        have hregistered := d₁.registered r
        have hevolves := hunregistered.trans (hregistered.evolves _)
        split
        · next heq =>
          rw [heq] at hevolves
          exact ⟨hevolves, fun s hs => by contradiction⟩
        · next stored' d₂ heq =>
          rw [heq] at hregistered hevolves
          obtain ⟨h, hok⟩ := ih (hd.of_evolves hevolves) hregistered.eq_some_of_ok
          exact ⟨hevolves.trans h, hok⟩

/-- A registration deletes at most registrations of its actor on dead nodes, and what it returns is
held then.

**Proof sketch.** A registration by itself deletes nothing, and what it answers is held then.  The
loop of `replaceDead_evolves` starts from this.  If it ends without a failure, its answer is held,
and it is the one that is told and remembered. -/
theorem register_spec (l : Locator) {d : Directory σ} (hd : d.contents.WellKeyed)
    (r : Registration) :
    d.contents.Evolves (fun id s => id = r.actor ∧ l.current.IsDead s.node)
        (l.register d r).2.2.contents ∧
      ∀ o, (l.register d r).1 = .ok o →
        (l.register d r).2.2.contents r.actor = some o.registration ∧
          (o.won = true ↔ o.registration.SameActivation r) ∧
          (l.register d r).2.1 = l.remember o.registration := by
  have hregistered := d.registered r
  unfold register
  have hevolves := hregistered.evolves fun id s => id = r.actor ∧ l.current.IsDead s.node
  split
  · next heq =>
    rw [heq] at hevolves
    exact ⟨hevolves, fun o ho => by contradiction⟩
  · next stored d₁ heq =>
    rw [heq] at hregistered hevolves
    obtain ⟨h, hok⟩ := l.replaceDead_evolves maxReplacements (hd.of_evolves hevolves)
      hregistered.eq_some_of_ok
    -- The registration, and then the loop.
    have hall := hevolves.trans h
    split
    · next heq =>
      rw [heq] at hall
      exact ⟨hall, fun o ho => by contradiction⟩
    · next stored' d₂ heq =>
      rw [heq] at hall hok
      refine ⟨hall, fun o ho => ?_⟩
      rw [← Except.ok.inj ho]
      exact ⟨hok stored' rfl, by simp, rfl⟩

/-- If the actor has a registration on a live node, that is what everyone is told who registers the
actor. -/
theorem register_of_alive {l : Locator} {d : Directory σ} (hd : d.contents.WellKeyed)
    {r v : Registration} (hr : d.contents v.actor = some r) (halive : ¬ l.current.IsDead r.node)
    {o : Outcome} (ho : (l.register d v).1 = .ok o) :
    o.registration = r ∧ (o.won = true ↔ r.SameActivation v) := by
  obtain ⟨hevolves, hok⟩ := l.register_spec hd v
  obtain ⟨hheld, hwon, -⟩ := hok o ho
  have hkept := hevolves.keeps _ r hr fun h => halive h.2
  have heq : o.registration = r := Option.some.inj (hheld.symm.trans hkept)
  exact ⟨heq, heq ▸ hwon⟩

/-! ### Withdrawing activations -/

/-- A withdrawal deletes at most what its holder is entitled to delete, and drops the activation
from the cache if it succeeds. -/
theorem unregister_spec (l : Locator) (d : Directory σ) (r : Registration)
    (cause : UnregisterCause) :
    d.contents.Evolves (fun id s => id = r.actor ∧ r.Releases s)
        (l.unregister d r cause).2.2.contents ∧
      ((l.unregister d r cause).2.1 = l.forgetActivation r ∨
        (l.unregister d r cause).2.1 = l ∧
          (l.unregister d r cause).2.2.contents = d.contents) := by
  have h := d.unregistered r
  have hevolves := h.evolves
  unfold unregister
  split
  · next heq =>
    rw [heq] at h hevolves
    exact ⟨hevolves, .inr ⟨rfl, h.eq_of_error⟩⟩
  · next heq =>
    rw [heq] at hevolves
    exact ⟨hevolves, .inl rfl⟩

/-! ### All calls -/

/-- A call deletes nothing but what it may delete. -/
theorem perform_evolves (l : Locator) {d : Directory σ} (hd : d.contents.WellKeyed) (c : Call) :
    d.contents.Evolves (l.MayDelete c) (l.perform d c).2.2.contents := by
  cases c with
  | resolve id => exact l.resolve_evolves hd id
  | register r => exact (l.register_spec hd r).1
  | unregister r cause => exact (l.unregister_spec d r cause).1
  | unregisterLocal cause => exact d.evolves_unregisterMany l.localRegistrations
  | applyMembership s => exact l.applyMembership_evolves d s
  | host h =>
    rw [perform]
    split <;> exact .refl _ _
  | place | invalidate | observe | release | drain => exact .refl _ _

end Locator

end ActorLocation
