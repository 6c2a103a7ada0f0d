import ActorLocation.Proofs.Locator.Progress
import ActorLocation.Proofs.Locator.Purge
/-!
# Runs of a locator

A registration that a pass has dropped from the cache is known to the locator only as long as it is
pending, so this module keeps record of what the passes of a run drop.

Between two calls other locators may do anything to the directory, and any operation may fail.  Most
of what is said about a run therefore holds whatever directory each call meets; a run over one flaky
directory is the case in which a call meets what the previous one has left.

## Main definitions

* `ActorLocation.Locator.runWith`, `Locator.evictionsWith` — calls in order, each with the directory
  that it meets, and what they drop from the cache.
* `ActorLocation.Locator.runUnder`, `Locator.evictionsAlong` — the same over one flaky directory.

## Main results

* `ActorLocation.Locator.freeOf_perform` — what is pending is dealt with or stays pending.
* `ActorLocation.Locator.mem_pending_runWith` — what is pending has been dropped in some pass.
* `ActorLocation.Locator.pending_runWith` — nothing is pending if the backend deletes by nodes.
-/

namespace ActorLocation

namespace Locator

/-! ### What a call drops from the cache -/

/-- The registrations that a call drops from the cache because their nodes have died, each with the
membership that says so. -/
def evictions (l : Locator) : Call → List (Snapshot × Registration)
  | .applyMembership s =>
    if s.version ≤ l.applied.version then [] else (l.evictedBy s).map fun r => (s, r)
  | _ => []

/-- Only a pass for a membership newer than the applied one drops registrations from the cache, and
they are those on nodes that have died. -/
theorem mem_evictions {l : Locator} {c : Call} {s : Snapshot} {r : Registration}
    (h : (s, r) ∈ l.evictions c) :
    c = .applyMembership s ∧ ¬ s.version ≤ l.applied.version ∧ r ∈ l.evictedBy s := by
  cases c with
  | applyMembership t =>
    rw [evictions] at h
    split at h
    · contradiction
    · next hv =>
      obtain ⟨r', hr', heq⟩ := List.mem_map.1 h
      obtain ⟨rfl, rfl⟩ := Prod.mk.inj heq
      exact ⟨rfl, hv, hr'⟩
  | resolve | place | register | unregister | invalidate | unregisterLocal | observe | host
  | release | drain => contradiction

/-- What is dropped was cached, and its node is dead. -/
theorem of_mem_evictedBy {l : Locator} {s : Snapshot} {r : Registration}
    (h : r ∈ l.evictedBy s) : (∃ id, l.cached? id = some r) ∧ s.IsDead r.node := by
  obtain ⟨hr, hdead⟩ := List.mem_filter.1 h
  exact ⟨Table.mem_values_iff.1 hr, (Snapshot.mem_newlyDeadSince.1 (of_decide_eq_true hdead)).2.1⟩

section Perform

variable {σ : Type} [Backend σ]

/-- Only a pass changes what is pending and which membership counts as applied.

**Proof sketch.** A call that hands over no membership changes neither by `view_perform`.  Of the
two calls that do, an observation changes at most the current membership, and the other one is a
pass. -/
theorem unchanged_perform (l : Locator) (d : Directory σ) {c : Call}
    (hc : ∀ s, c ≠ .applyMembership s) :
    (l.perform d c).2.1.pending = l.pending ∧ (l.perform d c).2.1.applied = l.applied := by
  cases hsnap : c.snapshot? with
  | none =>
    have hview := l.view_perform d hsnap
    simp only [view, Prod.mk.injEq] at hview
    exact ⟨hview.2.2, hview.2.1⟩
  | some s =>
    cases c with
    | observe t =>
      change (l.observe t).2.pending = _ ∧ (l.observe t).2.applied = _
      rw [observe]
      split <;> exact ⟨rfl, rfl⟩
    | applyMembership t => exact absurd rfl (hc t)
    | resolve | place | register | unregister | invalidate | unregisterLocal | host | release
    | drain => contradiction

/-- What is pending after a call was pending before, or the call has dropped it from the cache.

**Proof sketch.** Only a pass changes what is pending, by `unchanged_perform`.  It ends in one of
the ways of `Reconciled`.  A stale pass changes nothing and an applied one leaves nothing pending.
After a failed one, what is pending was pending before or has been evicted in the pass. -/
theorem mem_pending_perform {l : Locator} {d : Directory σ} {c : Call} {p : Registration}
    (hp : p ∈ (l.perform d c).2.1.pending) : p ∈ l.pending ∨ ∃ s, (s, p) ∈ l.evictions c := by
  by_cases hc : ∃ s, c = .applyMembership s
  · obtain ⟨s, rfl⟩ := hc
    have hreconciled := l.reconciled d s
    change p ∈ (l.applyMembership d s).2.1.pending at hp
    -- The ways in which a pass can end say what is pending after each.
    generalize (l.applyMembership d s).1 = answer at hreconciled
    generalize (l.applyMembership d s).2.1 = l' at hp hreconciled
    cases hreconciled with
    | stale _ => exact .inl hp
    | applied _ => contradiction
    | failed hv e pending hpending =>
      refine (hpending p hp).imp_right fun hevicted => ⟨s, ?_⟩
      rw [evictions, if_neg hv]
      exact List.mem_map_of_mem hevicted
  · rw [(l.unchanged_perform d fun s hs => hc ⟨s, hs⟩).1] at hp
    exact .inl hp

variable [LawfulBackend σ]

/-- What is pending is dealt with in a call or pending afterwards, and so is what the call drops
from the cache if the backend cannot delete by nodes.

**Proof sketch.** A pass for a newer membership deals with both, by `freeOf_applyMembership`.  Any
other call drops nothing from the cache and leaves what is pending as it is: it is no pass, or it is
a pass for a membership that is not newer, which changes nothing. -/
theorem freeOf_perform {l : Locator} {d : Directory σ} {c : Call} {p : Registration}
    (hp : p ∈ l.pending ∨
      d.capabilities.bulkRemoval = false ∧ ∃ s, (s, p) ∈ l.evictions c) :
    p ∈ (l.perform d c).2.1.pending ∨ (l.perform d c).2.2.contents.FreeOf p := by
  by_cases hc : ∃ s, c = .applyMembership s ∧ ¬ s.version ≤ l.applied.version
  · obtain ⟨s, rfl, hv⟩ := hc
    refine freeOf_applyMembership hv (hp.imp_right ?_)
    rintro ⟨hbulk, t, ht⟩
    obtain ⟨heq, -, hevicted⟩ := mem_evictions ht
    obtain rfl := Call.applyMembership.inj heq
    exact ⟨hbulk, hevicted⟩
  · -- There is no pass for a newer membership: what was pending still is, and nothing is dropped.
    rcases hp with hp | ⟨-, s, hs⟩
    · left
      by_cases hpass : ∃ s, c = .applyMembership s
      · obtain ⟨s, rfl⟩ := hpass
        have hv : s.version ≤ l.applied.version := Decidable.not_not.1 fun hv => hc ⟨s, rfl, hv⟩
        change p ∈ (l.applyMembership d s).2.1.pending
        rwa [applyMembership, if_pos hv]
      · rwa [(l.unchanged_perform d fun s hs => hpass ⟨s, hs⟩).1]
    · obtain ⟨heq, hv, -⟩ := mem_evictions hs
      exact absurd ⟨s, heq, hv⟩ hc

/-- A call leaves nothing pending if the backend deletes by nodes and nothing was pending before. -/
theorem pending_perform_of_bulk {l : Locator} {d : Directory σ}
    (hbulk : d.capabilities.bulkRemoval = true) (hpending : l.pending = []) (c : Call) :
    (l.perform d c).2.1.pending = [] := by
  by_cases hc : ∃ s, c = .applyMembership s
  · obtain ⟨s, rfl⟩ := hc
    change (l.applyMembership d s).2.1.pending = []
    by_cases hv : s.version ≤ l.applied.version
    · rwa [applyMembership, if_pos hv]
    · exact (applyMembership_of_bulk hv hbulk hpending).1
  · rwa [(l.unchanged_perform d fun s hs => hc ⟨s, hs⟩).1]

end Perform

/-! ### Runs with any directory -/

section RunWith

variable {σ : Type} [Backend σ]

/-- Performs calls in order, each with the directory that it meets, and returns the answers. -/
def runWith (l : Locator) : List (Directory σ × Call) → List Reply × Locator
  | [] => ([], l)
  | (d, c) :: cs =>
    let (reply, l, _) := l.perform d c
    let (replies, l) := l.runWith cs
    (reply :: replies, l)

/-- The registrations that the passes of a run drop from the cache, each with the membership that
the pass was for. -/
def evictionsWith (l : Locator) : List (Directory σ × Call) → List (Snapshot × Registration)
  | [] => []
  | (d, c) :: cs => l.evictions c ++ (l.perform d c).2.1.evictionsWith cs

/-- What is pending after a run was pending before, or some pass of the run has dropped it from the
cache. -/
theorem mem_pending_runWith {l : Locator} {cs : List (Directory σ × Call)} {p : Registration}
    (hp : p ∈ (l.runWith cs).2.pending) : p ∈ l.pending ∨ ∃ s, (s, p) ∈ l.evictionsWith cs := by
  induction cs generalizing l with
  | nil => exact .inl hp
  | cons dc cs ih =>
    rcases ih hp with hp | ⟨s, hs⟩
    · rcases mem_pending_perform hp with hp | ⟨s, hs⟩
      · exact .inl hp
      · exact .inr ⟨s, List.mem_append_left _ hs⟩
    · exact .inr ⟨s, List.mem_append_right _ hs⟩

/-- What a run drops from the cache is on a node that is dead in the membership of its pass. -/
theorem isDead_of_mem_evictionsWith {l : Locator} {cs : List (Directory σ × Call)} {s : Snapshot}
    {r : Registration} (h : (s, r) ∈ l.evictionsWith cs) : s.IsDead r.node := by
  induction cs generalizing l with
  | nil => contradiction
  | cons dc cs ih =>
    rcases List.mem_append.1 h with h | h
    · exact (of_mem_evictedBy (mem_evictions h).2.2).2
    · exact ih h

/-- Nothing is ever pending if the backend deletes by nodes. -/
theorem pending_runWith [LawfulBackend σ] {l : Locator} {cs : List (Directory σ × Call)}
    (hbulk : ∀ dc ∈ cs, dc.1.capabilities.bulkRemoval = true) (hpending : l.pending = []) :
    (l.runWith cs).2.pending = [] := by
  induction cs generalizing l with
  | nil => exact hpending
  | cons dc cs ih =>
    have hfirst := pending_perform_of_bulk (hbulk dc List.mem_cons_self) hpending dc.2
    exact ih (fun dc' h => hbulk dc' (List.mem_cons_of_mem _ h)) hfirst

end RunWith

/-! ### Runs over a flaky directory -/

section RunUnder

variable {σ : Type} [Backend σ]

/-- Performs calls in order, each under its own plan of failures, and returns the answers. -/
def runUnder (l : Locator) (d : Directory (Flaky σ)) :
    List (Outages × Call) → List Reply × Locator × Directory (Flaky σ)
  | [] => ([], l, d)
  | (o, c) :: cs =>
    let (reply, l, d) := l.perform (d.under o) c
    let (replies, l, d) := l.runUnder d cs
    (reply :: replies, l, d)

/-- The directories that the calls of a run meet. -/
def met (l : Locator) (d : Directory (Flaky σ)) :
    List (Outages × Call) → List (Directory (Flaky σ) × Call)
  | [] => []
  | (o, c) :: cs =>
    (d.under o, c) :: (l.perform (d.under o) c).2.1.met (l.perform (d.under o) c).2.2 cs

/-- A run over one directory is a run with the directories that it meets. -/
theorem runWith_met (l : Locator) (d : Directory (Flaky σ)) (cs : List (Outages × Call)) :
    l.runWith (l.met d cs) = ((l.runUnder d cs).1, (l.runUnder d cs).2.1) := by
  induction cs generalizing l d with
  | nil => rfl
  | cons oc cs ih =>
    have h := ih (l.perform (d.under oc.1) oc.2).2.1 (l.perform (d.under oc.1) oc.2).2.2
    simp only [met, runWith, runUnder, h]

/-- The registrations that the passes of a run drop from the cache. -/
def evictionsAlong (l : Locator) (d : Directory (Flaky σ)) (cs : List (Outages × Call)) :
    List (Snapshot × Registration) := l.evictionsWith (l.met d cs)

/-- How many registrations the calls of a run may store. -/
def registrationsIn (cs : List (Outages × Call)) : Nat :=
  (cs.map fun oc => oc.2.registrations).sum

end RunUnder

end Locator

end ActorLocation
