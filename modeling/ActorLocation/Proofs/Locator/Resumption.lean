import ActorLocation.Proofs.Directory.Deletions
import ActorLocation.Proofs.Locator.Cleanup
/-!
# Passes that were interrupted

A pass in which a deletion fails has already changed the cache, the current membership and part of
the directory.  What it leaves to the next pass for the same membership is exactly what is missing:
once no deletion fails, cache, directory and memberships are as if the first pass had succeeded.

## Main definitions

* `ActorLocation.Locator.leftovers` — the registrations that a pass deletes one by one.
* `ActorLocation.Locator.cleaned` — what a pass makes of a directory if no deletion fails.

## Main results

* `ActorLocation.Locator.applyMembership_repaired` — a pass in which no deletion fails.
* `ActorLocation.Locator.applyMembership_of_error` — a pass that failed leaves to the next one what
  is missing.
* `ActorLocation.Locator.redone_eq_uninterrupted` — a pass that was interrupted and done again is as
  good as one that was not interrupted.
-/

namespace ActorLocation

namespace Locator

/-- The registrations that a pass for `s` deletes one by one: what is pending and, unless the
backend deletes by nodes, what the pass drops from the cache. -/
def leftovers (l : Locator) (s : Snapshot) (bulk : Bool) : List Registration :=
  l.pending ++ if bulk then [] else l.evictedBy s

/-- Says that a registration is on a node for which a pass for `s` asks the backend to delete by
nodes. -/
def onNewlyDead (l : Locator) (s : Snapshot) (bulk : Bool) : ActorId → Registration → Bool :=
  fun _ r => bulk && decide (r.node ∈ s.newlyDeadSince l.applied)

/-- What a pass for `s` makes of a directory if no deletion fails. -/
def cleaned {σ : Type} [Backend σ] [RepairableBackend σ] (l : Locator) (s : Snapshot) (bulk : Bool)
    (d : Directory σ) : Directory σ :=
  (d.discard (l.onNewlyDead s bulk)).discard (releasedBy (l.leftovers s bulk))

/-- The locator with other pending deletions. -/
def withPending (l : Locator) (pending : List Registration) : Locator := { l with pending }

/-- The locator after a pass for `s` that was applied. -/
def past (l : Locator) (s : Snapshot) : Locator := ((l.evicting s).withPending []).markApplied s

/-- The last list of pending deletions counts. -/
@[simp] theorem withPending_withPending (l : Locator) (p q : List Registration) :
    (l.withPending p).withPending q = l.withPending q := rfl

/-- A membership that is seen becomes the current one if it is newer. -/
theorem current_observe (l : Locator) (s : Snapshot) :
    (l.observe s).2.current = if l.current.version < s.version then s else l.current := by
  rw [observe_snd]

/-- Nothing is dropped from the cache by the next pass for the same membership. -/
theorem evictedBy_evicting (l : Locator) (s : Snapshot) : (l.evicting s).evictedBy s = [] := by
  rw [List.eq_nil_iff_forall_not_mem]
  intro r hr
  obtain ⟨hr, hdead⟩ := List.mem_filter.1 hr
  obtain ⟨id, hid⟩ := Table.mem_values_iff.1 hr
  have hcached : (l.evicting s).cached? id = some r := hid
  rw [cached?_evicting, Option.filter_eq_some_iff] at hcached
  rw [applied_evicting] at hdead
  exact of_decide_eq_true hcached.2 (of_decide_eq_true hdead)

/-- The cache and the current membership are as the next pass for the same membership leaves
them. -/
theorem evicting_evicting (l : Locator) (s : Snapshot) :
    (l.evicting s).evicting s = l.evicting s := by
  have hcurrent : ((l.evicting s).observe s).2.current = (l.evicting s).current := by
    rw [evicting_eq, current_observe, current_observe]
    split
    · exact ite_self s
    · rfl
  have hcache : ((l.evicting s).cache.filter
      fun _ r => r.node ∉ s.newlyDeadSince (l.evicting s).applied) = (l.evicting s).cache := by
    rw [applied_evicting, evicting_eq]
    simp [Table.filter_filter]
  rw [evicting_eq, hcurrent, hcache]

/-- What is pending plays no part in that. -/
theorem evicting_withPending (l : Locator) (s : Snapshot) (pending : List Registration) :
    (l.withPending pending).evicting s = (l.evicting s).withPending pending := by
  simp only [evicting_eq, current_observe, withPending]

/-- The next pass for the same membership finds the same nodes dead, since evicting does not count
as applying. -/
theorem onNewlyDead_evicting (l : Locator) (s : Snapshot) (pending : List Registration)
    (bulk : Bool) :
    ((l.evicting s).withPending pending).onNewlyDead s bulk = l.onNewlyDead s bulk :=
  congrArg (fun t _ (r : Registration) => bulk && decide (r.node ∈ s.newlyDeadSince t))
    (l.applied_evicting s)

/-- The next pass for the same membership deletes one by one what is pending, as nothing is cached
any more on the nodes that have died. -/
theorem leftovers_evicting (l : Locator) (s : Snapshot) (pending : List Registration)
    (bulk : Bool) : ((l.evicting s).withPending pending).leftovers s bulk = pending := by
  have hevicted : ((l.evicting s).withPending pending).evictedBy s = [] := l.evictedBy_evicting s
  rw [leftovers, hevicted, ite_self]
  exact List.append_nil pending

/-- It does not matter if a pass for the same membership has failed before. -/
theorem past_evicting (l : Locator) (s : Snapshot) (pending : List Registration) :
    ((l.evicting s).withPending pending).past s = l.past s := by
  rw [past, evicting_withPending, evicting_evicting]
  rfl

/-- What a pass does to a directory does not change what its backend can do. -/
@[simp] theorem capabilities_cleaned {σ : Type} [Backend σ] [RepairableBackend σ] (l : Locator)
    (s : Snapshot) (bulk : Bool) (d : Directory σ) :
    (l.cleaned s bulk d).capabilities = d.capabilities := by
  simp only [cleaned, Directory.capabilities_discard]

section Passes

variable {σ : Type} [Backend σ] {l : Locator} {d : Directory σ} {s : Snapshot}

/-- Nothing is deleted by nodes if no node has died, or if the backend cannot do that. -/
theorem purgeNodes_of_idle
    (h : s.newlyDeadSince l.applied = [] ∨ d.capabilities.bulkRemoval = false) :
    (l.evicting s).purgeNodes d (s.newlyDeadSince l.applied) (l.evictedBy s) =
        (.ok (l.leftovers s d.capabilities.bulkRemoval), (l.evicting s).withPending [], d) ∧
      l.onNewlyDead s d.capabilities.bulkRemoval = fun _ _ => false := by
  by_cases hdead : s.newlyDeadSince l.applied = []
  · constructor
    · simp [purgeNodes, hdead, leftovers, evictedBy_eq_nil hdead, pending_evicting, withPending]
    · funext _ r
      simp [onNewlyDead, hdead]
  · have hbulk := h.resolve_left hdead
    constructor
    · rw [purgeNodes, if_neg (by simpa using hdead), Directory.unregisterNodes_of_not_bulk hbulk]
      simp [hbulk, leftovers, pending_evicting, withPending]
    · funext _ r
      simp [onNewlyDead, hbulk]

/-- A deletion by nodes leaves over what was pending. -/
theorem purgeNodes_of_removed (hdead : s.newlyDeadSince l.applied ≠ [])
    {removed : List Registration} {d₁ : Directory σ}
    (h : d.unregisterNodes (s.newlyDeadSince l.applied) = (.ok (.removed removed), d₁)) :
    (l.evicting s).purgeNodes d (s.newlyDeadSince l.applied) (l.evictedBy s) =
      (.ok (l.leftovers s true), (l.evicting s).withPending [], d₁) := by
  rw [purgeNodes, if_neg (by simpa using hdead), h]
  simp [leftovers, pending_evicting, withPending]

variable [RepairableBackend σ] (l d s)

/-- While the backend is in reach, a deletion by nodes does what it can. -/
theorem purgeNodes_repaired :
    (l.evicting s).purgeNodes d.repaired (s.newlyDeadSince l.applied) (l.evictedBy s) =
      (.ok (l.leftovers s d.capabilities.bulkRemoval), (l.evicting s).withPending [],
        d.repaired.discard (l.onNewlyDead s d.capabilities.bulkRemoval)) := by
  by_cases hidle : s.newlyDeadSince l.applied = [] ∨ d.capabilities.bulkRemoval = false
  · rw [← d.capabilities_repaired] at hidle ⊢
    obtain ⟨hpurge, hnothing⟩ := purgeNodes_of_idle hidle
    rw [hpurge, hnothing, Directory.discard_false]
  · obtain ⟨hdead, hbulk⟩ := not_or.1 hidle
    rw [Bool.not_eq_false] at hbulk
    obtain ⟨removed, h⟩ := d.unregisterNodes_repaired hbulk (s.newlyDeadSince l.applied)
    rw [purgeNodes_of_removed hdead h, hbulk]
    rfl

/-- A deletion by nodes does what it can, or it fails without effect. -/
theorem purgeNodes_cases :
    (∃ d₁, (l.evicting s).purgeNodes d (s.newlyDeadSince l.applied) (l.evictedBy s) =
          (.ok (l.leftovers s d.capabilities.bulkRemoval), (l.evicting s).withPending [], d₁) ∧
        d₁.repaired = d.repaired.discard (l.onNewlyDead s d.capabilities.bulkRemoval)) ∨
      ∃ e d₁, (l.evicting s).purgeNodes d (s.newlyDeadSince l.applied) (l.evictedBy s) =
          (.error e, l.evicting s, d₁) ∧
        d₁.repaired = d.repaired ∧ d.capabilities.bulkRemoval = true := by
  by_cases hidle : s.newlyDeadSince l.applied = [] ∨ d.capabilities.bulkRemoval = false
  · obtain ⟨hpurge, hnothing⟩ := purgeNodes_of_idle hidle
    exact .inl ⟨d, hpurge, by rw [hnothing, Directory.discard_false]⟩
  · obtain ⟨hdead, hbulk⟩ := not_or.1 hidle
    rw [Bool.not_eq_false] at hbulk
    rcases d.unregisterNodes_cases hbulk (s.newlyDeadSince l.applied) with
      ⟨removed, d₁, h, hd⟩ | ⟨e, d₁, h, hd⟩
    · rw [hbulk]
      exact .inl ⟨d₁, purgeNodes_of_removed hdead h, hd⟩
    · rw [purgeNodes, if_neg (by simpa using hdead), h]
      exact .inr ⟨e, d₁, rfl, hd, hbulk⟩

variable [LawfulBackend σ]

/-- While the backend is in reach, all deletions one by one succeed. -/
theorem purge_repaired (rs : List Registration) :
    l.purge d.repaired rs = (.ok (), l, d.repaired.discard (releasedBy rs)) := by
  rw [purge]
  split
  · next h =>
    rw [List.isEmpty_iff.1 h]
    exact congrArg (fun d => (Except.ok (), l, d)) d.repaired.discard_false.symm
  · rw [d.unregisterMany_repaired rs]

/-- Deletions one by one succeed, or those that failed stay pending.

**Proof sketch.** The deletions that have succeeded, together with those that are reported as
failed, come to the same as all of them, by `Directory.discard_unregisterMany`.  If none is
reported, they have done everything.  Otherwise those that are reported stay pending. -/
theorem purge_cases (rs : List Registration) :
    (∃ d₁, l.purge d rs = (.ok (), l, d₁) ∧ d₁.repaired = d.repaired.discard (releasedBy rs)) ∨
      ∃ e pending d₁, l.purge d rs = (.error e, l.withPending pending, d₁) ∧
        d₁.repaired.discard (releasedBy pending) = d.repaired.discard (releasedBy rs) := by
  have h := d.discard_unregisterMany rs
  rw [purge]
  split
  · next hnone =>
    rw [List.isEmpty_iff.1 hnone]
    exact .inl ⟨d, rfl, d.repaired.discard_false.symm⟩
  · dsimp only
    split
    · next hnone =>
      rw [hnone] at h
      exact .inl ⟨_, rfl, (Directory.discard_false _).symm.trans h⟩
    · next r e rest hsome =>
      rw [hsome] at h
      exact .inr ⟨_, _, _, rfl, h⟩

/-- A pass for a newer membership in which no deletion fails is applied. -/
theorem applyMembership_repaired (hv : ¬ s.version ≤ l.applied.version) :
    l.applyMembership d.repaired s =
      (.ok (.applied s.version (s.newlyDeadSince l.applied) (l.evictedBy s).length),
        l.past s, l.cleaned s d.capabilities.bulkRemoval d.repaired) := by
  have hpurge := purge_repaired ((l.evicting s).withPending [])
    (d.discard (l.onNewlyDead s d.capabilities.bulkRemoval))
    (l.leftovers s d.capabilities.bulkRemoval)
  rw [Directory.repaired_discard] at hpurge
  simp only [applyMembership, if_neg hv, reconcile, evict_observe, purgeNodes_repaired, hpurge]
  rfl

variable {l d s}

/-- A pass that failed has dropped what it had to drop from the cache, and what is missing in the
directory is what the next pass for the same membership does to it.

**Proof sketch.** A stale pass does not fail.  If the deletion by nodes has succeeded, what the
deletions one by one have left to be done is pending by `purge_cases`; that the next pass deletes by
nodes once more changes nothing, since deletions can be done in any order and twice.  If the
deletion by nodes has failed, nothing has been done, and what was pending still is.  In either case
the next pass evicts nothing and finds the same nodes dead. -/
theorem applyMembership_of_error {l₁ : Locator} {d₁ : Directory σ} {e : LocatorError}
    (h : l.applyMembership d s = (.error e, l₁, d₁)) :
    ¬ s.version ≤ l.applied.version ∧ (∃ pending, l₁ = (l.evicting s).withPending pending) ∧
      l₁.cleaned s d.capabilities.bulkRemoval d₁.repaired =
        l.cleaned s d.capabilities.bulkRemoval d.repaired := by
  by_cases hv : s.version ≤ l.applied.version
  · simp [applyMembership, hv] at h
  refine ⟨hv, ?_⟩
  simp only [applyMembership, if_neg hv, reconcile, evict_observe] at h
  rcases purgeNodes_cases l d s with ⟨d₂, hnodes, hd₂⟩ | ⟨e, d₂, hnodes, hd₂, hbulk⟩
  · rcases purge_cases ((l.evicting s).withPending []) d₂
      (l.leftovers s d.capabilities.bulkRemoval) with
      ⟨d₃, hpurge, -⟩ | ⟨e, pending, d₃, hpurge, hd₃⟩
    · simp [hnodes, hpurge] at h
    · obtain ⟨-, rfl, rfl⟩ : _ ∧ (l.evicting s).withPending pending = l₁ ∧ d₃ = d₁ := by
        simpa [hnodes, hpurge] using h
      refine ⟨⟨pending, rfl⟩, ?_⟩
      -- Deleting by nodes once more changes nothing.
      rw [cleaned, onNewlyDead_evicting, leftovers_evicting, Directory.discard_comm, hd₃, hd₂,
        Directory.discard_comm, Directory.discard_self, cleaned]
  · -- The backend deletes by nodes, so nothing is left over but what was pending.
    obtain ⟨-, rfl, rfl⟩ : _ ∧ l.evicting s = l₁ ∧ d₂ = d₁ := by simpa [hnodes] using h
    have hl : l.evicting s = (l.evicting s).withPending l.pending := by
      rw [← pending_evicting l s]
      rfl
    refine ⟨⟨l.pending, hl⟩, ?_⟩
    rw [hl, cleaned, onNewlyDead_evicting, leftovers_evicting, hd₂, cleaned, hbulk, leftovers,
      if_pos rfl, List.append_nil]

/-- What a pass that failed was meant to do is done by the next pass for the same membership in
which no deletion fails. -/
theorem applyMembership_again {l₁ : Locator} {d₁ : Directory σ}
    {e : LocatorError} (h : l.applyMembership d s = (.error e, l₁, d₁)) :
    l₁.applyMembership d₁.repaired s =
      (.ok (.applied s.version (s.newlyDeadSince l.applied) 0),
        (l.applyMembership d.repaired s).2) := by
  obtain ⟨hv, ⟨pending, rfl⟩, hcleaned⟩ := applyMembership_of_error h
  have happlied : ((l.evicting s).withPending pending).applied = l.applied := l.applied_evicting s
  have hcapabilities : d₁.capabilities = d.capabilities := by
    simpa using congrArg Directory.capabilities hcleaned
  have hevicted : ((l.evicting s).withPending pending).evictedBy s = [] := l.evictedBy_evicting s
  rw [applyMembership_repaired _ _ _ (by rwa [happlied]), applyMembership_repaired _ _ _ hv,
    hcapabilities, hcleaned, happlied, hevicted, past_evicting]
  rfl

/-- However often a pass fails, the next one for the same membership in which no deletion fails
leaves behind what the first one would have left. -/
theorem applyMembership_after_attempts {l : Locator} {d : Directory (Flaky σ)}
    {os : List Outages}
    (h : ∀ a ∈ (l.runUnder d (os.map fun o => (o, .applyMembership s))).1,
      ∃ e, a = .reconciled (.error e)) :
    ((l.runUnder d (os.map fun o => (o, .applyMembership s))).2.1.applyMembership
        (l.runUnder d (os.map fun o => (o, .applyMembership s))).2.2.repaired s).2 =
      (l.applyMembership d.repaired s).2 := by
  induction os generalizing l d with
  | nil => rfl
  | cons o os ih =>
    obtain ⟨e, he⟩ := h _ List.mem_cons_self
    have hfirst : l.applyMembership (d.under o) s = (.error e, _, _) :=
      Prod.ext (Reply.reconciled.inj he) rfl
    have hrest := ih fun a ha => h a (List.mem_cons_of_mem _ ha)
    have hagain := congrArg Prod.snd (applyMembership_again hfirst)
    exact hrest.trans hagain

end Passes

/-- A pass that is interrupted because some deletions fail, or because the store is switched off,
and that is done again once nothing fails is applied like a pass that was not interrupted.  It
reports the same version and the same nodes, and leaves the same locator and the same directory
behind, with nothing pending.  Only the number of registrations that it drops from the cache is
another, since they were dropped when it was interrupted. -/
theorem redone_eq_uninterrupted {l l₁ : Locator}
    {d d₁ : Directory (Flaky (AnyBackend MemoryStore))} {s : Snapshot} {e : LocatorError}
    (hfailed : l.applyMembership d s = (.error e, l₁, d₁)) :
    (l.applyMembership d.repaired s).1 =
        .ok (.applied s.version (s.newlyDeadSince l.applied) (l.evictedBy s).length) ∧
      (l₁.applyMembership d₁.repaired s).1 =
        .ok (.applied s.version (s.newlyDeadSince l.applied) 0) ∧
      (l₁.applyMembership d₁.repaired s).2 = (l.applyMembership d.repaired s).2 ∧
      (l₁.applyMembership d₁.repaired s).2.1.pending = [] ∧
      (l₁.applyMembership d₁.repaired s).2.1.applied = s := by
  have huninterrupted := applyMembership_repaired l d s (applyMembership_of_error hfailed).1
  have hagain := applyMembership_again hfailed
  rw [hagain, huninterrupted]
  exact ⟨rfl, rfl, rfl, rfl, rfl⟩

/-- Another activation on the second node. -/
def departedToo : Registration := ⟨⟨⟨1⟩, "timer"⟩, .loopback 2 1, ⟨2⟩, none⟩

/-- The answers, the locator and the directory after both have been registered. -/
def bothRegistered : List Reply × Locator × Directory (Flaky (AnyBackend MemoryStore)) :=
  (start (.loopback 1 1) {} bothActive).runUnder oneByOne
    [({}, .register departed), ({}, .register departedToo)]

/-- The answer, the locator and the directory after a pass in which only the second deletion
fails. -/
def halfway :
    Except LocatorError Reconciliation × Locator × Directory (Flaky (AnyBackend MemoryStore)) :=
  bothRegistered.2.1.applyMembership (bothRegistered.2.2.under { changes := [false, true] })
    secondDead

/-- If a pass deletes one registration and fails to delete another one, the next pass deletes that
one as well, although nothing is cached any more. -/
theorem redone_eq_uninterrupted_halfway :
    halfway.2.2.contents departed.actor = none ∧
      halfway.2.2.contents departedToo.actor = some (departedToo.withEtag ⟨2⟩) ∧
      (halfway.2.1.applyMembership halfway.2.2.repaired secondDead).1 =
        .ok (.applied ⟨2⟩ [.loopback 2 1] 0) ∧
      (halfway.2.1.applyMembership halfway.2.2.repaired secondDead).2 =
        (bothRegistered.2.1.applyMembership
          (bothRegistered.2.2.under { changes := [false, true] }).repaired secondDead).2 := by
  have hfailed : bothRegistered.2.1.applyMembership
      (bothRegistered.2.2.under { changes := [false, true] }) secondDead =
        (.error (.directory Flaky.outage), halfway.2.1, halfway.2.2) := rfl
  obtain ⟨-, hanswer, hsame, -⟩ := redone_eq_uninterrupted hfailed
  exact ⟨rfl, rfl, hanswer, hsame⟩

end Locator

end ActorLocation
