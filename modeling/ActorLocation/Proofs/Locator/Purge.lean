import ActorLocation.Proofs.Directory.Batches
import ActorLocation.Proofs.Locator.Reconcile
/-!
# What a pass leaves to be deleted

A pass takes over what is pending from the passes before, and what it drops from the cache itself
unless the backend deletes by nodes.  Each of these registrations is dealt with, or it is pending
again afterwards.  A backend that deletes by nodes leaves nothing pending, and a pass over it either
deletes everything on the nodes that have died or nothing.

## Main results

* `ActorLocation.Locator.freeOf_applyMembership` — what a pass takes over is dealt with or pending
  again.
* `ActorLocation.Locator.directory_of_error` — a pass fails only where the directory does.
* `ActorLocation.Locator.applyMembership_of_bulk` — a pass over a backend that deletes by nodes.
-/

namespace ActorLocation

/-- Nothing is dropped if there are no nodes. -/
theorem Contents.dropNodes_nil (c : Contents) : c.dropNodes [] = c := by
  funext id
  rw [dropNodes]
  cases c id <;> rfl

namespace Directory

variable {σ : Type} [Backend σ]

/-- A deletion by nodes fails only if the backend can delete by nodes. -/
theorem bulkRemoval_of_error {d d' : Directory σ} {nodes : List Node} {e : DirectoryError}
    (h : d.unregisterNodes nodes = (.error e, d')) : d.capabilities.bulkRemoval = true := by
  cases hbulk : d.capabilities.bulkRemoval with
  | true => rfl
  | false => simp [unregisterNodes, hbulk] at h

variable [LawfulBackend σ]

/-- A backend that deletes by nodes does so, or it fails without effect. -/
theorem unregisterNodes_of_bulk (d : Directory σ) (hbulk : d.capabilities.bulkRemoval = true)
    (nodes : List Node) :
    (∃ l, (d.unregisterNodes nodes).1 = .ok (.removed l) ∧
        (d.unregisterNodes nodes).2.contents = d.contents.dropNodes nodes) ∨
      ∃ e, (d.unregisterNodes nodes).1 = .error e ∧
        (d.unregisterNodes nodes).2.contents = d.contents := by
  have h := LawfulBackend.dropped d.backend nodes hbulk
  rw [unregisterNodes, if_pos hbulk]
  rcases hb : Backend.unregisterNodes d.backend nodes with ⟨answer, s⟩
  rw [hb] at h
  change Dropped d.contents nodes answer (LawfulBackend.contents s) at h
  generalize hcontents : LawfulBackend.contents s = c' at h
  cases h with
  | dropped l => exact .inl ⟨l, rfl, hcontents⟩
  | failed e => exact .inr ⟨e, rfl, hcontents⟩

end Directory

namespace Locator

variable {σ : Type} [Backend σ]

/-- A pass drops nothing from the cache if no node has died. -/
theorem evictedBy_eq_nil {l : Locator} {s : Snapshot} (h : s.newlyDeadSince l.applied = []) :
    l.evictedBy s = [] := by
  rw [evictedBy, h]
  simp

/-- What was pending is left over when a deletion by nodes does not fail, and so is what was evicted
if the backend cannot delete by nodes.

**Proof sketch.** By the branches of the definition.  If there are no dead nodes, or the backend has
deleted by nodes, what was pending is left over and nothing else; but a backend that cannot delete
by nodes does not answer that it has done so.  If it has said that it cannot, both are left over. -/
theorem mem_leftovers {l l' : Locator} {d d' : Directory σ} {dead : List Node}
    {evicted leftovers : List Registration}
    (h : l.purgeNodes d dead evicted = (.ok leftovers, l', d')) {p : Registration}
    (hp : p ∈ l.pending ∨ d.capabilities.bulkRemoval = false ∧ dead ≠ [] ∧ p ∈ evicted) :
    p ∈ leftovers := by
  rw [purgeNodes] at h
  split at h
  · next hdead =>
    rw [← Except.ok.inj (Prod.mk.inj h).1]
    rcases hp with hp | ⟨-, hne, -⟩
    · exact hp
    · exact absurd (List.isEmpty_iff.1 hdead) hne
  · split at h
    · next hremoved =>
      rw [← Except.ok.inj (Prod.mk.inj h).1]
      rcases hp with hp | ⟨hbulk, -, -⟩
      · exact hp
      · -- A backend that cannot delete by nodes does not say that it has done so.
        simp [Directory.unregisterNodes, hbulk] at hremoved
    · rw [← Except.ok.inj (Prod.mk.inj h).1]
      exact List.mem_append.2 (hp.imp id fun hp => hp.2.2)
    · simp at h

/-- A deletion by nodes fails where the directory fails, which is the end of it, and what was
pending stays pending then. -/
theorem purgeNodes_error {l l' : Locator} {d d' : Directory σ} {dead : List Node}
    {evicted : List Registration} {e : DirectoryError}
    (h : l.purgeNodes d dead evicted = (.error e, l', d')) :
    d.unregisterNodes dead = (.error e, d') ∧ l' = l := by
  rw [purgeNodes] at h
  split at h
  · simp at h
  · split at h
    · simp at h
    · simp at h
    · next hfailed =>
      obtain ⟨rfl, rfl, rfl⟩ := by simpa using h
      exact ⟨hfailed, rfl⟩

/-- Deletions one by one fail where the directory reports a failure, and that is the end of it. -/
theorem unregisterMany_of_purge {l l' : Locator} {d d' : Directory σ}
    {leftovers : List Registration} {e : DirectoryError}
    (h : l.purge d leftovers = (.error e, l', d')) :
    (d.unregisterMany leftovers).1.failures ≠ [] ∧ (d.unregisterMany leftovers).2 = d' := by
  rw [purge] at h
  split at h
  · simp at h
  · dsimp only at h
    split at h
    · simp at h
    · next hfailures =>
      rw [hfailures]
      exact ⟨List.cons_ne_nil _ _, (Prod.mk.inj (Prod.mk.inj h).2).2⟩

/-- A pass fails only where the directory does: it ends with a deletion by nodes that fails, or with
deletions one by one some of which fail.

**Proof sketch.** By the two parts of a pass.  If the first part fails, the deletion by nodes has
failed by `purgeNodes_error`.  If the second one does, the directory has reported failures by
`unregisterMany_of_purge`.  A pass that gets through both, or is not made at all, does not fail. -/
theorem directory_of_error {l : Locator} {d : Directory σ} {s : Snapshot} {e : LocatorError}
    (h : (l.applyMembership d s).1 = .error e) :
    (∃ dead e', d.unregisterNodes dead = (.error e', (l.applyMembership d s).2.2)) ∨
      ∃ (d₁ : Directory σ) (leftovers : List Registration),
        (d₁.unregisterMany leftovers).1.failures ≠ [] ∧
          (d₁.unregisterMany leftovers).2 = (l.applyMembership d s).2.2 := by
  revert h
  rw [applyMembership]
  split
  · exact fun h => by contradiction
  · rw [reconcile, evict_observe]
    dsimp only
    rcases hnodes : (l.evicting s).purgeNodes d (s.newlyDeadSince l.applied) (l.evictedBy s) with
      ⟨e' | leftovers, l₁, d₁⟩
    · exact fun _ => .inl ⟨_, e', (purgeNodes_error hnodes).1⟩
    · dsimp only
      rcases hone : l₁.purge d₁ leftovers with ⟨e' | _, l₂, d₂⟩
      · exact fun _ => .inr ⟨d₁, leftovers, unregisterMany_of_purge hone⟩
      · -- Both parts have succeeded, so the pass does not fail.
        exact fun h => by contradiction

/-- Only a membership that is newer than the applied one is applied. -/
theorem newer_of_applied {l : Locator} {d : Directory σ} {s : Snapshot} {v : Version}
    {dead : List Node} {count : Nat}
    (h : (l.applyMembership d s).1 = .ok (.applied v dead count)) :
    ¬ s.version ≤ l.applied.version := by
  intro hv
  simp [applyMembership, hv] at h

variable [LawfulBackend σ]

/-- Of the registrations left over, each one is dealt with or pending afterwards.

**Proof sketch.** The directory deals with each of the registrations or reports it as failed, by
`Directory.freeOf_unregisterMany`.  Those that it reports are exactly the ones that are pending
afterwards. -/
theorem freeOf_purge (l : Locator) (d : Directory σ) {leftovers : List Registration}
    {p : Registration} (hp : p ∈ leftovers) :
    p ∈ (l.purge d leftovers).2.1.pending ∨ (l.purge d leftovers).2.2.contents.FreeOf p := by
  have h := d.freeOf_unregisterMany hp
  rw [purge, if_neg (by simpa using List.ne_nil_of_mem hp)]
  dsimp only
  split
  · next hnone =>
    rw [hnone] at h
    exact .inr (h.resolve_left (by simp))
  · next r e rest hsome =>
    rw [hsome] at h
    refine h.imp ?_ id
    rintro ⟨f, hf, rfl⟩
    exact List.mem_map_of_mem (f := Prod.fst) hf

/-- What was pending is dealt with in a pass for a newer membership or pending again afterwards, and
so is what the pass evicts if the backend cannot delete by nodes.

**Proof sketch.** By the outcome of the deletion by nodes.  If it fails, the backend can delete by
nodes, so the registration was pending, and stays so.  Otherwise the registration is left over by
`mem_leftovers`, where a registration that was evicted shows that some node has died; and the
deletions one by one deal with what is left over by `freeOf_purge`. -/
theorem freeOf_applyMembership {l : Locator} {d : Directory σ} {s : Snapshot}
    (hv : ¬ s.version ≤ l.applied.version) {p : Registration}
    (hp : p ∈ l.pending ∨ d.capabilities.bulkRemoval = false ∧ p ∈ l.evictedBy s) :
    p ∈ (l.applyMembership d s).2.1.pending ∨
      (l.applyMembership d s).2.2.contents.FreeOf p := by
  simp only [applyMembership, if_neg hv, reconcile, evict_observe]
  rcases hnodes : (l.evicting s).purgeNodes d (s.newlyDeadSince l.applied) (l.evictedBy s) with
    ⟨answer, l₁, d₁⟩
  cases answer with
  | error e =>
    obtain ⟨hfailed, rfl⟩ := purgeNodes_error hnodes
    -- A deletion by nodes fails only where the backend can make one.
    have hbulk := Directory.bulkRemoval_of_error hfailed
    rcases hp with hp | ⟨hnot, -⟩
    · exact .inl (by rwa [pending_evicting])
    · rw [hbulk] at hnot
      contradiction
  | ok leftovers =>
    have hleft : p ∈ leftovers := by
      refine mem_leftovers hnodes (hp.imp (by rw [pending_evicting]; exact id) ?_)
      rintro ⟨hbulk, hevicted⟩
      refine ⟨hbulk, fun hdead => ?_, hevicted⟩
      rw [evictedBy_eq_nil hdead] at hevicted
      contradiction
    have hpurge := l₁.freeOf_purge d₁ hleft
    dsimp only
    rcases hone : l₁.purge d₁ leftovers with ⟨answer, l₂, d₂⟩
    rw [hone] at hpurge
    cases answer with
    | error e => exact hpurge
    | ok _ => exact hpurge

/-- A deletion by nodes leaves over what was pending if the backend can do it, unless it fails.

**Proof sketch.** If no node has died, nothing is deleted, and there is nothing on no nodes.
Otherwise the backend deletes everything on the nodes or fails without effect, by
`Directory.unregisterNodes_of_bulk`, and what was pending is left over or stays pending. -/
theorem purgeNodes_of_bulk (l : Locator) {d : Directory σ}
    (hbulk : d.capabilities.bulkRemoval = true) (dead : List Node) (evicted : List Registration) :
    (∃ d', l.purgeNodes d dead evicted = (.ok l.pending, { l with pending := [] }, d') ∧
        d'.contents = d.contents.dropNodes dead) ∨
      ∃ e d', l.purgeNodes d dead evicted = (.error e, l, d') ∧ d'.contents = d.contents := by
  rw [purgeNodes]
  split
  · next hdead =>
    refine .inl ⟨d, rfl, ?_⟩
    rw [List.isEmpty_iff.1 hdead, Contents.dropNodes_nil]
  · rcases d.unregisterNodes_of_bulk hbulk dead with ⟨removed, hanswer, hd⟩ | ⟨e, hanswer, hd⟩
    all_goals
      rcases hnodes : d.unregisterNodes dead with ⟨answer, d'⟩
      rw [hnodes] at hanswer hd
      obtain rfl := hanswer
    · exact .inl ⟨d', rfl, hd⟩
    · exact .inr ⟨e, d', rfl, hd⟩

/-- A pass for a newer membership, over a backend that deletes by nodes and with nothing pending:
everything on the nodes that have died is deleted and the membership is applied, or the deletion
fails without effect.  Nothing is pending afterwards. -/
theorem applyMembership_of_bulk {l : Locator} {d : Directory σ} {s : Snapshot}
    (hv : ¬ s.version ≤ l.applied.version) (hbulk : d.capabilities.bulkRemoval = true)
    (hpending : l.pending = []) :
    (l.applyMembership d s).2.1.pending = [] ∧
      ((∃ answer, (l.applyMembership d s).1 = .ok answer ∧
          (l.applyMembership d s).2.2.contents =
            d.contents.dropNodes (s.newlyDeadSince l.applied)) ∨
        ∃ e, (l.applyMembership d s).1 = .error e ∧
          (l.applyMembership d s).2.2.contents = d.contents) := by
  have hnothing : (l.evicting s).pending = [] := by rw [pending_evicting, hpending]
  simp only [applyMembership, if_neg hv, reconcile, evict_observe]
  rcases (l.evicting s).purgeNodes_of_bulk hbulk (s.newlyDeadSince l.applied) (l.evictedBy s) with
    ⟨d', heq, hd⟩ | ⟨e, d', heq, hd⟩
  · rw [heq, hnothing]
    exact ⟨rfl, .inl ⟨_, rfl, hd⟩⟩
  · rw [heq]
    exact ⟨hnothing, .inr ⟨_, rfl, hd⟩⟩

end Locator

end ActorLocation
