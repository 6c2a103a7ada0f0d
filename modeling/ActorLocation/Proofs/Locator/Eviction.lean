import ActorLocation.Directory.InMemory
import ActorLocation.Locator.Call
import ActorLocation.Proofs.Locator.Reconcile
import ActorLocation.Proofs.Membership.Death
/-!
# What stays cached after a membership has been applied

A pass looks for the dead among the nodes that are listed now or were listed when the last pass was
applied.  A registration on any other node stays cached, even if a later incarnation of that node
has joined since.

## Main results

* `ActorLocation.Locator.cached?_applyMembership` — the cache after a pass that was applied.
* `ActorLocation.Locator.cached_on_newly_dead_iff` — when a registration on a node that has died
  since the last pass stays cached: exactly if the node is not listed, neither now nor before.
-/

namespace ActorLocation

namespace Locator

variable {σ : Type} [Backend σ]

/-- What is cached after a pass that was applied was cached before, on a node that is not newly
dead. -/
theorem cached?_applyMembership {l : Locator} {d : Directory σ} {s : Snapshot} {v : Version}
    {dead : List Node} {count : Nat}
    (h : (l.applyMembership d s).1 = .ok (.applied v dead count)) (id : ActorId) :
    (l.applyMembership d s).2.1.cached? id =
      (l.cached? id).filter fun r => r.node ∉ s.newlyDeadSince l.applied := by
  have hr := reconciled_of_eq h
  generalize (l.applyMembership d s).2.1 = l' at hr ⊢
  cases hr with
  | applied _ => exact l.cached?_evicting s id

/-- After a pass that was applied, a registration on a node that has died since the last pass is
cached exactly if it was cached before and the node is listed neither now nor then, but a later
incarnation of it is listed now and none was listed then.

**Proof sketch.** What is cached after the pass was cached before and is on none of the nodes that
the pass has found dead.  It finds every node that is listed in one of the two memberships and has
died in between.  So the node of such a registration is listed in neither, and a node that is not
listed is dead exactly if a later incarnation is. -/
theorem cached_on_newly_dead_iff {l : Locator} {d : Directory σ} {s : Snapshot} {v : Version}
    {dead : List Node} {count : Nat}
    (h : (l.applyMembership d s).1 = .ok (.applied v dead count)) (id : ActorId)
    (r : Registration) :
    ((l.applyMembership d s).2.1.cached? id = some r ∧
        s.IsDead r.node ∧ ¬ l.applied.IsDead r.node) ↔
      l.cached? id = some r ∧
        r.node ∉ s.members.keys ∧ r.node ∉ l.applied.members.keys ∧
        (∃ m ∈ s.members.keys, r.node.SupersededBy m) ∧
        ¬ ∃ m ∈ l.applied.members.keys, r.node.SupersededBy m := by
  rw [cached?_applyMembership h, Option.filter_eq_some_iff, decide_eq_true_iff,
    Snapshot.mem_newlyDeadSince]
  constructor
  · rintro ⟨⟨hc, hlisted⟩, hdead, hlive⟩
    -- The pass would have found the node if one of the memberships listed it.
    obtain ⟨hs, hp⟩ : r.node ∉ s.members.keys ∧ r.node ∉ l.applied.members.keys :=
      not_or.1 fun hmem => hlisted ⟨hmem, hdead, hlive⟩
    rw [Snapshot.isDead_iff_of_not_mem hs] at hdead
    rw [Snapshot.isDead_iff_of_not_mem hp] at hlive
    exact ⟨hc, hs, hp, hdead, hlive⟩
  · rintro ⟨hc, hs, hp, hdead, hlive⟩
    rw [Snapshot.isDead_iff_of_not_mem hs, Snapshot.isDead_iff_of_not_mem hp]
    exact ⟨⟨hc, fun hmem => not_or.2 ⟨hs, hp⟩ hmem.1⟩, hdead, hlive⟩

/-- An activation on a node that has been restarted since. -/
def outlived : Registration := ⟨⟨⟨1⟩, "counter"⟩, .loopback 2 1, ⟨1⟩, some ⟨1⟩⟩

/-- A locator that has registered `outlived`, with its directory.  No membership lists the node. -/
def beforeRestart : Locator × Directory InMemory :=
  (start (.loopback 1 1) {} (.withActive ⟨1⟩ [.loopback 1 1])).run (.ofBackend {})
    [.register { outlived with etag := none }]

/-- The membership in which the restarted node is listed. -/
def afterRestart : Snapshot := .withActive ⟨2⟩ [.loopback 1 1, .loopback 2 2]

/-- A registration on a restarted node stays cached if the node was not listed before. -/
theorem cached_on_newly_dead_restarted :
    (beforeRestart.1.applyMembership beforeRestart.2 afterRestart).1 = .ok (.applied ⟨2⟩ [] 0) ∧
      (beforeRestart.1.applyMembership beforeRestart.2 afterRestart).2.1.cached? outlived.actor =
        some outlived ∧
      afterRestart.IsDead outlived.node ∧ ¬ beforeRestart.1.applied.IsDead outlived.node :=
  ⟨rfl, (cached_on_newly_dead_iff (l := beforeRestart.1) (d := beforeRestart.2) rfl outlived.actor
    outlived).2 ⟨rfl, by decide, by decide, by decide, by decide⟩⟩

end Locator

end ActorLocation
