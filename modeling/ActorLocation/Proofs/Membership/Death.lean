import ActorLocation.Membership.Snapshot
/-!
# Who is dead

A node is dead by its own state, or because a later incarnation is listed.  A node that is not
listed can only be dead in the second way.

## Main definitions

* `ActorLocation.Node.loopback` — nodes of one machine.

## Main results

* `ActorLocation.Snapshot.isDead_iff_of_not_mem` — the death of a node that is not listed.
* `ActorLocation.Snapshot.mem_newlyDeadSince` — which nodes count as newly dead: only those that
  one of the two snapshots lists.
-/

namespace ActorLocation

/-- Sorting and dropping repetitions keeps every node and adds none. -/
theorem Node.mem_sortDistinct {n : Node} {l : List Node} : n ∈ sortDistinct l ↔ n ∈ l := by
  rw [sortDistinct, sort, mem_sortBy, List.mem_eraseDups]

/-- The node of this machine with the given port and generation. -/
def Node.loopback (port : UInt16) (generation : UInt64) : Node :=
  ⟨⟨.v4 ⟨127, 0, 0, 1⟩, port⟩, generation⟩

namespace Snapshot

/-- A node that is not listed is dead iff a later incarnation is listed. -/
theorem isDead_iff_of_not_mem {s : Snapshot} {n : Node} (h : n ∉ s.members.keys) :
    s.IsDead n ↔ ∃ m ∈ s.members.keys, n.SupersededBy m := by
  have hstatus : s.status? n = none := by
    rw [status?, Table.find?_eq_none_iff.2 h]
    rfl
  rw [IsDead, hstatus]
  simp

/-- A node is newly dead iff it is listed now or was listed before, is dead now and was not dead
before. -/
theorem mem_newlyDeadSince {s previous : Snapshot} {n : Node} :
    n ∈ s.newlyDeadSince previous ↔
      (n ∈ s.members.keys ∨ n ∈ previous.members.keys) ∧ s.IsDead n ∧ ¬ previous.IsDead n := by
  rw [newlyDeadSince, List.mem_filter, Node.mem_sortDistinct, List.mem_append, decide_eq_true_iff]

/-- A restart is noticed if the node was listed before it, and only then. -/
example :
    (withActive ⟨2⟩ [.loopback 1 2]).newlyDeadSince (withActive ⟨1⟩ [.loopback 1 1]) =
        [.loopback 1 1] ∧
      (withActive ⟨2⟩ [.loopback 1 2]).newlyDeadSince (withActive ⟨1⟩ []) = [] := by
  decide

end Snapshot

end ActorLocation
