import ActorLocation.Placement.Choice
import ActorLocation.Proofs.NodeOrder
/-!
# Placement by hash

Placement by hash sends an actor to the same node wherever it is decided, as long as the same nodes
are candidates.  Neither the order in which they are given nor repetitions make a difference, and
neither membership, local node nor random words are looked at.

## Main results

* `ActorLocation.Strategy.byHash_of_ascending` — the choice among distinct nodes in ascending order.
* `ActorLocation.Strategy.chooseNode_hashBased_agree` — two choices among the same nodes agree.
-/

namespace ActorLocation

/-- Sorting and dropping repetitions leaves no candidates only where there were none. -/
theorem Node.sortDistinct_eq_nil_iff {l : List Node} : sortDistinct l = [] ↔ l = [] := by
  simp only [List.eq_nil_iff_forall_not_mem, mem_sortDistinct]

namespace Strategy

/-- The hash selects one of the distinct candidates in ascending order; there is none exactly if
there are no candidates.

**Proof sketch.** Any list of the same nodes in strictly ascending order is the one that placement
computes, by `Node.eq_of_pairwise_before`.  If it is empty, there were no candidates.  Otherwise a
remainder modulo its length is a position in it. -/
theorem byHash_of_ascending (id : ActorId) {compatible candidates : List Node}
    (hascending : candidates.Pairwise Node.Before)
    (hsame : ∀ n, n ∈ candidates ↔ n ∈ compatible) :
    byHash id compatible = .error (.noCompatibleNode id) ∧ compatible = [] ∨
      ∃ hindex : id.hash.toNat % candidates.length < candidates.length,
        byHash id compatible = .ok candidates[id.hash.toNat % candidates.length] := by
  -- A strictly ascending list is determined by its elements.
  have hcandidates : Node.sortDistinct compatible = candidates :=
    Node.eq_of_pairwise_before (Node.pairwise_sortDistinct compatible) hascending fun n => by
      rw [Node.mem_sortDistinct, hsame]
  rw [byHash, hcandidates]
  by_cases hempty : compatible = []
  · left
    rw [Node.sortDistinct_eq_nil_iff.2 hempty] at hcandidates
    subst hcandidates
    exact ⟨rfl, hempty⟩
  · right
    have hne : candidates ≠ [] := hcandidates ▸ mt Node.sortDistinct_eq_nil_iff.1 hempty
    have hindex : id.hash.toNat % candidates.length < candidates.length :=
      Nat.mod_lt _ (List.length_pos_iff.2 hne)
    refine ⟨hindex, ?_⟩
    rw [List.getElem?_eq_getElem hindex]

/-- The same nodes are candidates in two places, perhaps in another order and repeated.  Then the
choice by hash is the same in both, whatever the memberships, the local nodes and the random words
are, of which none is taken.  It fails exactly if there are no candidates.  Else it is the node
whose position among the distinct candidates in ascending order is the hash of the actor modulo
their number, which is in range.

**Proof sketch.** All five parts speak of one list, the distinct candidates in ascending order.
`Node.sortDistinct_congr` makes it the same in both places, and `byHash_of_ascending` says what is
chosen from it and when nothing is. -/
theorem chooseNode_hashBased_agree (id : ActorId) {compatible compatible' : List Node}
    (hsame : ∀ n, n ∈ compatible ↔ n ∈ compatible') (s s' : Snapshot) (home home' : Node)
    (r r' : RandomWords) :
    (hashBased.chooseNode id s compatible home r).1 =
        (hashBased.chooseNode id s' compatible' home' r').1 ∧
      (hashBased.chooseNode id s compatible home r).2 = r ∧
      (hashBased.chooseNode id s' compatible' home' r').2 = r' ∧
      (∀ e, (hashBased.chooseNode id s compatible home r).1 = .error e ↔
        e = .noCompatibleNode id ∧ compatible = []) ∧
      ∃ candidates : List Node,
        candidates.Pairwise Node.Before ∧ (∀ n, n ∈ candidates ↔ n ∈ compatible) ∧
        (compatible ≠ [] →
          ∃ hindex : id.hash.toNat % candidates.length < candidates.length,
            (hashBased.chooseNode id s compatible home r).1 =
              .ok candidates[id.hash.toNat % candidates.length]) := by
  have hascending := Node.pairwise_sortDistinct compatible
  have hmem (n : Node) : n ∈ Node.sortDistinct compatible ↔ n ∈ compatible := Node.mem_sortDistinct
  have hchoice := byHash_of_ascending id hascending hmem
  refine ⟨?_, rfl, rfl, fun e => ?_, Node.sortDistinct compatible, hascending, hmem, fun hne => ?_⟩
  · change byHash id compatible = byHash id compatible'
    rw [byHash, byHash, Node.sortDistinct_congr hsame]
  · change byHash id compatible = .error e ↔ _
    rcases hchoice with ⟨heq, hempty⟩ | ⟨hindex, heq⟩
    · rw [heq]
      exact ⟨fun h => ⟨(Except.error.inj h).symm, hempty⟩, fun h => by rw [h.1]⟩
    · rw [heq]
      refine ⟨fun h => by contradiction, fun ⟨_, hempty⟩ => ?_⟩
      rw [Node.sortDistinct_eq_nil_iff.2 hempty] at hindex
      exact absurd hindex (Nat.not_lt_zero _)
  · exact hchoice.resolve_left fun h => hne h.2

/-- A node on a version 6 address. -/
def farNode : Node := ⟨⟨.v6 ⟨[0, 0, 0, 0, 0, 0, 0, 1], rfl⟩, 1⟩, 1⟩

/-- In two places the same two nodes are candidates, once repeated and once not. -/
theorem chooseNode_hashBased_agree_repeated :
    (∀ n, n ∈ [farNode, .loopback 2 1, farNode] ↔ n ∈ [.loopback 2 1, farNode]) ∧
      (hashBased.chooseNode ⟨⟨1⟩, "counter"⟩ (.withActive ⟨2⟩ []) [farNode, .loopback 2 1, farNode]
          farNode ⟨[7], 0⟩).1 =
        (hashBased.chooseNode ⟨⟨1⟩, "counter"⟩ (.withActive ⟨3⟩ [farNode])
          [.loopback 2 1, farNode] (.loopback 2 1) ⟨[], 4⟩).1 ∧
      hashBased.chooseNode ⟨⟨1⟩, "counter"⟩ (.withActive ⟨2⟩ []) [farNode, .loopback 2 1, farNode]
        farNode ⟨[7], 0⟩ = (.ok (.loopback 2 1), ⟨[7], 0⟩) := by
  have hsame (n : Node) :
      n ∈ [farNode, .loopback 2 1, farNode] ↔ n ∈ [.loopback 2 1, farNode] := by
    simp only [List.mem_cons, List.not_mem_nil, or_false]
    exact ⟨fun h => h.elim .inr id, fun h => h.elim (.inr ∘ .inl) .inl⟩
  obtain ⟨hagree, htaken, -⟩ := chooseNode_hashBased_agree ⟨⟨1⟩, "counter"⟩ hsame
    (.withActive ⟨2⟩ []) (.withActive ⟨3⟩ [farNode]) farNode (.loopback 2 1) ⟨[7], 0⟩ ⟨[], 4⟩
  refine ⟨hsame, hagree, Prod.ext ?_ htaken⟩
  decide +kernel

/-- The message is the type in eight octets, most significant first, and the octets of the key. -/
example : (⟨⟨1⟩, "timer"⟩ : ActorId).hash = 0x90afc679684116cf := by decide +kernel

/-- That hash is odd, so of two candidates it selects the later one, in whatever order they come. -/
example : byHash ⟨⟨1⟩, "timer"⟩ [.loopback 3 1, .loopback 2 1] = .ok (.loopback 3 1) := by
  decide +kernel

end Strategy

end ActorLocation
