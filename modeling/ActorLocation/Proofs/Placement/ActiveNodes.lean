import ActorLocation.Locator.Basic
import ActorLocation.Proofs.Membership.Death
import ActorLocation.Proofs.Placement.Sampling
/-!
# Placement among the active nodes

A node is chosen by its state alone when the candidates are the active nodes: it is active then, but
it may be dead, since a later incarnation may be listed beside it.

## Main definitions

* `ActorLocation.Snapshot.WellKeyed` — each member is listed for its own node.

## Main results

* `ActorLocation.Snapshot.mem_activeNodes` — which nodes are active.
* `ActorLocation.Strategy.mem_of_chooseNode` — only candidates are chosen.
* `ActorLocation.RandomWords.exists_choose?` — every candidate may be drawn.
* `ActorLocation.Locator.place_activeNodes` — which nodes actors are placed on.
-/

namespace ActorLocation

/-! ### Well-keyed snapshots -/

/-- What look-up finds in a table is one of the entries given last. -/
theorem Table.mem_of_find?_foldl_insert {κ ν : Type} [DecidableEq κ] {l : List (κ × ν)}
    {t : Table κ ν} {k : κ} {v : ν}
    (h : (l.foldl (fun t e => t.insert e.1 e.2) t).find? k = some v) :
    t.find? k = some v ∨ (k, v) ∈ l := by
  induction l generalizing t with
  | nil => exact .inl h
  | cons e l ih =>
    rcases ih h with h | h
    · rw [find?_insert] at h
      split at h
      · next hk =>
        obtain rfl := Option.some.inj h
        exact .inr (hk ▸ List.mem_cons_self)
      · exact .inl h
    · exact .inr (List.mem_cons_of_mem _ h)

namespace Snapshot

/-- Says that each member is listed for its own node. -/
def WellKeyed (s : Snapshot) : Prop := ∀ n m, s.members.find? n = some m → m.node = n

/-- A snapshot made from a list of nodes is well keyed, since each of them is listed for itself. -/
theorem wellKeyed_withActive (version : Version) (nodes : List Node) :
    (withActive version nodes).WellKeyed := by
  intro n m h
  rcases Table.mem_of_find?_foldl_insert h with h | h
  · contradiction
  · obtain ⟨⟨n', i⟩, -, heq⟩ := List.mem_map.1 h
    obtain ⟨rfl, rfl⟩ := Prod.mk.inj heq
    rfl

/-- A change of state keeps a snapshot well keyed. -/
theorem WellKeyed.update? {s t : Snapshot} (hs : s.WellKeyed) {node : Node} {status : Status}
    (ht : s.update? node status = some t) : t.WellKeyed := by
  obtain ⟨version, -, rfl⟩ := Option.map_eq_some_iff.1 ht
  intro n m h
  rw [Table.find?_insert] at h
  split at h
  · next hn =>
    rw [hn, ← Option.some.inj h, setStatus]
    split
    · next m' hm' => exact hs node m' hm'
    · rfl
  · exact hs n m h

/-- The active nodes are those whose state is active. -/
theorem mem_activeNodes {s : Snapshot} (hs : s.WellKeyed) {n : Node} :
    n ∈ s.activeNodes ↔ s.status? n = some .active := by
  rw [activeNodes, Node.sort, mem_sortBy, List.mem_map, status?, Option.map_eq_some_iff]
  constructor
  · rintro ⟨m, hm, rfl⟩
    obtain ⟨hm, hactive⟩ := List.mem_filter.1 hm
    obtain ⟨k, hk⟩ := Table.mem_values_iff.1 hm
    exact ⟨m, hs k m hk ▸ hk, of_decide_eq_true hactive⟩
  · rintro ⟨m, hm, hactive⟩
    exact ⟨m, List.mem_filter.2 ⟨Table.mem_values_iff.2 ⟨n, hm⟩, decide_eq_true hactive⟩, hs n m hm⟩

end Snapshot

/-! ### Choices -/

namespace RandomWords

/-- What is drawn from a list is one of its elements. -/
theorem mem_of_choose? {α : Type} {l : List α} {r r' : RandomWords} {a : α}
    (h : r.choose? l = (some a, r')) : a ∈ l := by
  rw [choose?] at h
  split at h
  · simp at h
  · exact List.mem_of_getElem? (Prod.mk.inj h).1

/-- Every index can be drawn: the least word whose product with `n` has it as its high half leaves a
low half below `n`, which is accepted.

**Proof sketch.** Let `q` be `i * 2 ^ 32 / n` rounded up, which is below `2 ^ 32` because `i < n`.
Its product with `n` exceeds `i * 2 ^ 32` by less than `n`, so the high half of the product is `i`
and the low half is below `n`.  Every low half below `n` is accepted, so the single word `q`
decides. -/
theorem exists_index {n i : Nat} (hi : i < n) (hn : n < UInt32.size) :
    ∃ w : UInt32, (index n ⟨[w], 0⟩).1 = i := by
  -- The word `q` is `i * 2 ^ 32 / n`, rounded up, and `c` is the remainder of that division.
  have hdiv := Nat.div_add_mod (i * UInt32.size + (n - 1)) n
  have hmod := Nat.mod_lt (i * UInt32.size + (n - 1)) (Nat.zero_lt_of_lt hi)
  generalize (i * UInt32.size + (n - 1)) / n = q at hdiv
  generalize (i * UInt32.size + (n - 1)) % n = c at hdiv hmod
  have hbound : i * UInt32.size + UInt32.size ≤ n * UInt32.size := by
    rw [← Nat.succ_mul]
    exact Nat.mul_le_mul_right _ hi
  have hq : q < UInt32.size := Nat.lt_of_mul_lt_mul_left (a := n) (by omega)
  have hw : (UInt32.ofNat q).toNat * n = i * UInt32.size + (n - 1 - c) := by
    rw [UInt32.toNat_ofNat_of_lt' hq, Nat.mul_comm]
    omega
  have haccepted := le_acceptance n
  refine ⟨UInt32.ofNat q, ?_⟩
  simp only [UInt32.size] at hn hw
  rw [index, draw, hw, UInt32.size, if_pos (by omega)]
  dsimp only
  omega

/-- Every element of a list can be drawn. -/
theorem exists_choose? {α : Type} {l : List α} (hl : l.length < UInt32.size) {a : α} (ha : a ∈ l) :
    ∃ r r' : RandomWords, r.choose? l = (some a, r') := by
  obtain ⟨i, hi, rfl⟩ := List.mem_iff_getElem.1 ha
  obtain ⟨w, hw⟩ := exists_index hi hl
  refine ⟨⟨[w], 0⟩, (index l.length ⟨[w], 0⟩).2, ?_⟩
  rw [choose?, if_neg (by simpa using List.ne_nil_of_mem ha), hw, List.getElem?_eq_getElem hi]

end RandomWords

namespace Strategy

/-- A node chosen at random is a candidate. -/
theorem mem_of_anyOf {id : ActorId} {compatible : List Node} {r r' : RandomWords} {n : Node}
    (h : anyOf id compatible r = (.ok n, r')) : n ∈ compatible := by
  rw [anyOf] at h
  split at h
  · next heq =>
    obtain ⟨heq', -⟩ := Prod.mk.inj h
    obtain rfl := Except.ok.inj heq'
    exact RandomWords.mem_of_choose? heq
  · simp at h

/-- Only candidates are chosen.

**Proof sketch.** By the strategy.  A random choice is an element of the list.  The local node is
asked for being a candidate before it is chosen, and so is a given node.  The hash selects from the
sorted candidates, which are the same nodes as the candidates. -/
theorem mem_of_chooseNode {strategy : Strategy} {id : ActorId} {s : Snapshot}
    {compatible : List Node} {home n : Node} {r r' : RandomWords}
    (h : strategy.chooseNode id s compatible home r = (.ok n, r')) : n ∈ compatible := by
  -- Two strategies prefer the local node and leave the choice to chance without it.
  have hlocal (h : localOrAny id s compatible home r = (.ok n, r')) : n ∈ compatible := by
    rw [localOrAny] at h
    split at h
    · next hhome =>
      obtain rfl := Except.ok.inj (Prod.mk.inj h).1
      exact hhome.1
    · exact mem_of_anyOf h
  cases strategy with
  | random => exact mem_of_anyOf h
  | preferLocal => exact hlocal h
  | statelessWorker limit => exact hlocal h
  | hashBased =>
    have h : byHash id compatible = .ok n := (Prod.mk.inj h).1
    rw [byHash] at h
    split at h
    · next heq =>
      obtain rfl := Except.ok.inj h
      -- The sorted candidates are the same nodes.
      exact Node.mem_sortDistinct.1 (List.mem_of_getElem? heq)
    · contradiction
  | fixed target =>
    have h : pinned id compatible target = .ok n := (Prod.mk.inj h).1
    rw [pinned] at h
    split at h
    · next hmem => exact Except.ok.inj h ▸ hmem
    · contradiction

end Strategy

namespace Locator

/-- Among the active nodes, actors are placed on nodes whose state is active.  Such a node is dead
exactly if a later incarnation is listed as well, and this does not keep it from being chosen: at
random, every node whose state is active may be chosen.

**Proof sketch.** A node that is answered is a candidate by `Strategy.mem_of_chooseNode`, so its
state is active.  Of the ways in which a node can be dead, this leaves the one through a later
incarnation.  Conversely every active node is a candidate, and at random every candidate can be
drawn by `RandomWords.exists_choose?`. -/
theorem place_activeNodes {l : Locator} (hl : l.current.WellKeyed) (id : ActorId) :
    (∀ words words' n, l.place id l.current.activeNodes words = (.ok n, words') →
        l.current.status? n = some .active ∧
          (l.current.IsDead n ↔ ∃ m ∈ l.current.members.keys, n.SupersededBy m)) ∧
      (l.strategyFor id = .random → l.current.activeNodes.length < UInt32.size →
        ∀ n, l.current.status? n = some .active →
          ∃ words words', l.place id l.current.activeNodes words = (.ok n, words')) := by
  constructor
  · intro words words' n h
    rw [place] at h
    split at h
    · next heq =>
      obtain rfl := Except.ok.inj (Prod.mk.inj h).1
      have hactive := (Snapshot.mem_activeNodes hl).1 (Strategy.mem_of_chooseNode heq)
      refine ⟨hactive, ?_⟩
      -- A node whose state is active is dead only through a later incarnation.
      simp [Snapshot.IsDead, hactive]
    · simp at h
  · intro hrandom hlength n hn
    obtain ⟨words, words', h⟩ :=
      RandomWords.exists_choose? hlength ((Snapshot.mem_activeNodes hl).2 hn)
    refine ⟨words, words', ?_⟩
    rw [place, hrandom, Strategy.chooseNode, Strategy.anyOf, h]

/-- A locator whose membership lists a restarted node beside its predecessor. -/
def besidePredecessor : Locator :=
  start (.loopback 1 1) {} (.withActive ⟨1⟩ [.loopback 2 1, .loopback 2 2])

/-- An actor is placed on the predecessor, which is dead. -/
theorem place_activeNodes_superseded :
    (besidePredecessor.place ⟨⟨1⟩, "counter"⟩ besidePredecessor.current.activeNodes ⟨[], 0⟩).1 =
        .ok (.loopback 2 1) ∧
      besidePredecessor.current.IsDead (.loopback 2 1) := by
  have hplaced : besidePredecessor.place ⟨⟨1⟩, "counter"⟩ besidePredecessor.current.activeNodes
      ⟨[], 0⟩ = (.ok (.loopback 2 1), ⟨[], 1⟩) := rfl
  have h := place_activeNodes (l := besidePredecessor) (Snapshot.wellKeyed_withActive _ _)
    ⟨⟨1⟩, "counter"⟩
  refine ⟨congrArg Prod.fst hplaced, ?_⟩
  exact (h.1 _ _ _ hplaced).2.2 ⟨.loopback 2 2, by decide, by decide⟩

end Locator

end ActorLocation
