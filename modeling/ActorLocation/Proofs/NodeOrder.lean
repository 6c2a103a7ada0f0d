import ActorLocation.Proofs.Membership.Succession
/-!
# The order of nodes

Nodes are compared by a rank, which is a number.  This module says what that order is: nodes are
compared by their endpoints, then by their generations; endpoints by their addresses, then by their
ports; and addresses of one family by their octets or groups, the first one that differs deciding.
All addresses of version 4 come before those of version 6.

Since distinct nodes are never of equal rank, the distinct nodes of a list have only one ascending
arrangement.

## Main definitions

* `ActorLocation.Node.Before` — a node comes before another one.

## Main results

* `ActorLocation.Node.lt_iff_before` — the rank says which of two nodes comes first.
* `ActorLocation.Node.pairwise_sortDistinct` — the distinct nodes in ascending order.
* `ActorLocation.Node.sortDistinct_congr` — they depend only on which nodes there are.
-/

namespace ActorLocation

/-! ### Addresses -/

/-- The octets, the most significant one first. -/
def Ipv4.octets (a : Ipv4) : List UInt8 := [a.a, a.b, a.c, a.d]

namespace IpAddress

/-- Says that an address comes before another one: it is of the lower version, or of the same one
and the first octet or group in which they differ is smaller. -/
def Before : IpAddress → IpAddress → Prop
  | v4 a, v4 b => a.octets < b.octets
  | v4 _, v6 _ => True
  | v6 _, v4 _ => False
  | v6 a, v6 b => a.groups < b.groups

end IpAddress

/-- Of two addresses of version 4, the first octet that differs decides. -/
theorem Ipv4.toNat_lt_toNat_iff {a b : Ipv4} : a.toNat < b.toNat ↔ a.octets < b.octets := by
  have := a.b.toNat_lt; have := a.c.toNat_lt; have := a.d.toNat_lt
  have := b.b.toNat_lt; have := b.c.toNat_lt; have := b.d.toNat_lt
  simp only [toNat, octets, List.cons_lt_cons_iff, List.not_lt_nil, and_false, or_false,
    UInt8.lt_iff_toNat_lt, ← UInt8.toNat_inj]
  omega

/-- Of two numbers that are continued by equally many digits, the first digit that differs decides,
unless the numbers differ already.

**Proof sketch.** Induction on the digits, with the numbers in front left free.  By the induction
hypothesis the numbers continued by one digit decide, or the rest does if they are equal; and since
a digit is below the base, the continued numbers compare first by what was in front, then by the
digit. -/
private theorem Ipv6.foldl_lt_foldl_iff {gs hs : List UInt16} (hlength : gs.length = hs.length)
    {m n : Nat} :
    gs.foldl (fun n g => n * 65536 + g.toNat) m < hs.foldl (fun n g => n * 65536 + g.toNat) n ↔
      m < n ∨ m = n ∧ gs < hs := by
  induction gs generalizing hs m n with
  | nil =>
    obtain rfl := List.eq_nil_of_length_eq_zero hlength.symm
    simp
  | cons g gs ih =>
    cases hs with
    | nil => contradiction
    | cons h hs =>
      have := g.toNat_lt
      have := h.toNat_lt
      rw [List.foldl_cons, List.foldl_cons, ih (Nat.succ.inj hlength), List.cons_lt_cons_iff,
        UInt16.lt_iff_toNat_lt, ← UInt16.toNat_inj]
      by_cases hrest : gs < hs <;> simp only [hrest, and_true, and_false, or_false] <;> omega

/-- Of two addresses of version 6, the first group that differs decides. -/
theorem Ipv6.toNat_lt_toNat_iff {a b : Ipv6} : a.toNat < b.toNat ↔ a.groups < b.groups := by
  rw [toNat, toNat, ofGroups, ofGroups,
    foldl_lt_foldl_iff (a.length_groups.trans b.length_groups.symm)]
  simp

/-- The rank says which of two addresses comes first.

**Proof sketch.** Within a family the numbers decide.  An address of version 4 has a number of 32
bits, and those of version 6 are shifted by as much. -/
theorem IpAddress.rank_lt_rank_iff {a b : IpAddress} : a.rank < b.rank ↔ a.Before b := by
  cases a with
  | v4 a =>
    have := a.toNat_lt
    cases b with
    | v4 b => exact Ipv4.toNat_lt_toNat_iff
    | v6 b => simp only [rank, Before, iff_true]; omega
  | v6 a =>
    cases b with
    | v4 b =>
      -- No address of version 6 comes before one of version 4.
      have := b.toNat_lt
      simp only [rank, Before, iff_false]
      omega
    | v6 b =>
      rw [rank, rank, Nat.add_lt_add_iff_left]
      exact Ipv6.toNat_lt_toNat_iff

/-! ### Endpoints and nodes -/

namespace Endpoint

/-- Says that an endpoint comes before another one: by the address, then by the port. -/
def Before (d e : Endpoint) : Prop := d.ip.Before e.ip ∨ d.ip = e.ip ∧ d.port < e.port

/-- The rank says which of two endpoints comes first, since a port is below the factor of the
address. -/
theorem rank_lt_rank_iff {d e : Endpoint} : d.rank < e.rank ↔ d.Before e := by
  have := d.port.toNat_lt
  have := e.port.toNat_lt
  have hip : d.ip = e.ip ↔ d.ip.rank = e.ip.rank := ⟨congrArg _, IpAddress.rank_injective⟩
  rw [Before, ← IpAddress.rank_lt_rank_iff, hip, UInt16.lt_iff_toNat_lt, rank, rank, UInt16.size]
  omega

end Endpoint

namespace Node

/-- Says that a node comes before another one: by the endpoint, then by the generation. -/
def Before (m n : Node) : Prop :=
  m.endpoint.Before n.endpoint ∨ m.endpoint = n.endpoint ∧ m.generation < n.generation

/-- The rank says which of two nodes comes first. -/
theorem lt_iff_before {m n : Node} : m < n ↔ m.Before n := by
  have := m.generation.toNat_lt
  have := n.generation.toNat_lt
  have hendpoint : m.endpoint = n.endpoint ↔ m.endpoint.rank = n.endpoint.rank :=
    ⟨congrArg _, Endpoint.rank_injective⟩
  change m.rank < n.rank ↔ _
  rw [Before, ← Endpoint.rank_lt_rank_iff, hendpoint, UInt64.lt_iff_toNat_lt, rank, rank,
    UInt64.size]
  omega

/-- Of two nodes at most one comes before the other. -/
theorem not_before_of_before {m n : Node} (h : m.Before n) : ¬ n.Before m := by
  rw [← lt_iff_before] at h ⊢
  exact Nat.lt_asymm h

/-! ### Distinct nodes in ascending order -/

/-- The distinct nodes are in ascending order.

**Proof sketch.** Sorting by rank puts the nodes into ascending order (`pairwise_sortBy`).  As they
are distinct, so are their ranks, and the order is strict. -/
theorem pairwise_sortDistinct (l : List Node) : (sortDistinct l).Pairwise Before := by
  have hsorted : (sortDistinct l).Pairwise fun m n => decide (m ≤ n) = true := by
    refine pairwise_sortBy (fun a b c hab hbc => ?_) (fun a b => ?_) _
    · exact decide_eq_true (Nat.le_trans (of_decide_eq_true hab) (of_decide_eq_true hbc))
    · exact (Nat.le_total a.rank b.rank).imp decide_eq_true decide_eq_true
  refine (hsorted.and (nodup_sortDistinct l)).imp fun {m n} ⟨hle, hne⟩ => ?_
  exact lt_iff_before.1 (Nat.lt_of_le_of_ne (of_decide_eq_true hle) fun h => hne (rank_injective h))

/-- There is only one ascending list of the same nodes.

**Proof sketch.** In a strictly ascending list no node is repeated, so that lists of the same nodes
are permutations of each other; and two permutations that are both ascending are equal, as of two
nodes at most one comes before the other. -/
theorem eq_of_pairwise_before {l l' : List Node} (h : l.Pairwise Before) (h' : l'.Pairwise Before)
    (hsame : ∀ n, n ∈ l ↔ n ∈ l') : l = l' := by
  have hne {m n : Node} (hmn : m.Before n) : m ≠ n := by
    rintro rfl
    exact not_before_of_before hmn hmn
  have hperm : l.Perm l' := (List.perm_ext_iff_of_nodup (h.imp hne) (h'.imp hne)).2 hsame
  exact hperm.eq_of_pairwise (fun m n _ _ hmn hnm => absurd hnm (not_before_of_before hmn)) h h'

/-- The distinct nodes in ascending order depend only on which nodes there are. -/
theorem sortDistinct_congr {l l' : List Node} (h : ∀ n, n ∈ l ↔ n ∈ l') :
    sortDistinct l = sortDistinct l' :=
  eq_of_pairwise_before (pairwise_sortDistinct l) (pairwise_sortDistinct l') fun n => by
    rw [mem_sortDistinct, mem_sortDistinct, h]

end Node

end ActorLocation
