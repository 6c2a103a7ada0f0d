import ActorLocation.Proofs.Placement.ActiveNodes
import ActorLocation.Proofs.Placement.Hashing
import ActorLocation.Proofs.Placement.Sampling
/-!
# Placement decisions

Whatever the strategy is, choosing a node ends with a candidate or with the right error, and takes
few random words.  A strategy leaves the choice to chance only if it has no preference or cannot
follow it; then at most one word more is taken than the script holds.

## Main definitions

* `ActorLocation.Strategy.PrefersLocal`, `Strategy.LeftToChance` — when the local node is preferred,
  and when chance decides.
* `ActorLocation.Strategy.Decided` — the ways in which a choice can end.

## Main results

* `ActorLocation.Strategy.decided` — a choice ends in one of these ways.
* `ActorLocation.Strategy.chooseNode_decides` — what a caller can rely on.
-/

namespace ActorLocation

/-- A node may get new activations unless it stops, is dead or has been superseded. -/
theorem Snapshot.not_isTerminating {s : Snapshot} {n : Node}
    (hstopping : s.status? n ≠ some .stopping) (hdead : s.status? n ≠ some .dead)
    (hsuperseded : ∀ m ∈ s.members.keys, ¬ n.SupersededBy m) : ¬ s.IsTerminating n := by
  rintro (⟨st, hst, hterminating⟩ | hst | ⟨m, hm, hsup⟩)
  · cases st with
    | stopping => exact hstopping hst
    | dead => exact hdead hst
    | joining | active => contradiction
  · exact hdead hst
  · exact hsuperseded m hm hsup

namespace Strategy

/-- Says that a strategy prefers the local node. -/
def PrefersLocal (strategy : Strategy) : Prop :=
  strategy = preferLocal ∨ ∃ limit, strategy = statelessWorker limit

/-- Says that the choice is left to chance: there is no preference, or the local node, which is
preferred, is no candidate or about to go. -/
def LeftToChance (strategy : Strategy) (s : Snapshot) (compatible : List Node) (home : Node) :
    Prop :=
  strategy = random ∨ strategy.PrefersLocal ∧ ¬ (home ∈ compatible ∧ ¬ s.IsTerminating home)

/-- The ways in which a choice can end, with the number of random words taken. -/
inductive Decided (id : ActorId) (s : Snapshot) (compatible : List Node) (home : Node)
    (r : RandomWords) : Strategy → Except PlacementError Node → Nat → Prop where
  /-- The local node is preferred and can take the actor. -/
  | here {strategy : Strategy} (hlocal : strategy.PrefersLocal) (hhome : home ∈ compatible)
    (h : ¬ s.IsTerminating home) : Decided id s compatible home r strategy (.ok home) 0
  /-- The first word that is accepted is the one after `k` others, and decides. -/
  | drawn {strategy : Strategy} (hchance : strategy.LeftToChance s compatible home) (k : Nat)
    (hk : k ≤ r.script.length) (hfirst : r.AcceptsFirst (.ofNat compatible.length) k)
    (hindex : r.indexAt (.ofNat compatible.length) k < compatible.length) :
    Decided id s compatible home r strategy
      (.ok compatible[r.indexAt (.ofNat compatible.length) k]) (k + 1)
  /-- The hash has selected a candidate. -/
  | hashed {n : Node} (hn : n ∈ compatible) : Decided id s compatible home r hashBased (.ok n) 0
  /-- The given node is a candidate. -/
  | pinned {target : Node} (h : target ∈ compatible) :
    Decided id s compatible home r (fixed target) (.ok target) 0
  /-- The given node is no candidate. -/
  | unavailable {target : Node} (h : target ∉ compatible) :
    Decided id s compatible home r (fixed target) (.error (.nodeUnavailable id target)) 0
  /-- No node is given, and there is no candidate. -/
  | nowhere {strategy : Strategy} (hfixed : ∀ target, strategy ≠ fixed target)
    (h : compatible = []) :
    Decided id s compatible home r strategy (.error (.noCompatibleNode id)) 0

section Kinds

variable {strategy : Strategy} {s : Snapshot} {compatible : List Node} {home : Node}

/-- A strategy that prefers the local node gives no node. -/
theorem PrefersLocal.ne_fixed (h : strategy.PrefersLocal) (target : Node) :
    strategy ≠ fixed target := by
  rintro rfl
  rcases h with h | ⟨limit, h⟩ <;> contradiction

/-- A strategy that prefers the local node does not go by the hash. -/
theorem PrefersLocal.ne_hashBased (h : strategy.PrefersLocal) : strategy ≠ hashBased := by
  rintro rfl
  rcases h with h | ⟨limit, h⟩ <;> contradiction

/-- A strategy that leaves the choice to chance gives no node. -/
theorem LeftToChance.ne_fixed (h : strategy.LeftToChance s compatible home) (target : Node) :
    strategy ≠ fixed target := by
  rcases h with rfl | ⟨h, -⟩
  · exact Strategy.noConfusion
  · exact h.ne_fixed target

/-- A strategy that leaves the choice to chance does not go by the hash. -/
theorem LeftToChance.ne_hashBased (h : strategy.LeftToChance s compatible home) :
    strategy ≠ hashBased := by
  rcases h with rfl | ⟨h, -⟩
  · exact Strategy.noConfusion
  · exact h.ne_hashBased

/-- The choice is not left to chance if the local node is preferred and can take the actor. -/
theorem PrefersLocal.not_leftToChance (h : strategy.PrefersLocal) (hhome : home ∈ compatible)
    (hterminating : ¬ s.IsTerminating home) : ¬ strategy.LeftToChance s compatible home := by
  rintro (rfl | ⟨-, hnot⟩)
  · rcases h with h | ⟨limit, h⟩ <;> contradiction
  · exact hnot ⟨hhome, hterminating⟩

end Kinds

variable {id : ActorId} {s : Snapshot} {compatible : List Node} {home : Node} {r : RandomWords}

/-! ### What a choice ends with -/

namespace Decided

variable {strategy : Strategy} {answer : Except PlacementError Node} {k : Nat}
  (h : Decided id s compatible home r strategy answer k)
include h

/-- At most one word more is taken than the script holds. -/
theorem words_le : k ≤ r.script.length + 1 := by
  cases h with
  | drawn _ k hk => exact Nat.succ_le_succ hk
  | here | hashed | pinned | unavailable | nowhere => exact Nat.zero_le _

/-- The given node is unavailable exactly if it is no candidate.

**Proof sketch.** By the way in which the choice has ended.  The error is the answer of
`unavailable` only, where the given node is the target.  In all other ways the answer is something
else, and the right-hand side fails: the strategy gives no node, or the node that it gives is a
candidate. -/
theorem nodeUnavailable_iff {id' : ActorId} {target : Node} :
    answer = .error (.nodeUnavailable id' target) ↔
      id' = id ∧ strategy = fixed target ∧ target ∉ compatible := by
  cases h with
  | here hlocal => exact ⟨nofun, fun ⟨_, hfixed, _⟩ => absurd hfixed (hlocal.ne_fixed target)⟩
  | drawn hchance => exact ⟨nofun, fun ⟨_, hfixed, _⟩ => absurd hfixed (hchance.ne_fixed target)⟩
  | hashed _ => exact ⟨nofun, nofun⟩
  -- The node that is given is a candidate, so there is no error of this kind.
  | pinned hmem =>
    refine ⟨nofun, fun ⟨_, hfixed, hnot⟩ => ?_⟩
    obtain rfl := Strategy.fixed.inj hfixed
    exact absurd hmem hnot
  | unavailable hnot =>
    constructor
    · rintro ⟨⟩
      exact ⟨rfl, rfl, hnot⟩
    · rintro ⟨rfl, ⟨⟩, -⟩
      rfl
  | nowhere hfixed _ => exact ⟨nofun, fun ⟨_, heq, _⟩ => absurd heq (hfixed target)⟩

/-- There is no compatible node exactly if no node is given and there are no candidates.

**Proof sketch.** By the way in which the choice has ended.  The error is the answer of `nowhere`
only.  Where a candidate is the answer the list is not empty, and the other two ways are those of a
strategy that gives a node. -/
theorem noCompatibleNode_iff {id' : ActorId} :
    answer = .error (.noCompatibleNode id') ↔
      id' = id ∧ (∀ target, strategy ≠ fixed target) ∧ compatible = [] := by
  cases h with
  | here _ hhome _ => exact ⟨nofun, fun ⟨_, _, hempty⟩ => absurd hempty (List.ne_nil_of_mem hhome)⟩
  | drawn _ k _ _ hindex =>
    refine ⟨nofun, fun ⟨_, _, hempty⟩ => absurd hempty ?_⟩
    exact List.length_pos_iff.1 (Nat.zero_lt_of_lt hindex)
  | hashed hmem => exact ⟨nofun, fun ⟨_, _, hempty⟩ => absurd hempty (List.ne_nil_of_mem hmem)⟩
  | pinned _ => exact ⟨nofun, fun ⟨_, hfixed, _⟩ => absurd rfl (hfixed _)⟩
  | unavailable _ => exact ⟨nofun, fun ⟨_, hfixed, _⟩ => absurd rfl (hfixed _)⟩
  | nowhere hfixed hempty =>
    constructor
    · rintro ⟨⟩
      exact ⟨rfl, hfixed, hempty⟩
    · rintro ⟨rfl, -, -⟩
      rfl

/-- Words are taken only if the choice is left to chance. -/
theorem eq_zero (hchance : ¬ strategy.LeftToChance s compatible home) : k = 0 := by
  cases h with
  | drawn hchance' => exact absurd hchance' hchance
  | here | hashed | pinned | unavailable | nowhere => rfl

/-- The local node is chosen if it is preferred and can take the actor. -/
theorem eq_home (hlocal : strategy.PrefersLocal) (hhome : home ∈ compatible)
    (hterminating : ¬ s.IsTerminating home) : answer = .ok home := by
  cases h with
  | here => rfl
  | drawn hchance => exact absurd hchance (hlocal.not_leftToChance hhome hterminating)
  | hashed _ => exact absurd rfl hlocal.ne_hashBased
  | pinned _ => exact absurd rfl (hlocal.ne_fixed _)
  | unavailable _ => exact absurd rfl (hlocal.ne_fixed _)
  | nowhere _ hempty => exact absurd hempty (List.ne_nil_of_mem hhome)

/-- If the choice is left to chance, the first word that is accepted decides. -/
theorem eq_drawn (hchance : strategy.LeftToChance s compatible home) (hne : compatible ≠ []) :
    ∃ j, k = j + 1 ∧ r.AcceptsFirst (.ofNat compatible.length) j ∧
      ∃ hindex : r.indexAt (.ofNat compatible.length) j < compatible.length,
        answer = .ok compatible[r.indexAt (.ofNat compatible.length) j] := by
  cases h with
  | here hlocal hhome hterminating =>
    exact absurd hchance (hlocal.not_leftToChance hhome hterminating)
  | drawn _ k _ hfirst hindex => exact ⟨k, rfl, hfirst, hindex, rfl⟩
  | hashed _ => exact absurd rfl hchance.ne_hashBased
  | pinned _ => exact absurd rfl (hchance.ne_fixed _)
  | unavailable _ => exact absurd rfl (hchance.ne_fixed _)
  | nowhere _ hempty => exact absurd hempty hne

end Decided

/-! ### Choices that are left to chance -/

/-- A choice that is left to chance ends with a candidate, unless there are none.

**Proof sketch.** Without candidates the answer is the error and no word is taken.  Otherwise the
number of candidates is a positive machine word, as the list is shorter than `2 ^ 32`.
`RandomWords.exists_index_eq` then tells which word decides, and `RandomWords.choice_lt` that the
index is in range, so the candidate at it is the answer. -/
theorem decided_anyOf {strategy : Strategy} (hchance : strategy.LeftToChance s compatible home)
    (hlength : compatible.length < UInt32.size) :
    ∃ answer k, anyOf id compatible r = (answer, r.after k) ∧
      Decided id s compatible home r strategy answer k := by
  by_cases hempty : compatible = []
  · refine ⟨.error (.noCompatibleNode id), 0, ?_, .nowhere hchance.ne_fixed hempty⟩
    rw [anyOf, RandomWords.choose?, hempty]
    rfl
  · -- The number of candidates as a machine word.
    have hn : (UInt32.ofNat compatible.length).toNat = compatible.length :=
      UInt32.toNat_ofNat_of_lt' hlength
    have hpos : (0 : UInt32) < .ofNat compatible.length := by
      rw [UInt32.lt_iff_toNat_lt, hn]
      exact List.length_pos_iff.2 hempty
    obtain ⟨k, hk, hfirst, heq⟩ := RandomWords.exists_index_eq hpos r
    -- The word that is accepted stands for an index in range.
    have hindex : r.indexAt (.ofNat compatible.length) k < _ :=
      UInt32.lt_iff_toNat_lt.1 (RandomWords.choice_lt hpos (r.word k))
    rw [hn] at heq hindex
    refine ⟨_, k + 1, ?_, .drawn hchance k hk hfirst hindex⟩
    rw [anyOf, RandomWords.choose?, if_neg (by simpa using hempty), heq,
      List.getElem?_eq_getElem hindex]

/-- A strategy that prefers the local node ends with it if it can take the actor, and else leaves
the choice to chance. -/
theorem decided_localOrAny {strategy : Strategy} (hlocal : strategy.PrefersLocal)
    (hlength : compatible.length < UInt32.size) :
    ∃ answer k, localOrAny id s compatible home r = (answer, r.after k) ∧
      Decided id s compatible home r strategy answer k := by
  rw [localOrAny]
  split
  · next h => exact ⟨.ok home, 0, rfl, .here hlocal h.1 h.2⟩
  · next h => exact decided_anyOf (.inr ⟨hlocal, h⟩) hlength

/-! ### All choices -/

/-- A choice ends in one of the ways of `Decided`.

**Proof sketch.** By the strategy.  A random choice and a preference for the local node are the two
lemmas above.  For the hash, the sorted candidates are empty or have an element at the index
selected.  A given node is a candidate or it is not. -/
theorem decided (strategy : Strategy) (id : ActorId) (s : Snapshot) (home : Node) (r : RandomWords)
    (hlength : compatible.length < UInt32.size) :
    ∃ answer k, strategy.chooseNode id s compatible home r = (answer, r.after k) ∧
      Decided id s compatible home r strategy answer k := by
  cases strategy with
  | random => exact decided_anyOf (.inl rfl) hlength
  | preferLocal => exact decided_localOrAny (.inl rfl) hlength
  | statelessWorker limit => exact decided_localOrAny (.inr ⟨limit, rfl⟩) hlength
  | hashBased =>
    -- Sorting does not change which nodes are candidates.
    have hmem (n : Node) : n ∈ Node.sortDistinct compatible ↔ n ∈ compatible :=
      Node.mem_sortDistinct
    rw [chooseNode]
    rcases byHash_of_ascending id (Node.pairwise_sortDistinct compatible) hmem with
      ⟨heq, hempty⟩ | ⟨hindex, heq⟩
    · exact ⟨_, 0, by rw [heq]; rfl, .nowhere (by simp) hempty⟩
    · exact ⟨_, 0, by rw [heq]; rfl, .hashed ((hmem _).1 (List.getElem_mem hindex))⟩
  | fixed target =>
    rw [chooseNode, Strategy.pinned]
    split
    · next h => exact ⟨_, 0, rfl, .pinned h⟩
    · next h => exact ⟨_, 0, rfl, .unavailable h⟩

/-- Whatever the strategy, the membership, the candidates, the local node and the random words are,
a choice ends, and takes at most one word more than the script holds.  A node that it answers with
is a candidate.  It fails for want of the given node exactly if the strategy gives one that is no
candidate, and for want of candidates exactly if the strategy gives none and there are no
candidates.

No word is taken for a given node, by hash, or for a local node that is preferred, is a candidate
and is neither stopping nor dead nor superseded; that node is the answer then.  If the choice is
left to chance and there are candidates, the first word that is accepted decides, and is the last
one taken.

**Proof sketch.** By `decided` the choice ends in one of the ways of `Decided`, and each clause has
its lemma there: `words_le`, the two errors, `eq_zero`, `eq_home` and `eq_drawn`.  That the answer
is a candidate is `mem_of_chooseNode`.  A local node that neither stops nor is dead or superseded is
not about to go, by `Snapshot.not_isTerminating`. -/
theorem chooseNode_decides (strategy : Strategy) (id : ActorId) (s : Snapshot)
    {compatible : List Node} (hlength : compatible.length < UInt32.size) (home : Node)
    (r : RandomWords) :
    ∃ answer k, strategy.chooseNode id s compatible home r = (answer, r.after k) ∧
      k ≤ r.script.length + 1 ∧
      (∀ n, answer = .ok n → n ∈ compatible) ∧
      (∀ id' target, answer = .error (.nodeUnavailable id' target) ↔
        id' = id ∧ strategy = fixed target ∧ target ∉ compatible) ∧
      (∀ id', answer = .error (.noCompatibleNode id') ↔
        id' = id ∧ (∀ target, strategy ≠ fixed target) ∧ compatible = []) ∧
      (strategy = hashBased ∨ (∃ target, strategy = fixed target) → k = 0) ∧
      (strategy = preferLocal ∨ (∃ limit, strategy = statelessWorker limit) → home ∈ compatible →
        s.status? home ≠ some .stopping → s.status? home ≠ some .dead →
        (∀ m ∈ s.members.keys, ¬ home.SupersededBy m) → answer = .ok home ∧ k = 0) ∧
      (strategy.LeftToChance s compatible home → compatible ≠ [] →
        ∃ j, k = j + 1 ∧ r.AcceptsFirst (.ofNat compatible.length) j ∧
          ∃ hindex : r.indexAt (.ofNat compatible.length) j < compatible.length,
            answer = .ok compatible[r.indexAt (.ofNat compatible.length) j]) := by
  obtain ⟨answer, k, heq, h⟩ := decided strategy id s home r hlength
  refine ⟨answer, k, heq, h.words_le, ?_, fun _ _ => h.nodeUnavailable_iff,
    fun _ => h.noCompatibleNode_iff, ?_, ?_, h.eq_drawn⟩
  · rintro n rfl
    exact mem_of_chooseNode heq
  · rintro (hhash | ⟨target, hfixed⟩)
    · exact h.eq_zero fun hchance => hchance.ne_hashBased hhash
    · exact h.eq_zero fun hchance => hchance.ne_fixed target hfixed
  · intro hlocal hhome hstopping hdead hsuperseded
    have hterminating := Snapshot.not_isTerminating hstopping hdead hsuperseded
    exact ⟨h.eq_home hlocal hhome hterminating,
      h.eq_zero (PrefersLocal.not_leftToChance hlocal hhome hterminating)⟩

/-- Three candidates. -/
def threeNodes : List Node := [.loopback 1 1, .loopback 2 1, .loopback 3 1]

/-- A script with one word, which is rejected for three candidates. -/
def rejectedWord : RandomWords := ⟨[0x40000000], 0⟩

/-- A zero is taken after the end of the script. -/
theorem chooseNode_decides_rejected :
    threeNodes.length < UInt32.size ∧
      random.chooseNode ⟨⟨1⟩, "counter"⟩ (.withActive ⟨1⟩ []) threeNodes (.loopback 1 1)
          rejectedWord = (.ok (.loopback 1 1), rejectedWord.after 2) ∧
      2 ≤ rejectedWord.script.length + 1 ∧ .loopback 1 1 ∈ threeNodes := by
  have hlength : threeNodes.length < UInt32.size := by decide
  have hrun : random.chooseNode ⟨⟨1⟩, "counter"⟩ (.withActive ⟨1⟩ []) threeNodes (.loopback 1 1)
      rejectedWord = (.ok (.loopback 1 1), rejectedWord.after 2) := rfl
  obtain ⟨answer, k, heq, hwords, hmem, -⟩ := chooseNode_decides random ⟨⟨1⟩, "counter"⟩
    (.withActive ⟨1⟩ []) hlength (.loopback 1 1) rejectedWord
  rw [hrun] at heq
  obtain ⟨rfl, hafter⟩ := Prod.mk.inj heq
  have htaken : 0 + 2 = 0 + k := congrArg RandomWords.taken hafter
  exact ⟨hlength, hrun, by omega, hmem _ rfl⟩

end Strategy

end ActorLocation
