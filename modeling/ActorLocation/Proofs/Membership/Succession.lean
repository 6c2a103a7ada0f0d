import ActorLocation.Proofs.Membership.Death
import Mathlib.Data.List.Chain
/-!
# Successive memberships

Memberships follow one another in steps, each of which lists a node or changes its state.  As long
as no step revives a node that is dead, the nodes that have died by the end are those that died in
one of the steps, and each of them died in one step only.  Whoever sees only the last membership
misses none of them.

The steps must not list a node that is already dead by a later incarnation: nobody would find such a
node newly dead in that step, but it has died since the first membership.

## Main definitions

* `ActorLocation.Snapshot.StepsTo` — a step that revives no node.
* `ActorLocation.Snapshot.Precedes` — what such steps preserve.
* `ActorLocation.Snapshot.deathsAlong` — the nodes that die in the steps, one after the other.

## Main results

* `ActorLocation.Snapshot.precedes_of_isChain` — what a sequence of steps preserves.
* `ActorLocation.Snapshot.newlyDeadSince_perm_deathsAlong` — who has died in the end died on the
  way, in exactly one step.
-/

namespace ActorLocation

/-! ### Distinct nodes -/

/-- A list without its repetitions repeats nothing. -/
theorem nodup_eraseDups {α : Type} [BEq α] [LawfulBEq α] (l : List α) : l.eraseDups.Nodup := by
  cases l with
  | nil => simp
  | cons a l =>
    rw [List.eraseDups_cons, List.nodup_cons]
    exact ⟨by simp [List.mem_eraseDups], nodup_eraseDups _⟩
termination_by l.length
decreasing_by exact Nat.lt_succ_of_le (List.length_filter_le _ _)

/-- The distinct nodes of a list are distinct. -/
theorem Node.nodup_sortDistinct (l : List Node) : (sortDistinct l).Nodup :=
  (sortBy_perm _ _).nodup_iff.2 (nodup_eraseDups l)

/-- An insertion adds one key, unless it is there. -/
theorem Table.mem_keys_insert {κ ν : Type} [DecidableEq κ] {t : Table κ ν} {k k' : κ} {v : ν} :
    k' ∈ (t.insert k v).keys ↔ k' = k ∨ k' ∈ t.keys := by
  rw [← Decidable.not_iff_not, not_or, ← find?_eq_none_iff, ← find?_eq_none_iff, find?_insert]
  split <;> simp [*]

namespace Snapshot

/-- Nobody is newly dead twice. -/
theorem nodup_newlyDeadSince (s previous : Snapshot) : (s.newlyDeadSince previous).Nodup :=
  (Node.nodup_sortDistinct _).filter _

/-! ### Steps -/

/-- Says that `t` is `s` after the state of one node has changed, without reviving a node: one that
is dead already must be listed, and stays dead. -/
def StepsTo (s t : Snapshot) : Prop :=
  ∃ node status, s.update? node status = some t ∧
    (s.IsDead node → status = .dead ∧ node ∈ s.members.keys)

/-- Says that `t` may follow `s`: its version is greater, it lists what `s` lists, who is dead stays
dead, and nobody who is dead is listed anew. -/
structure Precedes (s t : Snapshot) : Prop where
  /-- The version grows. -/
  version : s.version < t.version
  /-- Who is listed stays listed. -/
  listed : ∀ n ∈ s.members.keys, n ∈ t.members.keys
  /-- Who is dead stays dead. -/
  dead : ∀ n, s.IsDead n → t.IsDead n
  /-- Who is dead is not listed anew. -/
  unlisted : ∀ n, s.IsDead n → n ∈ t.members.keys → n ∈ s.members.keys

variable {s t u : Snapshot}

/-- What may follow a membership that may follow may follow. -/
theorem Precedes.trans (h : s.Precedes t) (h' : t.Precedes u) : s.Precedes u where
  version := Version.lt_trans h.version h'.version
  listed n hn := h'.listed n (h.listed n hn)
  dead n hn := h'.dead n (h.dead n hn)
  unlisted n hn hu := h.unlisted n hn (h'.unlisted n (h.dead n hn) hu)

instance : Trans Precedes Precedes Precedes := ⟨Precedes.trans⟩

/-- A step leads to a membership that may follow.

**Proof sketch.** The version goes up by one, as it has not run out.  One node is listed, and none
is dropped.  A node that is dead by its state stays so, since its state changes only if it was dead
and is dead again; one that is dead by a later incarnation stays so, since that one stays listed.
If the changed node was dead before, the step demands that it was listed. -/
theorem StepsTo.precedes (h : s.StepsTo t) : s.Precedes t := by
  obtain ⟨node, status, hupdate, hdead⟩ := h
  obtain ⟨version, hversion, rfl⟩ := Option.map_eq_some_iff.1 hupdate
  refine ⟨?_, ?_, ?_, ?_⟩
  · rw [Version.next?] at hversion
    split at hversion
    · next hn =>
      obtain rfl := Option.some.inj hversion
      change s.version.num < s.version.num + 1
      simp only [UInt64.size] at hn
      rw [UInt64.lt_iff_toNat_lt, UInt64.toNat_add, UInt64.toNat_one]
      omega
    · contradiction
  · exact fun n hn => Table.mem_keys_insert.2 (.inr hn)
  · rintro n (hstatus | ⟨m, hm, hsuperseded⟩)
    · left
      change ((s.members.insert node _).find? n).map Member.status = _
      rw [Table.find?_insert]
      split
      · next hnode =>
        -- Only the state of `node` changes, and it was dead before.
        obtain ⟨rfl, -⟩ := hdead (hnode ▸ .inl hstatus)
        rw [setStatus]
        split <;> rfl
      · exact hstatus
    · exact .inr ⟨m, Table.mem_keys_insert.2 (.inr hm), hsuperseded⟩
  · intro n hn hlisted
    rcases Table.mem_keys_insert.1 hlisted with rfl | hlisted
    · exact (hdead hn).2
    · exact hlisted

/-- After a sequence of steps, each membership may follow the first one. -/
theorem precedes_of_isChain {ss : List Snapshot} (h : List.IsChain StepsTo (s :: ss)) :
    ∀ t ∈ ss, s.Precedes t :=
  (List.pairwise_cons.1 (h.imp fun _ _ => StepsTo.precedes).pairwise).1

/-! ### Deaths -/

/-- Who has died since `s` had died by `t`, or has died since.

**Proof sketch.** Ask whether the node was dead by `t`.  Who is dead stays dead and who is listed
stays listed, so the death is counted once, in the stretch in which it happened.  A node that is
dead by `t` and listed by `u` is listed by `t`, because the dead are not listed anew. -/
theorem mem_newlyDeadSince_iff (hst : s.Precedes t) (htu : t.Precedes u) {n : Node} :
    n ∈ u.newlyDeadSince s ↔ n ∈ t.newlyDeadSince s ∨ n ∈ u.newlyDeadSince t := by
  simp only [mem_newlyDeadSince]
  constructor
  · rintro ⟨hlisted, hdead, halive⟩
    have hu : n ∈ u.members.keys :=
      hlisted.elim id fun h => htu.listed n (hst.listed n h)
    by_cases ht : t.IsDead n
    · exact .inl ⟨.inl (htu.unlisted n ht hu), ht, halive⟩
    · exact .inr ⟨.inl hu, hdead, ht⟩
  · rintro (⟨hlisted, hdead, halive⟩ | ⟨hlisted, hdead, halive⟩)
    · exact ⟨hlisted.imp_left (htu.listed n), htu.dead n hdead, halive⟩
    · exact ⟨.inl (hlisted.elim id (htu.listed n)), hdead, fun hs => halive (hst.dead n hs)⟩

/-- Nobody dies twice. -/
theorem not_mem_newlyDeadSince {n : Node} (h : n ∈ t.newlyDeadSince s) :
    n ∉ u.newlyDeadSince t :=
  fun h' => (mem_newlyDeadSince.1 h').2.2 (mem_newlyDeadSince.1 h).2.1

/-- The nodes that die in a sequence of steps, one after the other. -/
def deathsAlong (s : Snapshot) : List Snapshot → List Node
  | [] => []
  | t :: ts => t.newlyDeadSince s ++ t.deathsAlong ts

/-- The nodes that die in a sequence of steps are those that have died in the end, and each of them
dies in one step only.

**Proof sketch.** As no node is repeated, it is enough that both lists have the same nodes.
Induction on the steps: the deaths of the first step and those of all the others are the deaths by
the end (`mem_newlyDeadSince_iff`), and nobody is among both (`not_mem_newlyDeadSince`). -/
theorem newlyDeadSince_perm_deathsAlong {ss : List Snapshot} (hss : ss ≠ [])
    (h : List.IsChain StepsTo (s :: ss)) :
    (s.deathsAlong ss).Nodup ∧ ((ss.getLast hss).newlyDeadSince s).Perm (s.deathsAlong ss) := by
  suffices hmem : (s.deathsAlong ss).Nodup ∧
      ∀ n, n ∈ (ss.getLast hss).newlyDeadSince s ↔ n ∈ s.deathsAlong ss from
    ⟨hmem.1, (List.perm_ext_iff_of_nodup (nodup_newlyDeadSince _ _) hmem.1).2 hmem.2⟩
  induction ss generalizing s with
  | nil => contradiction
  | cons t ts ih =>
    obtain _ | _ | ⟨hstep, hrest⟩ := h
    cases ts with
    | nil => simp [deathsAlong, nodup_newlyDeadSince]
    | cons t' ts =>
      obtain ⟨hnodup, hmem⟩ := ih (List.cons_ne_nil t' ts) hrest
      have hlast := precedes_of_isChain hrest _ (List.getLast_mem (List.cons_ne_nil t' ts))
      rw [deathsAlong, List.nodup_append, List.getLast_cons (List.cons_ne_nil t' ts)]
      refine ⟨⟨nodup_newlyDeadSince t s, hnodup, ?_⟩, fun n => ?_⟩
      · -- Who dies in the first step dies in no later one.
        rintro n hn m hm rfl
        exact not_mem_newlyDeadSince hn ((hmem n).2 hm)
      · rw [mem_newlyDeadSince_iff hstep.precedes hlast, List.mem_append, hmem]

end Snapshot

end ActorLocation
