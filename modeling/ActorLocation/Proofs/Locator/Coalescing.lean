import ActorLocation.Proofs.Cluster.Events
import ActorLocation.Proofs.Locator.Resumption
import ActorLocation.Proofs.Membership.Succession
/-!
# Passes for the last membership only

A locator may miss memberships that have been replaced before it got to see them.  It misses nothing
by that: as long as nobody is revived, a pass for the last membership leaves behind what passes for
all of them would leave, one after the other.

## Main results

* `ActorLocation.Locator.applyMembership_applyMembership` — a pass for a membership is not needed
  before a pass for a later one.
* `ActorLocation.Locator.applyMembership_last_eq_run` — a pass for the last membership replaces
  passes for all of them.
* `ActorLocation.Locator.coalesced_eq_one_by_one` — nobody who dies is missed, and nothing else
  differs.
-/

namespace ActorLocation

/-- The values of a table that is filtered by value are the values that pass the filter. -/
theorem Table.values_filter {κ ν : Type} (t : Table κ ν) (p : ν → Bool) :
    (t.filter fun _ v => p v).values = t.values.filter p := by
  obtain ⟨l, hl⟩ := t
  simp only [filter, values, List.filter_map]
  rfl

/-- Only the registrations count, not their order. -/
theorem releasedBy_congr {l m : List Registration} (h : ∀ r, r ∈ l ↔ r ∈ m) :
    releasedBy l = releasedBy m := by
  funext id r
  rw [Bool.eq_iff_iff]
  simp only [releasedBy, List.any_eq_true, h]

/-- A directory that can be asked is in reach. -/
theorem AnyBackend.repaired_of_isReachable {d : Directory (AnyBackend MemoryStore)}
    (h : d.backend.IsReachable) : d.repaired = d := by
  obtain ⟨backend⟩ := d
  cases backend with
  | inMemory _ => rfl
  | overStore s =>
    obtain ⟨store⟩ := s
    obtain ⟨entries, lastVersion, available⟩ := store
    obtain rfl : available = true := h
    rfl

namespace Locator

/-! ### Two passes -/

section Passes

variable {σ : Type} [Backend σ] [RepairableBackend σ] {l : Locator} {d : Directory σ}
  {s t : Snapshot}

/-- What a pass that is applied leaves of a locator: the membership is applied, nothing is pending,
and what is on newly dead nodes is not cached any more. -/
theorem past_eq (l : Locator) (s : Snapshot) :
    l.past s =
      { l with
        current := if l.current.version < s.version then s else l.current
        cache := l.cache.filter fun _ r => r.node ∉ s.newlyDeadSince l.applied
        applied := s
        pending := []
        appliedVersion := s.version } := by
  rw [past, evicting_eq, current_observe]
  rfl

/-- A pass drops what is cached on nodes that have died since the last one. -/
theorem mem_evictedBy {r : Registration} :
    r ∈ l.evictedBy s ↔ r ∈ l.cache.values ∧ r.node ∈ s.newlyDeadSince l.applied := by
  simp [evictedBy]

/-- What a pass drops from the cache, the pass before it has dropped already, or it drops it now. -/
theorem mem_evictedBy_iff (hs : l.applied.Precedes s) (ht : s.Precedes t) {r : Registration} :
    r ∈ l.evictedBy t ↔ r ∈ l.evictedBy s ∨ r ∈ (l.past s).evictedBy t := by
  simp only [mem_evictedBy, past_eq, Table.values_filter, List.mem_filter, decide_eq_true_iff,
    Snapshot.mem_newlyDeadSince_iff hs ht, and_or_left]
  refine or_congr_right (and_congr_left fun hdead => ?_)
  exact (and_iff_left fun h => Snapshot.not_mem_newlyDeadSince h hdead).symm

/-- Two passes that are applied leave the locator behind that the second one alone leaves.

**Proof sketch.** Both sides agree in all that a pass sets, except perhaps in the current membership
and in the cache.  The current membership is the later one, since the versions go up.  For the
cache, a node has died since the last pass if it has died by the first membership or between the
two, by `Snapshot.mem_newlyDeadSince_iff`; so the two filters come to one. -/
theorem past_past (hs : l.applied.Precedes s) (ht : s.Precedes t) :
    (l.past s).past t = l.past t := by
  have hcurrent : (if (if l.current.version < s.version then s else l.current).version < t.version
      then t else if l.current.version < s.version then s else l.current) =
        if l.current.version < t.version then t else l.current := by
    split
    · next hold => rw [if_pos ht.version, if_pos (Version.lt_trans hold ht.version)]
    · rfl
  have hcache : ((l.cache.filter fun _ r => r.node ∉ s.newlyDeadSince l.applied).filter
      fun _ r => r.node ∉ t.newlyDeadSince s) =
        l.cache.filter fun _ r => r.node ∉ t.newlyDeadSince l.applied := by
    rw [Table.filter_filter]
    congr 1
    funext _ r
    simp [Snapshot.mem_newlyDeadSince_iff hs ht]
  simp only [past_eq, hcurrent, hcache]

/-- Two passes in which no deletion fails leave the directory behind that the second one alone
leaves.

**Proof sketch.** What a pass discards is given by two predicates, one for the nodes that have died
and one for what is deleted one by one, and discarding can be done in any order and all at once.
The predicates for the nodes come to the one of the later pass as in `past_past`.  So do those for
single deletions: the first pass leaves nothing pending, and what the later pass would have evicted
has been evicted in the first one or is evicted in the second. -/
theorem cleaned_cleaned (hs : l.applied.Precedes s) (ht : s.Precedes t) (bulk : Bool)
    (d : Directory σ) : (l.past s).cleaned t bulk (l.cleaned s bulk d) = l.cleaned t bulk d := by
  have hnodes : (fun id r => l.onNewlyDead s bulk id r || (l.past s).onNewlyDead t bulk id r) =
      l.onNewlyDead t bulk := by
    funext _ r
    rw [Bool.eq_iff_iff]
    simp only [onNewlyDead, past_eq, Bool.or_eq_true, Bool.and_eq_true, decide_eq_true_iff,
      Snapshot.mem_newlyDeadSince_iff hs ht, and_or_left]
  have hleft : releasedBy (l.leftovers s bulk ++ (l.past s).leftovers t bulk) =
      releasedBy (l.leftovers t bulk) := by
    -- Only which registrations are left over matters, not their order.
    refine releasedBy_congr fun r => ?_
    have hpending : (l.past s).pending = [] := rfl
    cases bulk with
    | true => simp [leftovers, hpending]
    | false => simp [leftovers, hpending, mem_evictedBy_iff hs ht]
  simp only [cleaned]
  rw [Directory.discard_comm _ (releasedBy _), Directory.discard_releasedBy,
    Directory.discard_discard d, hnodes, hleft]

variable [LawfulBackend σ]

/-- A pass for a later membership in which no deletion fails, by what it leaves behind. -/
theorem applyMembership_of_precedes (h : l.applied.Precedes s) (d : Directory σ) :
    l.applyMembership d.repaired s =
      (.ok (.applied s.version (s.newlyDeadSince l.applied) (l.evictedBy s).length), l.past s,
        (l.cleaned s d.capabilities.bulkRemoval d).repaired) := by
  rw [applyMembership_repaired l d s (Version.not_le_of_lt h.version), cleaned, cleaned,
    Directory.repaired_discard, Directory.repaired_discard]

/-- If no deletion fails, a pass for a later membership leaves behind the same whether or not there
has been a pass for an earlier one before. -/
theorem applyMembership_applyMembership (hs : l.applied.Precedes s) (ht : s.Precedes t)
    (d : Directory σ) :
    ((l.applyMembership d.repaired s).2.1.applyMembership
        (l.applyMembership d.repaired s).2.2 t).2 =
      (l.applyMembership d.repaired t).2 := by
  have happlied : (l.past s).applied = s := rfl
  rw [applyMembership_of_precedes hs, applyMembership_of_precedes (happlied ▸ ht),
    applyMembership_of_precedes (hs.trans ht), past_past hs ht, capabilities_cleaned,
    cleaned_cleaned hs ht]

/-- If no deletion fails, a pass for the last of several memberships leaves behind what passes for
all of them leave, one after the other.

**Proof sketch.** By induction on the memberships.  If there is only one, both sides are the same.
Otherwise the first pass may be made before the last one without any difference, by
`applyMembership_applyMembership`, since each membership of a chain precedes all later ones.  What
is left after it is again a locator with a chain ahead of it, to which the induction hypothesis
applies. -/
theorem applyMembership_last_eq_run {ss : List Snapshot} (hss : ss ≠ [])
    (h : List.IsChain Snapshot.StepsTo (l.applied :: ss)) (d : Directory σ) :
    (l.applyMembership d.repaired (ss.getLast hss)).2 =
      l.run d.repaired (ss.map .applyMembership) := by
  induction ss generalizing l d with
  | nil => contradiction
  | cons s ss ih =>
    obtain _ | _ | ⟨hstep, hrest⟩ := h
    cases ss with
    | nil => rfl
    | cons t ts =>
      have hne := List.cons_ne_nil t ts
      have hlast := Snapshot.precedes_of_isChain hrest _ (List.getLast_mem hne)
      -- After the first pass, the rest of the chain is ahead of the locator that is left.
      have htail := ih hne (l := l.past s) hrest (l.cleaned s d.capabilities.bulkRemoval d)
      have hrun : l.run d.repaired ((s :: t :: ts).map .applyMembership) =
          (l.past s).run (l.cleaned s d.capabilities.bulkRemoval d).repaired
            ((t :: ts).map .applyMembership) := by
        rw [List.map_cons, run, perform, applyMembership_of_precedes hstep.precedes]
      rw [List.getLast_cons hne, ← applyMembership_applyMembership hstep.precedes hlast,
        applyMembership_of_precedes hstep.precedes, hrun]
      exact htail

end Passes

/-- A locator that sees only the last of several memberships misses nothing, provided that each one
is the one before after the state of one node has changed, and that nobody is revived.  The nodes
that have died by the last membership are those that died in one of the steps, each of them in one
step only.  With a directory that can be asked, a pass for the last membership is applied, and it
leaves the same locator and the same directory behind as passes for all memberships, one after the
other. -/
theorem coalesced_eq_one_by_one {l : Locator} {ss : List Snapshot} (hss : ss ≠ [])
    (hsteps : List.IsChain Snapshot.StepsTo (l.applied :: ss))
    {d : Directory (AnyBackend MemoryStore)} (hd : d.backend.IsReachable) :
    (l.applied.deathsAlong ss).Nodup ∧
      ((ss.getLast hss).newlyDeadSince l.applied).Perm (l.applied.deathsAlong ss) ∧
      (l.applyMembership d (ss.getLast hss)).1 =
        .ok (.applied (ss.getLast hss).version ((ss.getLast hss).newlyDeadSince l.applied)
          (l.evictedBy (ss.getLast hss)).length) ∧
      (l.applyMembership d (ss.getLast hss)).2 = l.run d (ss.map .applyMembership) := by
  obtain ⟨hnodup, hperm⟩ := Snapshot.newlyDeadSince_perm_deathsAlong hss hsteps
  have hlast := Snapshot.precedes_of_isChain hsteps _ (List.getLast_mem hss)
  have hanswer := applyMembership_of_precedes hlast d
  have hrun := applyMembership_last_eq_run hss hsteps d
  rw [AnyBackend.repaired_of_isReachable hd] at hanswer hrun
  exact ⟨hnodup, hperm, congrArg Prod.fst hanswer, hrun⟩

/-- Three memberships in a row: the second node stops, it is restarted, and its first incarnation is
found dead. -/
def inARow : List Snapshot :=
  let stopping := (bothActive.update? (.loopback 2 1) .stopping).getD bothActive
  let restarted := (stopping.update? (.loopback 2 2) .joining).getD stopping
  [stopping, restarted, (restarted.update? (.loopback 2 1) .dead).getD restarted]

/-- A locator and a directory over a store, after an activation on the second node has been
registered. -/
def overStoreRegistered : Locator × Directory (AnyBackend MemoryStore) :=
  (start (.loopback 1 1) {} bothActive).run (.ofBackend (.overStore ⟨{}⟩)) [.register departed]

/-- The second node dies once, when it is restarted, and a locator that has missed that learns of it
from the last membership. -/
theorem coalesced_eq_one_by_one_restarted :
    bothActive.deathsAlong inARow = [.loopback 2 1] ∧
      (overStoreRegistered.1.applyMembership overStoreRegistered.2 inARow[2]).2 =
        overStoreRegistered.1.run overStoreRegistered.2 (inARow.map .applyMembership) := by
  have hsteps : List.IsChain Snapshot.StepsTo (overStoreRegistered.1.applied :: inARow) := by
    refine .cons_cons ⟨.loopback 2 1, .stopping, rfl, by decide⟩ (.cons_cons ?_ (.cons_cons ?_ ?_))
    · exact ⟨.loopback 2 2, .joining, rfl, by decide⟩
    · exact ⟨.loopback 2 1, .dead, rfl, by decide⟩
    · exact .singleton _
  have hd : overStoreRegistered.2.backend.IsReachable := rfl
  obtain ⟨-, -, -, hsame⟩ := coalesced_eq_one_by_one (List.cons_ne_nil _ _) hsteps hd
  exact ⟨by decide, hsame⟩

end Locator

end ActorLocation
