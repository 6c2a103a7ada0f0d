import ActorLocation.Directory.AnyBackend
import ActorLocation.Proofs.Locator.Runs
/-!
# What has been dropped from the cache is not forgotten

A registration that a pass drops from the cache is known to the locator only as long as it is
pending.  Over a backend that deletes registrations one by one it stays pending until the directory
does not hold it any more, whichever operations fail.  It does not come back either, since
whatever is stored later has another token.

The other side of this is that a registration stays pending even if its node turns out to be alive,
and is deleted then.

## Main definitions

* `ActorLocation.Directory.Orderly` — every token held has been given.
* `ActorLocation.Locator.Accounts` — everything evicted is pending or gone.

## Main results

* `ActorLocation.Locator.Accounts.perform`, `Accounts.runUnder` — what a call and a run preserve.
* `ActorLocation.Locator.evicted_pending_or_gone` — evicted registrations are not forgotten.
* `ActorLocation.Locator.alive_kept_unless_pending` — which registrations on live nodes a pass
  deletes.
-/

namespace ActorLocation

section Orderly

variable {σ : Type} [Backend σ] [LawfulBackend σ] [NumberedBackend σ]

/-- Says that a directory is in order: each registration is held for its own actor, and with a
token that the backend has given. -/
structure Directory.Orderly (d : Directory σ) : Prop where
  /-- Each registration is held for its own actor. -/
  wellKeyed : d.contents.WellKeyed
  /-- Each registration has a token that was given. -/
  tokenIn : ∀ id r, d.contents id = some r → r.TokenIn 0 d.issued

/-- An empty directory is in order. -/
theorem Directory.orderly_of_empty {d : Directory σ} (h : ∀ id, d.contents id = none) :
    d.Orderly where
  wellKeyed id r hr := by
    rw [h id] at hr
    contradiction
  tokenIn id r hr := by
    rw [h id] at hr
    contradiction

/-- A call leaves the directory in order as long as the numbers last. -/
theorem Directory.Orderly.perform {d : Directory σ} (h : d.Orderly) (l : Locator)
    {c : Locator.Call} (hn : d.issued + c.registrations < UInt64.size) :
    (l.perform d c).2.2.Orderly where
  wellKeyed := h.wellKeyed.of_evolves (l.perform_evolves h.wellKeyed c)
  tokenIn id r hr := by
    have hprogress := l.progress_perform d c
    obtain ⟨hissued, -⟩ := hprogress.issued hn
    rcases hprogress.fresh hn id r hr with hold | hnew
    · exact (h.tokenIn id r hold).mono (Nat.le_refl 0) hissued
    · exact hnew.mono (Nat.zero_le _) (Nat.le_refl _)

end Orderly

namespace Locator

section Accounts

variable {σ : Type} [Backend σ] [LawfulBackend σ] [NumberedBackend σ]

/-- Says that a locator accounts for the registrations in `evicted`, which it has dropped from the
cache: each one is pending or gone, and none can come back. -/
structure Accounts (l : Locator) (d : Directory σ) (evicted : List (Snapshot × Registration)) :
    Prop where
  /-- The directory is in order. -/
  orderly : d.Orderly
  /-- What is cached has a token that was given. -/
  cached : ∀ id r, l.cached? id = some r → r.TokenIn 0 d.issued
  /-- What was evicted has a token that was given. -/
  tokenIn : ∀ e ∈ evicted, e.2.TokenIn 0 d.issued
  /-- What was evicted is pending or gone. -/
  pending_or_gone : ∀ e ∈ evicted, e.2 ∈ l.pending ∨ d.contents e.2.actor ≠ some e.2

variable {l : Locator} {d : Directory σ} {evicted : List (Snapshot × Registration)}

/-- A call keeps the account, together with what it evicts itself.

**Proof sketch.** The call keeps the directory in order.  What is cached afterwards was cached
before or is held now, and in either case its token has been given; so has that of what the call
evicts, since this was cached before.  For the last clause there are three kinds of evicted
registrations.  Those that were pending, and those evicted now, are dealt with or pending again by
`freeOf_perform`.  Those that were gone stay away: whatever the call stores has a token that was not
given before. -/
theorem Accounts.perform (h : l.Accounts d evicted) (hbulk : d.capabilities.bulkRemoval = false)
    {c : Call} (hn : d.issued + c.registrations < UInt64.size) :
    (l.perform d c).2.1.Accounts (l.perform d c).2.2 (evicted ++ l.evictions c) := by
  have horderly := h.orderly.perform l hn
  have hprogress := l.progress_perform d c
  obtain ⟨hissued, -⟩ := hprogress.issued hn
  have hmono {r : Registration} (hr : r.TokenIn 0 d.issued) :
      r.TokenIn 0 (l.perform d c).2.2.issued := hr.mono (Nat.le_refl 0) hissued
  refine ⟨horderly, ?_, ?_, ?_⟩
  · intro id r hr
    rcases cached?_perform h.orderly.wellKeyed hr with hr | hr
    · exact hmono (h.cached id r hr)
    · exact horderly.tokenIn id r hr
  · rintro ⟨s, r⟩ he
    rcases List.mem_append.1 he with he | he
    · exact hmono (h.tokenIn _ he)
    · obtain ⟨⟨id, hr⟩, -⟩ := of_mem_evictedBy (mem_evictions he).2.2
      exact hmono (h.cached id r hr)
  · rintro ⟨s, r⟩ he
    -- What is pending or evicted now is dealt with, and what was gone has an old token.
    rcases List.mem_append.1 he with he | he
    · rcases h.pending_or_gone _ he with hr | hr
      · exact (freeOf_perform (.inl hr)).imp_right Contents.FreeOf.ne
      · exact .inr (hprogress.ne_of_ne hn (h.tokenIn _ he) hr)
    · exact (freeOf_perform (.inr ⟨hbulk, s, he⟩)).imp_right Contents.FreeOf.ne

/-- A run keeps the account, together with what it evicts itself.

**Proof sketch.** By induction on the calls.  A plan of failures changes neither what is held nor
which tokens were given, so `Accounts.perform` applies to the first call as it meets the directory.
The call uses up at most as many numbers as it says, which leaves enough for the rest of the run. -/
theorem Accounts.runUnder {d : Directory (Flaky σ)} (h : l.Accounts d evicted)
    (hbulk : d.capabilities.bulkRemoval = false) {cs : List (Outages × Call)}
    (hn : d.issued + registrationsIn cs < UInt64.size) :
    (l.runUnder d cs).2.1.Accounts (l.runUnder d cs).2.2 (evicted ++ l.evictionsAlong d cs) := by
  induction cs generalizing l d evicted with
  | nil =>
    rw [evictionsAlong, met, evictionsWith, List.append_nil]
    exact h
  | cons oc cs ih =>
    obtain ⟨o, c⟩ := oc
    simp only [registrationsIn, List.map_cons, List.sum_cons] at hn
    -- A plan of failures touches neither what is held nor the tokens given.
    have hunder : l.Accounts (d.under o) evicted :=
      ⟨⟨h.orderly.wellKeyed, h.orderly.tokenIn⟩, h.cached, h.tokenIn, h.pending_or_gone⟩
    have hn₁ : (d.under o).issued + c.registrations < UInt64.size := by
      change d.issued + _ < _
      omega
    have hprogress := l.progress_perform (d.under o) c
    have hbulk' : (l.perform (d.under o) c).2.2.capabilities.bulkRemoval = false := by
      rw [hprogress.capabilities]
      exact hbulk
    have hn₂ : (l.perform (d.under o) c).2.2.issued + registrationsIn cs < UInt64.size := by
      obtain ⟨-, hissued⟩ := hprogress.issued hn₁
      change _ ≤ d.issued + _ at hissued
      rw [registrationsIn]
      omega
    rw [evictionsAlong, met, evictionsWith, ← List.append_assoc]
    exact ih (hunder.perform hbulk hn₁) hbulk' hn₂

/-- At the start nothing has been evicted. -/
theorem accounts_start (node : Node) (placements : Placements) (s : Snapshot) (hd : d.Orderly) :
    (start node placements s).Accounts d [] :=
  ⟨hd, fun _ _ h => by contradiction, fun _ h => by contradiction, fun _ h => by contradiction⟩

end Accounts

section Applied

variable {σ : Type} [Backend σ] {v : Version} {dead : List Node} {count : Nat}

/-- Nothing is pending after a pass that was applied.

**Proof sketch.** By the call.  Only a pass can have this answer, and of the ways in which a pass
ends only the one for a membership that is applied has it; it clears what is pending. -/
theorem pending_perform_of_applied {l : Locator} {d : Directory σ} {c : Call}
    (h : (l.perform d c).1 = .reconciled (.ok (.applied v dead count))) :
    (l.perform d c).2.1.pending = [] := by
  cases c with
  | applyMembership s =>
    have hanswer : (l.applyMembership d s).1 = .ok (.applied v dead count) := Reply.reconciled.inj h
    have hreconciled := reconciled_of_eq hanswer
    change (l.applyMembership d s).2.1.pending = []
    generalize (l.applyMembership d s).2.1 = l' at hreconciled ⊢
    cases hreconciled with
    | applied _ => rfl
  | host a =>
    rw [perform] at h
    split at h <;> contradiction
  | resolve | place | register | unregister | invalidate | unregisterLocal | observe | release
  | drain => contradiction

/-- Nothing is pending after a run whose last call was a pass that was applied. -/
theorem pending_runUnder_of_applied {l : Locator} {d : Directory (Flaky σ)}
    {cs : List (Outages × Call)}
    (h : (l.runUnder d cs).1.getLast? = some (.reconciled (.ok (.applied v dead count)))) :
    (l.runUnder d cs).2.1.pending = [] := by
  induction cs generalizing l d with
  | nil => contradiction
  | cons oc cs ih =>
    cases cs with
    | nil => exact pending_perform_of_applied (Option.some.inj h)
    | cons oc' cs => exact ih h

end Applied

/-- Over a backend that deletes registrations one by one, the registrations that passes drop from
the cache are not forgotten, whichever operations fail: after any run each one is pending or not
held any more.  After a pass that was applied nothing is pending, so that none of them is held.
Here fewer registrations are made than there are numbers for tokens.

**Proof sketch.** At the start nothing has been evicted, and so the account is kept by
`Accounts.runUnder`.  Its last clause is the first part of the statement.  After a pass that was
applied nothing is pending, so that everything evicted is gone from under its own actor; and under
another actor it cannot be held, since the directory is well keyed. -/
theorem evicted_pending_or_gone {d₀ : Directory (Flaky (AnyBackend MemoryStore))}
    (hbulk : d₀.capabilities.bulkRemoval = false) (hd₀ : d₀.Orderly) {node : Node}
    {placements : Placements} {s₀ : Snapshot} {cs : List (Outages × Call)}
    (hn : d₀.issued + registrationsIn cs < UInt64.size) {replies : List Reply} {l : Locator}
    {d : Directory (Flaky (AnyBackend MemoryStore))}
    (hrun : (start node placements s₀).runUnder d₀ cs = (replies, l, d)) :
    (∀ e ∈ (start node placements s₀).evictionsAlong d₀ cs,
        e.2 ∈ l.pending ∨ d.contents e.2.actor ≠ some e.2) ∧
      ∀ v dead count, replies.getLast? = some (.reconciled (.ok (.applied v dead count))) →
        l.pending = [] ∧
          ∀ e ∈ (start node placements s₀).evictionsAlong d₀ cs, ∀ id,
            d.contents id ≠ some e.2 := by
  have haccounts := (accounts_start node placements s₀ hd₀).runUnder hbulk hn
  rw [hrun, List.nil_append] at haccounts
  refine ⟨haccounts.pending_or_gone, ?_⟩
  intro v dead count hlast
  have hpending : l.pending = [] := by
    have h : ((start node placements s₀).runUnder d₀ cs).2.1.pending = [] :=
      pending_runUnder_of_applied (by rw [hrun]; exact hlast)
    rwa [hrun] at h
  refine ⟨hpending, ?_⟩
  intro e he id hheld
  rcases haccounts.pending_or_gone e he with hmem | hgone
  · rw [hpending] at hmem
    contradiction
  · -- Whatever is held is held for its own actor, and from there it is gone.
    obtain rfl := haccounts.orderly.wellKeyed id e.2 hheld
    exact hgone hheld

/-- A directory in memory that deletes registrations one by one. -/
def oneByOne : Directory (Flaky (AnyBackend MemoryStore)) :=
  .ofBackend { inner := .inMemory {}, bulkRemoval := false }

/-- A membership with two nodes. -/
def bothActive : Snapshot := .withActive ⟨1⟩ [.loopback 1 1, .loopback 2 1]

/-- The membership after the second node has died. -/
def secondDead : Snapshot := (bothActive.update? (.loopback 2 1) .dead).getD bothActive

/-- An activation on the second node. -/
def departed : Registration := ⟨⟨⟨1⟩, "counter"⟩, .loopback 2 1, ⟨1⟩, none⟩

/-- The second node dies while the directory is out of reach, so that the pass is done again. -/
def interrupted : List (Outages × Call) :=
  [({}, .register departed), ({ changes := [true] }, .applyMembership secondDead),
    ({}, .applyMembership secondDead)]

/-- The answers, the locator and the directory after that. -/
def resumed : List Reply × Locator × Directory (Flaky (AnyBackend MemoryStore)) :=
  (start (.loopback 1 1) {} bothActive).runUnder oneByOne interrupted

/-- A registration that is evicted in a pass that fails is gone after the next one. -/
theorem evicted_pending_or_gone_interrupted :
    (secondDead, departed.withEtag ⟨1⟩) ∈
        (start (.loopback 1 1) {} bothActive).evictionsAlong oneByOne interrupted ∧
      resumed.2.1.pending = [] ∧
      resumed.2.2.contents departed.actor ≠ some (departed.withEtag ⟨1⟩) := by
  have hevicted : (secondDead, departed.withEtag ⟨1⟩) ∈
      (start (.loopback 1 1) {} bothActive).evictionsAlong oneByOne interrupted :=
    List.mem_cons_self
  have hrun : (start (.loopback 1 1) {} bothActive).runUnder oneByOne interrupted =
      (resumed.1, resumed.2.1, resumed.2.2) := rfl
  have h := evicted_pending_or_gone rfl (Directory.orderly_of_empty fun _ => rfl) (by decide) hrun
  obtain ⟨hpending, hgone⟩ := h.2 ⟨2⟩ [.loopback 2 1] 0 rfl
  exact ⟨hevicted, hpending, hgone _ hevicted _⟩

/-! ### Registrations on live nodes -/

section Alive

variable {σ : Type} [Backend σ] [LawfulBackend σ] {l : Locator} {d : Directory σ} {s : Snapshot}
  {id : ActorId} {r : Registration}

/-- A pass keeps what is registered on a live node, unless something pending releases it.

**Proof sketch.** By `applyMembership_evolves` a pass deletes only what is on a node that has died
since the last one, or what something pending releases.  Neither is the case here. -/
theorem applyMembership_keeps (hr : d.contents id = some r) (halive : ¬ s.IsDead r.node)
    (hpending : ¬ ∃ p ∈ l.pending, p.Releases r) :
    (l.applyMembership d s).2.2.contents id = some r := by
  refine (l.applyMembership_evolves d s).keeps id r hr ?_
  rintro ⟨-, hdead | hreleased⟩
  · exact halive (Snapshot.mem_newlyDeadSince.1 hdead).2.1
  · exact hpending hreleased

/-- A pass that is applied deletes what something pending releases.

**Proof sketch.** By `freeOf_applyMembership`, what was pending is dealt with or pending again.
After a pass that was applied nothing is pending, so the directory is free of what it releases. -/
theorem applyMembership_deletes (hd : d.contents.WellKeyed) (hr : d.contents id = some r)
    {v : Version} {dead : List Node} {count : Nat}
    (h : (l.applyMembership d s).1 = .ok (.applied v dead count))
    (hpending : ∃ p ∈ l.pending, p.Releases r) :
    (l.applyMembership d s).2.2.contents id ≠ some r := by
  obtain ⟨p, hp, hreleases⟩ := hpending
  rcases freeOf_applyMembership (d := d) (newer_of_applied h) (.inl hp) with hmem | hfree
  · have hnone : (l.applyMembership d s).2.1.pending = [] :=
      pending_perform_of_applied (c := .applyMembership s) (congrArg Reply.reconciled h)
    rw [hnone] at hmem
    contradiction
  · intro hheld
    have hactor : p.actor = id := hreleases.1.1.trans (hd id r hr)
    exact hfree r (hactor ▸ hheld) hreleases

end Alive

/-- Whatever has happened before and whatever fails now, a pass deletes a registration on a node
that is alive in its membership only if something pending releases it, and it does so if it is
applied.  What is pending has been dropped by an earlier pass, for a membership in which the node
was dead; with a backend that deletes by nodes nothing is pending.

**Proof sketch.** The first two parts are `applyMembership_keeps` and `applyMembership_deletes`.
For the third, what is pending after a run has been dropped in one of its passes by
`mem_pending_runWith`, for a membership in which its node was dead.  If all backends of the run
deleted by nodes, nothing would be pending by `pending_runWith`. -/
theorem alive_kept_unless_pending {σ : Type} [Backend σ] [LawfulBackend σ] {node : Node}
    {placements : Placements} {s₀ : Snapshot} {cs : List (Directory σ × Call)}
    {replies : List Reply} {l : Locator}
    (hrun : (start node placements s₀).runWith cs = (replies, l)) {d : Directory σ}
    (hd : d.contents.WellKeyed) {s : Snapshot} {id : ActorId} {r : Registration}
    (hr : d.contents id = some r) (halive : ¬ s.IsDead r.node) :
    ((l.applyMembership d s).2.2.contents id = some r ∨ ∃ p ∈ l.pending, p.Releases r) ∧
      (∀ v dead count, (l.applyMembership d s).1 = .ok (.applied v dead count) →
        ((l.applyMembership d s).2.2.contents id = some r ↔
          ¬ ∃ p ∈ l.pending, p.Releases r)) ∧
      ∀ p ∈ l.pending, (∃ dc ∈ cs, dc.1.capabilities.bulkRemoval = false) ∧
        ∃ t, (t, p) ∈ (start node placements s₀).evictionsWith cs ∧ t.IsDead p.node := by
  refine ⟨?_, ?_, ?_⟩
  · by_cases hpending : ∃ p ∈ l.pending, p.Releases r
    · exact .inr hpending
    · exact .inl (applyMembership_keeps hr halive hpending)
  · intro v dead count happlied
    constructor
    · intro hheld hpending
      exact applyMembership_deletes hd hr happlied hpending hheld
    · exact applyMembership_keeps hr halive
  · intro p hp
    -- What is pending has a history in the run.
    have hp : p ∈ ((start node placements s₀).runWith cs).2.pending := by rwa [hrun]
    constructor
    · by_cases hbulk : ∀ dc ∈ cs, dc.1.capabilities.bulkRemoval = true
      · rw [pending_runWith hbulk rfl] at hp
        contradiction
      · simpa using hbulk
    · rcases mem_pending_runWith hp with hstart | ⟨t, ht⟩
      · contradiction
      · exact ⟨t, ht, isDead_of_mem_evictionsWith ht⟩

/-- The membership after the second node has been found alive again. -/
def secondRevived : Snapshot := (secondDead.update? (.loopback 2 1) .active).getD secondDead

/-- The answers, the locator and the directory after a registration has been evicted that could not
be deleted. -/
def interruptedOnce : List Reply × Locator × Directory (Flaky (AnyBackend MemoryStore)) :=
  (start (.loopback 1 1) {} bothActive).runUnder oneByOne (interrupted.take 2)

/-- A registration that stayed pending is deleted although its node is alive again. -/
theorem alive_kept_unless_pending_revived :
    interruptedOnce.2.2.contents departed.actor = some (departed.withEtag ⟨1⟩) ∧
      ¬ secondRevived.IsDead departed.node ∧
      (interruptedOnce.2.1.applyMembership interruptedOnce.2.2 secondRevived).2.2.contents
        departed.actor ≠ some (departed.withEtag ⟨1⟩) := by
  have hrun := (start (.loopback 1 1) {} bothActive).runWith_met oneByOne (interrupted.take 2)
  have hempty : oneByOne.Orderly := Directory.orderly_of_empty fun _ => rfl
  have haccounts := (accounts_start (.loopback 1 1) {} bothActive hempty).runUnder rfl
    (show oneByOne.issued + registrationsIn (interrupted.take 2) < UInt64.size by decide)
  have hheld : interruptedOnce.2.2.contents departed.actor = some (departed.withEtag ⟨1⟩) := rfl
  have halive : ¬ secondRevived.IsDead departed.node := by decide
  have h := alive_kept_unless_pending hrun haccounts.orderly.wellKeyed hheld halive
  refine ⟨hheld, halive, fun hafter => ?_⟩
  exact (h.2.1 ⟨3⟩ [] 0 rfl).1 hafter ⟨departed.withEtag ⟨1⟩, List.mem_cons_self, by decide⟩

end Locator

end ActorLocation
