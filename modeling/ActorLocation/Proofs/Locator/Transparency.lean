import ActorLocation.Proofs.Cluster.Events
import ActorLocation.Proofs.Membership.Death
/-!
# The cache is transparent

A locator that has the directory for itself caches only what the directory holds, so that it answers
as it would with an empty cache.  Calls may fail, except that a failed registration or pass can
leave a registration in the cache that is no longer in the directory.

## Main definitions

* `ActorLocation.Locator.Faithful` — a locator caches only what the directory holds.
* `ActorLocation.Locator.withoutCache` — a locator with an empty cache.

## Main results

* `ActorLocation.Locator.Faithful.perform` — what a call preserves.
* `ActorLocation.Locator.Faithful.resolve_eq` — finding an actor with and without the cache.
* `ActorLocation.Cluster.cache_transparent` — the cache is transparent in each state that a run
  leads to.
* `ActorLocation.Cluster.cache_visible_if_hosted` — only the cache itself shows a difference, for
  actors that the node hosts.
-/

namespace ActorLocation

namespace Locator

/-- Says that a locator caches only what the directory holds, each registration for its own actor,
and that no deletion is pending. -/
structure Faithful {σ : Type} [Backend σ] [LawfulBackend σ] (l : Locator) (d : Directory σ) :
    Prop where
  /-- Each registration is held for its own actor. -/
  wellKeyed : d.contents.WellKeyed
  /-- No deletion is pending. -/
  pending : l.pending = []
  /-- What is cached is held. -/
  cached : ∀ id r, l.cached? id = some r → d.contents id = some r

/-- The locator with an empty cache. -/
def withoutCache (l : Locator) : Locator := { l with cache := ∅ }

/-- Says that the answer to a call shows that a registration or a pass has failed. -/
def Reply.Failed : Reply → Prop
  | .registered (.error _) | .reconciled (.error _) => True
  | _ => False

/-! ### The cache and the operations -/

/-- An actor that is forgotten is not cached, and for the others the same is cached. -/
theorem cached?_forget (l : Locator) (id id' : ActorId) :
    (l.forget id).cached? id' = if id' = id then none else l.cached? id' :=
  Table.find?_erase _ _ _

/-- What is cached once an activation has been forgotten: what was cached before and describes
another activation. -/
theorem of_cached?_forgetActivation {l : Locator} {u r : Registration} {id : ActorId}
    (h : (l.forgetActivation u).cached? id = some r) :
    l.cached? id = some r ∧ (id = u.actor → ¬ r.SameActivation u) := by
  rw [forgetActivation, cached?, Table.find?_eraseIf] at h
  split at h
  · obtain ⟨hr, hne⟩ := Option.filter_eq_some_iff.1 h
    exact ⟨hr, fun _ hsame => by simp [hsame] at hne⟩
  · next hid => exact ⟨h, fun heq => absurd heq hid⟩

/-- What is cached once several activations have been forgotten: what was cached before and
describes none of them. -/
theorem of_cached?_foldl_forgetActivation {us : List Registration} {l : Locator} {r : Registration}
    {id : ActorId} (h : (us.foldl forgetActivation l).cached? id = some r) :
    l.cached? id = some r ∧ ∀ u ∈ us, id = u.actor → ¬ r.SameActivation u := by
  induction us generalizing l with
  | nil => exact ⟨h, fun u hu => by contradiction⟩
  | cons u us ih =>
    obtain ⟨hl, hus⟩ := ih h
    obtain ⟨hl, hu⟩ := of_cached?_forgetActivation hl
    refine ⟨hl, fun v hv => ?_⟩
    rcases List.mem_cons.1 hv with rfl | hv
    · exact hu
    · exact hus v hv

/-- What happens when the directory is asked for an actor does not depend on what is cached for
other actors. -/
theorem resolveRemotely_congr {σ : Type} [Backend σ] {l m : Locator}
    (hcurrent : l.current = m.current) {id : ActorId} (hid : l.cached? id = m.cached? id)
    (d : Directory σ) :
    (l.resolveRemotely d id).1 = (m.resolveRemotely d id).1 ∧
      (l.resolveRemotely d id).2.2 = (m.resolveRemotely d id).2.2 ∧
      (l.resolveRemotely d id).2.1.cached? id = (m.resolveRemotely d id).2.1.cached? id := by
  rw [resolveRemotely, resolveRemotely, hcurrent]
  split
  · exact ⟨rfl, rfl, hid⟩
  · exact ⟨rfl, rfl, hid⟩
  · split
    · exact ⟨rfl, rfl, hid⟩
    · refine ⟨rfl, rfl, ?_⟩
      simp only [cached?, Table.find?_insert_self]

/-- An actor that the node hosts is found without cache and directory. -/
theorem resolve_of_hosted {σ : Type} [Backend σ] {l : Locator} {id : ActorId}
    (hid : (l.catalog.first? id).isSome = true) (d : Directory σ) :
    l.resolve d id = (.ok l.node, l, d) := by
  rw [resolve, if_pos hid]

/-- With an empty cache, the directory is asked for every actor that the node does not host. -/
theorem resolve_withoutCache {σ : Type} [Backend σ] {l : Locator} {id : ActorId}
    (hid : ¬ (l.catalog.first? id).isSome = true) (d : Directory σ) :
    l.withoutCache.resolve d id = l.withoutCache.resolveRemotely d id := by
  unfold resolve
  exact if_neg hid

variable {σ : Type} [Backend σ] [LawfulBackend σ] {l : Locator} {d : Directory σ}

/-- Asking the directory caches at most what it holds for that actor.

**Proof sketch.** By the answer to the look-up, which changes nothing that is held.  Only a
registration on a live node is cached, and it is what the look-up has found. -/
theorem resolveRemotely_cache (l : Locator) (d : Directory σ) (id : ActorId) :
    (l.resolveRemotely d id).2.1 = l ∨ ∃ r,
      (l.resolveRemotely d id).2.1 = { l with cache := l.cache.insert id r } ∧
        (l.resolveRemotely d id).2.2.contents id = some r := by
  have hlooked := d.looked id
  have hsame := d.contents_lookup id
  unfold resolveRemotely
  split
  · exact .inl rfl
  · exact .inl rfl
  · next r d' heq =>
    rw [heq] at hlooked hsame
    split
    · exact .inl rfl
    · exact .inr ⟨r, rfl, by rw [hsame]; exact hlooked.eq_of_ok⟩

namespace Faithful

/-! ### What a call preserves -/

/-- A locator stays faithful if all that is cached afterwards is held afterwards, or was cached
before and cannot have been deleted. -/
theorem of_evolves (h : l.Faithful d) {l' : Locator} {d' : Directory σ}
    {p : ActorId → Registration → Prop} (he : d.contents.Evolves p d'.contents)
    (hp : l'.pending = [])
    (hc : ∀ id r, l'.cached? id = some r →
      d'.contents id = some r ∨ l.cached? id = some r ∧ ¬ p id r) : l'.Faithful d' where
  wellKeyed := h.wellKeyed.of_evolves he
  pending := hp
  cached id r hr := by
    rcases hc id r hr with hheld | ⟨hcached, hkept⟩
    · exact hheld
    · exact he.keeps id r (h.cached id r hcached) hkept

/-- Nothing is wrong with a smaller cache. -/
theorem of_cached? (h : l.Faithful d) {l' : Locator} (hp : l'.pending = [])
    (hc : ∀ id r, l'.cached? id = some r → l.cached? id = some r) : l'.Faithful d :=
  h.of_evolves (.refl (fun _ _ => False) _) hp fun id r hr => .inr ⟨hc id r hr, not_false⟩

/-- A faithful locator may forget an actor. -/
theorem forget (h : l.Faithful d) (id : ActorId) : (l.forget id).Faithful d := by
  refine h.of_cached? h.pending ?_
  intro id' r hr
  rw [cached?_forget] at hr
  split at hr
  · contradiction
  · exact hr

/-- Asking the directory for an actor that is not cached keeps a locator faithful.

**Proof sketch.** Asking deletes at most a registration of the actor, and nothing is cached for it,
so whatever was cached is still held.  What is cached anew is held by `resolveRemotely_cache`. -/
theorem resolveRemotely (h : l.Faithful d) {id : ActorId} (hid : l.cached? id = none) :
    (l.resolveRemotely d id).2.1.Faithful (l.resolveRemotely d id).2.2 := by
  have hevolves := l.resolveRemotely_evolves h.wellKeyed id
  have hview := (l.sameMembership_resolveRemotely d id).view
  simp only [view, Prod.mk.injEq] at hview
  refine h.of_evolves hevolves (hview.2.2.trans h.pending) ?_
  intro id' r hr
  -- Nothing is cached for the actor itself, the only one of which something may be deleted.
  have hkept (hr : l.cached? id' = some r) :
      l.cached? id' = some r ∧ ¬ (id' = id ∧ l.current.IsDead r.node) := by
    refine ⟨hr, fun hdead => ?_⟩
    rw [hdead.1, hid] at hr
    contradiction
  rcases l.resolveRemotely_cache d id with heq | ⟨s, heq, hheld⟩
  · rw [heq] at hr
    exact .inr (hkept hr)
  · rw [heq, cached?, Table.find?_insert] at hr
    split at hr
    · next hid' =>
      rw [hid', ← Option.some.inj hr]
      exact .inl hheld
    · exact .inr (hkept hr)

/-- Finding an actor keeps a locator faithful. -/
theorem resolve (h : l.Faithful d) (id : ActorId) :
    (l.resolve d id).2.1.Faithful (l.resolve d id).2.2 := by
  unfold Locator.resolve
  split
  · exact h
  · split
    · next hid => exact h.resolveRemotely hid
    · split
      · refine (h.forget id).resolveRemotely ?_
        rw [cached?_forget, if_pos rfl]
      · exact h

/-- A registration that succeeds keeps a locator faithful: it caches what is held then.

**Proof sketch.** What a registration answers is held and remembered, by `register_spec`.  It
deletes only registrations of the actor, and for the actor the cache has been overwritten. -/
theorem register (h : l.Faithful d) {r : Registration} {o : Outcome}
    (ho : (l.register d r).1 = .ok o) :
    (l.register d r).2.1.Faithful (l.register d r).2.2 := by
  obtain ⟨hevolves, hok⟩ := l.register_spec h.wellKeyed r
  obtain ⟨hheld, -, hl⟩ := hok o ho
  have hactor : o.registration.actor = r.actor := h.wellKeyed.of_evolves hevolves _ _ hheld
  rw [hl]
  refine h.of_evolves hevolves h.pending ?_
  intro id s hs
  rw [remember, cached?, Table.find?_insert] at hs
  split at hs
  · next hid =>
    rw [hid, hactor, ← Option.some.inj hs]
    exact .inl hheld
  · next hid => exact .inr ⟨hs, fun hdead => hid (hdead.1.trans hactor.symm)⟩

/-- A withdrawal keeps a locator faithful. -/
theorem unregister (h : l.Faithful d) (r : Registration) (cause : UnregisterCause) :
    (l.unregister d r cause).2.1.Faithful (l.unregister d r cause).2.2 := by
  obtain ⟨hevolves, heq | ⟨heq, hsame⟩⟩ := l.unregister_spec d r cause
  · rw [heq]
    refine h.of_evolves hevolves h.pending ?_
    intro id s hs
    obtain ⟨hs, hne⟩ := of_cached?_forgetActivation hs
    exact .inr ⟨hs, fun ⟨hid, hrel⟩ => hne hid hrel.1.symm⟩
  · rw [heq]
    exact ⟨hsame ▸ h.wellKeyed, h.pending, hsame ▸ h.cached⟩

/-- A shutdown keeps a locator faithful. -/
theorem unregisterLocal (h : l.Faithful d) (cause : UnregisterCause) :
    (l.unregisterLocal d cause).2.1.Faithful (l.unregisterLocal d cause).2.2 := by
  have hview := (sameMembership_foldl_forgetActivation l.localRegistrations
    { l with catalog := l.catalog.drain.2 }).view
  simp only [view, Prod.mk.injEq] at hview
  refine h.of_evolves (d.evolves_unregisterMany l.localRegistrations)
    (hview.2.2.trans h.pending) fun id r hr => ?_
  obtain ⟨hr, hne⟩ := of_cached?_foldl_forgetActivation hr
  refine .inr ⟨hr, fun ⟨u, hu, hrel⟩ => hne u hu ?_ hrel.1.symm⟩
  exact (h.wellKeyed id r (h.cached id r hr)).symm.trans hrel.1.1.symm

/-- A pass that succeeds keeps a locator faithful: what it may delete is no longer cached.

**Proof sketch.** By the way in which the pass has ended.  A stale pass deletes nothing.  A pass
that is applied deletes what is on nodes that have died since the last one, which it has dropped
from the cache as well, and what something pending releases; but nothing was pending. -/
theorem applyMembership (h : l.Faithful d) {s : Snapshot} {answer : Reconciliation}
    (ha : (l.applyMembership d s).1 = .ok answer) :
    (l.applyMembership d s).2.1.Faithful (l.applyMembership d s).2.2 := by
  have hevolves := l.applyMembership_evolves d s
  have hreconciled := reconciled_of_eq ha
  generalize (l.applyMembership d s).2.1 = l' at hreconciled ⊢
  cases hreconciled with
  | stale hversion =>
    exact h.of_evolves hevolves h.pending fun id r hr => .inr ⟨hr, fun hp => hp.1 hversion⟩
  | applied _ =>
    refine h.of_evolves hevolves rfl ?_
    intro id r hr
    change (l.evicting s).cached? id = some r at hr
    rw [cached?_evicting] at hr
    obtain ⟨hr, hnode⟩ := Option.filter_eq_some_iff.1 hr
    refine .inr ⟨hr, ?_⟩
    rintro ⟨-, hdead | ⟨p, hp, -⟩⟩
    · -- What is on a node that has died is not cached any more.
      exact of_decide_eq_true hnode hdead
    · rw [h.pending] at hp
      contradiction

/-- A call keeps a locator faithful, unless it is a registration or a pass that fails.

**Proof sketch.** By the call.  The calls that ask the directory have been dealt with above; a
registration or a pass has succeeded, since its failure is excluded.  The other calls touch the
directory not at all, and at most take something away from the cache. -/
theorem perform (h : l.Faithful d) {q : Call} (hq : ¬ (l.perform d q).1.Failed) :
    (l.perform d q).2.1.Faithful (l.perform d q).2.2 := by
  cases q with
  | resolve id => exact h.resolve id
  | register r =>
    cases ha : (l.register d r).1 with
    | ok o => exact h.register ha
    | error e =>
      -- The answer would show the failure.
      refine absurd ?_ hq
      change Reply.Failed (.registered (l.register d r).1)
      rw [ha]
      trivial
  | unregister r cause => exact h.unregister r cause
  | invalidate r =>
    change (l.invalidate r).2.Faithful d
    unfold invalidate
    split
    · exact h.forget r.actor
    · exact h
  | unregisterLocal cause => exact h.unregisterLocal cause
  | observe s =>
    change (l.observe s).2.Faithful d
    unfold observe
    split
    · exact h.of_cached? h.pending fun _ _ => id
    · exact h
  | applyMembership s =>
    cases ha : (l.applyMembership d s).1 with
    | ok answer => exact h.applyMembership ha
    | error e =>
      refine absurd ?_ hq
      change Reply.Failed (.reconciled (l.applyMembership d s).1)
      rw [ha]
      trivial
  | host g =>
    rw [Locator.perform]
    split
    · exact h.of_cached? h.pending fun _ _ => id
    · exact h
  | release g => exact h.of_cached? h.pending fun _ _ => id
  | drain => exact h.of_cached? h.pending fun _ _ => id
  | place => exact h

end Faithful

/-! ### Finding actors with and without the cache -/

/-- A faithful locator finds an actor as it would with an empty cache, provided that the directory
answers: the answer and the directory are the same, and so is what is cached for the actor unless
the node hosts it.

**Proof sketch.** If the actor is not cached, or cached on a dead node, the directory is asked in
either case.  If it is cached on a live node, the directory holds that registration. -/
theorem Faithful.resolve_eq (h : l.Faithful d) {id : ActorId}
    (hok : ∃ found, (d.lookup id).1 = .ok found) :
    (l.resolve d id).1 = (l.withoutCache.resolve d id).1 ∧
      (l.resolve d id).2.2 = (l.withoutCache.resolve d id).2.2 ∧
      ((l.catalog.first? id).isSome = false →
        (l.resolve d id).2.1.cached? id = (l.withoutCache.resolve d id).2.1.cached? id) := by
  by_cases hhosted : (l.catalog.first? id).isSome = true
  · have hhosted' : (l.withoutCache.catalog.first? id).isSome = true := hhosted
    rw [resolve_of_hosted hhosted, resolve_of_hosted hhosted']
    exact ⟨rfl, rfl, fun hnot => by rw [hnot] at hhosted; contradiction⟩
  · rw [resolve_withoutCache hhosted]
    rw [Locator.resolve, if_neg hhosted]
    split
    · next hnone =>
      obtain ⟨h₁, h₂, h₃⟩ := resolveRemotely_congr (l := l) (m := l.withoutCache) rfl hnone d
      exact ⟨h₁, h₂, fun _ => h₃⟩
    · next r hr =>
      split
      · -- What is cached is on a dead node, and is forgotten before the directory is asked.
        have hnone : (l.forget id).cached? id = none := by rw [cached?_forget, if_pos rfl]
        obtain ⟨h₁, h₂, h₃⟩ :=
          resolveRemotely_congr (l := l.forget id) (m := l.withoutCache) rfl hnone d
        exact ⟨h₁, h₂, fun _ => h₃⟩
      · next halive =>
        -- What is cached is held, so the directory would answer the same.
        have hremote : l.withoutCache.resolveRemotely d id =
            (.ok r.node, { l.withoutCache with cache := Table.insert ∅ id r }, d) := by
          rw [Locator.resolveRemotely, Directory.lookup_of_contents (h.cached id r hr) hok]
          exact if_neg halive
        rw [hremote]
        refine ⟨rfl, rfl, fun _ => ?_⟩
        simp only [cached?, Table.find?_insert_self]
        exact hr

end Locator

/-! ### Runs -/

namespace Cluster

open Locator

variable {c : Cluster (AnyBackend MemoryStore)}

/-- Says that no registration and no pass fails in an event, and that nobody writes to the store
behind the directory. -/
def Faultless (c : Cluster (AnyBackend MemoryStore)) : Event → Prop
  | .call i q => ∀ reply ∈ (c.perform i q).1, ¬ reply.Failed
  | .switch _ => True
  | .write .. => False

/-- Says that the cluster has one locator, and that it is faithful. -/
def IsFaithful (c : Cluster (AnyBackend MemoryStore)) : Prop :=
  ∃ l, c.locators = [l] ∧ l.Faithful c.directory

/-- A faultless event keeps the locator faithful.

**Proof sketch.** By the event.  A call goes to the one locator of the cluster, or to none, and
keeps it faithful by `Faithful.perform`.  A switch changes nothing that is held.  Writes behind the
directory are excluded. -/
theorem IsFaithful.step (h : c.IsFaithful) {e : Event} (he : c.Faultless e) :
    (c.step e).IsFaithful := by
  obtain ⟨l, hl, hfaithful⟩ := h
  cases e with
  | call i q =>
    rcases step_call (c := c) i q with heq | ⟨l', hl', hi, heq⟩
    · rw [Cluster.step, heq]
      exact ⟨l, hl, hfaithful⟩
    · -- The locator that is called is the only one.
      rw [hl, List.mem_singleton] at hl'
      subst hl'
      rw [hl] at hi
      rw [Cluster.step, heq]
      have hreply : ¬ (l'.perform c.directory q).1.Failed := he _ (by rw [heq]; rfl)
      cases i with
      | zero => exact ⟨_, by simp [hl], hfaithful.perform hreply⟩
      | succ i => contradiction
  | switch available =>
    have hsame : (c.step (.switch available)).directory.contents = c.directory.contents :=
      AnyBackend.held_switch available c.directory.backend
    exact ⟨l, hl, hsame ▸ hfaithful.wellKeyed, hfaithful.pending, hsame ▸ hfaithful.cached⟩
  | write key value => exact he.elim

/-- A faultless run keeps the locator faithful. -/
theorem IsFaithful.after (h : c.IsFaithful) {es : List Event} (hes : Along Faultless c es) :
    (c.after es).IsFaithful := by
  induction es generalizing c with
  | nil => exact h
  | cons e es ih => exact ih (h.step hes.1) hes.2

/-- The cache of a locator that has the directory for itself is transparent.  After any run without
writes behind the directory and without a registration or a pass that fails, whatever is cached is
held; and if the directory can be asked then, finding an actor has the same answer, and leaves the
same directory behind, as it would with an empty cache.  The same registration of the actor is
cached then, unless the node hosts the actor: then neither cache is touched.

**Proof sketch.** With an empty cache and nothing pending the locator is faithful at the start, so
it is after the run by `IsFaithful.after`.  This is the first part.  If the directory is in reach it
answers every look-up, so that `Faithful.resolve_eq` applies.  An actor that the node hosts is found
before the cache is looked at, with either locator. -/
theorem cache_transparent {c : Cluster (AnyBackend MemoryStore)} {l₀ l : Locator}
    (hlocators : c.locators = [l₀]) (hcache : l₀.cache = ∅) (hpending : l₀.pending = [])
    (hkeyed : c.directory.contents.WellKeyed) {es : List Event} (hes : Along Faultless c es)
    (hl : (c.after es).locators = [l]) :
    (∀ id r, l.cached? id = some r → (c.after es).directory.contents id = some r) ∧
      ((c.after es).directory.backend.IsReachable → ∀ id,
        (l.resolve (c.after es).directory id).1 =
            (l.withoutCache.resolve (c.after es).directory id).1 ∧
          (l.resolve (c.after es).directory id).2.2 =
            (l.withoutCache.resolve (c.after es).directory id).2.2 ∧
          ((l.catalog.first? id).isSome = false →
            (l.resolve (c.after es).directory id).2.1.cached? id =
              (l.withoutCache.resolve (c.after es).directory id).2.1.cached? id) ∧
          ((l.catalog.first? id).isSome = true →
            (l.resolve (c.after es).directory id).2.1 = l ∧
              (l.withoutCache.resolve (c.after es).directory id).2.1 = l.withoutCache)) := by
  have hstart : l₀.Faithful c.directory := by
    refine ⟨hkeyed, hpending, fun id r hr => ?_⟩
    rw [cached?, hcache] at hr
    contradiction
  obtain ⟨l', hl', hfaithful⟩ := IsFaithful.after ⟨l₀, hlocators, hstart⟩ hes
  obtain rfl : l' = l := (List.cons.inj (hl'.symm.trans hl)).1
  refine ⟨hfaithful.cached, fun hreachable id => ?_⟩
  obtain ⟨hanswer, hdirectory, hcached⟩ :=
    hfaithful.resolve_eq (AnyBackend.exists_lookup_eq_ok hreachable id)
  refine ⟨hanswer, hdirectory, hcached, fun hhosted => ?_⟩
  have hhosted' : (l'.withoutCache.catalog.first? id).isSome = true := hhosted
  rw [resolve_of_hosted hhosted, resolve_of_hosted hhosted']
  exact ⟨rfl, rfl⟩

/-- One locator over a directory in memory. -/
def solo : Cluster (AnyBackend MemoryStore) where
  locators := [.start (.loopback 1 1) {} .empty]
  directory := .ofBackend (.inMemory {})

/-- An activation on the node of the locator. -/
def resident : Hosted := ⟨⟨⟨1⟩, "counter"⟩, ⟨1⟩, .loopback 1 1, .single⟩

/-- The activation is registered and then found, the store fails in between, and a membership is
applied. -/
def registering : List Event :=
  [.call 0 (.register resident.registration), .switch false,
    .call 0 (.applyMembership (.withActive ⟨1⟩ [.loopback 1 1])),
    .call 0 (.resolve resident.actor)]

/-- The locator after the activation has been registered. -/
def registered : Locator :=
  { Locator.start (.loopback 1 1) {} (.withActive ⟨1⟩ [.loopback 1 1]) with
    cache := Table.insert ∅ resident.actor (resident.registration.withEtag ⟨1⟩) }

/-- With and without the cache, the actor is found on the node where it was registered. -/
theorem cache_transparent_registering :
    (registered.resolve (solo.after registering).directory resident.actor).1 =
      (registered.withoutCache.resolve (solo.after registering).directory resident.actor).1 := by
  have hes : Along Faultless solo registering := by
    refine ⟨?_, trivial, ?_, ?_, trivial⟩
    all_goals
      rintro reply ⟨⟩
      exact id
  have hl : (solo.after registering).locators = [registered] := rfl
  exact ((cache_transparent (c := solo) rfl rfl rfl InMemory.wellKeyed_held_new hes hl).2
    trivial resident.actor).1

/-- The activation is registered and admitted to the catalog. -/
def settling : List Event := [.call 0 (.register resident.registration), .call 0 (.host resident)]

/-- For an actor that the node hosts, the caches differ afterwards as they did before, since the
actor is found without a look at the cache. -/
theorem cache_visible_if_hosted :
    Along Faultless solo settling ∧ ∃ l, (solo.after settling).locators = [l] ∧
      (l.resolve (solo.after settling).directory resident.actor).2.1.cached? resident.actor ≠
        (l.withoutCache.resolve (solo.after settling).directory resident.actor).2.1.cached?
          resident.actor := by
  constructor
  · refine ⟨?_, ?_, trivial⟩
    all_goals
      rintro reply ⟨⟩
      exact id
  · refine ⟨_, rfl, ?_⟩
    change some (resident.registration.withEtag ⟨1⟩) ≠ none
    exact Option.some_ne_none _

end Cluster

end ActorLocation
