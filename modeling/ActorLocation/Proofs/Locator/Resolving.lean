import ActorLocation.Proofs.Locator.Cleanup
/-!
# Finding actors over an unreliable backend

A locator that is asked for an actor never answers with a node that its current membership counts as
dead, unless it is the node itself.  That does not depend on the backend: a look-up may return what
has been superseded or what belongs to another actor, a deletion may be acknowledged without being
carried out, and everything may fail.

No law of backends is assumed in this module.

## Main definitions

* `ActorLocation.Locator.CachesOnly` — an operation affects only what is cached for one actor.
* `ActorLocation.Locator.Resolved` — the ways in which finding an actor can end.

## Main results

* `ActorLocation.Locator.resolved` — finding an actor ends in one of these ways.
* `ActorLocation.Locator.resolve_never_dead` — what a caller can rely on.
-/

namespace ActorLocation

namespace Locator

/-- Says that `l'` is `l`, except for what is cached for the actor `id`. -/
structure CachesOnly (id : ActorId) (l l' : Locator) : Prop where
  /-- Nothing but the cache differs. -/
  eq : ∃ cache, l' = { l with cache }
  /-- For other actors the same is cached. -/
  cached : ∀ id', id' ≠ id → l'.cached? id' = l.cached? id'

variable {l l' l'' : Locator} {id : ActorId}

/-- Nothing has changed between a locator and itself. -/
theorem CachesOnly.refl (id : ActorId) (l : Locator) : CachesOnly id l l :=
  ⟨⟨l.cache, rfl⟩, fun _ _ => rfl⟩

/-- Two steps that affect only what is cached for one actor affect nothing else together. -/
theorem CachesOnly.trans (h : CachesOnly id l l') (h' : CachesOnly id l' l'') :
    CachesOnly id l l'' := by
  obtain ⟨cache, rfl⟩ := h.eq
  obtain ⟨cache', rfl⟩ := h'.eq
  exact ⟨⟨cache', rfl⟩, fun id' hid => (h'.cached id' hid).trans (h.cached id' hid)⟩

/-- Forgetting an actor affects only what is cached for it. -/
theorem cachesOnly_forget (id : ActorId) (l : Locator) : CachesOnly id l (l.forget id) :=
  ⟨⟨_, rfl⟩, fun id' hid => by rw [cached?_forget, if_neg hid]⟩

/-- Caching a registration for an actor affects only what is cached for it. -/
theorem cachesOnly_insert (id : ActorId) (l : Locator) (r : Registration) :
    CachesOnly id l { l with cache := l.cache.insert id r } :=
  ⟨⟨_, rfl⟩, fun _ hid => Table.find?_insert_of_ne _ _ hid⟩

variable {σ : Type} [Backend σ]

/-- The ways in which finding the actor `id` can end, with the locator and the directory left
behind. -/
inductive Resolved (l : Locator) (d : Directory σ) (id : ActorId) :
    Except LocatorError Node → Locator → Directory σ → Prop where
  /-- The node hosts the actor. -/
  | hosted (h : (l.catalog.first? id).isSome = true) : Resolved l d id (.ok l.node) l d
  /-- A registration on a live node is cached. -/
  | found {l' : Locator} {r : Registration} (d' : Directory σ) (hr : l'.cached? id = some r)
    (halive : ¬ l.current.IsDead r.node) : Resolved l d id (.ok r.node) l' d'
  /-- Nothing is cached. -/
  | failed {l' : Locator} (e : LocatorError) (d' : Directory σ) (h : l'.cached? id = none) :
    Resolved l d id (.error e) l' d'

/-- If nothing is cached for the actor, asking the directory ends in one of the ways of `Resolved`,
for every locator with the same view of the membership. -/
theorem resolvedRemotely {m : Locator} (hcurrent : l.current = m.current)
    (hid : l.cached? id = none) (d d₀ : Directory σ) :
    CachesOnly id l (l.resolveRemotely d id).2.1 ∧
      Resolved m d₀ id (l.resolveRemotely d id).1 (l.resolveRemotely d id).2.1
        (l.resolveRemotely d id).2.2 := by
  unfold resolveRemotely
  split
  · exact ⟨.refl id l, .failed _ _ hid⟩
  · exact ⟨.refl id l, .failed _ _ hid⟩
  · next r d' _ =>
    split
    · exact ⟨.refl id l, .failed _ _ hid⟩
    · next halive =>
      rw [hcurrent] at halive
      exact ⟨cachesOnly_insert id l r, .found d' (Table.find?_insert_self _ _ _) halive⟩

/-- Finding an actor ends in one of the ways of `Resolved`, and affects only what is cached for that
actor.

**Proof sketch.** By the branches of the definition.  An actor that the node hosts is found there,
and one that is cached on a live node is found in the cache.  Otherwise nothing is cached for it,
perhaps only since what was cached is on a dead node and has been dropped, and `resolvedRemotely` is
about the rest. -/
theorem resolved (l : Locator) (d : Directory σ) (id : ActorId) :
    CachesOnly id l (l.resolve d id).2.1 ∧
      Resolved l d id (l.resolve d id).1 (l.resolve d id).2.1 (l.resolve d id).2.2 := by
  unfold resolve
  split
  · next h => exact ⟨.refl id l, .hosted h⟩
  · split
    · next hid => exact resolvedRemotely rfl hid d d
    · next r hr =>
      split
      · -- What was cached is on a dead node, so that it is dropped before the directory is asked.
        have hid : (l.forget id).cached? id = none := by rw [cached?_forget, if_pos rfl]
        have hcurrent : (l.forget id).current = l.current := rfl
        obtain ⟨hcaches, hresolved⟩ := resolvedRemotely hcurrent hid d d
        exact ⟨(cachesOnly_forget id l).trans hcaches, hresolved⟩
      · next halive => exact ⟨.refl id l, .found d hr halive⟩

/-- If the directory is asked for an actor and finds nothing, or what it finds is corrupted, then
the actor is not found.

**Proof sketch.** The actor is not hosted, and what is cached for it is on a dead node if anything
is.  So the directory is asked, with or without that entry, and a locator that asks it and gets
nothing answers that the actor is not found. -/
theorem resolve_of_absent {d : Directory σ} (hhosted : (l.catalog.first? id).isSome = false)
    (hcached : ∀ r, l.cached? id = some r → l.current.IsDead r.node)
    (hlookup : (d.lookup id).1 = .ok none) : (l.resolve d id).1 = .error (.notFound id) := by
  have hremote (m : Locator) : (m.resolveRemotely d id).1 = .error (.notFound id) := by
    unfold resolveRemotely
    split
    · next heq => simp [heq] at hlookup
    · rfl
    · next heq => simp [heq] at hlookup
  rw [resolve, if_neg (by simp [hhosted])]
  split
  · exact hremote l
  · next r hr =>
    rw [if_pos (hcached r hr)]
    exact hremote (l.forget id)

/-- Whatever the locator has cached, whatever its current membership is and whatever the backend
does, finding an actor ends like this.  If a node is returned, then the node of the locator hosts
the actor, and neither the cache nor the directory has been touched; or the node is not dead, and a
registration on it is cached.  If nothing is found, nothing is cached.  If the backend is asked, and
answers that there is nothing or that the entry is corrupted, the actor is not found.  In each case
nothing else about the locator changes, and for other actors the same is cached as before.

**Proof sketch.** By `resolved` the search ends in one of the ways of `Resolved` and affects only
what is cached for the actor.  A node that is returned is the one of `hosted` or of `found`, and an
error is that of `failed`.  The directory answers that there is nothing if the backend does, or if
the backend says that the entry is corrupted, and then `resolve_of_absent` applies. -/
theorem resolve_never_dead (l : Locator) (d : Directory σ) (id : ActorId) :
    (∀ n, (l.resolve d id).1 = .ok n →
        (l.catalog.first? id).isSome = true ∧ n = l.node ∧ (l.resolve d id).2 = (l, d) ∨
          ¬ l.current.IsDead n ∧ ∃ r, (l.resolve d id).2.1.cached? id = some r ∧ r.node = n) ∧
      (∀ e, (l.resolve d id).1 = .error e → (l.resolve d id).2.1.cached? id = none) ∧
      ((l.catalog.first? id).isSome = false →
        (∀ r, l.cached? id = some r → l.current.IsDead r.node) →
        (∃ s, Backend.lookup d.backend id = (.ok none, s)) ∨
            (∃ id' reason s, Backend.lookup d.backend id = (.error (.corrupted id' reason), s)) →
          (l.resolve d id).1 = .error (.notFound id)) ∧
      (∃ cache, (l.resolve d id).2.1 = { l with cache }) ∧
      ∀ id', id' ≠ id → (l.resolve d id).2.1.cached? id' = l.cached? id' := by
  obtain ⟨hcaches, hresolved⟩ := l.resolved d id
  refine ⟨?_, ?_, ?_, hcaches.eq, hcaches.cached⟩
  · intro n hn
    rcases hanswer : l.resolve d id with ⟨answer, l', d'⟩
    rw [hanswer] at hn hresolved
    -- Two of the ways have a node for an answer.
    obtain rfl : answer = .ok n := hn
    dsimp only at hresolved ⊢
    cases hresolved with
    | hosted h => exact .inl ⟨h, rfl, rfl⟩
    | found _ hr halive => exact .inr ⟨halive, _, hr, rfl⟩
  · intro e he
    rw [he] at hresolved
    cases hresolved with
    | failed _ _ h => exact h
  · intro hhosted hcached hlookup
    refine resolve_of_absent hhosted hcached ?_
    -- An entry that is corrupted counts as absent.
    rw [Directory.lookup]
    rcases hlookup with ⟨s, hs⟩ | ⟨id', reason, s, hs⟩
    · rw [hs]
    · rw [hs]

/-- A backend that is behind: it returns one registration for every look-up, and acknowledges
deletions without carrying them out. -/
structure Lagging where
  /-- The registration that is returned. -/
  stale : Registration

instance : Backend Lagging where
  capabilities _ := ⟨true, 1⟩
  lookup b _ := (.ok (some b.stale), b)
  register b _ := (.ok b.stale, b)
  unregister b _ := (.ok (), b)
  unregisterNodes b _ := (.ok [], b)

/-- A locator that has seen the second node die, with a registration on it still cached. -/
def behind : Locator :=
  { start (.loopback 1 1) {} secondDead with cache := Table.insert ∅ departed.actor departed }

/-- However often the backend returns a registration on a dead node, the actor is not found, and
nothing is cached for it. -/
theorem resolve_never_dead_lagging :
    (behind.resolve (.ofBackend (Lagging.mk departed)) departed.actor).1 =
        .error (.notFound departed.actor) ∧
      (behind.resolve (.ofBackend (Lagging.mk departed)) departed.actor).2.1.cached?
        departed.actor = none := by
  have h := behind.resolve_never_dead (.ofBackend (Lagging.mk departed)) departed.actor
  have hanswer : (behind.resolve (.ofBackend (Lagging.mk departed)) departed.actor).1 =
      .error (.notFound departed.actor) := rfl
  exact ⟨hanswer, h.2.1 _ hanswer⟩

end Locator

end ActorLocation
