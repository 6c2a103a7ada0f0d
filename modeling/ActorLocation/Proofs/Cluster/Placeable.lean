import ActorLocation.Proofs.Cluster.Survival
import ActorLocation.Proofs.Locator.Progress
/-!
# Actors that are not found can be placed

An actor is not found if the directory has no registration for it, or one on a dead node, or an
entry that is corrupted.  In each case nothing is held for the actor afterwards, so that the next
registration wins, whoever makes it, and everybody finds the actor then.

## Main results

* `ActorLocation.Locator.contents_of_notFound` — nothing is held for an actor that is not found.
* `ActorLocation.Locator.register_of_absent` — a registration wins if nothing is held.
* `ActorLocation.Cluster.notFound_placeable` — whoever registers an actor that was not found wins,
  and everybody finds it.
-/

namespace ActorLocation

/-! ### Directories that can be asked -/

namespace AnyBackend

variable {d : Directory (AnyBackend MemoryStore)}

/-- A look-up changes nothing in the directory, whatever it answers. -/
theorem lookup_snd (d : Directory (AnyBackend MemoryStore)) (id : ActorId) :
    (d.lookup id).2 = d := by
  have hbackend : (Backend.lookup d.backend id).2 = d.backend := by
    cases d.backend with
    | inMemory s => rfl
    | overStore s => exact congrArg overStore (s.lookup_snd id)
  unfold Directory.lookup
  split
  all_goals
    next heq =>
    rw [heq] at hbackend
    exact congrArg d.withBackend hbackend

/-- A directory that can be asked deletes without failure, and can still be asked afterwards.

**Proof sketch.** Of the four ways in which a deletion from a store can end, only the one for a
store that is switched off is a failure (`OverStore.unregister_cases`). -/
theorem unregister_of_isReachable (h : d.backend.IsReachable) (r : Registration) :
    (d.unregister r).1 = .ok () ∧ (d.unregister r).2.backend.IsReachable := by
  obtain ⟨backend⟩ := d
  cases backend with
  | inMemory s => exact ⟨rfl, trivial⟩
  | overStore s =>
    obtain ⟨s⟩ := s
    have ha : s.available = true := h
    rcases OverStore.unregister_cases s r with
      ⟨-, hoff⟩ | ⟨reason, heq, -⟩ | ⟨heq, -⟩ | ⟨heq, -⟩
    · rw [ha] at hoff
      contradiction
    all_goals
      simp only [Directory.unregister, Backend.unregister, heq]
      exact ⟨rfl, ha⟩

/-- A directory that can be asked registers without failure, and can still be asked afterwards.

**Proof sketch.** As for deletions, from `OverStore.register_cases`. -/
theorem register_of_isReachable (h : d.backend.IsReachable) (r : Registration) :
    (∃ stored, (d.register r).1 = .ok stored) ∧ (d.register r).2.backend.IsReachable := by
  obtain ⟨backend⟩ := d
  cases backend with
  | inMemory s => exact ⟨⟨_, rfl⟩, trivial⟩
  | overStore s =>
    obtain ⟨s⟩ := s
    have ha : s.available = true := h
    rcases OverStore.register_cases s r with ⟨-, hoff⟩ | ⟨stored, heq, -⟩ | ⟨heq, -⟩
    · rw [ha] at hoff
      contradiction
    all_goals
      simp only [Directory.register, Backend.register, heq]
      exact ⟨⟨_, rfl⟩, ha⟩

end AnyBackend

namespace Locator

variable {l : Locator} {d : Directory (AnyBackend MemoryStore)} {id : ActorId} {r : Registration}

/-- If the directory is asked for an actor and the actor is not found, nothing is held for it
afterwards.

**Proof sketch.** A look-up answers truthfully (`Directory.looked`).  If it found nothing, nothing
is held.  If it found a registration on a dead node, that registration was unregistered without
failure, so it is not held any more, and a deletion adds nothing, so neither is another one. -/
theorem contents_resolveRemotely_of_notFound (hkeyed : d.contents.WellKeyed)
    (hd : d.backend.IsReachable) {id' : ActorId}
    (h : (l.resolveRemotely d id).1 = .error (.notFound id')) :
    (l.resolveRemotely d id).2.2.contents id = none ∧
      (l.resolveRemotely d id).2.2.backend.IsReachable := by
  have hlooked := d.looked id
  have hlookup : d.lookup id = ((d.lookup id).1, d) := Prod.ext rfl (AnyBackend.lookup_snd d id)
  generalize (d.lookup id).1 = answer at hlooked hlookup
  revert h
  rw [resolveRemotely, hlookup]
  cases answer with
  | error e =>
    exact fun h => by simp at h
  | ok found =>
    cases found with
    | none => exact fun _ => ⟨hlooked.eq_of_ok, hd⟩
    | some r =>
      dsimp only
      split
      · intro _
        obtain ⟨hok, hreachable⟩ := AnyBackend.unregister_of_isReachable hd r
        refine ⟨?_, hreachable⟩
        have hr : d.contents id = some r := hlooked.eq_of_ok
        have hunregistered := d.unregistered r
        have hgone : (d.unregister r).2.contents id ≠ some r := by
          have hfree := hunregistered.freeOf fun e he => by rw [hok] at he; contradiction
          rw [← hkeyed id r hr]
          exact hfree.ne
        -- Only the registration that was found could still be held, and it was deleted.
        cases hs : (d.unregister r).2.contents id with
        | none => rfl
        | some s =>
          obtain rfl := Option.some.inj (hr.symm.trans (hunregistered.shrinks id s hs))
          exact absurd hs hgone
      · exact fun h => by contradiction

/-- Nothing is held for an actor that is not found.

**Proof sketch.** A locator that answers from its catalog or its cache finds the actor.  Hence it
has asked the directory. -/
theorem contents_of_notFound (hkeyed : d.contents.WellKeyed) (hd : d.backend.IsReachable)
    {id' : ActorId} (h : (l.resolve d id).1 = .error (.notFound id')) :
    (l.resolve d id).2.2.contents id = none ∧ (l.resolve d id).2.2.backend.IsReachable := by
  revert h
  unfold resolve
  split
  · exact fun h => by contradiction
  · split
    · exact contents_resolveRemotely_of_notFound hkeyed hd
    · split
      · exact contents_resolveRemotely_of_notFound hkeyed hd
      · exact fun h => by contradiction

/-- If nothing is held for the actor, a registration wins, whichever nodes are dead.

**Proof sketch.** As nothing is held, the directory stores the new registration and returns it with
its etag (`Directory.registered`).  What is returned is the activation that was to be registered, so
there is no dead registration to be replaced, and the locator remembers it. -/
theorem register_of_absent (hd : d.backend.IsReachable) (hr : d.contents r.actor = none) :
    ∃ e, l.register d r =
        (.ok ⟨r.withEtag e, true⟩, l.remember (r.withEtag e), (d.register r).2) ∧
      (d.register r).2.contents r.actor = some (r.withEtag e) ∧
      (d.register r).2.backend.IsReachable := by
  obtain ⟨⟨stored, hstored⟩, hreachable⟩ := AnyBackend.register_of_isReachable hd r
  have hregistered := d.registered r
  have heq : d.register r = (.ok stored, (d.register r).2) := Prod.ext hstored rfl
  rw [hstored] at hregistered
  obtain ⟨e, rfl⟩ := hregistered.exists_token hr
  have hsame : (r.withEtag e).SameActivation r := ⟨rfl, rfl, rfl⟩
  refine ⟨e, ?_, hregistered.eq_some_of_ok, hreachable⟩
  rw [register, heq]
  dsimp only
  rw [l.replaceDead_of_sameActivation _ _ hsame]
  simp [hsame]

/-- What is cached on a live node is returned without a look at the directory. -/
theorem resolve_of_cached {τ : Type} [Backend τ] (hhosted : (l.catalog.first? id).isSome = false)
    (hr : l.cached? id = some r) (halive : ¬ l.current.IsDead r.node) (d : Directory τ) :
    l.resolve d id = (.ok r.node, l, d) := by
  rw [resolve, if_neg (by simp [hhosted]), hr]
  exact if_neg halive

/-- What is held on a live node is found by a locator that has not cached anything. -/
theorem resolve_of_held (hd : d.backend.IsReachable)
    (hhosted : (l.catalog.first? id).isSome = false) (hcached : l.cached? id = none)
    (hr : d.contents id = some r) (halive : ¬ l.current.IsDead r.node) :
    (l.resolve d id).1 = .ok r.node := by
  have hlookup := Directory.lookup_of_contents hr (AnyBackend.exists_lookup_eq_ok hd id)
  rw [resolve, if_neg (by simp [hhosted]), hcached]
  dsimp only
  rw [resolveRemotely, hlookup]
  dsimp only
  rw [if_neg halive]

end Locator

namespace Cluster

open Locator

/-- A call of a locator that is there is answered by that locator. -/
theorem perform_of_getElem? {σ : Type} [Backend σ] {c : Cluster σ} {i : Nat} {l : Locator}
    (h : c.locators[i]? = some l) (q : Call) :
    c.perform i q =
      (some (l.perform c.directory q).1,
        { locators := c.locators.set i (l.perform c.directory q).2.1
          directory := (l.perform c.directory q).2.2 }) := by
  rw [Cluster.perform, h]
  rfl

/-- A call that is answered is one of a locator that is there. -/
theorem of_perform_eq_some {σ : Type} [Backend σ] {c c' : Cluster σ} {i : Nat} {q : Call}
    {reply : Reply} (h : c.perform i q = (some reply, c')) :
    ∃ l, c.locators[i]? = some l ∧ (l.perform c.directory q).1 = reply ∧
      c' =
        { locators := c.locators.set i (l.perform c.directory q).2.1
          directory := (l.perform c.directory q).2.2 } := by
  cases hi : c.locators[i]? with
  | none =>
    rw [Cluster.perform, hi] at h
    simp at h
  | some l =>
    rw [perform_of_getElem? hi] at h
    obtain ⟨hreply, rfl⟩ := Prod.mk.inj h
    exact ⟨l, rfl, Option.some.inj hreply, rfl⟩

variable {c c' : Cluster (AnyBackend MemoryStore)} {i : Nat} {id : ActorId} {r : Registration}

/-- Nothing is held for an actor that a locator has not found. -/
theorem contents_of_notFound (hkeyed : c.directory.contents.WellKeyed)
    (hd : c.directory.backend.IsReachable) {id' : ActorId}
    (h : c.perform i (.resolve id) = (some (.resolved (.error (.notFound id'))), c')) :
    c'.directory.contents id = none ∧ c'.directory.backend.IsReachable := by
  obtain ⟨l, -, hreply, rfl⟩ := of_perform_eq_some h
  exact Locator.contents_of_notFound hkeyed hd (Reply.resolved.inj hreply)

/-- Whoever registers an actor for which nothing is held wins, and caches what is held then. -/
theorem register_of_absent (hd : c.directory.backend.IsReachable)
    (hr : c.directory.contents r.actor = none) {reply : Reply}
    (h : c.perform i (.register r) = (some reply, c')) :
    ∃ e, reply = .registered (.ok ⟨r.withEtag e, true⟩) ∧
      c'.directory.contents r.actor = some (r.withEtag e) ∧ c'.directory.backend.IsReachable ∧
      ∀ l, c'.locators[i]? = some l → l.cached? r.actor = some (r.withEtag e) := by
  obtain ⟨l, hi, rfl, rfl⟩ := of_perform_eq_some h
  obtain ⟨e, heq, hheld, hreachable⟩ := Locator.register_of_absent (l := l) hd hr
  have hperform : l.perform c.directory (.register r) =
      (.registered (.ok ⟨r.withEtag e, true⟩), l.remember (r.withEtag e),
        (c.directory.register r).2) := by
    rw [Locator.perform, heq]
  rw [hperform]
  refine ⟨e, rfl, hheld, hreachable, fun l' hl' => ?_⟩
  rw [List.getElem?_set_self (List.getElem?_eq_some_iff.1 hi).1] at hl'
  obtain rfl := Option.some.inj hl'
  exact Table.find?_insert_self _ _ _

/-- A locator that has cached an actor on a live node finds it, and nothing changes. -/
theorem perform_resolve_of_cached {l : Locator} (hl : c.locators[i]? = some l)
    (hhosted : (l.catalog.first? id).isSome = false) (hr : l.cached? id = some r)
    (halive : ¬ l.current.IsDead r.node) :
    c.perform i (.resolve id) = (some (.resolved (.ok r.node)), c) := by
  obtain ⟨hi, hget⟩ := List.getElem?_eq_some_iff.1 hl
  rw [perform_of_getElem? hl, Locator.perform, resolve_of_cached hhosted hr halive, ← hget]
  dsimp only
  rw [List.set_getElem_self]

variable {c₁ c₂ : Cluster (AnyBackend MemoryStore)}

/-- That an actor is not found means that it can be placed.  Suppose that a locator does not find an
actor, after whatever has happened to the locators and to the directory, and that the directory can
be asked.  Whoever registers the actor next wins, with the activation that was to be registered.
Then this locator finds the actor without the directory, provided that it does not count the node as
dead and does not host the actor itself; and so does every other locator over the directory,
provided that it has nothing cached either.

**Proof sketch.** Contents are well keyed after any events (`wellKeyed_after`).  So nothing is held
for an actor that was not found (`contents_of_notFound`), and the next registration wins and is held
(`register_of_absent`).  The locator that made it answers from its cache, the others ask the
directory. -/
theorem notFound_placeable (hkeyed : c.directory.contents.WellKeyed) {es : List Event}
    (hreachable : (c.after es).directory.backend.IsReachable)
    (hnotFound : (c.after es).perform i (.resolve r.actor) =
      (some (.resolved (.error (.notFound id))), c₁))
    {j : Nat} {reply : Reply} (hregister : c₁.perform j (.register r) = (some reply, c₂)) :
    ∃ o, reply = .registered (.ok o) ∧ o.won = true ∧ o.registration.SameActivation r ∧
      (∀ l, c₂.locators[j]? = some l → ¬ l.current.IsDead r.node →
        (l.catalog.first? r.actor).isSome = false →
          c₂.perform j (.resolve r.actor) = (some (.resolved (.ok r.node)), c₂) ∧
            ∀ {τ : Type} [Backend τ] (d : Directory τ),
              l.resolve d r.actor = (.ok r.node, l, d)) ∧
      ∀ k l, c₂.locators[k]? = some l → l.cached? r.actor = none →
        (l.catalog.first? r.actor).isSome = false → ¬ l.current.IsDead r.node →
          (c₂.perform k (.resolve r.actor)).1 = some (.resolved (.ok r.node)) := by
  obtain ⟨habsent, hreachable₁⟩ :=
    contents_of_notFound (wellKeyed_after hkeyed es) hreachable hnotFound
  obtain ⟨e, rfl, hheld, hreachable₂, hcached⟩ :=
    register_of_absent hreachable₁ habsent hregister
  refine ⟨⟨r.withEtag e, true⟩, rfl, rfl, ⟨rfl, rfl, rfl⟩, ?_, ?_⟩
  · -- The locator that has registered the actor has it in its cache.
    intro l hl halive hhosted
    have halive : ¬ l.current.IsDead (r.withEtag e).node := halive
    have hperform := perform_resolve_of_cached hl hhosted (hcached l hl) halive
    refine ⟨hperform, fun d => ?_⟩
    have hresolve := resolve_of_cached hhosted (hcached l hl) halive d
    exact hresolve
  · -- Any other locator looks the registration up.
    intro k l hl hcached hhosted halive
    have halive : ¬ l.current.IsDead (r.withEtag e).node := halive
    have hresolve := resolve_of_held hreachable₂ hhosted hcached hheld halive
    rw [perform_of_getElem? hl]
    exact congrArg (some ∘ Reply.resolved) hresolve

/-- Somebody has written something else under the key of an actor. -/
def defaced : List Event := [.write (OverStore.storageKey rival.actor) [0x7b]]

/-- The cluster after the first locator has looked for the actor. -/
def missed : Cluster (AnyBackend MemoryStore) :=
  ((pair.after defaced).perform 0 (.resolve rival.actor)).2

/-- The cluster after the second locator has registered the actor. -/
def claimed : Cluster (AnyBackend MemoryStore) := (missed.perform 1 (.register rival)).2

/-- An actor whose entry is corrupted is not found, and is found everywhere once it has been
registered. -/
theorem notFound_placeable_defaced :
    ((pair.after defaced).perform 0 (.resolve rival.actor)).1 =
        some (.resolved (.error (.notFound rival.actor))) ∧
      claimed.perform 1 (.resolve rival.actor) = (some (.resolved (.ok rival.node)), claimed) ∧
      (claimed.perform 0 (.resolve rival.actor)).1 = some (.resolved (.ok rival.node)) := by
  have hkeyed : pair.directory.contents.WellKeyed := OverStore.wellKeyed_held ⟨{}⟩
  have hreachable : (pair.after defaced).directory.backend.IsReachable := rfl
  have hnotFound : (pair.after defaced).perform 0 (.resolve rival.actor) =
      (some (.resolved (.error (.notFound rival.actor))), missed) := rfl
  have hregister : missed.perform 1 (.register rival) =
      (some (.registered (.ok ⟨rival.withEtag ⟨2⟩, true⟩)), claimed) := rfl
  obtain ⟨o, -, -, -, hown, hother⟩ :=
    notFound_placeable hkeyed hreachable hnotFound hregister
  have hresolved := hown _ rfl (by decide) rfl
  exact ⟨congrArg Prod.fst hnotFound, hresolved.1, hother 0 _ rfl rfl rfl (by decide)⟩

end Cluster

end ActorLocation
