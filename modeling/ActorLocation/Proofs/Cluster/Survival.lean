import ActorLocation.Proofs.Cluster.Events
import ActorLocation.Proofs.Membership.Death
/-!
# Accepted registrations survive

As long as nobody takes the node of an accepted registration for dead, withdraws its activation or
writes over it behind the directory, the registration stays as it is, and everyone who registers
the actor is told about it.  That the store fails in between does not matter.

The argument needs the whole history of the memberships: a registration on a dead node that could
not be deleted stays pending, and is deleted later even if the node is taken for alive then.

## Main definitions

* `ActorLocation.Cluster.TakesForAlive` — no locator has reason to delete registrations on a node.
* `ActorLocation.Cluster.Spares` — an event does not withdraw a registration.

## Main results

* `ActorLocation.Cluster.TakesForAlive.step`, `Cluster.Keeps.step` — what an event preserves.
* `ActorLocation.Cluster.accepted_survives` — an accepted registration survives.
-/

namespace ActorLocation

/-! ### The node is taken for alive -/

namespace Locator

/-- Says that a locator has no reason to delete registrations on the node `n`: the current
membership does not count it as dead, and no registration on it is pending. -/
structure TakesForAlive (n : Node) (l : Locator) : Prop where
  /-- The current membership does not count the node as dead. -/
  current : ¬ l.current.IsDead n
  /-- No registration on the node is pending. -/
  pending : ∀ p ∈ l.pending, p.node ≠ n

/-- The node is taken for alive after a call as before, unless a membership is handed over in which
it is dead.

**Proof sketch.** A call without a membership changes neither the current membership nor what is
pending (`view_perform`).  With a membership, the current one is the old one or the new one.  A pass
leaves pending what was pending and what it has evicted, and it evicts only what is on nodes that
are dead in the new membership (`reconciled`). -/
theorem TakesForAlive.perform {σ : Type} [Backend σ] {n : Node} {l : Locator}
    (h : l.TakesForAlive n) (d : Directory σ) {c : Call} (hc : ∀ s ∈ c.snapshot?, ¬ s.IsDead n) :
    (l.perform d c).2.1.TakesForAlive n := by
  have hobserve (s : Snapshot) (hs : ¬ s.IsDead n) : ¬ (l.observe s).2.current.IsDead n := by
    unfold observe
    split
    · exact hs
    · exact h.current
  cases hsnap : c.snapshot? with
  | none =>
    have hview := l.view_perform d hsnap
    simp only [view, Prod.mk.injEq] at hview
    obtain ⟨hcurrent, -, hpending⟩ := hview
    exact ⟨by rw [hcurrent]; exact h.current, by rw [hpending]; exact h.pending⟩
  | some s =>
    have hs := hc s hsnap
    cases c with
    | observe t =>
      obtain rfl := Option.some.inj hsnap
      refine ⟨hobserve t hs, ?_⟩
      change ∀ p ∈ (l.observe t).2.pending, p.node ≠ n
      unfold observe
      split <;> exact h.pending
    | applyMembership t =>
      obtain rfl := Option.some.inj hsnap
      have hreconciled := l.reconciled d t
      change ((l.applyMembership d t).2.1).TakesForAlive n
      generalize (l.applyMembership d t).1 = answer at hreconciled
      generalize (l.applyMembership d t).2.1 = l' at hreconciled ⊢
      cases hreconciled with
      | stale _ => exact h
      | applied _ => exact ⟨hobserve t hs, fun p hp => by contradiction⟩
      | failed _ _ pending hp =>
        refine ⟨hobserve t hs, fun p hmem => ?_⟩
        rcases hp p hmem with hold | hevicted
        · exact h.pending p hold
        · -- What was evicted was on a node that is dead in the new membership.
          have hdead := of_decide_eq_true (List.mem_filter.1 hevicted).2
          rintro rfl
          exact hs (Snapshot.mem_newlyDeadSince.1 hdead).2.1
    | resolve | place | register | unregister | invalidate | unregisterLocal | host | release
    | drain => contradiction

end Locator

namespace Cluster

/-! ### What a run preserves -/

/-- Says that an event does not withdraw the registration `r`: nobody unregisters its activation,
its node does not shut down while it hosts the activation, and nobody writes to its key. -/
def Spares (r : Registration) (c : Cluster (AnyBackend MemoryStore)) : Event → Prop
  | .call _ (.unregister u _) => ¬ u.SameActivation r
  | .call i (.unregisterLocal _) =>
    ∀ l ∈ c.locators[i]?, ∀ u ∈ l.localRegistrations, ¬ u.SameActivation r
  | .write key _ => key ≠ OverStore.storageKey r.actor
  | _ => True

/-- Says that a cluster keeps the registration `r`, and that all locators take its node for
alive. -/
structure Keeps (r : Registration) (c : Cluster (AnyBackend MemoryStore)) : Prop where
  /-- Each registration is held for its own actor. -/
  wellKeyed : c.directory.contents.WellKeyed
  /-- The registration is held. -/
  held : c.directory.contents r.actor = some r
  /-- The node is taken for alive. -/
  alive : ∀ l ∈ c.locators, l.TakesForAlive r.node

variable {c : Cluster (AnyBackend MemoryStore)} {r : Registration}

/-- All locators take the node for alive after an event as before, unless a membership is handed
over in which it is dead. -/
theorem alive_step {n : Node} (h : ∀ l ∈ c.locators, l.TakesForAlive n) {e : Event}
    (he : ∀ s ∈ e.snapshot?, ¬ s.IsDead n) : ∀ l ∈ (c.step e).locators, l.TakesForAlive n := by
  cases e with
  | call i q => exact forall_locators_step h i q fun l hl => hl.perform c.directory he
  | switch | write => exact h

/-- What happens to the directory in an event.

**Proof sketch.** A call changes the directory as its locator may (`perform_evolves`), a switch not
at all, and a write at one key (`AnyBackend.evolves_write`). -/
theorem evolves_step (hc : c.directory.contents.WellKeyed) (e : Event) :
    c.directory.contents.Evolves
      (fun id s => match e with
        | .call i q => ∃ l ∈ c.locators[i]?, l.MayDelete q id s
        | .switch _ => False
        | .write key _ => key = OverStore.storageKey id)
      (c.step e).directory.contents := by
  cases e with
  | call i q =>
    -- There may be no locator at the position, and then nothing happens.
    rcases step_call (c := c) i q with heq | ⟨l, -, hi, heq⟩
    · rw [step, heq]
      exact .refl _ _
    · rw [step, heq]
      exact (l.perform_evolves hc q).mono fun id s hs => ⟨l, hi, hs⟩
  | switch available =>
    change Contents.Evolves _ c.directory.backend.held (c.directory.backend.switch available).held
    rw [AnyBackend.held_switch]
    exact .refl _ _
  | write key value => exact AnyBackend.evolves_write key value c.directory.backend

/-- A call of a locator that takes the node for alive does not delete the registration, unless it
withdraws it.

**Proof sketch.** One case for each call.  A look-up and a registration delete only what is on a
node that is dead by the current membership; a pass only what is on a node that is newly dead, or
pending; the others delete the activations with which they are called, and those are spared. -/
theorem not_mayDelete {i : Nat} {q : Locator.Call} {l : Locator} (hi : l ∈ c.locators[i]?)
    (halive : l.TakesForAlive r.node) (hsnapshot : ∀ s ∈ q.snapshot?, ¬ s.IsDead r.node)
    (hspares : Spares r c (.call i q)) : ¬ l.MayDelete q r.actor r := by
  cases q with
  | resolve id => exact fun h => halive.current h.2
  | register u => exact fun h => halive.current h.2
  | unregister u cause => exact fun h => hspares h.2.1
  | unregisterLocal cause =>
    rintro ⟨u, hu, hrel⟩
    exact hspares l hi u hu hrel.1
  | applyMembership s =>
    rintro ⟨-, hdead | ⟨p, hp, hrel⟩⟩
    · exact hsnapshot s rfl (Snapshot.mem_newlyDeadSince.1 hdead).2.1
    · exact halive.pending p hp hrel.1.2.2
  | place | invalidate | observe | host | release | drain => exact id

/-- An event that spares the registration keeps it.

**Proof sketch.** The directory loses only what the event may delete (`evolves_step`), and that is
not `r`: `not_mayDelete` for a call, and the key is another one for a write. -/
theorem Keeps.step (h : c.Keeps r) {e : Event} (hsnapshot : ∀ s ∈ e.snapshot?, ¬ s.IsDead r.node)
    (hspares : c.Spares r e) : (c.step e).Keeps r := by
  have hevolves := evolves_step h.wellKeyed e
  refine ⟨h.wellKeyed.of_evolves hevolves, ?_, alive_step h.alive hsnapshot⟩
  refine hevolves.keeps r.actor r h.held ?_
  cases e with
  | call i q =>
    rintro ⟨l, hi, hdelete⟩
    have halive := h.alive l (List.mem_of_getElem? hi)
    exact not_mayDelete hi halive hsnapshot hspares hdelete
  | switch available => exact id
  | write key value => exact hspares

/-- A run that spares the registration keeps it.

**Proof sketch.** Induction on the run; the step is `Keeps.step`. -/
theorem Keeps.after (h : c.Keeps r) {es : List Event}
    (hsnapshots : ∀ e ∈ es, ∀ s ∈ e.snapshot?, ¬ s.IsDead r.node)
    (hspared : Along (Spares r) c es) : (c.after es).Keeps r := by
  induction es generalizing c with
  | nil => exact h
  | cons e es ih =>
    have hstep := h.step (hsnapshots e List.mem_cons_self) hspared.1
    exact ih hstep (fun e' he' => hsnapshots e' (List.mem_cons_of_mem _ he')) hspared.2

/-- Contents stay well keyed, whatever happens. -/
theorem wellKeyed_after (hkeyed : c.directory.contents.WellKeyed) (es : List Event) :
    (c.after es).directory.contents.WellKeyed := by
  induction es generalizing c with
  | nil => exact hkeyed
  | cons e es ih => exact ih (hkeyed.of_evolves (evolves_step hkeyed e))

/-- Whatever happens before the registration is accepted, contents stay well keyed, and the node is
taken for alive.

**Proof sketch.** Induction on the run; the step is `alive_step`. -/
theorem alive_after {n : Node} (hkeyed : c.directory.contents.WellKeyed)
    (h : ∀ l ∈ c.locators, l.TakesForAlive n) {es : List Event}
    (hsnapshots : ∀ e ∈ es, ∀ s ∈ e.snapshot?, ¬ s.IsDead n) :
    (c.after es).directory.contents.WellKeyed ∧ ∀ l ∈ (c.after es).locators, l.TakesForAlive n := by
  refine ⟨wellKeyed_after hkeyed es, ?_⟩
  clear hkeyed
  induction es generalizing c with
  | nil => exact h
  | cons e es ih =>
    exact ih (alive_step h (hsnapshots e List.mem_cons_self))
      fun e' he' => hsnapshots e' (List.mem_cons_of_mem _ he')

/-- What holds at each event of a run holds at each event of its beginning. -/
theorem Along.of_append {P : Cluster (AnyBackend MemoryStore) → Event → Prop} {es es' : List Event}
    (h : Along P c (es ++ es')) : Along P c es := by
  induction es generalizing c with
  | nil => trivial
  | cons e es ih => exact ⟨h.1, ih h.2⟩

/-- A registration that is returned is held, and it is kept from then on if its node is taken for
alive.

**Proof sketch.** A registration that a locator returns is held for the actor at that moment
(`Locator.register_spec`).  No membership is handed over with the call, so the node is taken for
alive as before. -/
theorem keeps_of_accepted {i : Nat} {u : Registration} {o : Outcome}
    (hkeyed : c.directory.contents.WellKeyed)
    (halive : ∀ l ∈ c.locators, l.TakesForAlive o.registration.node)
    (ho : (c.perform i (.register u)).1 = some (.registered (.ok o))) :
    (c.step (.call i (.register u))).Keeps o.registration := by
  have hevolves := evolves_step hkeyed (.call i (.register u))
  have hkeyed' := hkeyed.of_evolves hevolves
  have halive' := alive_step halive (e := .call i (.register u)) fun _ hs => by contradiction
  refine ⟨hkeyed', ?_, halive'⟩
  -- A locator that is not there would not have answered.
  rcases step_call (c := c) i (.register u) with heq | ⟨l, -, -, heq⟩
  · rw [heq] at ho
    contradiction
  · rw [heq] at ho
    have hanswer : (l.register c.directory u).1 = .ok o :=
      Locator.Reply.registered.inj (Option.some.inj ho)
    have hheld := ((l.register_spec hkeyed u).2 o hanswer).1
    rw [step, heq] at hkeyed' ⊢
    have hactor : o.registration.actor = u.actor := hkeyed' _ _ hheld
    rw [hactor]
    exact hheld

/-- Whoever registers an actor whose registration is kept is told about that registration.

**Proof sketch.** What the directory holds is on a node that the locator takes for alive, so it is
not replaced, and `Locator.register_of_alive` says what is returned. -/
theorem Keeps.register (h : c.Keeps r) {j : Nat} {v : Registration} (hv : v.actor = r.actor)
    {o : Outcome} (ho : (c.perform j (.register v)).1 = some (.registered (.ok o))) :
    o.registration = r ∧ (o.won = true ↔ r.SameActivation v) := by
  rcases step_call (c := c) j (.register v) with heq | ⟨l, hl, -, heq⟩
  · rw [heq] at ho
    contradiction
  · rw [heq] at ho
    have hanswer : (l.register c.directory v).1 = .ok o :=
      Locator.Reply.registered.inj (Option.some.inj ho)
    exact Locator.register_of_alive h.wellKeyed (hv ▸ h.held) (h.alive l hl).current hanswer

/-- No live registration is lost or duplicated.  Suppose that a locator has registered an activation
and won.  Let the locators be called in any order from then on, and let the store fail, come back
and be written to.  If no membership that any locator has ever seen counts the node as dead, and the
registration is not withdrawn, then at each later time it is held as it was returned, and whoever
registers the actor is told about it.

**Proof sketch.** Induction on the run.  Each event deletes only what it may delete.  What the lazy
clean-up, a replacement or a pass may delete is on a node that is dead in a membership that the
locator has seen, and so is what is pending. -/
theorem accepted_survives {c : Cluster (AnyBackend MemoryStore)}
    (hkeyed : c.directory.contents.WellKeyed) {before later : List Event} {i : Nat}
    {u r : Registration}
    (hstart : ∀ l ∈ c.locators, ¬ l.current.IsDead r.node ∧ l.pending = [])
    (hsnapshots : ∀ e ∈ before ++ later, ∀ s ∈ e.snapshot?, ¬ s.IsDead r.node)
    (haccepted : ((c.after before).perform i (.register u)).1 =
      some (.registered (.ok ⟨r, true⟩)))
    (hspared : Along (Spares r) ((c.after before).step (.call i (.register u))) later)
    {es : List Event} (hes : es <+: later) :
    (((c.after before).step (.call i (.register u))).after es).directory.contents r.actor =
        some r ∧
      ∀ j v o, v.actor = r.actor →
        ((((c.after before).step (.call i (.register u))).after es).perform j (.register v)).1 =
            some (.registered (.ok o)) →
          o.registration = r ∧ (o.won = true ↔ r.SameActivation v) := by
  have halive : ∀ l ∈ c.locators, l.TakesForAlive r.node := fun l hl =>
    ⟨(hstart l hl).1, fun p hp => by rw [(hstart l hl).2] at hp; contradiction⟩
  obtain ⟨hkeyed₁, halive₁⟩ := alive_after hkeyed halive fun e he =>
    hsnapshots e (List.mem_append_left _ he)
  have hkeeps : ((c.after before).step (.call i (.register u))).Keeps r :=
    keeps_of_accepted (o := ⟨r, true⟩) hkeyed₁ halive₁ haccepted
  obtain ⟨rest, rfl⟩ := hes
  have hkeeps' := hkeeps.after
    (fun e he => hsnapshots e (List.mem_append_right _ (List.mem_append_left _ he)))
    hspared.of_append
  exact ⟨hkeeps'.held, fun j v o hv ho => hkeeps'.register hv ho⟩

/-- Two locators over a store. -/
def pair : Cluster (AnyBackend MemoryStore) where
  locators := [.start (.loopback 1 1) {} .empty, .start (.loopback 2 1) {} .empty]
  directory := .ofBackend (.overStore ⟨{}⟩)

/-- An activation on the first node. -/
def winner : Registration := ⟨⟨⟨1⟩, "counter"⟩, .loopback 1 1, ⟨1⟩, some ⟨1⟩⟩

/-- An activation of the same actor on the second node. -/
def rival : Registration := ⟨⟨⟨1⟩, "counter"⟩, .loopback 2 1, ⟨2⟩, none⟩

/-- The store fails in between, the rival tries its luck and gives up, and the membership
changes. -/
def turmoil : List Event :=
  [.switch false, .call 1 (.resolve winner.actor), .switch true, .write "else" [],
    .call 1 (.register rival), .call 1 (.unregister rival .duplicate),
    .call 0 (.applyMembership (.withActive ⟨1⟩ [.loopback 1 1]))]

/-- The winner survives the turmoil. -/
theorem accepted_survives_turmoil :
    ((pair.step (.call 0 (.register { winner with etag := none }))).after
      turmoil).directory.contents winner.actor = some winner := by
  have hkeyed : pair.directory.contents.WellKeyed := OverStore.wellKeyed_held ⟨{}⟩
  have hstart : ∀ l ∈ pair.locators, ¬ l.current.IsDead winner.node ∧ l.pending = [] := by
    decide
  have hsnapshots : ∀ e ∈ [] ++ turmoil, ∀ s ∈ e.snapshot?, ¬ s.IsDead winner.node := by
    decide
  have hspared : Along (Spares winner)
      (pair.step (.call 0 (.register { winner with etag := none }))) turmoil := by
    refine ⟨trivial, trivial, trivial, ?_, trivial, ?_, trivial, trivial⟩
    · change "else" ≠ OverStore.storageKey winner.actor
      decide
    · change ¬ rival.SameActivation winner
      decide
  have haccepted : ((pair.after []).perform 0 (.register { winner with etag := none })).1 =
      some (.registered (.ok ⟨winner, true⟩)) := rfl
  exact (accepted_survives hkeyed hstart hsnapshots haccepted hspared
    (List.prefix_refl _)).1

end Cluster

end ActorLocation
