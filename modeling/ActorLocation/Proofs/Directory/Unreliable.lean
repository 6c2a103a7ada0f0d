import ActorLocation.Proofs.Directory.Lawful
/-!
# Unreliable backends

A backend may refuse an operation, lose the answer to one that it has carried out, or confirm a
deletion that it does not carry out.  Such a backend keeps none of the promises about what it holds,
but it still answers a registration with one of the same actor.

## Main definitions

* `ActorLocation.Mishap`, `ActorLocation.Unreliable` — what may go wrong with an operation, and a
  backend that goes wrong by plan.
* `ActorLocation.Backend.Preserves` — the operations of a backend preserve a condition.
* `ActorLocation.AnyBackend.Keyed` — what is in memory is held for its own actor.

## Main results

* `ActorLocation.Unreliable.preserves_keyed` — no mishap puts a registration under another actor.
* `ActorLocation.Unreliable.actor_of_register` — a registration is answered for its actor.
-/

namespace ActorLocation

/-! ### Mishaps -/

/-- What may go wrong with an operation. -/
inductive Mishap where
  /-- It is reported as failed, whether or not it was carried out. -/
  | failed (e : DirectoryError) (carriedOut : Bool)
  /-- A deletion is confirmed and not carried out.  Nothing else is confirmed without being carried
  out. -/
  | ignored

/-- A backend where something may go wrong. -/
structure Unreliable (σ : Type) where
  /-- The backend that does the work. -/
  inner : σ
  /-- What goes wrong with the operations to come, in order.  Nothing goes wrong after the last
  entry. -/
  mishaps : List (Option Mishap) := []

namespace Unreliable

variable {σ α : Type}

/-- Carries out an operation unless something goes wrong.  Here `confirmation` is the answer that
confirms the operation, if it can be confirmed without being carried out. -/
def attempt (b : Unreliable σ) (op : σ → Except DirectoryError α × σ) (confirmation : Option α) :
    Except DirectoryError α × Unreliable σ :=
  let next := { b with mishaps := b.mishaps.tail }
  match b.mishaps.head?.join, confirmation with
  | some (.failed e carriedOut), _ =>
    (.error e, { next with inner := if carriedOut then (op b.inner).2 else b.inner })
  | some .ignored, some a => (.ok a, next)
  | some .ignored, none | none, _ => ((op b.inner).1, { next with inner := (op b.inner).2 })

instance [Backend σ] : Backend (Unreliable σ) where
  capabilities b := Backend.capabilities b.inner
  lookup b id := b.attempt (Backend.lookup · id) none
  register b r := b.attempt (Backend.register · r) none
  unregister b r := b.attempt (Backend.unregister · r) (some ())
  unregisterNodes b nodes := b.attempt (Backend.unregisterNodes · nodes) (some [])

/-- An operation is carried out, or it has no effect. -/
theorem inner_attempt (b : Unreliable σ) (op : σ → Except DirectoryError α × σ)
    (confirmation : Option α) :
    (b.attempt op confirmation).2.inner = b.inner ∨
      (b.attempt op confirmation).2.inner = (op b.inner).2 := by
  unfold attempt
  split
  · split
    · exact .inr rfl
    · exact .inl rfl
  · exact .inl rfl
  · exact .inr rfl
  · exact .inr rfl

/-- What cannot be confirmed without being carried out succeeds only if it is carried out. -/
theorem attempt_of_ok {b : Unreliable σ} {op : σ → Except DirectoryError α × σ} {a : α}
    (h : (b.attempt op none).1 = .ok a) : (op b.inner).1 = .ok a := by
  unfold attempt at h
  split at h
  · contradiction
  · contradiction
  · exact h
  · exact h

end Unreliable

/-! ### Conditions that operations preserve -/

/-- Says that the operations of a backend preserve a condition on its states. -/
structure Backend.Preserves {σ : Type} [Backend σ] (P : σ → Prop) : Prop where
  /-- Look-ups do. -/
  lookup : ∀ s id, P s → P (Backend.lookup s id).2
  /-- Registrations do. -/
  register : ∀ s r, P s → P (Backend.register s r).2
  /-- Deletions do. -/
  unregister : ∀ s r, P s → P (Backend.unregister s r).2
  /-- Deletions of batches do. -/
  unregisterBatch : ∀ s l, P s → P (Backend.unregisterBatch s l).2
  /-- Deletions by nodes do. -/
  unregisterNodes : ∀ s nodes, P s → P (Backend.unregisterNodes s nodes).2

/-- Deletions one after the other preserve what each of them preserves. -/
theorem preserves_unregisterEach {σ : Type}
    {unregister : σ → Registration → Except DirectoryError Unit × σ} {P : σ → Prop}
    (h : ∀ s r, P s → P (unregister s r).2) (l : List Registration) {s : σ} (hs : P s) :
    P (unregisterEach unregister s l).2 := by
  induction l generalizing s with
  | nil => exact hs
  | cons r l ih => exact ih (h s r hs)

/-- Whatever goes wrong, a condition that the operations of a backend preserve stays true of the
backend that does the work.

**Proof sketch.** An operation is carried out, and preserves the condition, or it has no effect
(`inner_attempt`).  A batch is deletions one after the other, so some of them may go wrong and some
not. -/
theorem Unreliable.preserves {σ : Type} [Backend σ] {P : σ → Prop} (h : Backend.Preserves P) :
    Backend.Preserves fun b : Unreliable σ => P b.inner := by
  have hattempt {α : Type} (b : Unreliable σ) (op : σ → Except DirectoryError α × σ)
      (confirmation : Option α) (hb : P b.inner) (hop : P (op b.inner).2) :
      P (b.attempt op confirmation).2.inner := by
    rcases b.inner_attempt op confirmation with heq | heq <;> rw [heq]
    · exact hb
    · exact hop
  have hunregister (b : Unreliable σ) (r : Registration) (hb : P b.inner) :
      P (Backend.unregister b r).2.inner := hattempt b _ _ hb (h.unregister _ r hb)
  constructor
  · intro b id hb
    exact hattempt b _ _ hb (h.lookup _ id hb)
  · intro b r hb
    exact hattempt b _ _ hb (h.register _ r hb)
  · exact hunregister
  · intro b l hb
    exact preserves_unregisterEach hunregister l hb
  · intro b nodes hb
    exact hattempt b _ _ hb (h.unregisterNodes _ nodes hb)

namespace AnyBackend

variable {τ : Type} [VersionedStore τ]

/-- Says that registrations in memory are held for their own actors.  What a store holds is no
matter, since it is read for an actor. -/
def Keyed : AnyBackend τ → Prop
  | inMemory d => d.held.WellKeyed
  | overStore _ => True

/-- Registrations in memory stay with their actors, whatever a directory is asked for.

**Proof sketch.** One case for each operation.  In memory, deletions add nothing and a registration
is stored for its own actor, as backends are lawful; over a store there is nothing to show. -/
theorem preserves_keyed : Backend.Preserves (Keyed : AnyBackend τ → Prop) := by
  have hunregister (b : AnyBackend τ) (r : Registration) (hb : b.Keyed) :
      (Backend.unregister b r).2.Keyed := by
    cases b with
    | inMemory d => exact hb.of_evolves (LawfulBackend.unregistered d r).evolves
    | overStore d => exact trivial
  constructor
  · intro b id hb
    cases b with
    | inMemory d => exact hb
    | overStore d => exact trivial
  · intro b r hb
    cases b with
    | inMemory d => exact hb.of_evolves ((LawfulBackend.registered d r).evolves fun _ _ => True)
    | overStore d => exact trivial
  · exact hunregister
  · intro b l hb
    exact preserves_unregisterEach hunregister l hb
  · intro b nodes hb
    cases b with
    | inMemory d => exact hb.of_evolves (LawfulBackend.dropped d nodes rfl).evolves
    | overStore d => exact trivial

end AnyBackend

/-! ### Answers for the right actor -/

/-- Over any store, a registration is answered for its actor.

**Proof sketch.** The number of tries counts down.  What is written is the registration itself, and
what is found was decoded for its actor. -/
theorem OverStore.actor_of_registerWithin {τ : Type} [VersionedStore τ] {r stored : Registration}
    {n : Nat} {d : OverStore τ} (h : (registerWithin r n d).1 = .ok stored) :
    stored.actor = r.actor := by
  induction n generalizing d with
  | zero => contradiction
  | succ n ih =>
    rw [registerWithin] at h
    split at h
    · contradiction
    · rw [← Except.ok.inj h]
      rfl
    · split at h
      · -- What the actor has already is returned.
        next hv =>
        rw [← Except.ok.inj h]
        exact (of_decode_eq_ok hv).1
      · split at h
        · contradiction
        · rw [← Except.ok.inj h]
          rfl
        · exact ih h
      · contradiction

/-- A directory of either kind answers a registration for its actor. -/
theorem AnyBackend.Keyed.actor_of_register {τ : Type} [VersionedStore τ] {b : AnyBackend τ}
    (hb : b.Keyed) {r stored : Registration} (h : (Backend.register b r).1 = .ok stored) :
    stored.actor = r.actor := by
  cases b with
  | inMemory d =>
    have hregistered := LawfulBackend.registered d r
    have hanswer : (Backend.register d r).1 = .ok stored := h
    have hkeyed := hb.of_evolves (hregistered.evolves fun _ _ => True)
    rw [hanswer] at hregistered
    exact hkeyed _ _ hregistered.eq_some_of_ok
  | overStore d =>
    have hanswer : (OverStore.registerWithin r OverStore.maxAttempts d).1 = .ok stored := h
    exact OverStore.actor_of_registerWithin hanswer

namespace Unreliable

variable {τ : Type} [VersionedStore τ]

/-- No mishap puts a registration under another actor. -/
theorem preserves_keyed : Backend.Preserves fun b : Unreliable (AnyBackend τ) => b.inner.Keyed :=
  preserves AnyBackend.preserves_keyed

/-- A registration that succeeds is answered for its actor. -/
theorem actor_of_register {b : Unreliable (AnyBackend τ)} (hb : b.inner.Keyed)
    {r stored : Registration} (h : (Backend.register b r).1 = .ok stored) :
    stored.actor = r.actor := hb.actor_of_register (attempt_of_ok h)

end Unreliable

end ActorLocation
