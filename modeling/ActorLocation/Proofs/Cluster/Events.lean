import ActorLocation.Cluster
import ActorLocation.Proofs.Directory.Lawful
import ActorLocation.Proofs.Locator.Effects
/-!
# Runs of clusters

What happens to a cluster: its locators are called in any order, the store goes away and comes back,
and somebody writes to the store behind the directory.

## Main definitions

* `ActorLocation.AnyBackend.switch`, `AnyBackend.write` — what can happen to a store.
* `ActorLocation.AnyBackend.IsReachable` — the directory can be asked.
* `ActorLocation.Cluster.Event`, `Cluster.step`, `Cluster.after` — an event, what it does, and the
  cluster after a run.
* `ActorLocation.Cluster.Along` — a condition holds at each event of a run.

## Main results

* `ActorLocation.Cluster.step_call` — a call affects its locator and the directory.
* `ActorLocation.AnyBackend.exists_lookup_eq_ok` — a directory that can be asked answers.
* `ActorLocation.AnyBackend.held_switch`, `AnyBackend.evolves_write` — what the directory holds
  afterwards.
-/

namespace ActorLocation

/-! ### What can happen to a store -/

namespace AnyBackend

/-- Switches the store off, or on again, if there is a store. -/
def switch (available : Bool) : AnyBackend MemoryStore → AnyBackend MemoryStore
  | inMemory d => inMemory d
  | overStore d => overStore ⟨d.store.setAvailable available⟩

/-- Writes to the store, if there is a store. -/
def write (key : String) (value : Octets) : AnyBackend MemoryStore → AnyBackend MemoryStore
  | inMemory d => inMemory d
  | overStore d => overStore ⟨(d.store.write key value).2⟩

/-- Says that the directory can be asked: its store, if there is one, is switched on. -/
def IsReachable : AnyBackend MemoryStore → Prop
  | inMemory _ => True
  | overStore d => d.store.available = true

/-- A directory that can be asked answers, even if a value in its store means nothing.

**Proof sketch.** In memory, every look-up answers.  A store that is switched on answers with a
value or without one; a value that cannot be decoded counts as none, since all that decoding can
report is corruption (`OverStore.eq_corrupted_of_decode`). -/
theorem exists_lookup_eq_ok {d : Directory (AnyBackend MemoryStore)} (h : d.backend.IsReachable)
    (id : ActorId) : ∃ found, (d.lookup id).1 = .ok found := by
  obtain ⟨backend⟩ := d
  cases backend with
  | inMemory s => exact ⟨s.entries.find? id, rfl⟩
  | overStore s =>
    have ha : s.store.available = true := h
    -- Under the key of the actor there is nothing, or a registration, or something without meaning.
    cases hf : s.store.entries.find? (OverStore.storageKey id) with
    | none =>
      refine ⟨none, ?_⟩
      simp [Directory.lookup, Backend.lookup, OverStore.lookup, VersionedStore.get,
        MemoryStore.whenAvailable, ha, hf]
    | some v =>
      cases hv : OverStore.decode id v with
      | ok r =>
        refine ⟨some r, ?_⟩
        simp [Directory.lookup, Backend.lookup, OverStore.lookup, VersionedStore.get,
          MemoryStore.whenAvailable, ha, hf, hv, Except.map]
      | error e =>
        obtain ⟨reason, rfl⟩ := OverStore.eq_corrupted_of_decode hv
        refine ⟨none, ?_⟩
        simp [Directory.lookup, Backend.lookup, OverStore.lookup, VersionedStore.get,
          MemoryStore.whenAvailable, ha, hf, hv, Except.map]

/-- A store that is switched off holds what it held, although it does not say so. -/
theorem held_switch (available : Bool) (d : AnyBackend MemoryStore) :
    (d.switch available).held = d.held := by
  cases d <;> rfl

/-- A write to the store can only affect the actor whose key is written.

**Proof sketch.** The registrations of other actors are found under other keys, which the insertion
leaves alone.  What appears under the written key, if it means anything, names the actor of that key
(`OverStore.wellKeyed_held`). -/
theorem evolves_write (key : String) (value : Octets) (d : AnyBackend MemoryStore) :
    d.held.Evolves (fun id _ => key = OverStore.storageKey id) (d.write key value).held := by
  cases d with
  | inMemory d => exact .refl _ _
  | overStore d =>
    constructor
    · intro id r hr hkey
      change ((d.store.entries.insert key _).find? (OverStore.storageKey id)).bind _ = some r
      rw [Table.find?_insert_of_ne _ _ fun h => hkey h.symm]
      exact hr
    · intro id r hr
      exact .inr (OverStore.wellKeyed_held _ id r hr)

end AnyBackend

/-! ### Events -/

namespace Cluster

/-- What can happen to a cluster. -/
inductive Event where
  /-- The locator at position `i` is called. -/
  | call (i : Nat) (call : Locator.Call)
  /-- The store is switched off, or on again. -/
  | switch (available : Bool)
  /-- Somebody writes to the store behind the directory. -/
  | write (key : String) (value : Octets)

/-- The membership that is handed over with an event. -/
def Event.snapshot? : Event → Option Snapshot
  | .call _ q => q.snapshot?
  | .switch _ | .write .. => none

variable {c : Cluster (AnyBackend MemoryStore)}

/-- The cluster after an event. -/
def step (c : Cluster (AnyBackend MemoryStore)) : Event → Cluster (AnyBackend MemoryStore)
  | .call i call => (c.perform i call).2
  | .switch available =>
    { c with directory := c.directory.withBackend (c.directory.backend.switch available) }
  | .write key value =>
    { c with directory := c.directory.withBackend (c.directory.backend.write key value) }

/-- The cluster after a run. -/
def after (c : Cluster (AnyBackend MemoryStore)) (events : List Event) :
    Cluster (AnyBackend MemoryStore) := events.foldl step c

/-- Says that a condition holds at each event of a run, of the cluster at that time. -/
def Along (P : Cluster (AnyBackend MemoryStore) → Event → Prop) :
    Cluster (AnyBackend MemoryStore) → List Event → Prop
  | _, [] => True
  | c, e :: es => P c e ∧ Along P (c.step e) es

/-- A call of a locator that is not there does nothing.  Any other call leaves the locator and the
directory behind as `Locator.perform` says. -/
theorem step_call (i : Nat) (call : Locator.Call) :
    (c.perform i call = (none, c)) ∨
      ∃ l ∈ c.locators, c.locators[i]? = some l ∧ c.perform i call =
        (some (l.perform c.directory call).1,
          { locators := c.locators.set i (l.perform c.directory call).2.1
            directory := (l.perform c.directory call).2.2 }) := by
  rw [perform]
  split
  · exact .inl rfl
  · next l hl => exact .inr ⟨l, List.mem_of_getElem? hl, hl, rfl⟩

/-- A condition on locators holds after a call if it held before and the call preserves it.

**Proof sketch.** By `step_call` only the locator at position `i` is replaced, by its own
successor. -/
theorem forall_locators_step {P : Locator → Prop} (h : ∀ l ∈ c.locators, P l) (i : Nat)
    (call : Locator.Call) (hcall : ∀ l, P l → P (l.perform c.directory call).2.1) :
    ∀ l ∈ (c.perform i call).2.locators, P l := by
  rcases step_call (c := c) i call with heq | ⟨l, hl, -, heq⟩
  · rw [heq]
    exact h
  · rw [heq]
    intro l' hl'
    rcases List.mem_or_eq_of_mem_set hl' with hl' | rfl
    · exact h l' hl'
    · exact hcall l (h l hl)

end Cluster

end ActorLocation
