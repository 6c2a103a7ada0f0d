import ActorLocation.Store.Basic
/-!
# Contested stores

Between the moment at which a writer reads a value and the moment at which it replaces or deletes
it, a rival may write under the same key.  A contested store has a list of such rival writes; the
next one comes before each conditional replacement or deletion.

## Main definitions

* `ActorLocation.ContestedStore` — a store in memory with rivals, as a `VersionedStore`.
-/

namespace ActorLocation

/-- A store in memory with rival writers. -/
structure ContestedStore where
  /-- The store. -/
  store : MemoryStore := {}
  /-- What the rivals will write: an entry for each conditional replacement or deletion to come,
  `none` where no rival comes before it. -/
  rivals : List (Option Octets) := []
deriving Inhabited

namespace ContestedStore

/-- The store with other rivals. -/
def withRivals (s : ContestedStore) (rivals : List (Option Octets)) : ContestedStore :=
  { s with rivals }

/-- Lets the next rival write under the key. -/
def yield (s : ContestedStore) (key : String) : ContestedStore :=
  match s.rivals with
  | [] => s
  | none :: rivals => { s with rivals }
  | some value :: rivals => ⟨(s.store.write key value).2, rivals⟩

/-- The answer of the store, whose state is kept. -/
def forward {α : Type} (s : ContestedStore) (answer : α × MemoryStore) : α × ContestedStore :=
  (answer.1, { s with store := answer.2 })

instance : VersionedStore ContestedStore where
  get s key := s.forward (VersionedStore.get s.store key)
  putIfAbsent s key value := s.forward (VersionedStore.putIfAbsent s.store key value)
  compareAndSwap s key expected value :=
    let s := s.yield key
    s.forward (VersionedStore.compareAndSwap s.store key expected value)
  compareAndDelete s key expected :=
    let s := s.yield key
    s.forward (VersionedStore.compareAndDelete s.store key expected)

end ContestedStore

end ActorLocation
