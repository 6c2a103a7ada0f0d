import ActorLocation.Directory.InMemory
import ActorLocation.Directory.OverStore
/-!
# Directories of either kind

Which backend a directory has may be decided when it is started, so this type has both.

## Main definitions

* `ActorLocation.AnyBackend` — a directory in memory or over a store, as a `Backend`.
-/

namespace ActorLocation

/-- A directory in memory or over a versioned store. -/
inductive AnyBackend (τ : Type) where
  /-- In memory. -/
  | inMemory (d : InMemory)
  /-- Over a store. -/
  | overStore (d : OverStore τ)

namespace AnyBackend

variable {τ : Type} [VersionedStore τ]

instance : Backend (AnyBackend τ) where
  capabilities
    | inMemory d => Backend.capabilities d
    | overStore d => Backend.capabilities d
  lookup
    | inMemory d, actor => (Backend.lookup d actor).map id inMemory
    | overStore d, actor => (Backend.lookup d actor).map id overStore
  register
    | inMemory d, r => (Backend.register d r).map id inMemory
    | overStore d, r => (Backend.register d r).map id overStore
  unregister
    | inMemory d, r => (Backend.unregister d r).map id inMemory
    | overStore d, r => (Backend.unregister d r).map id overStore
  unregisterNodes
    | inMemory d, nodes => (Backend.unregisterNodes d nodes).map id inMemory
    | overStore d, nodes => (Backend.unregisterNodes d nodes).map id overStore

end AnyBackend

end ActorLocation
