import ActorLocation.Directory.AnyBackend
import ActorLocation.Locator.Basic
/-!
# Configuration

A configuration selects the backend of the directory and the placement strategies.  All its fields
have defaults.

## Main definitions

* `ActorLocation.Config`, `Config.validate` — configurations, and whether one is consistent.
* `Config.Setting`, `Config.build` — a configuration step by step.
* `Config.placementsOf`, `Config.directory?`, `Config.locator` — what a configuration describes.
-/

namespace ActorLocation

/-- The backend of a directory. -/
inductive BackendKind where
  /-- In memory. -/
  | inMemory
  /-- Over a versioned store. -/
  | keyValue
deriving DecidableEq, Repr, Inhabited

namespace BackendKind

/-- The name of the kind. -/
def name : BackendKind → String
  | inMemory => "in_memory"
  | keyValue => "key_value"

/-- The kind with the given name. -/
def ofName? (t : String) : Option BackendKind :=
  [inMemory, keyValue].find? fun k => k.name = t

end BackendKind

/-- The configuration of a node. -/
structure Config where
  /-- The backend of the directory. -/
  backend : BackendKind := .inMemory
  /-- The number of registrations that are deleted in one batch; a backend may allow less. -/
  maxUnregisterBatch : UInt64 := 100
  /-- The time before a failed pass is tried again, in milliseconds. -/
  reconcileRetryMs : UInt64 := 1000
  /-- The strategy of the types that have none of their own. -/
  defaultPlacement : Strategy := .random
  /-- The strategies of single types. -/
  placements : List (ActorType × Strategy) := []
deriving DecidableEq, Repr, Inhabited

/-- Why a configuration is refused. -/
inductive ConfigError where
  /-- A batch would be empty. -/
  | invalidBatchSize
  /-- A type may have no activation. -/
  | invalidWorkerLimit (t : ActorType)
  /-- The types without a strategy of their own may have no activation. -/
  | invalidDefaultWorkerLimit
  /-- A type has two strategies. -/
  | duplicatePlacement (t : ActorType)
  /-- The backend needs a store, and there is none. -/
  | missingStore
  /-- The text is not the JSON form of a configuration. -/
  | malformed
deriving DecidableEq, Repr

/-- The wording of the error. -/
def ConfigError.message : ConfigError → String
  | invalidBatchSize => "max_unregister_batch must be greater than zero"
  | invalidWorkerLimit t =>
    s!"stateless worker strategy for {t} must allow at least one activation"
  | invalidDefaultWorkerLimit =>
    "default stateless worker strategy must allow at least one activation"
  | duplicatePlacement t => s!"placement for {t} configured more than once"
  | missingStore => "key-value directory selected but no store was provided"
  | malformed => "invalid locator config"

namespace Config

/-! ### Consistency -/

/-- The first fault among strategies of single types, where the types in `seen` came before. -/
def placementFault? (seen : List ActorType) : List (ActorType × Strategy) → Option ConfigError
  | [] => none
  | (t, s) :: rest =>
    if t ∈ seen then some (.duplicatePlacement t)
    else if s.isUnusable then some (.invalidWorkerLimit t)
    else placementFault? (t :: seen) rest

/-- The first fault of a configuration: the batch size, then the default strategy, then the
strategies of single types from the front. -/
def fault? (c : Config) : Option ConfigError :=
  if c.maxUnregisterBatch = 0 then some .invalidBatchSize
  else if c.defaultPlacement.isUnusable then some .invalidDefaultWorkerLimit
  else placementFault? [] c.placements

/-- The configuration, unless it has a fault. -/
def validate (c : Config) : Except ConfigError Config :=
  match c.fault? with
  | some e => .error e
  | none => .ok c

/-! ### Configuration step by step -/

/-- The milliseconds of a duration, at most as many as a word can hold. -/
def retryMs (seconds nanoseconds : Nat) : UInt64 :=
  UInt64.ofNat (min (seconds * 1000 + nanoseconds / 1000000) (UInt64.size - 1))

/-- A step of configuration. -/
inductive Setting where
  /-- Selects the backend. -/
  | backend (kind : BackendKind)
  /-- Sets the number of registrations that are deleted in one batch. -/
  | maxUnregisterBatch (size : UInt64)
  /-- Sets the time before a failed pass is tried again. -/
  | reconcileRetry (seconds nanoseconds : Nat)
  /-- Sets the strategy of the types that have none of their own. -/
  | defaultPlacement (s : Strategy)
  /-- Adds the strategy of a type. -/
  | placement (t : ActorType) (s : Strategy)
deriving DecidableEq, Repr

/-- The configuration after a step. -/
def set (c : Config) : Setting → Config
  | .backend kind => { c with backend := kind }
  | .maxUnregisterBatch size => { c with maxUnregisterBatch := size }
  | .reconcileRetry seconds nanoseconds =>
    { c with reconcileRetryMs := retryMs seconds nanoseconds }
  | .defaultPlacement s => { c with defaultPlacement := s }
  | .placement t s => { c with placements := c.placements ++ [(t, s)] }

/-- The configuration that results from the steps, unless it has a fault. -/
def build (l : List Setting) : Except ConfigError Config := (l.foldl set {}).validate

/-! ### What it describes -/

/-- The placement strategies. -/
def placementsOf (c : Config) : Placements := .ofList c.defaultPlacement c.placements

variable {τ : Type} [VersionedStore τ]

/-- The backend that a configuration selects, with nothing registered in memory. -/
def backend? (c : Config) (store : Option τ) : Except ConfigError (AnyBackend τ) :=
  match c.backend, store with
  | .inMemory, _ => .ok (.inMemory {})
  | .keyValue, some s => .ok (.overStore ⟨s⟩)
  | .keyValue, none => .error .missingStore

/-- The directory that a configuration describes. -/
def directory? (c : Config) (store : Option τ) : Except ConfigError (Directory (AnyBackend τ)) :=
  (c.backend? store).map fun b => (Directory.ofBackend b).withMaxBatch c.maxUnregisterBatch.toNat

/-- The locator of a node that a configuration describes. -/
def locator (c : Config) (node : Node) (s : Snapshot) : Locator :=
  Locator.start node c.placementsOf s

end Config

end ActorLocation
