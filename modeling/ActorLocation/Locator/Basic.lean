import ActorLocation.Catalog
import ActorLocation.Directory.Service
import ActorLocation.Membership.Snapshot
import ActorLocation.Placement.Choice
/-!
# Locators

The locator of a node finds, places and registers actors.  It asks the catalog of the node first,
then a cache of registrations, then the directory.  A cached registration is used only while the
current membership does not count its node as dead.

The directory is shared with other locators, so it is passed to each operation and comes back with
the answer.

## Main definitions

* `ActorLocation.Locator` — the state of a locator.
* `ActorLocation.LocatorError` — why an operation failed.
* `Locator.resolve`, `place`, `register`, `unregister`, `invalidate`, `unregisterLocal`,
  `observe` — the operations, except for `Locator.applyMembership`, which has a module of its own.
-/

namespace ActorLocation

/-- Why an operation of a locator failed. -/
inductive LocatorError where
  /-- No live activation of the actor is known. -/
  | notFound (id : ActorId)
  /-- The directory failed. -/
  | directory (e : DirectoryError)
  /-- There is no node for the actor. -/
  | placement (e : PlacementError)
deriving DecidableEq, Repr

namespace LocatorError

/-- The wording of the error. -/
def message : LocatorError → String
  | notFound id => s!"actor {id} not found"
  | directory e => e.message
  | placement e => e.message

/-- Whether the actor simply has no activation. -/
def isNotFound : LocatorError → Bool
  | notFound _ => true
  | directory _ | placement _ => false

/-- Whether trying again may help. -/
def isTransient : LocatorError → Bool
  | directory e => e.isTransient
  | notFound _ | placement _ => false

end LocatorError

/-- Why an activation is unregistered.  The reason has no effect. -/
inductive UnregisterCause where
  /-- The activation ended normally. -/
  | deactivation
  /-- The node died. -/
  | nodeDead
  /-- The activation lost a race for the registration. -/
  | duplicate
  /-- The local node shuts down. -/
  | shutdown
deriving DecidableEq, Repr, Inhabited

instance : ToString UnregisterCause where
  toString
    | .deactivation => "deactivation"
    | .nodeDead => "node-dead"
    | .duplicate => "duplicate"
    | .shutdown => "shutdown"

/-- The outcome of a registration. -/
structure Outcome where
  /-- The registration that the directory holds now. -/
  registration : Registration
  /-- Whether it describes the activation that was to be registered. -/
  won : Bool
deriving DecidableEq, Repr

/-- The locator of a node. -/
structure Locator where
  /-- The node. -/
  node : Node
  /-- The activations that the node hosts. -/
  catalog : Catalog := {}
  /-- The placement strategies. -/
  placements : Placements := {}
  /-- The registrations that were read or written lately. -/
  cache : Table ActorId Registration := ∅
  /-- The latest membership that was seen. -/
  current : Snapshot
  /-- The latest membership that cache and directory were brought in line with. -/
  applied : Snapshot
  /-- The registrations on dead nodes that could not be deleted so far. -/
  pending : List Registration := []
  /-- The version of the latest membership that was applied, for readers that do not wait for a
  running pass. -/
  appliedVersion : Version
deriving Inhabited

namespace Locator

/-- The locator of a node at the start.  The membership that it starts from counts as applied. -/
def start (node : Node) (placements : Placements) (s : Snapshot) : Locator where
  node := node
  placements := placements
  current := s
  applied := s
  appliedVersion := s.version

/-! ### Queries -/

/-- The strategy for an actor. -/
def strategyFor (l : Locator) (id : ActorId) : Strategy := l.placements.strategyFor id.actorType

/-- The cached registration of an actor. -/
def cached? (l : Locator) (id : ActorId) : Option Registration := l.cache.find? id

/-- A node for a new activation of an actor. -/
def place (l : Locator) (id : ActorId) (compatible : List Node) (r : RandomWords) :
    Except LocatorError Node × RandomWords :=
  match (l.strategyFor id).chooseNode id l.current compatible l.node r with
  | (.ok n, r) => (.ok n, r)
  | (.error e, r) => (.error (.placement e), r)

/-! ### Operations on the locator alone -/

/-- Sees a membership: it becomes the current one if its version is greater.  Says whether it
did. -/
def observe (l : Locator) (s : Snapshot) : Bool × Locator :=
  if l.current.version < s.version then (true, { l with current := s }) else (false, l)

/-- Caches a registration. -/
def remember (l : Locator) (r : Registration) : Locator :=
  { l with cache := l.cache.insert r.actor r }

/-- Drops the cached registration of an actor. -/
def forget (l : Locator) (id : ActorId) : Locator := { l with cache := l.cache.erase id }

/-- Drops the cached registration if it describes the same activation as `r`. -/
def forgetActivation (l : Locator) (r : Registration) : Locator :=
  { l with cache := l.cache.eraseIf r.actor fun c => c.SameActivation r }

/-- Drops the cached registration if it equals `r`, and says whether it did. -/
def invalidate (l : Locator) (r : Registration) : Bool × Locator :=
  if l.cached? r.actor = some r then (true, l.forget r.actor) else (false, l)

/-! ### Operations that reach the directory -/

variable {σ : Type} [Backend σ]

/-- Asks the directory for the node of an actor.  A registration on a live node is cached; one on
a dead node is deleted, if possible, and not used. -/
def resolveRemotely (l : Locator) (d : Directory σ) (id : ActorId) :
    Except LocatorError Node × Locator × Directory σ :=
  match d.lookup id with
  | (.error e, d) => (.error (.directory e), l, d)
  | (.ok none, d) => (.error (.notFound id), l, d)
  | (.ok (some r), d) =>
    if l.current.IsDead r.node then (.error (.notFound id), l, (d.unregister r).2)
    else (.ok r.node, { l with cache := l.cache.insert id r }, d)

/-- The node that hosts an actor: the local node, or the node of a cached registration unless it
is dead, or what the directory says. -/
def resolve (l : Locator) (d : Directory σ) (id : ActorId) :
    Except LocatorError Node × Locator × Directory σ :=
  if (l.catalog.first? id).isSome then (.ok l.node, l, d)
  else
    match l.cached? id with
    | none => l.resolveRemotely d id
    | some r =>
      if l.current.IsDead r.node then (l.forget id).resolveRemotely d id else (.ok r.node, l, d)

/-- How often a registration on a dead node is deleted to make room for a new one. -/
def maxReplacements : Nat := 2

/-- Registers `r` anew as long as the directory holds a registration of another activation on a
dead node, which is deleted first, up to `replacements` times.  Here `stored` is what the directory
held at the last attempt. -/
def replaceDead (l : Locator) (r : Registration) :
    (replacements : Nat) → (stored : Registration) → Directory σ →
      Except DirectoryError Registration × Directory σ
  | 0, stored, d => (.ok stored, d)
  | n + 1, stored, d =>
    if stored.SameActivation r ∨ ¬ l.current.IsDead stored.node then (.ok stored, d)
    else
      match d.unregister stored with
      | (.error e, d) => (.error e, d)
      | (.ok (), d) =>
        match d.register r with
        | (.error e, d) => (.error e, d)
        | (.ok stored, d) => l.replaceDead r n stored d

/-- Registers an activation and caches what the directory holds then. -/
def register (l : Locator) (d : Directory σ) (r : Registration) :
    Except LocatorError Outcome × Locator × Directory σ :=
  match d.register r with
  | (.error e, d) => (.error (.directory e), l, d)
  | (.ok stored, d) =>
    match l.replaceDead r maxReplacements stored d with
    | (.error e, d) => (.error (.directory e), l, d)
    | (.ok stored, d) => (.ok ⟨stored, stored.SameActivation r⟩, l.remember stored, d)

/-- Removes an activation from the directory and then from the cache. -/
def unregister (l : Locator) (d : Directory σ) (r : Registration) (_ : UnregisterCause) :
    Except LocatorError Unit × Locator × Directory σ :=
  match d.unregister r with
  | (.error e, d) => (.error (.directory e), l, d)
  | (.ok (), d) => (.ok (), l.forgetActivation r, d)

/-- Releases all activations of the node and removes those that are registered from the directory
and from the cache.  Stateless workers are never registered, so the directory is not asked about
them. -/
def unregisterLocal (l : Locator) (d : Directory σ) (_ : UnregisterCause) :
    BatchOutcome × Locator × Directory σ :=
  let (drained, catalog) := l.catalog.drain
  let registrations := (drained.filter fun h => h.hosting = .single).map Hosted.registration
  let (outcome, d) := d.unregisterMany registrations
  (outcome, registrations.foldl forgetActivation { l with catalog }, d)

end Locator

end ActorLocation
