import ActorLocation.Config
import ActorLocation.Simulation.Faults
import ActorLocation.Simulation.Follower
import ActorLocation.Simulation.Rivals
/-!
# Simulations

A simulation is a cluster in one value: locators that share a directory with faults, the store
behind it with rivals, a membership feed with its subscribers, and reconcilers that follow the feed
in virtual time.  Nothing happens unless an operation is called, and `Simulation.settle` lets the
reconcilers act until all of them wait.

## Main definitions

* `ActorLocation.Simulation`, `Simulation.start` — the state, and how it begins.
* `Simulation.call`, `onDirectory`, `onBackend`, `onStore` — operations on the parts.
* `Simulation.publish`, `subscribe`, `fork`, `latest?`, `next?`, `closeFeed` — the feed.
* `Simulation.spawn`, `stop`, `advance`, `settle` — the reconcilers and the clock.
-/

namespace ActorLocation

/-- The backend of a simulated cluster. -/
abbrev SimulatedBackend := Faulty (AnyBackend ContestedStore)

/-- A simulated cluster. -/
structure Simulation where
  /-- The locators and their directory. -/
  cluster : Cluster SimulatedBackend
  /-- Whether the backend has a log, faults, and entries that can be listed; otherwise it is as a
  configuration describes it. -/
  isInstrumented : Bool
  /-- The store while the directory does not use it. -/
  idleStore : ContestedStore := {}
  /-- The membership feed. -/
  feed : Feed
  /-- The subscriptions that are not held by reconcilers. -/
  subscriptions : List Subscription := []
  /-- The reconcilers that were not stopped, in the order in which they last acted. -/
  followers : List Follower := []
  /-- The number of reconcilers that were started. -/
  started : Nat := 0
  /-- The time in milliseconds. -/
  now : Nat := 0

namespace Simulation

/-! ### The start -/

/-- The directory of a simulated cluster. -/
inductive Setting where
  /-- An instrumented one of the given kind, with batches of `maxBatch` registrations if that is
  given; `bulkRemoval` and `backendMax` change what its backend can do. -/
  | instrumented (kind : BackendKind) (bulkRemoval : Option Bool) (backendMax maxBatch : Option Nat)
  /-- One as the configuration describes it. -/
  | configured

/-- A backend of the given kind that holds nothing. -/
def emptyBackend : BackendKind → AnyBackend ContestedStore
  | .inMemory => .inMemory {}
  | .keyValue => .overStore ⟨{}⟩

/-- The directory at the start. -/
def Setting.directory (config : Config) : Setting → Except ConfigError (Directory SimulatedBackend)
  | instrumented kind bulkRemoval backendMax maxBatch =>
    let d := Directory.ofBackend
      { inner := emptyBackend kind, bulkRemoval, maxBatch := backendMax : SimulatedBackend }
    .ok (match maxBatch with
      | some size => d.withMaxBatch size
      | none => d)
  | configured =>
    (config.directory? (some ({} : ContestedStore))).map fun d =>
      { backend := { inner := d.backend }, maxBatch := d.maxBatch, maxBatch_pos := d.maxBatch_pos }

/-- Whether the directory is instrumented. -/
def Setting.isInstrumented : Setting → Bool
  | instrumented .. => true
  | configured => false

/-- A cluster with a locator for each of the given nodes, all of which start from one snapshot. -/
def start (config : Config) (setting : Setting) (nodes : List Node) (s : Snapshot) :
    Except ConfigError Simulation :=
  (setting.directory config).map fun directory =>
    { cluster := { locators := nodes.map fun n => config.locator n s, directory }
      isInstrumented := setting.isInstrumented
      feed := { current := s } }

/-! ### The parts -/

/-- The locator at a position. -/
def locator? (s : Simulation) (i : Nat) : Option Locator := s.cluster.locators[i]?

/-- Performs a call of the locator at a position, if there is one. -/
def call (s : Simulation) (i : Nat) (c : Locator.Call) : Option Locator.Reply × Simulation :=
  let (reply, cluster) := s.cluster.perform i c
  (reply, { s with cluster })

/-- The directory. -/
def directory (s : Simulation) : Directory SimulatedBackend := s.cluster.directory

/-- Performs an operation of the directory. -/
def onDirectory {α : Type} (s : Simulation)
    (f : Directory SimulatedBackend → α × Directory SimulatedBackend) : α × Simulation :=
  let (answer, directory) := f s.directory
  (answer, { s with cluster := { s.cluster with directory } })

/-- Performs an operation of the backend. -/
def onBackend {α : Type} (s : Simulation) (f : SimulatedBackend → α × SimulatedBackend) :
    α × Simulation :=
  s.onDirectory fun d =>
    let (answer, backend) := f d.backend
    (answer, d.withBackend backend)

/-- Switches other faults on, if the backend is instrumented. -/
def setFaults (s : Simulation) (f : Faults) : Simulation :=
  if s.isInstrumented then (s.onBackend fun b => ((), b.withFaults f)).2 else s

/-- The simulation with an empty log. -/
def clearLog (s : Simulation) : Simulation := (s.onBackend fun b => ((), b.clearLog)).2

/-- The store. -/
def store (s : Simulation) : ContestedStore :=
  match s.directory.backend.inner with
  | .overStore d => d.store
  | .inMemory _ => s.idleStore

/-- The simulation with another state of the store. -/
def withStore (s : Simulation) (store : ContestedStore) : Simulation :=
  match s.directory.backend.inner with
  | .overStore _ => (s.onBackend fun b => ((), { b with inner := .overStore ⟨store⟩ })).2
  | .inMemory _ => { s with idleStore := store }

/-- Performs an operation of the store. -/
def onStore {α : Type} (s : Simulation) (f : ContestedStore → α × ContestedStore) :
    α × Simulation :=
  let (answer, store) := f s.store
  (answer, s.withStore store)

/-- Performs an operation of the store that its rivals do not notice. -/
def onMemoryStore {α : Type} (s : Simulation) (f : MemoryStore → α × MemoryStore) :
    α × Simulation :=
  s.onStore fun c => c.forward (f c.store)

/-- The registrations of an instrumented directory in memory. -/
def registrations (s : Simulation) : List Registration :=
  match s.directory.backend.inner with
  | .inMemory d => if s.isInstrumented then d.toList else []
  | .overStore _ => []

/-! ### The feed -/

/-- Publishes a snapshot. -/
def publish (s : Simulation) (t : Snapshot) : Except StaleVersion Unit × Simulation :=
  match s.feed.publish t with
  | .ok feed => (.ok (), { s with feed })
  | .error e => (.error e, s)

/-- Closes the feed. -/
def closeFeed (s : Simulation) : Simulation := { s with feed := s.feed.close }

/-- Adds a subscription and returns its position. -/
def addSubscription (s : Simulation) (sub : Subscription) : Nat × Simulation :=
  (s.subscriptions.length, { s with subscriptions := s.subscriptions ++ [sub] })

/-- Subscribes to the feed. -/
def subscribe (s : Simulation) : Nat × Simulation := s.addSubscription s.feed.subscribe

/-- Adds a copy of a subscription, which has seen what the subscription has seen. -/
def fork (s : Simulation) (i : Nat) : Option (Nat × Simulation) :=
  (s.subscriptions[i]?).map s.addSubscription

/-- Performs an operation of a subscription. -/
def onSubscription {α : Type} (s : Simulation) (i : Nat)
    (f : Subscription → α × Subscription) : Option (α × Simulation) :=
  (s.subscriptions[i]?).map fun sub =>
    let (answer, sub) := f sub
    (answer, { s with subscriptions := s.subscriptions.set i sub })

/-- The latest snapshot, which the subscription has seen from now on. -/
def latest? (s : Simulation) (i : Nat) : Option (Snapshot × Simulation) :=
  s.onSubscription i fun sub => sub.latest s.feed

/-- What a subscription that asks for the next snapshot is told. -/
def next? (s : Simulation) (i : Nat) : Option (Delivery × Simulation) :=
  s.onSubscription i fun sub => sub.next s.feed

/-! ### Reconcilers -/

/-- Starts a reconciler for the locator at a position and returns its number. -/
def spawn (s : Simulation) (i interval : Nat) : Option (Nat × Simulation) :=
  (s.locator? i).map fun l =>
    let (c, l, directory) := Reconciler.start s.feed s.feed.subscribe interval s.now l s.directory
    (s.started,
      { s with
        cluster := { s.cluster.setLocator i l with directory }
        followers := s.followers ++ [⟨s.started, i, c⟩]
        started := s.started + 1 })

/-- The reconciler with a number, unless it was stopped. -/
def reconciler? (s : Simulation) (id : Nat) : Option Reconciler :=
  (s.followers.find? (·.id = id)).map Follower.reconciler

/-- Stops a reconciler.  Says whether it was still there. -/
def stop (s : Simulation) (id : Nat) : Bool × Simulation :=
  ((s.reconciler? id).isSome, { s with followers := s.followers.filter (·.id ≠ id) })

/-- Lets time pass. -/
def advance (s : Simulation) (ms : Nat) : Simulation := { s with now := s.now + ms }

/-- Lets the reconcilers act until all of them wait.  Those that have something to do take turns,
and of those whose turn is the same, the one that has not acted for longest acts first. -/
def settle (s : Simulation) : Simulation :=
  let (ready, waiting) := s.followers.partition (Follower.isReady s.feed s.now)
  let (acted, cluster) := Follower.actEach s.feed s.now s.cluster (Follower.inTurn s.feed ready)
  { s with followers := waiting ++ acted, cluster }

end Simulation

end ActorLocation
