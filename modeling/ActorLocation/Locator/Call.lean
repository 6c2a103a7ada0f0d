import ActorLocation.Locator.Reconcile
/-!
# Calls of locators

The operations of a locator as data, so that runs of a locator are lists of calls.

## Main definitions

* `ActorLocation.Locator.Call`, `Locator.Reply`, `Locator.perform` — an operation, its answer, and
  what it does.
* `Locator.run` — calls in order.
-/

namespace ActorLocation

namespace Locator

/-- An operation of a locator or of its catalog. -/
inductive Call where
  /-- Finds the node of an actor. -/
  | resolve (id : ActorId)
  /-- Chooses a node for an actor. -/
  | place (id : ActorId) (compatible : List Node) (words : RandomWords)
  /-- Registers an activation. -/
  | register (r : Registration)
  /-- Removes an activation. -/
  | unregister (r : Registration) (cause : UnregisterCause)
  /-- Drops a cached registration. -/
  | invalidate (r : Registration)
  /-- Releases and removes all activations of the node. -/
  | unregisterLocal (cause : UnregisterCause)
  /-- Sees a membership. -/
  | observe (s : Snapshot)
  /-- Applies a membership. -/
  | applyMembership (s : Snapshot)
  /-- Admits an activation to the catalog. -/
  | host (h : Hosted)
  /-- Releases an activation of the catalog. -/
  | release (h : Hosted)
  /-- Releases all activations of the catalog. -/
  | drain

/-- The answer to a call. -/
inductive Reply where
  /-- The node of an actor. -/
  | resolved (answer : Except LocatorError Node)
  /-- The node chosen, and the random words left. -/
  | placed (answer : Except LocatorError Node) (words : RandomWords)
  /-- What the directory holds. -/
  | registered (answer : Except LocatorError Outcome)
  /-- Whether the removal failed. -/
  | unregistered (answer : Except LocatorError Unit)
  /-- Whether something was dropped from the cache. -/
  | invalidated (dropped : Bool)
  /-- Which removals failed. -/
  | unregisteredLocal (outcome : BatchOutcome)
  /-- Whether the membership is the current one now. -/
  | observed (adopted : Bool)
  /-- The outcome of the pass. -/
  | reconciled (answer : Except LocatorError Reconciliation)
  /-- Whether the admission was refused. -/
  | hosted (answer : Except CatalogError Unit)
  /-- Whether there was such an activation. -/
  | released (found : Bool)
  /-- The activations released. -/
  | drained (l : List Hosted)

variable {σ : Type} [Backend σ]

/-- Performs a call. -/
def perform (l : Locator) (d : Directory σ) : Call → Reply × Locator × Directory σ
  | .resolve id =>
    let (answer, l, d) := l.resolve d id
    (.resolved answer, l, d)
  | .place id compatible words =>
    let (answer, words) := l.place id compatible words
    (.placed answer words, l, d)
  | .register r =>
    let (answer, l, d) := l.register d r
    (.registered answer, l, d)
  | .unregister r cause =>
    let (answer, l, d) := l.unregister d r cause
    (.unregistered answer, l, d)
  | .invalidate r =>
    let (dropped, l) := l.invalidate r
    (.invalidated dropped, l, d)
  | .unregisterLocal cause =>
    let (outcome, l, d) := l.unregisterLocal d cause
    (.unregisteredLocal outcome, l, d)
  | .observe s =>
    let (adopted, l) := l.observe s
    (.observed adopted, l, d)
  | .applyMembership s =>
    let (answer, l, d) := l.applyMembership d s
    (.reconciled answer, l, d)
  | .host h =>
    match l.catalog.host h with
    | .ok catalog => (.hosted (.ok ()), { l with catalog }, d)
    | .error e => (.hosted (.error e), l, d)
  | .release h =>
    let (found, catalog) := l.catalog.release h
    (.released found, { l with catalog }, d)
  | .drain =>
    let (drained, catalog) := l.catalog.drain
    (.drained drained, { l with catalog }, d)

/-- Performs calls in order. -/
def run (l : Locator) (d : Directory σ) : List Call → Locator × Directory σ
  | [] => (l, d)
  | c :: cs =>
    let (_, l, d) := l.perform d c
    l.run d cs

end Locator

end ActorLocation
