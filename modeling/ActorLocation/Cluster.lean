import ActorLocation.Locator.Call
/-!
# Clusters

A cluster is what several nodes share: their locators work on one directory, each with its own
catalog, cache and view of the membership.

## Main definitions

* `ActorLocation.Cluster` — locators over one directory.
* `Cluster.perform` — a call of one of the locators, answered by the shared directory.
-/

namespace ActorLocation

/-- Several locators that share a directory. -/
structure Cluster (σ : Type) where
  /-- The locators. -/
  locators : List Locator
  /-- The directory. -/
  directory : Directory σ

namespace Cluster

variable {σ : Type} [Backend σ]

/-- The cluster with another state of the locator at position `i`. -/
def setLocator (c : Cluster σ) (i : Nat) (l : Locator) : Cluster σ :=
  { c with locators := c.locators.set i l }

/-- Performs a call of the locator at position `i`, if there is one. -/
def perform (c : Cluster σ) (i : Nat) (call : Locator.Call) : Option Locator.Reply × Cluster σ :=
  match c.locators[i]? with
  | none => (none, c)
  | some l =>
    let (reply, l, d) := l.perform c.directory call
    (some reply, { (c.setLocator i l) with directory := d })

end Cluster

end ActorLocation
