import ActorLocation.Simulation.Basic
/-!
# Reports on simulations

A report says what can be seen of a simulated cluster from outside between two operations.

## Main definitions

* `Simulation.LocatorReport`, `Simulation.Report` — what can be seen of a locator and of the whole.
* `Simulation.report` — the report at the moment.
-/

namespace ActorLocation

namespace Simulation

/-- What can be seen of a locator. -/
structure LocatorReport where
  /-- The number of cached registrations. -/
  cached : Nat
  /-- The version of the membership that was applied. -/
  applied : Version
  /-- The version of the current membership. -/
  current : Version
  /-- The number of hosted activations. -/
  hosted : Nat
deriving DecidableEq, Repr

/-- What can be seen of a simulation. -/
structure Report where
  /-- The locators. -/
  locators : List LocatorReport
  /-- The number of registrations, or of keys in the store, if it is visible. -/
  registered : Option Nat
  /-- The operations that the backend was asked for since the log was cleared. -/
  calls : List BackendCall
deriving DecidableEq, Repr

/-- What can be seen of a locator. -/
def LocatorReport.ofLocator (l : Locator) : LocatorReport where
  cached := l.cache.size
  applied := l.appliedVersion
  current := l.current.version
  hosted := l.catalog.size

/-- The number of registrations, or of keys in the store, if it is visible. -/
def registered? (s : Simulation) : Option Nat :=
  match s.directory.backend.inner with
  | .inMemory d => if s.isInstrumented then some d.entries.size else none
  | .overStore d => some d.store.store.size

/-- What can be seen of a simulation. -/
def report (s : Simulation) : Report where
  locators := s.cluster.locators.map LocatorReport.ofLocator
  registered := s.registered?
  calls := if s.isInstrumented then s.directory.backend.log else []

end Simulation

end ActorLocation
