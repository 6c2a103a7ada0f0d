import ActorLocation.Locator.Basic
/-!
# Applying the membership

A pass brings the cache and the directory in line with a new membership: registrations on nodes
that have died since the last pass are dropped from the cache and deleted from the directory, all
at once if the backend can do that, else one by one.  Only a pass without failure counts as
applied, so that the next one does the work again.

## Main definitions

* `ActorLocation.Reconciliation` — the outcome of a pass.
* `Locator.evict` — drops what is cached on given nodes.
* `Locator.purge` — deletes registrations one by one.
* `Locator.applyMembership` — the pass.
-/

namespace ActorLocation

/-- The outcome of applying a membership. -/
inductive Reconciliation where
  /-- It was applied: its version, the nodes that had died, and the number of registrations that
  were dropped from the cache. -/
  | applied (version : Version) (dead : List Node) (evicted : Nat)
  /-- Its version was not greater than the applied one, and nothing was done. -/
  | stale (offered applied : Version)
deriving DecidableEq, Repr

namespace Locator

/-- Drops what is cached on the given nodes, and returns it. -/
def evict (l : Locator) (nodes : List Node) : List Registration × Locator :=
  (l.cache.values.filter fun r => r.node ∈ nodes,
    { l with cache := l.cache.filter fun _ r => r.node ∉ nodes })

/-- Marks a membership as applied. -/
def markApplied (l : Locator) (s : Snapshot) : Locator :=
  { l with applied := s, appliedVersion := s.version }

variable {σ : Type} [Backend σ]

/-- Deletes registrations on dead nodes from the directory.  If some deletions fail, their
registrations stay pending, and the first failure is the answer. -/
def purge (l : Locator) (d : Directory σ) (leftovers : List Registration) :
    Except DirectoryError Unit × Locator × Directory σ :=
  if leftovers.isEmpty then (.ok (), l, d)
  else
    match d.unregisterMany leftovers with
    | (outcome, d) =>
      match outcome.failures with
      | [] => (.ok (), l, d)
      | (r, e) :: rest => (.error e, { l with pending := r :: rest.map Prod.fst }, d)

/-- Deletes all registrations on dead nodes from the directory, if the backend can do that.  The
answer says which registrations are left to be deleted one by one: those that were pending, and the
evicted ones if the backend cannot do it.  After a failure the pending ones stay pending. -/
def purgeNodes (l : Locator) (d : Directory σ) (dead : List Node) (evicted : List Registration) :
    Except DirectoryError (List Registration) × Locator × Directory σ :=
  let cleared := { l with pending := [] }
  if dead.isEmpty then (.ok l.pending, cleared, d)
  else
    match d.unregisterNodes dead with
    | (.ok (.removed _), d) => (.ok l.pending, cleared, d)
    | (.ok .unsupported, d) => (.ok (l.pending ++ evicted), cleared, d)
    | (.error e, d) => (.error e, l, d)

/-- Applies a membership whose version is greater than the applied one. -/
def reconcile (l : Locator) (d : Directory σ) (s : Snapshot) :
    Except LocatorError Reconciliation × Locator × Directory σ :=
  let dead := s.newlyDeadSince l.applied
  let (evicted, l) := (l.observe s).2.evict dead
  match l.purgeNodes d dead evicted with
  | (.error e, l, d) => (.error (.directory e), l, d)
  | (.ok leftovers, l, d) =>
    match l.purge d leftovers with
    | (.error e, l, d) => (.error (.directory e), l, d)
    | (.ok (), l, d) => (.ok (.applied s.version dead evicted.length), l.markApplied s, d)

/-- Applies a membership, unless its version is not greater than the applied one. -/
def applyMembership (l : Locator) (d : Directory σ) (s : Snapshot) :
    Except LocatorError Reconciliation × Locator × Directory σ :=
  if s.version ≤ l.applied.version then
    (.ok (.stale s.version l.applied.version), l, d)
  else l.reconcile d s

end Locator

end ActorLocation
