import ActorLocation.Cluster
import ActorLocation.Reconciler
import ActorLocation.Sorting
/-!
# Followers

A follower is a reconciler that works for one of the locators of a cluster.  Several followers of
one feed share the directory, so it matters who acts first when time has passed: followers take
turns in the order of the times from which on they had something to do.

## Main definitions

* `ActorLocation.Follower`, `Follower.act` — a reconciler and its locator, and what they do.
* `Follower.turn`, `Follower.isReady` — since when a follower has something to do.
* `Follower.inTurn`, `Follower.actEach` — the order in which followers act, and their acts.
-/

namespace ActorLocation

/-- A reconciler at work. -/
structure Follower where
  /-- A number of its own. -/
  id : Nat
  /-- The position of its locator. -/
  locator : Nat
  /-- The reconciler. -/
  reconciler : Reconciler
deriving Inhabited

namespace Follower

variable {σ : Type} [Backend σ]

/-- Whether there is something to do at the time. -/
def isReady (f : Feed) (now : Nat) (w : Follower) : Bool :=
  (w.reconciler.readyAt? f).any fun t => decide (t ≤ now)

/-- The time from which on a follower that is ready has had something to do. -/
def turn (f : Feed) (w : Follower) : Nat := (w.reconciler.readyAt? f).getD 0

/-- Followers in the order of their turns.  Those with the same turn keep their order. -/
def inTurn (f : Feed) (l : List Follower) : List Follower :=
  sortBy (fun a b => decide (a.turn f ≤ b.turn f)) l

/-- Acts until it waits. -/
def act (f : Feed) (now : Nat) (cluster : Cluster σ) (w : Follower) : Follower × Cluster σ :=
  match cluster.locators[w.locator]? with
  | none => (w, cluster)
  | some l =>
    let (reconciler, l, directory) := w.reconciler.settle f now l cluster.directory
    ({ w with reconciler }, { cluster.setLocator w.locator l with directory })

/-- Lets followers act one after the other, each until it waits. -/
def actEach (f : Feed) (now : Nat) (cluster : Cluster σ) :
    List Follower → List Follower × Cluster σ
  | [] => ([], cluster)
  | w :: rest =>
    let (w, cluster) := w.act f now cluster
    let (acted, cluster) := actEach f now cluster rest
    (w :: acted, cluster)

end Follower

end ActorLocation
