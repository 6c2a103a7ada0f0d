import ActorLocation.Membership.Snapshot
/-!
# The membership feed

A feed holds the latest snapshot and counts the publications.  It accepts only versions that move
forward, and it queues nothing: a subscriber that has missed several snapshots gets the latest.

## Main definitions

* `ActorLocation.Feed`, `Feed.publish`, `Feed.close` — the publishing side.
* `ActorLocation.Subscription`, `Subscription.latest`, `Subscription.next` — the receiving side,
  which remembers how many publications it has seen.
-/

namespace ActorLocation

/-- A publication was refused because its version does not move forward. -/
structure StaleVersion where
  /-- The version that was offered. -/
  offered : Version
  /-- The version that is current. -/
  current : Version
deriving DecidableEq, Repr

/-- The wording of the refusal. -/
def StaleVersion.message (e : StaleVersion) : String :=
  s!"stale membership snapshot {e.offered} (current is {e.current})"

/-- The publishing side of a stream of snapshots. -/
structure Feed where
  /-- The latest snapshot that was accepted. -/
  current : Snapshot
  /-- The number of publications that were accepted. -/
  published : Nat := 0
  /-- Whether the publisher still exists. -/
  isOpen : Bool := true
deriving Inhabited

namespace Feed

/-- Publishes a snapshot if its version is greater than the current one. -/
def publish (f : Feed) (s : Snapshot) : Except StaleVersion Feed :=
  if f.current.version < s.version then
    .ok { f with current := s, published := f.published + 1 }
  else .error ⟨s.version, f.current.version⟩

/-- The feed after its publisher is gone. -/
def close (f : Feed) : Feed := { f with isOpen := false }

end Feed

/-- The receiving side of a feed. -/
structure Subscription where
  /-- The number of publications that it has seen. -/
  seen : Nat
deriving DecidableEq, Repr, Inhabited

/-- A subscription that has seen all that was published so far. -/
def Feed.subscribe (f : Feed) : Subscription := ⟨f.published⟩

/-- What a subscriber that asks for the next snapshot is told. -/
inductive Delivery where
  /-- The latest snapshot, not seen before. -/
  | snapshot (s : Snapshot)
  /-- Nothing is new yet. -/
  | pending
  /-- Nothing is new, and the publisher is gone. -/
  | closed

namespace Subscription

/-- The latest snapshot, which counts as seen from now on. -/
def latest (_ : Subscription) (f : Feed) : Snapshot × Subscription := (f.current, f.subscribe)

/-- Says that a publication was accepted that the subscription has not seen. -/
def IsReady (sub : Subscription) (f : Feed) : Prop := sub.seen ≠ f.published

instance (sub : Subscription) (f : Feed) : Decidable (sub.IsReady f) :=
  inferInstanceAs (Decidable (_ ≠ _))

/-- The latest snapshot if it was not seen before, which counts as seen from now on. -/
def next (sub : Subscription) (f : Feed) : Delivery × Subscription :=
  if sub.IsReady f then (.snapshot (sub.latest f).1, (sub.latest f).2)
  else if f.isOpen then (.pending, sub)
  else (.closed, sub)

end Subscription

end ActorLocation
