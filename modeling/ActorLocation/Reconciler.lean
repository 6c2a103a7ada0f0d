import ActorLocation.Locator.Reconcile
import ActorLocation.Membership.Feed
/-!
# Reconcilers

A reconciler keeps a locator in line with a membership feed.  It applies each snapshot that its
subscription delivers.  A pass that fails is tried again after an interval, unless a newer snapshot
arrives before that.

Time is a number of milliseconds that is passed to each operation.

## Main definitions

* `ActorLocation.Reconciler` — the state of a reconciler.
* `Reconciler.start` — its first act: to apply the snapshot that is already there.
* `Reconciler.readyAt?` — since when it has something to do.
* `Reconciler.wake`, `Reconciler.settle` — one act, and acts until it has to wait.

## Main results

* `Reconciler.wake_of_forall_lt` — a reconciler that has nothing to do changes nothing.
-/

namespace ActorLocation

/-- A pass that is to be tried again. -/
structure Retry where
  /-- The snapshot to apply. -/
  snapshot : Snapshot
  /-- The time from which on it is due. -/
  due : Nat
deriving Inhabited

/-- A reconciler. -/
structure Reconciler where
  /-- Its subscription. -/
  subscription : Subscription
  /-- The time between a failed pass and the next attempt. -/
  interval : Nat
  /-- The failed pass, if the last one failed. -/
  retry : Option Retry := none
  /-- Whether it has ended because the feed was closed. -/
  isFinished : Bool := false
deriving Inhabited

namespace Reconciler

variable {σ : Type} [Backend σ]

/-- Applies a snapshot. -/
def pass (c : Reconciler) (now : Nat) (l : Locator) (d : Directory σ) (s : Snapshot) :
    Reconciler × Locator × Directory σ :=
  match l.applyMembership d s with
  | (.ok _, l, d) => ({ c with retry := none }, l, d)
  | (.error _, l, d) => ({ c with retry := some ⟨s, now + c.interval⟩ }, l, d)

/-- A reconciler for a locator that has subscribed to a feed.  The latest snapshot is applied at
once if the locator has not yet applied one as new. -/
def start (f : Feed) (sub : Subscription) (interval now : Nat) (l : Locator) (d : Directory σ) :
    Reconciler × Locator × Directory σ :=
  let (latest, subscription) := sub.latest f
  let c : Reconciler := { subscription, interval }
  if l.appliedVersion < latest.version then c.pass now l d latest else (c, l, d)

/-- The time from which on there is something to do unless a newer snapshot arrives.  A snapshot
that it has not seen and the end of the feed do not wait; a failed pass waits until it is due. -/
def readyAt? (c : Reconciler) (f : Feed) : Option Nat :=
  if c.isFinished then none
  else
    match (c.subscription.next f).1 with
    | .pending => c.retry.map Retry.due
    | _ => some 0

/-- Does what can be done at the time: applies a snapshot that it has not seen; or else ends if the
feed is closed; or else tries the failed pass again if it is due. -/
def wake (c : Reconciler) (f : Feed) (now : Nat) (l : Locator) (d : Directory σ) :
    Reconciler × Locator × Directory σ :=
  if c.isFinished then (c, l, d)
  else
    match c.subscription.next f with
    | (.snapshot s, subscription) => { c with subscription }.pass now l d s
    | (.closed, _) => ({ c with isFinished := true }, l, d)
    | (.pending, _) =>
      match c.retry with
      | some r => if r.due ≤ now then c.pass now l d r.snapshot else (c, l, d)
      | none => (c, l, d)

/-- As long as there is nothing to do, nothing happens.

A follower may therefore be woken at any time, as often as one likes; only the times named by
`readyAt?` count. -/
theorem wake_of_forall_lt {c : Reconciler} {f : Feed} {now : Nat} (l : Locator) (d : Directory σ)
    (h : ∀ t, c.readyAt? f = some t → now < t) : c.wake f now l d = (c, l, d) := by
  unfold wake
  unfold readyAt? at h
  split
  · rfl
  · next hc =>
    simp only [hc, Bool.false_eq_true, if_false] at h
    split
    · next hn => exact absurd (h 0 (by rw [hn])) (Nat.not_lt_zero _)
    · next hn => exact absurd (h 0 (by rw [hn])) (Nat.not_lt_zero _)
    · next hn =>
      split
      · next r hr => exact if_neg (Nat.not_le_of_lt (h r.due (by rw [hn, hr]; rfl)))
      · rfl

/-- Acts until there is nothing left to do at the time: after a pass nothing is unseen, so at most
the end of the feed is left to be noticed. -/
def settle (c : Reconciler) (f : Feed) (now : Nat) (l : Locator) (d : Directory σ) :
    Reconciler × Locator × Directory σ :=
  let (c, l, d) := c.wake f now l d
  c.wake f now l d

end Reconciler

end ActorLocation
