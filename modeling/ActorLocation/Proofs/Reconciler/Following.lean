import ActorLocation.Proofs.Directory.Monitored
import ActorLocation.Proofs.Locator.Cleanup
import ActorLocation.Proofs.Locator.Versions
import ActorLocation.Reconciler
/-!
# The newest snapshot is not dropped

A reconciler waits for the feed and for its timer, while others publish, hand memberships to its
locator and let backends fail.  It may miss snapshots that are overtaken, but it does not lose the
latest one: whenever it waits, that one is applied, or the timer runs and that is the one to be
tried again.

When several things are there to be done, a reconciler may start with any of them.  In particular,
a pass that is due may be tried again although a newer snapshot has arrived.

## Main definitions

* `ActorLocation.Reconciler.retryIfDue` — the act of a reconciler whose timer fires.
* `ActorLocation.Following`, `Following.step`, `Following.run` — a feed, a reconciler and its
  locator, and what happens to them.
* `Following.IsWaiting` — the reconciler is at work and has nothing to do.
* `Following.HasNewest` — the newest snapshot is applied or to be tried again.
* `Following.Tracks` — the invariant: what the reconciler has seen, it has.

## Main results

* `Reconciler.pass_cases` — how a pass ends.
* `Following.Tracks.step`, `Following.Tracks.run` — what an event and a run preserve.
* `Following.newest_never_dropped` — what is true whenever the reconciler waits, and what a retry
  does when the backend answers.
-/

namespace ActorLocation

namespace Reconciler

variable {σ : Type} [Backend σ]

/-- Tries the failed pass again if it is due. -/
def retryIfDue (c : Reconciler) (now : Nat) (l : Locator) (d : Directory σ) :
    Reconciler × Locator × Directory σ :=
  match c.retry with
  | some r => if r.due ≤ now then c.pass now l d r.snapshot else (c, l, d)
  | none => (c, l, d)

/-- What a reconciler does at work: it applies a snapshot that it has not seen, or it ends if the
feed is closed, or it tries the failed pass again if that is due.

**Proof sketch.** By the questions that the reconciler asks, in its order: whether there is a
snapshot to be seen, and whether the feed is open.  In each of the cases both sides are the same by
definition. -/
theorem wake_of_running {c : Reconciler} (hc : c.isFinished = false) (f : Feed) (now : Nat)
    (l : Locator) (d : Directory σ) :
    c.wake f now l d =
      if c.subscription.IsReady f then
        { c with subscription := f.subscribe }.pass now l d f.current
      else if f.isOpen then c.retryIfDue now l d
      else ({ c with isFinished := true }, l, d) := by
  unfold wake Subscription.next
  rw [hc, if_neg Bool.false_ne_true]
  by_cases hready : c.subscription.IsReady f
  · rw [if_pos hready, if_pos hready]
    rfl
  · rw [if_neg hready, if_neg hready]
    by_cases hopen : f.isOpen = true
    · rw [if_pos hopen, if_pos hopen]
      rfl
    · rw [if_neg hopen, if_neg hopen]

/-- A pass leaves nothing to be tried again, and its snapshot is not newer than the applied one
then, or it failed and is to be tried again after the interval. -/
theorem pass_cases (c : Reconciler) (now : Nat) (l : Locator) (d : Directory σ) (s : Snapshot) :
    (∃ outcome, (l.applyMembership d s).1 = .ok outcome ∧
        c.pass now l d s = ({ c with retry := none }, (l.applyMembership d s).2)) ∨
      ∃ e, (l.applyMembership d s).1 = .error e ∧
        c.pass now l d s =
          ({ c with retry := some ⟨s, now + c.interval⟩ }, (l.applyMembership d s).2) := by
  rw [pass]
  split
  · next outcome l' d' heq =>
    rw [heq]
    exact .inl ⟨outcome, rfl, rfl⟩
  · next e l' d' heq =>
    rw [heq]
    exact .inr ⟨e, rfl, rfl⟩

end Reconciler

/-- A pass that fails has met a failure. -/
theorem Locator.hasFailed_of_error {σ : Type} [Backend σ] {l : Locator}
    {d : Directory (Monitored σ)} {s : Snapshot} {e : LocatorError}
    (h : (l.applyMembership d s).1 = .error e) :
    (l.applyMembership d s).2.2.backend.hasFailed = true := by
  rcases directory_of_error h with ⟨dead, e', hnodes⟩ | ⟨d₁, leftovers, hfailures, hmany⟩
  · have hfailed := Directory.hasFailed_unregisterNodes (congrArg Prod.fst hnodes)
    rwa [hnodes] at hfailed
  · rw [← hmany]
    exact Directory.hasFailed_unregisterMany hfailures

/-! ### Runs -/

/-- A feed, a reconciler that has subscribed to it, its locator, and the time. -/
structure Following where
  /-- The feed. -/
  feed : Feed
  /-- The reconciler. -/
  reconciler : Reconciler
  /-- Its locator. -/
  locator : Locator
  /-- The time. -/
  now : Nat

namespace Following

variable {σ : Type} [Backend σ]

/-- What can happen to a feed, a reconciler and its locator.  Whatever asks the directory meets one
that others may have changed and that may fail. -/
inductive Event (σ : Type) where
  /-- A snapshot is offered to the feed. -/
  | publish (s : Snapshot)
  /-- The publisher is gone. -/
  | close
  /-- Somebody else calls the locator. -/
  | call (d : Directory σ) (c : Locator.Call)
  /-- Time passes. -/
  | elapse (ms : Nat)
  /-- The reconciler gets its turn. -/
  | act (d : Directory σ)
  /-- The reconciler gets its turn and looks at its timer first. -/
  | fire (d : Directory σ)
  /-- The reconciler is stopped. -/
  | stop

/-- The state that an act of the reconciler leaves behind. -/
def acted (w : Following) (outcome : Reconciler × Locator × Directory σ) : Following :=
  { w with reconciler := outcome.1, locator := outcome.2.1 }

/-- A reconciler starts. -/
def start (f : Feed) (sub : Subscription) (interval now : Nat) (l : Locator) (d : Directory σ) :
    Following :=
  let (reconciler, locator, _) := Reconciler.start f sub interval now l d
  { feed := f, reconciler, locator, now }

/-- What an event does. -/
def step (w : Following) : Event σ → Following
  | .publish s =>
    match w.feed.publish s with
    | .ok feed => { w with feed }
    | .error _ => w
  | .close => { w with feed := w.feed.close }
  | .call d c => { w with locator := (w.locator.perform d c).2.1 }
  | .elapse ms => { w with now := w.now + ms }
  | .act d => w.acted (w.reconciler.wake w.feed w.now w.locator d)
  | .fire d =>
    if w.reconciler.isFinished then w
    else w.acted (w.reconciler.retryIfDue w.now w.locator d)
  | .stop => { w with reconciler := { w.reconciler with isFinished := true } }

/-- What a run does. -/
def run (w : Following) (es : List (Event σ)) : Following := es.foldl step w

/-- Says that the reconciler is at work and has nothing to do at the time. -/
def IsWaiting (w : Following) : Prop :=
  w.reconciler.isFinished = false ∧ ∀ t, w.reconciler.readyAt? w.feed = some t → w.now < t

/-- Says that the newest snapshot is applied and nothing is to be tried again, or that it is to be
tried again within the interval. -/
def HasNewest (w : Following) : Prop :=
  (w.reconciler.retry = none ∧ w.feed.current.version ≤ w.locator.appliedVersion) ∨
    ∃ due, w.reconciler.retry = some ⟨w.feed.current, due⟩ ∧
      due ≤ w.now + w.reconciler.interval

/-- Says that the reconciler, which tries again after `interval`, keeps track of its feed: what it
has seen, it has. -/
structure Tracks (interval : Nat) (w : Following) : Prop where
  /-- The reconciler tries again after the interval. -/
  interval_eq : w.reconciler.interval = interval
  /-- The versions of the locator fit together. -/
  inStep : w.locator.InStep
  /-- Nothing was seen that was not published. -/
  seen_le : w.reconciler.subscription.seen ≤ w.feed.published
  /-- Either there is a snapshot to be seen, or the newest one is not dropped. -/
  hasNewest : w.reconciler.subscription.IsReady w.feed ∨ w.HasNewest

variable {w : Following} {interval : Nat}

/-! ### What an event preserves -/

/-- A pass for the newest snapshot leaves it applied or to be tried again. -/
theorem Tracks.pass {c : Reconciler} {l : Locator} (hl : l.InStep) {f : Feed}
    (hc : c.subscription = f.subscribe) (now : Nat) (d : Directory σ) :
    Tracks c.interval
      ⟨f, (c.pass now l d f.current).1, (c.pass now l d f.current).2.1, now⟩ := by
  have hseen : c.subscription.seen ≤ f.published := by
    rw [hc]
    exact Nat.le_refl _
  have hstep := (l.reconciled d f.current).inStep hl
  rcases c.pass_cases now l d f.current with ⟨outcome, hok, heq⟩ | ⟨e, -, heq⟩
  · rw [heq]
    refine ⟨rfl, hstep, hseen, .inr (.inl ⟨rfl, ?_⟩)⟩
    rw [hstep.appliedVersion]
    exact (Locator.reconciled_of_eq hok).le_applied_of_ok
  · rw [heq]
    exact ⟨rfl, hstep, hseen, .inr (.inr ⟨_, rfl, Nat.le_refl _⟩)⟩

/-- A pass for an older snapshot does no harm as long as there is one to be seen. -/
theorem Tracks.pass_of_isReady (h : w.Tracks interval)
    (hready : w.reconciler.subscription.IsReady w.feed) (d : Directory σ) (s : Snapshot) :
    (w.acted (w.reconciler.pass w.now w.locator d s)).Tracks interval := by
  have hstep := (w.locator.reconciled d s).inStep h.inStep
  rcases w.reconciler.pass_cases w.now w.locator d s with ⟨outcome, -, heq⟩ | ⟨e, -, heq⟩
  · rw [heq]
    exact ⟨h.interval_eq, hstep, h.seen_le, .inl hready⟩
  · rw [heq]
    exact ⟨h.interval_eq, hstep, h.seen_le, .inl hready⟩

/-- What is to be tried again is the newest snapshot unless there is one to be seen. -/
theorem Tracks.snapshot_eq (h : w.Tracks interval)
    (hready : ¬ w.reconciler.subscription.IsReady w.feed) {r : Retry}
    (hr : w.reconciler.retry = some r) : r.snapshot = w.feed.current := by
  rcases h.hasNewest.resolve_left hready with ⟨hnone, -⟩ | ⟨due, hsome, -⟩
  · rw [hr] at hnone
    contradiction
  · rw [Option.some.inj (hr.symm.trans hsome)]

/-- Whatever is tried again, the reconciler keeps track.

**Proof sketch.** If there is nothing to be tried again, or it is not due, nothing changes.
Otherwise a pass is made.  As long as there is a newer snapshot to be seen, whatever the pass does
is no harm.  If there is none, the snapshot to be tried again is the newest one by
`Tracks.snapshot_eq`, and the pass leaves it applied or to be tried again. -/
theorem Tracks.retryIfDue (h : w.Tracks interval) (d : Directory σ) :
    (w.acted (w.reconciler.retryIfDue w.now w.locator d)).Tracks interval := by
  unfold Reconciler.retryIfDue
  split
  · next r hr =>
    split
    · by_cases hready : w.reconciler.subscription.IsReady w.feed
      · exact h.pass_of_isReady hready d r.snapshot
      · -- Everything was seen, so the pass is for the newest snapshot.
        have hseen : w.reconciler.subscription = w.feed.subscribe :=
          congrArg Subscription.mk (Classical.not_not.1 hready)
        rw [h.snapshot_eq hready hr, ← h.interval_eq]
        exact .pass h.inStep hseen w.now d
    · exact h
  · exact h

/-- The reconciler keeps track of its feed, whatever happens.

**Proof sketch.** By the event.  An accepted publication is a snapshot to be seen; a refused one
changes nothing.  A call by somebody else does not touch the reconciler, and moves the version
applied forward only, so what was applied is so still.  Time that passes makes the time left
shorter.  An act of the reconciler is a pass for the newest snapshot (`Tracks.pass`), a retry
(`Tracks.retryIfDue`), or its end. -/
theorem Tracks.step (h : w.Tracks interval) (e : Event σ) : (w.step e).Tracks interval := by
  cases e with
  | publish s =>
    rw [Following.step, Feed.publish]
    split
    · next feed hok =>
      split at hok
      · -- An accepted snapshot is one to be seen.
        have hseen := h.seen_le
        rw [← Except.ok.inj hok]
        refine ⟨h.interval_eq, h.inStep, Nat.le_succ_of_le hseen, .inl ?_⟩
        exact Nat.ne_of_lt (Nat.lt_succ_of_le hseen)
      · contradiction
    · exact h
  | close => exact ⟨h.interval_eq, h.inStep, h.seen_le, h.hasNewest⟩
  | call d c =>
    have hstep := h.inStep.perform d c
    refine ⟨h.interval_eq, hstep, h.seen_le, h.hasNewest.imp_right ?_⟩
    refine Or.imp_left fun ⟨hnone, hle⟩ => ⟨hnone, Version.le_trans hle ?_⟩
    -- No call takes the version applied back.
    have hforward := (w.locator.notBehind_perform d c).applied
    rwa [← h.inStep.appliedVersion, ← hstep.appliedVersion] at hforward
  | elapse ms =>
    refine ⟨h.interval_eq, h.inStep, h.seen_le, h.hasNewest.imp_right ?_⟩
    refine Or.imp_right fun ⟨due, hsome, hdue⟩ => ⟨due, hsome, ?_⟩
    exact Nat.le_trans hdue (Nat.add_le_add_right (Nat.le_add_right _ _) _)
  | act d =>
    rw [Following.step]
    cases hfinished : w.reconciler.isFinished with
    | true =>
      rw [Reconciler.wake, if_pos hfinished]
      exact h
    | false =>
      -- What the reconciler does, in the order of its questions: a new snapshot, the timer, the
      -- end.
      rw [Reconciler.wake_of_running hfinished]
      split
      · rw [← h.interval_eq]
        exact .pass (c := { w.reconciler with subscription := w.feed.subscribe }) h.inStep rfl
          w.now d
      · split
        · exact h.retryIfDue d
        · exact ⟨h.interval_eq, h.inStep, h.seen_le, h.hasNewest⟩
  | fire d =>
    rw [Following.step]
    split
    · exact h
    · exact h.retryIfDue d
  | stop => exact ⟨h.interval_eq, h.inStep, h.seen_le, h.hasNewest⟩

/-- A reconciler that starts keeps track of its feed, whatever its locator has applied before. -/
theorem tracks_start {l : Locator} (hl : l.InStep) (f : Feed) (sub : Subscription)
    (interval now : Nat) (d : Directory σ) : (start f sub interval now l d).Tracks interval := by
  rw [start, Reconciler.start, Subscription.latest]
  dsimp only
  split
  · exact .pass (c := { subscription := f.subscribe, interval }) hl rfl now d
  · next hle =>
    exact ⟨rfl, hl, Nat.le_refl _, .inr (.inl ⟨rfl, Version.le_of_not_lt hle⟩)⟩

/-- The reconciler keeps track of its feed in every run. -/
theorem Tracks.run (h : w.Tracks interval) (es : List (Event σ)) :
    (w.run es).Tracks interval := by
  induction es generalizing w with
  | nil => exact h
  | cons e es ih => exact ih (h.step e)

/-! ### Waiting -/

/-- A reconciler that waits has seen what there is to be seen. -/
theorem IsWaiting.not_isReady (h : w.IsWaiting) :
    ¬ w.reconciler.subscription.IsReady w.feed := by
  intro hready
  refine Nat.not_lt_zero _ (h.2 0 ?_)
  rw [Reconciler.readyAt?, h.1, Subscription.next, if_pos hready, if_neg Bool.false_ne_true]

/-- A reconciler that waits has a timer that runs if there is a pass to be tried again. -/
theorem IsWaiting.lt_due (h : w.IsWaiting) {r : Retry} (hr : w.reconciler.retry = some r) :
    w.now < r.due := by
  by_cases hopen : w.feed.isOpen = true
  · refine h.2 r.due ?_
    rw [Reconciler.readyAt?, h.1, Subscription.next, if_neg h.not_isReady, if_pos hopen, hr,
      if_neg Bool.false_ne_true]
    rfl
  · -- A reconciler whose feed is closed does not wait.
    refine absurd (h.2 0 ?_) (Nat.not_lt_zero _)
    rw [Reconciler.readyAt?, h.1, Subscription.next, if_neg h.not_isReady, if_neg hopen,
      if_neg Bool.false_ne_true]

/-- The newest snapshot is not dropped.  Take a locator after any calls and a reconciler that starts
with it on a feed, and then any run in which others publish, call the locator, let time pass and let
backends fail, and in which the reconciler gets its turns.  Whenever it waits, nothing is to be
tried again and the locator has applied a membership that is not older than the newest one, or its
timer runs, for at most an interval, and it is the newest snapshot that is to be tried again.
Whenever its timer fires and no call of the pass fails, nothing is to be tried again, since the
locator has applied a membership that is not older than the one that was.

**Proof sketch.** The reconciler keeps track of its feed after the run, by `tracks_start` and
`Tracks.run`.  If it waits, there is no snapshot to be seen, so `Tracks.hasNewest` says that the
newest one is applied or to be tried again; in the second case the timer runs, since the reconciler
would have something to do otherwise.  A retry is a pass for the snapshot that was kept.  The pass
succeeds, and then a membership that is not older is applied, or it fails; but a pass fails only if
one of its calls has failed. -/
theorem newest_never_dropped (node : Node) (placements : Placements) (s₀ : Snapshot)
    (before : List (Directory σ × Locator.Call)) (f : Feed) (sub : Subscription)
    (interval now : Nat) (d : Directory σ) (es : List (Event σ)) {w : Following}
    (hw : w = (start f sub interval now
      ((Locator.start node placements s₀).runWith before).2 d).run es) :
    (w.IsWaiting →
      (w.reconciler.retry = none ∧ w.feed.current.version ≤ w.locator.appliedVersion) ∨
        ∃ due, w.reconciler.retry = some ⟨w.feed.current, due⟩ ∧ w.now < due ∧
          due ≤ w.now + interval) ∧
      ∀ r, w.reconciler.isFinished = false → w.reconciler.retry = some r → r.due ≤ w.now →
        ∀ (τ : Type) [Backend τ] (d : Directory (Monitored τ)),
          (w.reconciler.retryIfDue w.now w.locator d).2.2.backend.hasFailed = false →
            (w.step (.fire d)).reconciler.retry = none ∧
              r.snapshot.version ≤ (w.step (.fire d)).locator.appliedVersion := by
  have hstart := (Locator.inStep_start node placements s₀).runWith before
  have htracks : w.Tracks interval := hw ▸ (tracks_start hstart f sub interval now d).run es
  constructor
  · intro hwaiting
    rcases htracks.hasNewest.resolve_left hwaiting.not_isReady with hnone | ⟨due, hsome, hdue⟩
    · exact .inl hnone
    · rw [htracks.interval_eq] at hdue
      exact .inr ⟨due, hsome, hwaiting.lt_due hsome, hdue⟩
  · intro r hrunning hr hdue τ _ d hfailed
    -- A retry that is due is a pass for the snapshot that was kept.
    have hfire : w.reconciler.retryIfDue w.now w.locator d =
        w.reconciler.pass w.now w.locator d r.snapshot := by
      rw [Reconciler.retryIfDue, hr]
      exact if_pos hdue
    rw [step, hrunning, if_neg Bool.false_ne_true]
    rw [hfire] at hfailed ⊢
    rcases w.reconciler.pass_cases w.now w.locator d r.snapshot with
      ⟨outcome, hok, heq⟩ | ⟨e, herror, heq⟩
    · rw [heq]
      have hstep := (w.locator.reconciled d r.snapshot).inStep htracks.inStep
      refine ⟨rfl, ?_⟩
      change _ ≤ (w.locator.applyMembership d r.snapshot).2.1.appliedVersion
      rw [hstep.appliedVersion]
      exact (Locator.reconciled_of_eq hok).le_applied_of_ok
    · rw [heq] at hfailed
      -- A pass that fails has met a failure, and there was none.
      exact absurd (Locator.hasFailed_of_error herror) (by simpa using hfailed)

/-- A directory whose backend is in reach. -/
def inReach : Directory (Flaky InMemory) := .ofBackend { inner := {} }

/-- A node dies while the backend is out of reach; then time passes. -/
def duringOutage (ms : Nat) : List (Event (Flaky InMemory)) :=
  [.publish Locator.secondDead, .act (inReach.under { changes := [true] }), .elapse ms]

/-- The state after such a run, with a locator that has registered an activation on the node and a
reconciler that tries again after ten milliseconds. -/
def afterOutage (ms : Nat) : Following :=
  (start ⟨Locator.bothActive, 0, true⟩ ⟨0⟩ 10 0
    ((Locator.start (.loopback 1 1) {} Locator.bothActive).runWith
      [(inReach, .register Locator.departed)]).2 inReach).run (duringOutage ms)

/-- After five milliseconds the reconciler waits to try the newest snapshot again, and after ten it
does so, with success if the backend is in reach. -/
theorem newest_never_dropped_afterOutage :
    ((afterOutage 5).IsWaiting ∧ ∃ due,
        (afterOutage 5).reconciler.retry = some ⟨Locator.secondDead, due⟩ ∧ 5 < due ∧ due ≤ 15) ∧
      ((afterOutage 10).step
        (.fire (.ofBackend ({ inner := {} } : Monitored InMemory)))).reconciler.retry = none := by
  have hwaiting : (afterOutage 5).IsWaiting := by
    refine ⟨rfl, fun t ht => ?_⟩
    obtain rfl : 10 = t := Option.some.inj ht
    decide
  obtain ⟨hwait, -⟩ := newest_never_dropped (.loopback 1 1) {} Locator.bothActive
    [(inReach, .register Locator.departed)] ⟨Locator.bothActive, 0, true⟩ ⟨0⟩ 10 0 inReach
    (duringOutage 5) (w := afterOutage 5) rfl
  obtain ⟨-, hfire⟩ := newest_never_dropped (.loopback 1 1) {} Locator.bothActive
    [(inReach, .register Locator.departed)] ⟨Locator.bothActive, 0, true⟩ ⟨0⟩ 10 0 inReach
    (duringOutage 10) (w := afterOutage 10) rfl
  obtain ⟨hcleared, -⟩ := hfire ⟨Locator.secondDead, 10⟩ rfl rfl (Nat.le_refl 10) InMemory
    (.ofBackend { inner := {} }) (by decide)
  refine ⟨⟨hwaiting, ?_⟩, hcleared⟩
  rcases hwait hwaiting with ⟨hnone, -⟩ | hdue
  · contradiction
  · exact hdue

end Following

end ActorLocation
