import ActorLocation.Membership.Feed
/-!
# Nobody misses the newest snapshot

A feed has an audience: subscriptions that begin at different times, copies of them, and calls on
any of them in any order while snapshots are published.  Each subscription has a record here of what
it has seen and of what was published since.  A feed keeps no such record, only the latest snapshot
and a count; yet each subscription is told of a publication exactly if one was accepted since it
last saw a snapshot, and what it is given is the latest, never one that it has seen before.

## Main definitions

* `ActorLocation.Reader` — a subscription with a record of what it has seen and what it has missed.
* `ActorLocation.Audience`, `Audience.Call`, `Audience.step`, `Audience.run` — a feed with its
  subscriptions, and what happens to them.
* `Reader.Follows` — the invariant: the count and the latest snapshot agree with the record.

## Main results

* `Reader.Follows.next_eq` — what `next` answers, by the record.
* `Audience.IsFollowed.step`, `Audience.IsFollowed.run` — what a call and a run preserve.
* `Audience.newest_reaches_all` — what every call on a feed and its subscriptions answers.
-/

namespace ActorLocation

/-! ### Readers -/

/-- A subscription, with a record of what it has seen and of what was published since.  A copy of a
subscription begins with the record of the original. -/
structure Reader where
  /-- The subscription. -/
  subscription : Subscription
  /-- The snapshots that `next` has delivered, the latest first. -/
  delivered : List Snapshot := []
  /-- The other snapshots that it has seen, the latest first: those that it has looked up, and the
  one that was current when it began. -/
  viewed : List Snapshot
  /-- The snapshots that were published since it last saw one, the latest first. -/
  missed : List Snapshot := []

namespace Reader

/-- A subscription that begins now. -/
def start (f : Feed) : Reader := { subscription := f.subscribe, viewed := [f.current] }

/-- The subscription after a publication. -/
def miss (s : Snapshot) (r : Reader) : Reader := { r with missed := s :: r.missed }

/-- The subscription after it has looked up the latest snapshot. -/
def look (f : Feed) (r : Reader) : Reader :=
  { r with
    subscription := (r.subscription.latest f).2
    viewed := (r.subscription.latest f).1 :: r.viewed
    missed := [] }

/-- The subscription after it has asked for the next snapshot. -/
def ask (f : Feed) (r : Reader) : Reader :=
  match r.subscription.next f with
  | (.snapshot s, subscription) =>
    { r with subscription, delivered := s :: r.delivered, missed := [] }
  | (_, subscription) => { r with subscription }

/-- Says that a feed agrees with the record of a subscription. -/
structure Follows (f : Feed) (r : Reader) : Prop where
  /-- A publication was counted when the subscription last saw a snapshot, or it was missed. -/
  published_eq : f.published = r.subscription.seen + r.missed.length
  /-- What was published last is current. -/
  current_eq : ∀ s ∈ r.missed.head?, s = f.current
  /-- Nothing that was seen is newer than what is current. -/
  le_current : ∀ s ∈ r.delivered ++ r.viewed, s.version ≤ f.current.version
  /-- What was missed is newer than all that was seen. -/
  lt_current : r.missed ≠ [] → ∀ s ∈ r.delivered ++ r.viewed, s.version < f.current.version
  /-- The versions that were delivered go up. -/
  ascending : r.delivered.Pairwise fun s t => t.version < s.version

variable {f f' : Feed} {r : Reader} {s : Snapshot}

/-- A subscription that begins now agrees with its feed: it has seen the current snapshot, and
nothing has been published since. -/
theorem follows_start (f : Feed) : (start f).Follows f where
  published_eq := rfl
  current_eq := by rintro s ⟨⟩
  le_current s hs := by
    rw [List.mem_singleton.1 hs]
    exact Version.le_refl _
  lt_current h := absurd rfl h
  ascending := .nil

namespace Follows

/-- There is something to be told exactly if a publication was missed. -/
theorem isReady_iff (h : r.Follows f) : r.subscription.IsReady f ↔ r.missed ≠ [] := by
  have hcount := h.published_eq
  rw [Subscription.IsReady, ← List.length_pos_iff]
  omega

/-- A subscription that has missed publications is given the last of them; one that has missed none
waits as long as the feed is open. -/
theorem next_eq (h : r.Follows f) :
    (r.subscription.next f).1 =
      match r.missed with
      | s :: _ => .snapshot s
      | [] => if f.isOpen then .pending else .closed := by
  have hready := h.isReady_iff
  rw [Subscription.next]
  cases hmissed : r.missed with
  | nil =>
    rw [if_neg (mt hready.1 (not_not_intro hmissed))]
    split <;> rfl
  | cons s l =>
    rw [if_pos (hready.2 (by simp [hmissed])), h.current_eq s (by simp [hmissed])]
    rfl

/-- Who has asked has missed nothing. -/
theorem missed_ask (h : r.Follows f) : (r.ask f).missed = [] := by
  rw [Reader.ask, Subscription.next]
  by_cases hready : r.subscription.IsReady f
  · rw [if_pos hready]
  · rw [if_neg hready]
    have hmissed := Classical.not_not.1 (mt h.isReady_iff.2 hready)
    cases f.isOpen <;> exact hmissed

/-- What `next` delivers is the current snapshot, which is newer than all that was seen. -/
theorem of_next (h : r.Follows f) (hs : (r.subscription.next f).1 = .snapshot s) :
    s = f.current ∧ ∀ t ∈ r.delivered ++ r.viewed, t.version < s.version := by
  rw [h.next_eq] at hs
  cases hmissed : r.missed with
  | nil =>
    rw [hmissed] at hs
    dsimp only at hs
    split at hs <;> contradiction
  | cons s' l =>
    rw [hmissed] at hs
    obtain rfl : s' = s := Delivery.snapshot.inj hs
    obtain rfl := h.current_eq s' (by simp [hmissed])
    exact ⟨rfl, h.lt_current (by simp [hmissed])⟩

/-- An accepted publication is one more that the subscription has missed.

**Proof sketch.** The publication was accepted, so its version is greater than the current one.  All
that the subscription has seen is at most as new as the current snapshot, hence older than what is
current from now on.  This gives both comparisons of the invariant; the count goes up by one on
either side, and the versions delivered are what they were. -/
theorem miss (h : r.Follows f) (hp : f.publish s = .ok f') : (r.miss s).Follows f' := by
  rw [Feed.publish] at hp
  split at hp
  · next hnewer =>
    have hlt : ∀ t ∈ r.delivered ++ r.viewed, t.version < s.version := fun t ht =>
      Version.lt_of_le_of_lt (h.le_current t ht) hnewer
    rw [← Except.ok.inj hp]
    exact {
      published_eq := congrArg (· + 1) h.published_eq
      current_eq := by rintro _ ⟨⟩; rfl
      le_current := fun t ht => Version.le_of_lt (hlt t ht)
      lt_current := fun _ => hlt
      ascending := h.ascending }
  · contradiction

/-- A subscription that has looked up the latest snapshot has missed nothing. -/
theorem look (h : r.Follows f) : (r.look f).Follows f where
  published_eq := rfl
  current_eq := by rintro s ⟨⟩
  le_current s hs := by
    rcases List.mem_append.1 hs with hs | hs
    · exact h.le_current s (List.mem_append_left _ hs)
    · rcases List.mem_cons.1 hs with rfl | hs
      · exact Version.le_refl _
      · exact h.le_current s (List.mem_append_right _ hs)
  lt_current hne := absurd rfl hne
  ascending := h.ascending

/-- A subscription that has asked for the next snapshot was given the current one, and has missed
nothing, or it is as it was.

**Proof sketch.** If there is something to be told, then something was missed, so by `lt_current`
the current snapshot is newer than all that was seen.  It may therefore be put at the head of what
was delivered, and the count starts anew.  If there is nothing to be told, the subscription stays as
it was, whether the feed is open or not. -/
theorem ask (h : r.Follows f) : (r.ask f).Follows f := by
  rw [Reader.ask, Subscription.next]
  by_cases hready : r.subscription.IsReady f
  · rw [if_pos hready]
    -- What is delivered is newer than all that was seen, so the versions delivered still go up.
    have hlt := h.lt_current (h.isReady_iff.1 hready)
    exact {
      published_eq := rfl
      current_eq := by rintro s ⟨⟩
      le_current := by
        intro t ht
        rcases List.mem_cons.1 ht with rfl | ht
        · exact Version.le_refl _
        · exact Version.le_of_lt (hlt t ht)
      lt_current := fun hne => absurd rfl hne
      ascending := .cons (fun t ht => hlt t (List.mem_append_left _ ht)) h.ascending }
  · rw [if_neg hready]
    cases f.isOpen <;> exact h

/-- The record says nothing about whether the feed is open, so the end of the feed does not matter
to it. -/
theorem close (h : r.Follows f) : r.Follows f.close :=
  ⟨h.published_eq, h.current_eq, h.le_current, h.lt_current, h.ascending⟩

end Follows

end Reader

/-! ### Runs -/

/-- A feed with the subscriptions to it. -/
structure Audience where
  /-- The feed. -/
  feed : Feed
  /-- The subscriptions, in the order in which they began. -/
  readers : List Reader := []

namespace Audience

/-- A call on a feed or on a subscription to it. -/
inductive Call where
  /-- A snapshot is offered. -/
  | publish (s : Snapshot)
  /-- The current snapshot is looked up. -/
  | current
  /-- A subscription begins. -/
  | subscribe
  /-- The subscription at a position is copied. -/
  | clone (i : Nat)
  /-- The subscription at a position looks up the latest snapshot. -/
  | latest (i : Nat)
  /-- The subscription at a position asks for the next snapshot. -/
  | next (i : Nat)
  /-- The feed is dropped, which ends the calls on it. -/
  | drop

/-- A feed to which nobody has subscribed. -/
def start (s : Snapshot) : Audience := { feed := { current := s } }

/-- What a publication does: it reaches every subscription unless it is refused. -/
def publish (w : Audience) (s : Snapshot) : Audience :=
  match w.feed.publish s with
  | .ok feed => { feed, readers := w.readers.map (Reader.miss s) }
  | .error _ => w

/-- What a call does. -/
def step (w : Audience) : Call → Audience
  | .publish s => if w.feed.isOpen then w.publish s else w
  | .current => w
  | .subscribe =>
    if w.feed.isOpen then { w with readers := w.readers ++ [.start w.feed] } else w
  | .clone i => { w with readers := w.readers ++ w.readers[i]?.toList }
  | .latest i => { w with readers := w.readers.modify i (Reader.look w.feed) }
  | .next i => { w with readers := w.readers.modify i (Reader.ask w.feed) }
  | .drop => { w with feed := w.feed.close }

/-- What calls do, one after the other. -/
def run (w : Audience) (cs : List Call) : Audience := cs.foldl step w

/-- Says that a feed agrees with the records of all its subscriptions. -/
def IsFollowed (w : Audience) : Prop := ∀ r ∈ w.readers, r.Follows w.feed

variable {w : Audience}

/-- A publication reaches every subscription if it is accepted, and no subscription if it is
refused.  Either way the feed agrees with the records. -/
theorem IsFollowed.publish (h : w.IsFollowed) (s : Snapshot) : (w.publish s).IsFollowed := by
  rw [Audience.publish]
  split
  · next feed hp =>
    intro r' hr'
    obtain ⟨r, hr, rfl⟩ := List.mem_map.1 hr'
    exact (h r hr).miss hp
  · exact h

/-- What one subscription does leaves the others as they are. -/
theorem IsFollowed.modify (h : w.IsFollowed) (i : Nat) {act : Reader → Reader}
    (hact : ∀ r, r.Follows w.feed → (act r).Follows w.feed) :
    IsFollowed { w with readers := w.readers.modify i act } := by
  intro r hr
  obtain ⟨j, hj⟩ := List.mem_iff_getElem?.1 hr
  rw [List.getElem?_modify] at hj
  obtain ⟨r', hr', rfl⟩ := Option.map_eq_some_iff.1 hj
  have hfollows := h r' (List.mem_of_getElem? hr')
  split
  · exact hact r' hfollows
  · exact hfollows

/-- Whatever is called, the feed agrees with the records.

**Proof sketch.** By the call.  A publication is `IsFollowed.publish`.  What one subscription asks
for is `IsFollowed.modify`, since it leaves the others alone.  A new subscription agrees with the
feed as it begins, and a copy as its original does.  The end of the feed changes no record, and a
look at the current snapshot changes nothing at all. -/
theorem IsFollowed.step (h : w.IsFollowed) (c : Call) : (w.step c).IsFollowed := by
  cases c with
  | publish s =>
    rw [Audience.step]
    split
    · exact h.publish s
    · exact h
  | current => exact h
  | subscribe =>
    rw [Audience.step]
    split
    · intro r hr
      rcases List.mem_append.1 hr with hr | hr
      · exact h r hr
      · rw [List.mem_singleton.1 hr]
        -- The one at the end is the new one.
        exact Reader.follows_start w.feed
    · exact h
  | clone i =>
    intro r hr
    rcases List.mem_append.1 hr with hr | hr
    · -- A copy agrees with the feed as its original does.
      exact h r hr
    · exact h r (List.mem_of_getElem? (Option.mem_toList.1 hr))
  | latest i => exact h.modify i fun _ => Reader.Follows.look
  | next i => exact h.modify i fun _ => Reader.Follows.ask
  | drop => exact fun r hr => (h r hr).close

/-- The feed agrees with the records in every run. -/
theorem IsFollowed.run (h : w.IsFollowed) (cs : List Call) : (w.run cs).IsFollowed := by
  induction cs generalizing w with
  | nil => exact h
  | cons c cs ih => exact ih (h.step c)

/-- A feed agrees with the record of each subscription, whatever was called. -/
theorem isFollowed_run_start (s : Snapshot) (cs : List Call) : ((start s).run cs).IsFollowed :=
  IsFollowed.run (fun _ hr => absurd hr List.not_mem_nil) cs

/-- A publication is accepted exactly if it moves the version forward.  If it is refused, both
versions are told and nothing changes.

**Proof sketch.** By whether the version is greater than the current one, which is what the feed
asks.  Of the two cases each clause is about one, and the other contradicts the answer. -/
theorem publish_spec (w : Audience) (s : Snapshot) :
    ((∃ f, w.feed.publish s = .ok f) ↔ w.feed.current.version < s.version) ∧
      (∀ f, w.feed.publish s = .ok f → f.current = s) ∧
      ∀ e, w.feed.publish s = .error e →
        e = ⟨s.version, w.feed.current.version⟩ ∧ w.step (.publish s) = w := by
  rw [step, publish, Feed.publish]
  by_cases hnewer : w.feed.current.version < s.version
  · rw [if_pos hnewer]
    refine ⟨⟨fun _ => hnewer, fun _ => ⟨_, rfl⟩⟩, fun f hf => ?_, fun e he => by contradiction⟩
    rw [← Except.ok.inj hf]
  · rw [if_neg hnewer]
    refine ⟨⟨fun ⟨f, hf⟩ => by contradiction, fun h => absurd h hnewer⟩,
      fun f hf => by contradiction, fun e he => ⟨(Except.error.inj he).symm, ite_self _⟩⟩

/-- Take a feed and any calls on it and on subscriptions to it, with the feed perhaps dropped at
some point.

A snapshot is accepted exactly if its version is greater than the current one, and then it is the
current one.  A refusal tells the version that was offered and the current one, and changes neither
the feed nor what any subscription is to be told.

To every subscription both `latest` and `next` give the current snapshot if they give one.  What
`next` delivers has a greater version than all that the subscription has seen, so that the versions
delivered go up.  While the feed is there, `next` has an answer exactly if a publication was
accepted since the subscription, or the one that it was copied from, last saw a snapshot.  The
answer is the last one accepted, also if the feed has been dropped in between; once the feed is
dropped, a subscription that has asked is told from then on that there is no more.

**Proof sketch.** The clauses on publication are `publish_spec`.  For the others, the feed agrees
with the record of every subscription after any calls, by `isFollowed_run_start`, and then
`Follows.next_eq` tells what `next` answers: the last one missed if there is one, and otherwise that
there is nothing yet or nothing more.  What it delivers is newer than all that was seen by
`Follows.of_next`.  A subscription that has asked agrees with the feed as well and has missed
nothing, so that it is told the end once the feed is dropped. -/
theorem newest_reaches_all (s₀ : Snapshot) (cs : List Call) {w : Audience}
    (hw : w = (start s₀).run cs) :
    (∀ s,
      ((∃ f, w.feed.publish s = .ok f) ↔ w.feed.current.version < s.version) ∧
      (∀ f, w.feed.publish s = .ok f → f.current = s) ∧
      ∀ e, w.feed.publish s = .error e →
        e = ⟨s.version, w.feed.current.version⟩ ∧ w.step (.publish s) = w) ∧
    ∀ r ∈ w.readers,
      (r.subscription.latest w.feed).1 = w.feed.current ∧
      (∀ s, (r.subscription.next w.feed).1 = .snapshot s →
        s = w.feed.current ∧ ∀ t ∈ r.delivered ++ r.viewed, t.version < s.version) ∧
      r.delivered.Pairwise (fun s t => t.version < s.version) ∧
      (w.feed.isOpen = true → ((r.subscription.next w.feed).1 ≠ .pending ↔ r.missed ≠ [])) ∧
      (∀ s ∈ r.missed.head?, (r.subscription.next w.feed).1 = .snapshot s) ∧
      (w.feed.isOpen = false → ((r.ask w.feed).subscription.next w.feed).1 = .closed) := by
  have hfollowed : w.IsFollowed := hw ▸ isFollowed_run_start s₀ cs
  refine ⟨w.publish_spec, fun r hr => ?_⟩
  have hr := hfollowed r hr
  have hnext := hr.next_eq
  refine ⟨rfl, fun s => hr.of_next, hr.ascending, fun hopen => ?_, fun s hs => ?_,
    fun hclosed => ?_⟩
  · rw [hnext, hopen]
    cases r.missed <;> simp
  · obtain ⟨l, hl⟩ := List.head?_eq_some_iff.1 hs
    rw [hnext, hl]
  · -- Who has asked has missed nothing, and nothing can be published to a feed that is closed.
    rw [hr.ask.next_eq, hr.missed_ask, hclosed]
    rfl

/-- Three snapshots are offered, one of which is stale, and then the feed is dropped.  There are two
subscriptions, one of them a copy of the other that has not asked for anything since. -/
def callsWithCopy : List Call :=
  [.subscribe, .publish (.withActive ⟨2⟩ []), .clone 0, .next 0, .publish (.withActive ⟨2⟩ []),
    .publish (.withActive ⟨5⟩ []), .drop]

/-- What these calls leave behind. -/
def copied : Audience := (start (.withActive ⟨1⟩ [])).run callsWithCopy

/-- The copy has missed two publications.  It is given the last one, although the feed has been
dropped, and is then told that there is no more. -/
theorem newest_reaches_all_copied :
    ∃ r ∈ copied.readers, r.missed = [.withActive ⟨5⟩ [], .withActive ⟨2⟩ []] ∧
      (r.subscription.next copied.feed).1 = .snapshot (.withActive ⟨5⟩ []) ∧
      ((r.ask copied.feed).subscription.next copied.feed).1 = .closed ∧
      ∃ e, copied.feed.publish (.withActive ⟨4⟩ []) = .error e ∧ e = ⟨⟨4⟩, ⟨5⟩⟩ := by
  obtain ⟨hpublish, hreaders⟩ :=
    newest_reaches_all (.withActive ⟨1⟩ []) callsWithCopy (w := copied) rfl
  have hcopy : (⟨⟨0⟩, [], [.withActive ⟨1⟩ []],
      [.withActive ⟨5⟩ [], .withActive ⟨2⟩ []]⟩ : Reader) ∈ copied.readers := .tail _ (.head _)
  obtain ⟨-, -, -, -, hlast, hclosed⟩ := hreaders _ hcopy
  obtain ⟨-, -, hrefused⟩ := hpublish (.withActive ⟨4⟩ [])
  exact ⟨_, hcopy, rfl, hlast _ rfl, hclosed rfl, _, rfl, (hrefused _ rfl).1⟩

end Audience

end ActorLocation
