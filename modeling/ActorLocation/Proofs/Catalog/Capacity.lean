import ActorLocation.Proofs.Catalog.Refinement
import ActorLocation.Proofs.Membership.Death
/-!
# The limits on activations

A node hosts at most one activation of an actor, or as many workers as the actor's limit says.  A
catalog compares the limit with the workers that are there, and only if there are any, so the limit
is kept unless it is zero: then one worker gets in, and no second one.

## Main definitions

* `Hosting.capacity` — the number of activations of one actor that a node can come to host.
* `Roster.Fits` — the activations of each actor agree on what is allowed, and are not more than
  that.

## Main results

* `Roster.Fits.add`, `Fits.release`, `Fits.update`, `Fits.foldl_update` — what updates preserve.
* `Catalog.Represents.host_of_full` — a worker that would exceed the limit is refused for that
  reason.
* `Catalog.workers_within_limit` — when the limit on workers is kept.
-/

namespace ActorLocation

/-- The number of activations of one actor that a node can come to host.  Even where no worker is
allowed, one gets in. -/
def Hosting.capacity : Hosting → Nat
  | single => 1
  | workers limit => max 1 limit.toNat

/-- A node can come to host at least one activation of any actor. -/
theorem Hosting.capacity_pos (k : Hosting) : 0 < k.capacity := by
  cases k with
  | single => exact Nat.one_pos
  | workers limit => exact Nat.lt_of_lt_of_le Nat.one_pos (Nat.le_max_left 1 _)

/-! ### Rosters within their limits -/

namespace Roster

/-- Says that the activations of each actor agree on what is allowed, and are not more than that. -/
structure Fits (L : Roster) : Prop where
  /-- The activations of an actor agree. -/
  uniform : ∀ g ∈ L.hosted, ∀ h ∈ L.hosted, g.actor = h.actor → g.hosting = h.hosting
  /-- No actor has more activations than it can have. -/
  length_le : ∀ g ∈ L.hosted, (L.of g.actor).length ≤ g.hosting.capacity

variable {L : Roster} {g h : Hosted}

/-- Nothing exceeds a limit where there is nothing. -/
theorem fits_empty : Fits {} where
  uniform g hg := by simp at hg
  length_le g hg := by simp at hg

/-- An activation that is not refused agrees with the others of its actor. -/
theorem hosting_eq_of_not_refuses (hr : ¬ L.Refuses h) (hg : g ∈ L.hosted)
    (hactor : g.actor = h.actor) : g.hosting = h.hosting := by
  refine Decidable.byContradiction fun hne => ?_
  apply hr
  exact .inl ⟨g, hg, hactor, .inr (.inr hne)⟩

/-- There is room for an activation that is not refused.

**Proof sketch.** The first activation always has room.  If there are others, a single activation is
refused because of any of them, and a worker because of the limit unless there are fewer workers
than that. -/
theorem length_lt_capacity (hr : ¬ L.Refuses h) :
    (L.of h.actor).length < h.hosting.capacity := by
  -- Only the first activation gets in without a comparison with the limit.
  by_cases hof : L.of h.actor = []
  · have hpos := h.hosting.capacity_pos
    simpa [hof] using hpos
  · cases hh : h.hosting with
    | single =>
      obtain ⟨g, hg⟩ := List.exists_mem_of_ne_nil _ hof
      obtain ⟨hmem, hactor⟩ := mem_of_iff.1 hg
      exact absurd (.inl ⟨g, hmem, hactor, .inl hh⟩) hr
    | workers limit =>
      have hlt : (L.of h.actor).length < limit.toNat := by
        refine Nat.lt_of_not_le fun hle => ?_
        apply hr
        exact .inr (.inl ⟨limit, by simp [hh, Hosting.limit?], hof, hle⟩)
      simp only [Hosting.capacity]
      omega

/-- A roster fits as before when an activation is added that is not refused.

**Proof sketch.** Agreement: the new activation agrees with the old ones of its actor, by
`hosting_eq_of_not_refuses`.  Number: only the actor of the new activation has one more, and
`length_lt_capacity` left room for it. -/
theorem Fits.add (hL : L.Fits) (hr : ¬ L.Refuses h) :
    (L.add h (find?_of_not_refuses hr)).Fits := by
  have hmem {g : Hosted} (hg : g ∈ (L.add h (find?_of_not_refuses hr)).hosted) :
      g ∈ L.hosted ∨ g = h := by simpa [Roster.add] using hg
  have hroom := length_lt_capacity hr
  constructor
  · intro g hg g' hg' hactor
    rcases hmem hg with hold | rfl
    · rcases hmem hg' with hold' | rfl
      · exact hL.uniform g hold g' hold' hactor
      · exact hosting_eq_of_not_refuses hr hold hactor
    · rcases hmem hg' with hold' | rfl
      · exact (hosting_eq_of_not_refuses hr hold' hactor.symm).symm
      · rfl
  · intro g hg
    rw [of_add]
    split
    · next hactor =>
      -- The new activation takes the room that was left, and its actor has one rule.
      have hsame : g.hosting = h.hosting := by
        rcases hmem hg with hold | rfl
        · exact hosting_eq_of_not_refuses hr hold hactor
        · rfl
      rw [hactor, hsame, List.length_append, List.length_singleton]
      omega
    · next hactor =>
      rcases hmem hg with hg | rfl
      · exact hL.length_le g hg
      · exact absurd rfl hactor

/-- A roster fits as before when activations are released. -/
theorem Fits.release (hL : L.Fits) (h : Hosted) : (L.release h).Fits := by
  have hmem {g : Hosted} (hg : g ∈ (L.release h).hosted) : g ∈ L.hosted :=
    (List.mem_filter.1 hg).1
  constructor
  · intro g hg g' hg'
    exact hL.uniform g (hmem hg) g' (hmem hg')
  · intro g hg
    have hle := hL.length_le g (hmem hg)
    rw [of_release]
    split
    · exact Nat.le_trans (List.length_filter_le _ _) hle
    · exact hle

/-- A roster fits after an update as before. -/
theorem Fits.update (hL : L.Fits) (u : Catalog.Update) : (L.update u).Fits := by
  cases u with
  | host h =>
    rw [Roster.update]
    split
    · exact hL
    · next hr => exact hL.add hr
  | release h => exact hL.release h
  | drain => exact fits_empty

/-- A roster fits after updates as before.

**Proof sketch.** Induction on the updates; the step is `Fits.update`. -/
theorem Fits.foldl_update (hL : L.Fits) (us : List Catalog.Update) :
    (us.foldl Roster.update L).Fits := by
  induction us generalizing L with
  | nil => exact hL
  | cons u us ih => exact ih (hL.update u)

/-- The workers of an actor are not more than the limit, or else the limit is zero and there is one.

**Proof sketch.** Any one of the workers bounds their number by its capacity, which is the greater
of one and the limit.  The two differ only if the limit is zero, and that is arithmetic. -/
theorem Fits.length_le_iff (hL : L.Fits) {id : ActorId} {limit : UInt64}
    (hworkers : ∀ g ∈ L.of id, g.hosting = .workers limit) :
    ((L.of id).length ≤ limit.toNat ↔ (limit = 0 → (L.of id).length = 0)) ∧
      (L.of id).length ≤ max 1 limit.toNat := by
  have hzero : limit = 0 ↔ limit.toNat = 0 := by simp [← UInt64.toNat_inj]
  have hle : (L.of id).length ≤ max 1 limit.toNat := by
    cases hof : L.of id with
    | nil => simp
    | cons g l =>
      have hg : g ∈ L.of id := by simp [hof]
      obtain ⟨hmem, hactor⟩ := mem_of_iff.1 hg
      have hcapacity := hL.length_le g hmem
      rwa [hactor, hworkers g hg, hof] at hcapacity
  rw [hzero]
  omega

end Roster

/-! ### Admissions at the limit -/

namespace Catalog

variable {c : Catalog} {L : Roster} {h : Hosted} {limit : UInt64}

/-- A worker that is not excluded is refused because of the limit if its actor has workers, and not
fewer than the limit. -/
theorem Represents.host_of_full (hc : c.Represents L) (hh : h.hosting = .workers limit)
    (hexcludes : ∀ g ∈ L.of h.actor, ¬ Excludes g h) (hne : L.of h.actor ≠ [])
    (hle : limit.toNat ≤ (L.of h.actor).length) :
    c.host h = .error (.workerLimitReached h.actor limit) := by
  have hnone : ((L.of h.actor).find? fun g => Excludes g h) = none := by
    simpa using hexcludes
  rw [Catalog.host, hc.byActor, if_neg hne]
  simp only [hnone, hh, Hosting.limit?]
  rw [if_pos hle]

/-- The first activation of an actor is admitted if its identifier is free, and is refused for no
other reason. -/
theorem Represents.host_of_first (hc : c.Represents L) (hof : L.of h.actor = []) :
    ((∃ c', c.host h = .ok c') ↔ L.find? h.activation = none) ∧
      ∀ limit, c.host h ≠ .error (.workerLimitReached h.actor limit) := by
  rw [Catalog.host, hc.byActor, if_pos hof]
  simp only [Catalog.append, hc.owners]
  cases L.find? h.activation <;> simp

/-- The limit on the workers of an actor is kept if it is not zero.  Take any updates of an empty
catalog, and an actor all of whose activations are workers with this limit.  They are not more than
the limit, except that there may be one if the limit is zero.  Another worker of the actor that
would exceed the limit is refused for that reason if the actor has workers already.  If it has none,
so that the limit is zero, the worker is admitted all the same, unless its identifier is taken.

**Proof sketch.** The catalog represents a roster, by `Represents.foldl_update`, and that roster
fits, by `Fits.foldl_update`.  The bounds are `Fits.length_le_iff`.  The answer to another worker
depends on whether the actor has a list: `Represents.host_of_first` if it has none, where the limit
is not asked for, and `Represents.host_of_full` if it has one. -/
theorem workers_within_limit (us : List Update) (id : ActorId) (limit : UInt64)
    (hworkers : ∀ g ∈ (after us).hostedBy id, g.hosting = .workers limit) :
    ((after us).countOf id ≤ limit.toNat ↔ (limit = 0 → (after us).countOf id = 0)) ∧
      (after us).countOf id ≤ max 1 limit.toNat ∧
      ∀ h : Hosted, h.actor = id → h.hosting = .workers limit →
        (∀ g ∈ (after us).hostedBy id, g.activation ≠ h.activation) →
        limit.toNat < (after us).countOf id + 1 →
          ((after us).host h = .error (.workerLimitReached id limit) ↔
            (after us).countOf id ≠ 0) ∧
          ((∃ c, (after us).host h = .ok c) ↔
            (after us).countOf id = 0 ∧ (after us).find? h.activation = none) := by
  have hc : (after us).Represents (Roster.after us) := represents_empty.foldl_update us
  have hfits : (Roster.after us).Fits := Roster.fits_empty.foldl_update us
  rw [hc.hostedBy] at hworkers
  simp only [hc.hostedBy, hc.countOf, hc.find?]
  obtain ⟨hiff, hmax⟩ := hfits.length_le_iff hworkers
  refine ⟨hiff, hmax, ?_⟩
  rintro h rfl hh hactivation hlimit
  -- Over the limit, or at it, the only worker that gets in is the first one.
  by_cases hof : (Roster.after us).of h.actor = []
  · obtain ⟨hok, hother⟩ := hc.host_of_first hof
    simp [hof, hok, hother limit]
  · have hexcludes : ∀ g ∈ (Roster.after us).of h.actor, ¬ Excludes g h := by
      intro g hg
      simp [Excludes, hh, hactivation g hg, hworkers g hg]
    have hfull := hc.host_of_full hh hexcludes hof (by omega)
    simp [hfull, hof]

/-- A worker of an actor of which no worker is allowed. -/
def unwanted : Hosted := ⟨⟨⟨1⟩, "pool"⟩, ⟨1⟩, .loopback 1 1, .workers 0⟩

/-- One worker gets in where none is allowed. -/
theorem workers_within_limit_zero :
    (after [.host unwanted]).countOf unwanted.actor = 1 ∧
      ¬ (after [.host unwanted]).countOf unwanted.actor ≤ (0 : UInt64).toNat := by
  have hone : (after [.host unwanted]).countOf unwanted.actor = 1 := by decide
  obtain ⟨hiff, -⟩ := workers_within_limit [.host unwanted] unwanted.actor 0 (by decide)
  refine ⟨hone, ?_⟩
  rw [hiff, hone]
  simp

end Catalog

end ActorLocation
