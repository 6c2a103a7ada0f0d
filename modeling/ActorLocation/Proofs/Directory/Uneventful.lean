import ActorLocation.Proofs.Directory.Unreliable
import ActorLocation.Proofs.Store.Journal
/-!
# While nothing goes wrong

What goes wrong with a backend, and who writes to its store behind it, is planned in advance, and
each plan is used up from the front.  If what an operation has used up of the plans is empty, then
it has done what it does over the store alone, where the backend is a lawful one.

## Main definitions

* `ActorLocation.Uneventful` — nothing was planned for the time between two moments.
* `ActorLocation.AnyBackend.settle`, `Directory.settle` — a directory over the store alone.
* `ActorLocation.Unreliable.Later`, `Unreliable.Spared` — a later state, and one that nothing has
  gone wrong on the way to.

## Main results

* `ActorLocation.Uneventful.split` — if nothing was planned for a time, then not for its parts.
* `ActorLocation.Unreliable.preserves_later` — operations lead to later states.
* `ActorLocation.Directory.register_settle`, `Directory.unregister_settle` — an operation that is
  spared does what it does over the store alone.
-/

namespace ActorLocation

/-! ### Plans -/

section Plans

variable {α : Type} {p p' p'' : List (Option α)}

/-- Says that nothing was planned between the moment when the plan was `p` and the moment when only
`p'` was left of it. -/
def Uneventful (p p' : List (Option α)) : Prop := ∃ used, p = used ++ p' ∧ ∀ x ∈ used, x = none

/-- If nothing was planned for a time, then nothing was planned for its parts.

**Proof sketch.** The plan left in between is a suffix of the first one and has the last one as a
suffix, so what is used up splits at that point. -/
theorem Uneventful.split (h : Uneventful p p'') (h₁ : p' <:+ p) (h₂ : p'' <:+ p') :
    Uneventful p p' ∧ Uneventful p' p'' := by
  obtain ⟨used, hused, hnone⟩ := h
  obtain ⟨u₁, rfl⟩ := h₁
  obtain ⟨u₂, rfl⟩ := h₂
  rw [← List.append_assoc] at hused
  obtain rfl := List.append_cancel_right hused
  refine ⟨⟨u₁, rfl, ?_⟩, ⟨u₂, rfl, ?_⟩⟩
  · intro x hx
    exact hnone x (List.mem_append_left _ hx)
  · intro x hx
    exact hnone x (List.mem_append_right _ hx)

/-- If an entry is used up and nothing was planned, then the entry is empty.

**Proof sketch.** Something has been used up, as the plan got shorter, and the first entry was the
first to go. -/
theorem Uneventful.head?_ne (h : Uneventful p p') (hp : p' <:+ p.tail) (a : α) :
    p.head? ≠ some (some a) := by
  intro ha
  obtain ⟨used, rfl, hnone⟩ := h
  cases used with
  | nil =>
    -- Nothing is used up, so the plan is its own tail.
    have hlength := hp.length_le
    cases p' with
    | nil => contradiction
    | cons x p' => simp at hlength
  | cons x used =>
    have hx : x = none := hnone x List.mem_cons_self
    simp [hx] at ha

end Plans

/-! ### Stores -/

namespace ContestedStore

variable {s : ContestedStore}

/-- A rival that has had its turn is not waited for any more, whether or not it has written. -/
@[simp] theorem rivals_yield (s : ContestedStore) (key : String) :
    (s.yield key).rivals = s.rivals.tail := by
  rcases s with ⟨m, _ | ⟨_ | value, rivals⟩⟩ <;> rfl

/-- A replacement gives one rival its turn. -/
theorem rivals_compareAndSwap (s : ContestedStore) (key : String) (expected : UInt64)
    (value : Octets) :
    (VersionedStore.compareAndSwap s key expected value).2.rivals = s.rivals.tail :=
  s.rivals_yield key

/-- A deletion gives one rival its turn. -/
theorem rivals_compareAndDelete (s : ContestedStore) (key : String) (expected : UInt64) :
    (VersionedStore.compareAndDelete s key expected).2.rivals = s.rivals.tail :=
  s.rivals_yield key

/-- If no rival comes first, a replacement does what it does over the store alone. -/
theorem IsCalm.compareAndSwap_eq (hs : s.IsCalm) (key : String) (expected : UInt64)
    (value : Octets) :
    VersionedStore.compareAndSwap s key expected value =
      (VersionedStore.compareAndSwap s.store key expected value).map id
        fun m => ⟨m, s.rivals.tail⟩ := by
  rw [← hs.store_yield key, ← s.rivals_yield key]
  rfl

/-- If no rival comes first, a deletion does what it does over the store alone. -/
theorem IsCalm.compareAndDelete_eq (hs : s.IsCalm) (key : String) (expected : UInt64) :
    VersionedStore.compareAndDelete s key expected =
      (VersionedStore.compareAndDelete s.store key expected).map id
        fun m => ⟨m, s.rivals.tail⟩ := by
  rw [← hs.store_yield key, ← s.rivals_yield key]
  rfl

end ContestedStore

/-! ### Directories over stores -/

namespace OverStore

/-- A directory without the rivals of its store. -/
def settle (d : OverStore ContestedStore) : OverStore MemoryStore := ⟨d.store.store⟩

/-- Registering uses up rivals from the front.  If none of them comes, it does what it does over the
store alone.

**Proof sketch.** The number of tries counts down.  An insertion gives no rival a turn and is the
same in both stores.  A replacement gives one rival a turn.  If that rival does not come, the
replacement is the same in both (`IsCalm.compareAndSwap_eq`), and the tries that follow use up a
part of what is used up in all, so the induction hypothesis applies to them.  If it comes, the plan
was not empty where it was used up, and there is nothing to show but that rivals are used up from
the front. -/
theorem registerWithin_settle (r : Registration) (n : Nat) (d : OverStore ContestedStore) :
    (registerWithin r n d).2.store.rivals <:+ d.store.rivals ∧
      (Uneventful d.store.rivals (registerWithin r n d).2.store.rivals →
        registerWithin r n d.settle = (registerWithin r n d).map id settle) := by
  induction n generalizing d with
  | zero => exact ⟨List.suffix_refl _, fun _ => rfl⟩
  | succ n ih =>
    obtain ⟨s⟩ := d
    have hput : VersionedStore.putIfAbsent s (storageKey r.actor) r.toStored =
        (VersionedStore.putIfAbsent s.store (storageKey r.actor) r.toStored).map id
          fun m => ⟨m, s.rivals⟩ := rfl
    simp only [registerWithin, settle, hput]
    rcases VersionedStore.putIfAbsent s.store (storageKey r.actor) r.toStored with
      ⟨_ | _ | v, m⟩
    · exact ⟨List.suffix_refl _, fun _ => rfl⟩
    · exact ⟨List.suffix_refl _, fun _ => rfl⟩
    · dsimp only [Prod.map, id]
      rcases decode r.actor v with (_ | _ | _) | stored
      · exact ⟨List.suffix_refl _, fun _ => rfl⟩
      · by_cases hcalm : (ContestedStore.mk m s.rivals).IsCalm
        · rw [hcalm.compareAndSwap_eq]
          rcases VersionedStore.compareAndSwap m (storageKey r.actor) v.version r.toStored with
            ⟨_ | _ | version, m'⟩
          · exact ⟨List.tail_suffix _, fun _ => rfl⟩
          · -- Another try follows, of which the plan is a part of the whole plan.
            obtain ⟨hsuffix, heq⟩ := ih ⟨⟨m', s.rivals.tail⟩⟩
            refine ⟨hsuffix.trans (List.tail_suffix _), fun h => ?_⟩
            exact heq (h.split (List.tail_suffix _) hsuffix).2
          · exact ⟨List.tail_suffix _, fun _ => rfl⟩
        · -- The rival that comes first is used up, so the plan was not empty.
          have hrival {p : List (Option Octets)} (hp : p <:+ s.rivals.tail) :
              ¬ Uneventful s.rivals p := fun h => hcalm (h.head?_ne hp)
          have hrivals := (ContestedStore.mk m s.rivals).rivals_compareAndSwap
            (storageKey r.actor) v.version r.toStored
          rcases hswap : VersionedStore.compareAndSwap (ContestedStore.mk m s.rivals)
            (storageKey r.actor) v.version r.toStored with ⟨answer, s'⟩
          rw [hswap] at hrivals
          have hsuffix : s'.rivals <:+ s.rivals.tail := ⟨[], hrivals⟩
          rcases answer with _ | _ | version
          · exact ⟨hsuffix.trans (List.tail_suffix _), fun h => absurd h (hrival hsuffix)⟩
          · have hsuffix := (ih ⟨s'⟩).1.trans hsuffix
            exact ⟨hsuffix.trans (List.tail_suffix _), fun h => absurd h (hrival hsuffix)⟩
          · exact ⟨hsuffix.trans (List.tail_suffix _), fun h => absurd h (hrival hsuffix)⟩
      · exact ⟨List.suffix_refl _, fun _ => rfl⟩
      · exact ⟨List.suffix_refl _, fun _ => rfl⟩

/-- Deleting uses up rivals from the front.  If none of them comes, it does what it does over the
store alone.

**Proof sketch.** Reading is the same in both stores.  If a deletion follows, it gives one rival a
turn: without it the deletion is the same in both (`IsCalm.compareAndDelete_eq`), and with it the
plan was not empty. -/
theorem unregister_settle (r : Registration) (d : OverStore ContestedStore) :
    (unregister d r).2.store.rivals <:+ d.store.rivals ∧
      (Uneventful d.store.rivals (unregister d r).2.store.rivals →
        unregister d.settle r = (unregister d r).map id settle) := by
  obtain ⟨s⟩ := d
  have hget : VersionedStore.get s (storageKey r.actor) =
      (VersionedStore.get s.store (storageKey r.actor)).map id fun m => ⟨m, s.rivals⟩ := rfl
  simp only [unregister, settle, hget]
  rcases VersionedStore.get s.store (storageKey r.actor) with ⟨_ | _ | v, m⟩
  · exact ⟨List.suffix_refl _, fun _ => rfl⟩
  · exact ⟨List.suffix_refl _, fun _ => rfl⟩
  · dsimp only [Prod.map, id]
    rcases decode r.actor v with _ | stored
    · exact ⟨List.suffix_refl _, fun _ => rfl⟩
    · dsimp only
      split
      · have hrivals := (ContestedStore.mk m s.rivals).rivals_compareAndDelete
          (storageKey r.actor) v.version
        by_cases hcalm : (ContestedStore.mk m s.rivals).IsCalm
        · rw [hcalm.compareAndDelete_eq]
          rcases VersionedStore.compareAndDelete m (storageKey r.actor) v.version with
            ⟨_ | _, m'⟩
          · exact ⟨List.tail_suffix _, fun _ => rfl⟩
          · exact ⟨List.tail_suffix _, fun _ => rfl⟩
        · -- A rival has come, which uses up something of the plan.
          rcases hdelete : VersionedStore.compareAndDelete (ContestedStore.mk m s.rivals)
            (storageKey r.actor) v.version with ⟨answer, s'⟩
          rw [hdelete] at hrivals
          have hsuffix : s'.rivals <:+ s.rivals.tail := ⟨[], hrivals⟩
          rcases answer with _ | _
          · exact ⟨hsuffix.trans (List.tail_suffix _), fun h => absurd (h.head?_ne hsuffix) hcalm⟩
          · exact ⟨hsuffix.trans (List.tail_suffix _), fun h => absurd (h.head?_ne hsuffix) hcalm⟩
      · exact ⟨List.suffix_refl _, fun _ => rfl⟩

end OverStore

/-! ### Directories of either kind -/

namespace AnyBackend

/-- The rivals that are to come. -/
def rivals : AnyBackend ContestedStore → List (Option Octets)
  | inMemory _ => []
  | overStore d => d.store.rivals

/-- A directory without the rivals of its store. -/
def settle : AnyBackend ContestedStore → AnyBackend MemoryStore
  | inMemory d => inMemory d
  | overStore d => overStore d.settle

/-- What a directory holds without its rivals is held for its own actors, in memory by assumption
and over a store always. -/
theorem Keyed.wellKeyed {b : AnyBackend ContestedStore} (hb : b.Keyed) :
    b.settle.held.WellKeyed := by
  cases b with
  | inMemory d => exact hb
  | overStore d => exact OverStore.wellKeyed_held _

/-- Registering with either kind of directory uses up rivals from the front, and does what it does
without them if none of them comes. -/
theorem register_settle (b : AnyBackend ContestedStore) (r : Registration) :
    (Backend.register b r).2.rivals <:+ b.rivals ∧
      (Uneventful b.rivals (Backend.register b r).2.rivals →
        Backend.register b.settle r = (Backend.register b r).map id settle) := by
  cases b with
  | inMemory d => exact ⟨List.suffix_refl _, fun _ => rfl⟩
  | overStore d =>
    obtain ⟨hsuffix, heq⟩ := d.registerWithin_settle r OverStore.maxAttempts
    exact ⟨hsuffix, fun h => congrArg (Prod.map id overStore) (heq h)⟩

/-- Deleting with either kind of directory uses up rivals from the front, and does what it does
without them if none of them comes. -/
theorem unregister_settle (b : AnyBackend ContestedStore) (r : Registration) :
    (Backend.unregister b r).2.rivals <:+ b.rivals ∧
      (Uneventful b.rivals (Backend.unregister b r).2.rivals →
        Backend.unregister b.settle r = (Backend.unregister b r).map id settle) := by
  cases b with
  | inMemory d => exact ⟨List.suffix_refl _, fun _ => rfl⟩
  | overStore d =>
    obtain ⟨hsuffix, heq⟩ := d.unregister_settle r
    exact ⟨hsuffix, fun h => congrArg (Prod.map id overStore) (heq h)⟩

/-- All operations use up rivals from the front.

**Proof sketch.** One case for each operation.  Look-ups and deletions by nodes give no rival a
turn; registrations and deletions are `register_settle` and `unregister_settle`, and batches are
deletions one after the other. -/
theorem preserves_rivals (p : List (Option Octets)) :
    Backend.Preserves fun b : AnyBackend ContestedStore => b.rivals <:+ p := by
  have hunregister (b : AnyBackend ContestedStore) (r : Registration) (hb : b.rivals <:+ p) :
      (Backend.unregister b r).2.rivals <:+ p := (b.unregister_settle r).1.trans hb
  constructor
  · intro b id hb
    cases b with
    | inMemory d => exact hb
    | overStore d =>
      have hget : (VersionedStore.get d.store (OverStore.storageKey id)).2.rivals <:+ p := hb
      change (d.lookup id).2.store.rivals <:+ p
      unfold OverStore.lookup
      split
      all_goals
        next heq =>
        rw [heq] at hget
        exact hget
  · intro b r hb
    exact (b.register_settle r).1.trans hb
  · exact hunregister
  · intro b l hb
    exact preserves_unregisterEach hunregister l hb
  · intro b nodes hb
    cases b <;> exact hb

end AnyBackend

/-! ### Unreliable directories -/

namespace Unreliable

section Attempt

variable {σ α : Type} {b : Unreliable σ} {op : σ → Except DirectoryError α × σ}
  {confirmation : Option α}

/-- An operation uses up one entry of what may go wrong. -/
theorem mishaps_attempt : (b.attempt op confirmation).2.mishaps = b.mishaps.tail := by
  unfold attempt
  split <;> rfl

/-- An operation is carried out if nothing goes wrong with it.

**Proof sketch.** The entry that was used up is empty (`Uneventful.head?_ne`), so the operation is
carried out and answered. -/
theorem attempt_of_uneventful (h : Uneventful b.mishaps (b.attempt op confirmation).2.mishaps) :
    b.attempt op confirmation = ((op b.inner).1, ⟨(op b.inner).2, b.mishaps.tail⟩) := by
  rw [mishaps_attempt] at h
  have hhead := h.head?_ne (List.suffix_refl _)
  have hnone : b.mishaps.head?.join = none := by
    rcases hcase : b.mishaps.head? with _ | _ | m
    · rfl
    · rfl
    · exact absurd hcase (hhead m)
  unfold attempt
  rw [hnone]

end Attempt

variable {b b' b'' : Unreliable (AnyBackend ContestedStore)}

/-- Says that `b'` may come after `b`: the plans have been used up from the front. -/
structure Later (b b' : Unreliable (AnyBackend ContestedStore)) : Prop where
  /-- Mishaps have been used up. -/
  mishaps : b'.mishaps <:+ b.mishaps
  /-- Rivals have been used up. -/
  rivals : b'.inner.rivals <:+ b.inner.rivals

/-- A state comes after itself. -/
theorem Later.refl (b : Unreliable (AnyBackend ContestedStore)) : b.Later b :=
  ⟨List.suffix_refl _, List.suffix_refl _⟩

/-- Says that nothing has gone wrong between `b` and `b'`, and that no rival has written. -/
structure Spared (b b' : Unreliable (AnyBackend ContestedStore)) : Prop where
  /-- No mishap was planned. -/
  mishaps : Uneventful b.mishaps b'.mishaps
  /-- No rival was to come. -/
  rivals : Uneventful b.inner.rivals b'.inner.rivals

/-- If nothing has gone wrong for a time, then not in its parts. -/
theorem Spared.split (h : b.Spared b'') (h₁ : b.Later b') (h₂ : b'.Later b'') :
    b.Spared b' ∧ b'.Spared b'' := by
  obtain ⟨hmishaps₁, hmishaps₂⟩ := h.mishaps.split h₁.mishaps h₂.mishaps
  obtain ⟨hrivals₁, hrivals₂⟩ := h.rivals.split h₁.rivals h₂.rivals
  exact ⟨⟨hmishaps₁, hrivals₁⟩, ⟨hmishaps₂, hrivals₂⟩⟩

/-- Operations lead to later states.

**Proof sketch.** Each operation uses up one entry of what may go wrong (`mishaps_attempt`), and
rivals from the front, whether or not it is carried out (`AnyBackend.preserves_rivals`). -/
theorem preserves_later (b₀ : Unreliable (AnyBackend ContestedStore)) :
    Backend.Preserves b₀.Later := by
  have hrivals := preserves (AnyBackend.preserves_rivals b₀.inner.rivals)
  have hmishaps {α : Type} (b : Unreliable (AnyBackend ContestedStore)) (hb : b₀.Later b)
      (op : AnyBackend ContestedStore → Except DirectoryError α × AnyBackend ContestedStore)
      (confirmation : Option α) : (b.attempt op confirmation).2.mishaps <:+ b₀.mishaps := by
    rw [mishaps_attempt]
    exact (List.tail_suffix _).trans hb.mishaps
  have hunregister (b : Unreliable (AnyBackend ContestedStore)) (r : Registration)
      (hb : b₀.Later b) : b₀.Later (Backend.unregister b r).2 :=
    ⟨hmishaps b hb _ _, hrivals.unregister b r hb.rivals⟩
  constructor
  · intro b id hb
    exact ⟨hmishaps b hb _ _, hrivals.lookup b id hb.rivals⟩
  · intro b r hb
    exact ⟨hmishaps b hb _ _, hrivals.register b r hb.rivals⟩
  · exact hunregister
  · intro b l hb
    exact preserves_unregisterEach hunregister l hb
  · intro b nodes hb
    exact ⟨hmishaps b hb _ _, hrivals.unregisterNodes b nodes hb.rivals⟩

/-- A registration that is spared does what it does over the store alone.

**Proof sketch.** Of the two plans, the one for mishaps settles that the operation is carried out,
and the one for rivals that it is the same over the store alone. -/
theorem register_settle {r : Registration} (h : b.Spared (Backend.register b r).2) :
    Backend.register b.inner.settle r = (Backend.register b r).map id fun b => b.inner.settle := by
  have hattempt : Backend.register b r = _ := attempt_of_uneventful h.mishaps
  have hrivals := h.rivals
  rw [hattempt] at hrivals ⊢
  exact (b.inner.register_settle r).2 hrivals

/-- A deletion that is spared does what it does over the store alone. -/
theorem unregister_settle {r : Registration} (h : b.Spared (Backend.unregister b r).2) :
    Backend.unregister b.inner.settle r =
      (Backend.unregister b r).map id fun b => b.inner.settle := by
  have hattempt : Backend.unregister b r = _ := attempt_of_uneventful h.mishaps
  have hrivals := h.rivals
  rw [hattempt] at hrivals ⊢
  exact (b.inner.unregister_settle r).2 hrivals

end Unreliable

namespace Directory

variable {d : Directory (Unreliable (AnyBackend ContestedStore))} {r : Registration}

/-- A directory over the store alone. -/
def settle (d : Directory (Unreliable (AnyBackend ContestedStore))) :
    Directory (AnyBackend MemoryStore) := ⟨d.backend.inner.settle, d.maxBatch, d.maxBatch_pos⟩

/-- A directory registers over the store alone as it did if it was spared. -/
theorem register_settle (h : d.backend.Spared (d.register r).2.backend) :
    d.settle.register r = (d.register r).map id settle := by
  have heq := Unreliable.register_settle (b := d.backend) (r := r) h
  simp only [register, settle, heq]
  rfl

/-- A directory deletes over the store alone as it did if it was spared; a corrupted entry counts as
absent in both. -/
theorem unregister_settle (h : d.backend.Spared (d.unregister r).2.backend) :
    d.settle.unregister r = (d.unregister r).map id settle := by
  rw [unregister_snd] at h
  have heq := Unreliable.unregister_settle (b := d.backend) (r := r) h
  simp only [unregister, settle, heq]
  rcases Backend.unregister d.backend r with ⟨(_ | _ | _) | _, b⟩ <;> rfl

end Directory

end ActorLocation
