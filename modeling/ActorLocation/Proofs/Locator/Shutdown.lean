import ActorLocation.Proofs.Catalog.Refinement
import ActorLocation.Proofs.Directory.InTurn
import ActorLocation.Proofs.Locator.Resolving
import Mathlib.Data.List.Nodup
/-!
# Shutting down a node

When its node shuts down, a locator releases whatever its catalog holds, and withdraws the
registrations of those activations that are registered at all.  A deletion that fails is reported
and not tried again.

An activation may have lost the race for its registration to one on another node.  Its registration
is withdrawn all the same, which deletes nothing, since a registration releases its own activation
only.

## Main definitions

* `ActorLocation.Catalog.singles` — the activations that are registered.
* `ActorLocation.Locator.Tidy` — what catalog and cache are like after any calls.

## Main results

* `ActorLocation.Locator.catalog_perform` — what a call does to the catalog.
* `ActorLocation.Locator.Tidy.runWith` — catalog and cache after a run.
* `ActorLocation.Locator.unregisterLocal_exact` — what a shutdown does.
-/

namespace ActorLocation

/-- The registration of an activation releases that activation, whatever token it has got. -/
theorem Hosted.releases_registration_iff {h : Hosted} {r : Registration} :
    h.registration.Releases r ↔ r.SameActivation h.registration := by
  constructor
  · exact fun hrel => hrel.1.symm
  · exact fun hsame => ⟨hsame.symm, fun e he => by contradiction⟩

namespace Catalog

/-- The activations that exclude others of the same actor.  These are registered. -/
def singles (c : Catalog) : List Hosted := c.all.filter fun h => h.hosting = .single

section Represents

variable {c : Catalog} {L : Roster} (hc : c.Represents L)
include hc

/-- No activation is in a catalog twice. -/
theorem Represents.nodup_activations : (c.all.map Hosted.activation).Nodup :=
  (hc.all_perm.map _).nodup_iff.2 L.nodup_activations

/-- No registration is withdrawn twice. -/
theorem Represents.nodup_registrations : (c.singles.map Hosted.registration).Nodup := by
  refine List.Nodup.of_map Registration.activation ?_
  rw [List.map_map]
  exact hc.nodup_activations.sublist (List.filter_sublist.map _)

/-- The registration of a worker is not withdrawn. -/
theorem Represents.registration_not_mem {h : Hosted} (hh : h ∈ c.all)
    (hworker : h.hosting ≠ .single) : h.registration ∉ c.singles.map Hosted.registration := by
  intro hmem
  obtain ⟨g, hg, heq⟩ := List.mem_map.1 hmem
  obtain ⟨hgall, hsingle⟩ := List.mem_filter.1 hg
  have hsame : g = h := List.inj_on_of_nodup_map hc.nodup_activations hgall hh
    (congrArg Registration.activation heq)
  exact hworker (hsame ▸ of_decide_eq_true hsingle)

end Represents

end Catalog

namespace Locator

/-! ### What calls do to the catalog -/

/-- What a call does to the catalog, if anything. -/
def Call.update? : Call → Option Catalog.Update
  | .host h => some (.host h)
  | .release h => some (.release h)
  | .unregisterLocal _ | .drain => some .drain
  | .resolve _ | .place .. | .register _ | .unregister .. | .invalidate _ | .observe _
  | .applyMembership _ => none

/-- Forgetting activations concerns the cache only. -/
theorem catalog_foldl_forgetActivation (rs : List Registration) (l : Locator) :
    (rs.foldl forgetActivation l).catalog = l.catalog := by
  induction rs generalizing l with
  | nil => rfl
  | cons r rs ih => exact ih (l.forgetActivation r)

section Calls

variable {σ : Type} [Backend σ]

/-- A call updates the catalog as it says.

**Proof sketch.** By the call.  Admitting, releasing and draining are updates of the catalog by
definition, and a shutdown drains it before it forgets what was cached.  All other calls change the
current membership, what is cached, what counts as applied or what is pending, whichever branch they
take. -/
theorem catalog_perform (l : Locator) (d : Directory σ) (c : Call) :
    (l.perform d c).2.1.catalog = c.update?.elim l.catalog l.catalog.update := by
  cases c with
  | resolve id =>
    obtain ⟨cache, heq⟩ := (l.resolved d id).1.eq
    exact (congrArg catalog heq).trans rfl
  | register r =>
    change (l.register d r).2.1.catalog = l.catalog
    unfold register
    split
    · rfl
    · split <;> rfl
  | unregister r cause =>
    change (l.unregister d r cause).2.1.catalog = l.catalog
    unfold unregister
    split <;> rfl
  | invalidate r =>
    change (l.invalidate r).2.catalog = l.catalog
    unfold invalidate
    split <;> rfl
  -- The catalog is drained, and then the cache forgets.
  | unregisterLocal cause => exact catalog_foldl_forgetActivation l.localRegistrations _
  | observe s => exact (congrArg catalog (l.observe_snd s)).trans rfl
  | applyMembership s =>
    have hreconciled := l.reconciled d s
    have hevicting : (l.evicting s).catalog = l.catalog := by rw [evicting_eq]
    change (l.applyMembership d s).2.1.catalog = l.catalog
    generalize (l.applyMembership d s).1 = answer at hreconciled
    generalize (l.applyMembership d s).2.1 = l' at hreconciled ⊢
    cases hreconciled with
    | stale _ => rfl
    | applied _ => exact hevicting
    | failed _ _ _ _ => exact hevicting
  | host h =>
    rw [perform, Call.update?, Option.elim_some, Catalog.update]
    cases l.catalog.host h <;> rfl
  | place | release | drain => rfl

end Calls

/-! ### What runs preserve -/

/-- Says that the catalog is a roster, and that each registration is cached for its own actor. -/
structure Tidy (l : Locator) : Prop where
  /-- The catalog holds what some roster holds. -/
  catalog : ∃ L : Roster, l.catalog.Represents L
  /-- Each registration is cached for its own actor. -/
  cache : ∀ id r, l.cached? id = some r → r.actor = id

/-- A locator that starts is tidy: nothing is hosted and nothing is cached. -/
theorem tidy_start (node : Node) (placements : Placements) (s : Snapshot) :
    (start node placements s).Tidy :=
  ⟨⟨{}, Catalog.represents_empty⟩, fun _ _ h => by contradiction⟩

variable {σ : Type} [Backend σ] [LawfulBackend σ]

/-- Calls keep a locator tidy, if the directory holds each registration for its own actor. -/
theorem Tidy.perform {l : Locator} (hl : l.Tidy) {d : Directory σ} (hd : d.contents.WellKeyed)
    (c : Call) : (l.perform d c).2.1.Tidy where
  catalog := by
    obtain ⟨L, hL⟩ := hl.catalog
    rw [catalog_perform]
    cases c.update? with
    | none => exact ⟨L, hL⟩
    | some u => exact ⟨L.update u, hL.update u⟩
  cache id r h := by
    rcases cached?_perform hd h with h | h
    · exact hl.cache id r h
    · exact hd.of_evolves (l.perform_evolves hd c) id r h

/-- Runs keep a locator tidy. -/
theorem Tidy.runWith {l : Locator} (hl : l.Tidy) {cs : List (Directory σ × Call)}
    (hcs : ∀ dc ∈ cs, dc.1.contents.WellKeyed) : (l.runWith cs).2.Tidy := by
  induction cs generalizing l with
  | nil => exact hl
  | cons dc cs ih =>
    have hfirst := hl.perform (hcs dc List.mem_cons_self) dc.2
    exact ih hfirst fun dc' h => hcs dc' (List.mem_cons_of_mem _ h)

/-! ### What a shutdown leaves -/

/-- What is cached and describes none of the activations stays cached. -/
theorem cached?_foldl_forgetActivation {us : List Registration} {l : Locator} {r : Registration}
    {id : ActorId} (hr : l.cached? id = some r) (hus : ∀ u ∈ us, ¬ r.SameActivation u) :
    (us.foldl forgetActivation l).cached? id = some r := by
  induction us generalizing l with
  | nil => exact hr
  | cons u us ih =>
    obtain ⟨hu, hus⟩ := List.forall_mem_cons.1 hus
    refine ih ?_ hus
    rw [forgetActivation, cached?, Table.find?_eraseIf]
    split
    · exact Option.filter_eq_some_iff.2 ⟨hr, by simpa using hu⟩
    · exact hr

omit [LawfulBackend σ] in
/-- A shutdown drops the activations of the node from the cache, and nothing else. -/
theorem Tidy.cached?_unregisterLocal {l : Locator} (hl : l.Tidy) (d : Directory σ)
    (cause : UnregisterCause) {id : ActorId} {r : Registration} :
    (l.unregisterLocal d cause).2.1.cached? id = some r ↔
      l.cached? id = some r ∧ ∀ h ∈ l.catalog.singles, ¬ r.SameActivation h.registration := by
  rw [← List.forall_mem_map (f := Hosted.registration) (P := fun u => ¬ r.SameActivation u)]
  constructor
  · intro h
    obtain ⟨hr, hus⟩ := of_cached?_foldl_forgetActivation h
    refine ⟨hr, fun u hu hsame => hus u hu ?_ hsame⟩
    exact (hl.cache id r hr).symm.trans hsame.1
  · rintro ⟨hr, hus⟩
    have hr' : Locator.cached? { l with catalog := l.catalog.drain.2 } id = some r := hr
    exact cached?_foldl_forgetActivation hr' hus

/-- A shutdown deletes the registrations of the activations that it does not report, and nothing
else.

**Proof sketch.** The batches do what deletions one by one would do, since the backend is lawful,
and no registration is deleted twice.  So `Directory.contents_unregisterInTurn` says what is left:
what no deletion releases, or what is released by one that has failed.  A registration without a
token releases exactly its own activation; that the actors agree follows from both being well
keyed. -/
theorem Tidy.contents_unregisterLocal {l : Locator} (hl : l.Tidy) {d : Directory σ}
    (hd : d.contents.WellKeyed) (cause : UnregisterCause) {id : ActorId} {r : Registration} :
    (l.unregisterLocal d cause).2.2.contents id = some r ↔
      d.contents id = some r ∧ ∀ h ∈ l.catalog.singles, r.SameActivation h.registration →
        h.registration ∈ (l.unregisterLocal d cause).1.failures.map Prod.fst := by
  obtain ⟨L, hL⟩ := hl.catalog
  have hmany := d.unregisterMany_eq LawfulBackend.batchesInTurn l.localRegistrations
  have hcontents := d.contents_unregisterInTurn hL.nodup_registrations id r
  change (d.unregisterMany l.localRegistrations).2.contents id = some r ↔ _ ∧
    ∀ h ∈ l.catalog.singles, _ →
      _ ∈ (d.unregisterMany l.localRegistrations).1.failures.map Prod.fst
  rw [hmany]
  refine hcontents.trans (and_congr_right fun hr => ?_)
  rw [List.forall_mem_map]
  refine forall₂_congr fun h _ => ?_
  rw [Hosted.releases_registration_iff]
  refine ⟨fun himp hsame => himp ?_ hsame, fun himp _ => himp⟩
  exact (hd id r hr).symm.trans hsame.1

/-- A shutdown comes after any calls of the locator, whatever the directory met by each of them was
and whatever failed, and may fail to delete registrations itself.  Directories hold each
registration for its own actor, as they do at first and after any calls.

The shutdown leaves an empty catalog, where all identifiers are free.  It attempts one deletion for
each activation that excludes others, asks the directory for nothing else, in particular not about
workers, and reports the deletions that have failed.  What the directory holds for an activation is
deleted unless it is reported, and everything else stays there; from the cache the activations are
dropped, and nothing else.

**Proof sketch.** The locator is tidy after any run, by `tidy_start` and `Tidy.runWith`; so its
catalog represents some roster.  Draining it leaves the empty catalog.  The transcript and the
report are what `Directory.unregisterMany_recorded` says of the registrations withdrawn, one
deletion for each.  Those of workers are not among them by `Represents.registration_not_mem`, as
activations do not repeat.  What is left in the directory and in the cache is
`Tidy.contents_unregisterLocal` and `Tidy.cached?_unregisterLocal`. -/
theorem unregisterLocal_exact {node : Node} {placements : Placements} {s₀ : Snapshot}
    {cs : List (Directory σ × Call)} {replies : List Reply} {l : Locator}
    (hrun : (start node placements s₀).runWith cs = (replies, l))
    (hmet : ∀ dc ∈ cs, dc.1.contents.WellKeyed) {d : Directory σ} (hd : d.contents.WellKeyed)
    (cause : UnregisterCause) :
    ((l.unregisterLocal d cause).2.1.catalog = {} ∧
        ∀ h, ∃ c, (l.unregisterLocal d cause).2.1.catalog.host h = .ok c) ∧
      (l.unregisterLocal d cause).1.attempted = l.catalog.singles.length ∧
      (∃ answers : List (Except DirectoryError Unit),
        answers.length = l.catalog.singles.length ∧
        (l.unregisterLocal d.recorded cause).1 = (l.unregisterLocal d cause).1 ∧
        (l.unregisterLocal d.recorded cause).2.2.transcript =
          List.zipWith .unregistered (l.catalog.singles.map Hosted.registration) answers ∧
        (l.unregisterLocal d cause).1.failures =
          (l.unregisterLocal d.recorded cause).2.2.transcript.filterMap Exchange.failure? ∧
        ∀ h ∈ l.catalog.all, h.hosting ≠ .single → ∀ answer,
          .unregistered h.registration answer ∉
            (l.unregisterLocal d.recorded cause).2.2.transcript) ∧
      (∀ id r, (l.unregisterLocal d cause).2.2.contents id = some r ↔
        d.contents id = some r ∧ ∀ h ∈ l.catalog.singles, r.SameActivation h.registration →
          h.registration ∈ (l.unregisterLocal d cause).1.failures.map Prod.fst) ∧
      ∀ id r, (l.unregisterLocal d cause).2.1.cached? id = some r ↔
        l.cached? id = some r ∧ ∀ h ∈ l.catalog.singles, ¬ r.SameActivation h.registration := by
  have htidy : l.Tidy := by
    have h := (tidy_start node placements s₀).runWith hmet
    rwa [hrun] at h
  obtain ⟨L, hL⟩ := htidy.catalog
  refine ⟨?_, ?_, ?_, fun _ _ => htidy.contents_unregisterLocal hd cause,
    fun _ _ => htidy.cached?_unregisterLocal d cause⟩
  · have hcatalog : (l.unregisterLocal d cause).2.1.catalog = {} :=
      (l.catalog_perform d (.unregisterLocal cause)).trans hL.drain.2
    rw [hcatalog]
    exact ⟨rfl, fun h => ⟨_, rfl⟩⟩
  · exact List.length_map Hosted.registration
  · obtain ⟨answers, hlength, htranscript, -, houtcome, hfailures⟩ :=
      d.unregisterMany_recorded LawfulBackend.batchesInTurn l.localRegistrations
    have htranscript' : (l.unregisterLocal d.recorded cause).2.2.transcript =
        List.zipWith .unregistered (l.catalog.singles.map Hosted.registration) answers :=
      htranscript
    refine ⟨answers, hlength.trans (List.length_map _), houtcome, htranscript', ?_, ?_⟩
    · rw [htranscript']
      exact hfailures
    · -- Every deletion in the transcript is that of an activation which excludes others.
      intro h hh hworker answer hmem
      rw [htranscript', ← List.map_uncurry_zip_eq_zipWith] at hmem
      obtain ⟨⟨u, _⟩, hu, heq⟩ := List.mem_map.1 hmem
      obtain ⟨rfl, -⟩ := Exchange.unregistered.inj heq
      exact hL.registration_not_mem hh hworker (List.of_mem_zip hu).1

/-- An activation on the first node. -/
def counterHere : Hosted := ⟨⟨⟨1⟩, "counter"⟩, ⟨1⟩, .loopback 1 1, .single⟩

/-- An activation that has lost the race for its registration. -/
def timerHere : Hosted := ⟨⟨⟨1⟩, "timer"⟩, ⟨2⟩, .loopback 1 1, .single⟩

/-- A third activation. -/
def queueHere : Hosted := ⟨⟨⟨1⟩, "queue"⟩, ⟨3⟩, .loopback 1 1, .single⟩

/-- A worker. -/
def workerHere : Hosted := ⟨⟨⟨1⟩, "pool"⟩, ⟨4⟩, .loopback 1 1, .workers 4⟩

/-- The registration of the activation that has won the race. -/
def timerElsewhere : Registration := { timerHere.registration with node := .loopback 2 1 }

/-- An empty directory. -/
def vacant : Directory (Flaky InMemory) := .ofBackend { inner := {} }

/-- All of them are admitted, and the first one is registered. -/
def openedUp : List (Directory (Flaky InMemory) × Call) :=
  [(vacant, .host counterHere), (vacant, .host timerHere), (vacant, .host queueHere),
    (vacant, .host workerHere), (vacant, .register counterHere.registration)]

/-- The locator of the first node when it shuts down. -/
def leaving : Locator := ((start (.loopback 1 1) {} bothActive).runWith openedUp).2

/-- The directory then, which is to fail at the third deletion. -/
def failingThird : Directory (Flaky InMemory) :=
  (((vacant.register counterHere.registration).2.register timerElsewhere).2.register
    queueHere.registration).2.under { changes := [false, false, true] }

/-- The first registration is deleted, the one on the other node stays, and so does the third one,
which is reported.  The worker does not count. -/
theorem unregisterLocal_exact_leaving :
    (∀ dc ∈ openedUp, dc.1.contents.WellKeyed) ∧ failingThird.contents.WellKeyed ∧
      (leaving.unregisterLocal failingThird .shutdown).1.attempted = 3 ∧
      (leaving.unregisterLocal failingThird .shutdown).1.failures =
        [(queueHere.registration, Flaky.outage)] ∧
      (leaving.unregisterLocal failingThird .shutdown).2.2.contents counterHere.actor ≠
        some (counterHere.registration.withEtag ⟨1⟩) ∧
      (leaving.unregisterLocal failingThird .shutdown).2.2.contents timerHere.actor =
        some (timerElsewhere.withEtag ⟨2⟩) ∧
      (leaving.unregisterLocal failingThird .shutdown).2.2.contents queueHere.actor =
        some (queueHere.registration.withEtag ⟨3⟩) ∧
      leaving.cached? counterHere.actor = some (counterHere.registration.withEtag ⟨1⟩) ∧
      (leaving.unregisterLocal failingThird .shutdown).2.1.cached? counterHere.actor ≠
        some (counterHere.registration.withEtag ⟨1⟩) := by
  have hvacant : vacant.contents.WellKeyed := InMemory.wellKeyed_held_new
  have hmet : ∀ dc ∈ openedUp, dc.1.contents.WellKeyed := by
    simp only [openedUp, List.forall_mem_cons, List.not_mem_nil, false_imp_iff, implies_true,
      and_true]
    exact ⟨hvacant, hvacant, hvacant, hvacant, hvacant⟩
  have hd : failingThird.contents.WellKeyed := by
    have hone := (vacant.registered counterHere.registration).evolves fun _ _ => False
    have htwo := ((vacant.register counterHere.registration).2.registered timerElsewhere).evolves
      fun _ _ => False
    have hthree := (((vacant.register counterHere.registration).2.register
      timerElsewhere).2.registered queueHere.registration).evolves fun _ _ => False
    exact hvacant.of_evolves ((hone.trans htwo).trans hthree)
  have hfailures : (leaving.unregisterLocal failingThird .shutdown).1.failures =
      [(queueHere.registration, Flaky.outage)] := rfl
  obtain ⟨-, hattempted, -, hcontents, hcached⟩ :=
    unregisterLocal_exact (l := leaving) rfl hmet hd .shutdown
  rw [hfailures] at hcontents
  refine ⟨hmet, hd, hattempted, hfailures, ?_, ?_, ?_, rfl, ?_⟩
  · intro h
    exact absurd (((hcontents _ _).1 h).2 counterHere (by decide) (by decide)) (by decide)
  · exact (hcontents _ _).2 ⟨rfl, by decide⟩
  · exact (hcontents _ _).2 ⟨rfl, by decide⟩
  · intro h
    exact ((hcached _ _).1 h).2 counterHere (by decide) (by decide)

end Locator

end ActorLocation
