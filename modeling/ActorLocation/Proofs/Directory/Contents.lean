import ActorLocation.Directory.Service
/-!
# What directories hold

Whatever its representation, the state of a backend holds at most one registration for each actor.
This module says what each operation does to these contents, failures included, for backends that
keep the promises of `ActorLocation.Backend`, and what follows for directories over them.

## Main definitions

* `ActorLocation.Contents` — the registration of each actor that has one.
* `ActorLocation.Looked`, `Registered`, `Unregistered`, `Dropped` — the possible answers of an
  operation, with the contents that it leaves behind.
* `ActorLocation.LawfulBackend` — backends whose operations answer and act in these ways.
* `Contents.Evolves` — which registrations can be lost from one state to another.

## Main results

* `ActorLocation.Directory.unregistered` — a directory takes a corrupted entry for an absent one.
* `ActorLocation.Directory.evolves_unregisterMany` — many deletions lose only what they release.
-/

namespace ActorLocation

/-- It does not matter which of two registrations is compared with the other. -/
theorem Registration.SameActivation.symm {r s : Registration} (h : r.SameActivation s) :
    s.SameActivation r := ⟨h.1.symm, h.2.1.symm, h.2.2.symm⟩

/-- What a directory holds: the registration of each actor, if it has one. -/
abbrev Contents := ActorId → Option Registration

namespace Contents

/-- Says that each registration is held for its own actor. -/
def WellKeyed (c : Contents) : Prop := ∀ id r, c id = some r → r.actor = id

/-- The contents after `r` has been stored for `id`. -/
def store (c : Contents) (id : ActorId) (r : Registration) : Contents :=
  fun id' => if id' = id then some r else c id'

/-- The contents after the holder of `r` has deleted what it is entitled to. -/
def release (c : Contents) (r : Registration) : Contents :=
  fun id => if id = r.actor then (c id).filter fun s => ¬ r.Releases s else c id

/-- The contents without registrations on the given nodes. -/
def dropNodes (c : Contents) (nodes : List Node) : Contents :=
  fun id => (c id).filter fun r => r.node ∉ nodes

/-- Nothing is deleted unless what is held is released.

**Proof sketch.** Only the actor of `r` is looked at, and what is held for it does not satisfy the
condition of the filter. -/
theorem release_eq_self {c : Contents} {r : Registration}
    (h : ∀ s, c r.actor = some s → ¬ r.Releases s) : c.release r = c := by
  funext id
  rw [release]
  split
  · next hid =>
    subst hid
    cases hs : c r.actor with
    | none => rfl
    | some s => rw [Option.filter_some, if_pos (decide_eq_true (h s hs))]
  · rfl

/-- Nothing is deleted where nothing is held. -/
theorem release_of_eq_none {c : Contents} {r : Registration} (h : c r.actor = none) :
    c.release r = c := release_eq_self fun s hs => by rw [h] at hs; contradiction

/-- Says that contents may go from `c` to `c'`: registrations are lost only if they satisfy `p` for
their actor, and what is new is held for its own actor. -/
structure Evolves (p : ActorId → Registration → Prop) (c c' : Contents) : Prop where
  /-- What does not satisfy `p` is kept. -/
  keeps : ∀ id r, c id = some r → ¬ p id r → c' id = some r
  /-- What is new is held for its own actor. -/
  keyed : ∀ id r, c' id = some r → c id = some r ∨ r.actor = id

section Evolves

variable {p q : ActorId → Registration → Prop} {c c' c'' : Contents}

/-- Contents that do not change lose nothing. -/
theorem Evolves.refl (p : ActorId → Registration → Prop) (c : Contents) : c.Evolves p c :=
  ⟨fun _ _ h _ => h, fun _ _ h => .inl h⟩

/-- What is lost in one of two changes is lost for a reason that holds in that change. -/
theorem Evolves.trans (h : c.Evolves p c') (h' : c'.Evolves p c'') : c.Evolves p c'' where
  keeps id r hr hp := h'.keeps id r (h.keeps id r hr hp) hp
  keyed id r hr := by
    rcases h'.keyed id r hr with hr | hr
    · exact h.keyed id r hr
    · exact .inr hr

/-- What is lost for one reason is lost for any weaker one. -/
theorem Evolves.mono (h : c.Evolves p c') (hpq : ∀ id r, p id r → q id r) : c.Evolves q c' where
  keeps id r hr hq := h.keeps id r hr fun hp => hq (hpq id r hp)
  keyed := h.keyed

/-- Contents stay well keyed. -/
theorem WellKeyed.of_evolves (hc : c.WellKeyed) (h : c.Evolves p c') : c'.WellKeyed := by
  intro id r hr
  rcases h.keyed id r hr with hr | hr
  · exact hc id r hr
  · exact hr

/-- Storing a registration loses nothing if nothing was held for its actor. -/
theorem evolves_store {r : Registration} (h : c r.actor = none) :
    c.Evolves p (c.store r.actor r) where
  keeps id s hs _ := by
    have hne : id ≠ r.actor := by
      rintro rfl
      rw [h] at hs
      contradiction
    rw [store, if_neg hne, hs]
  keyed id s hs := by
    rw [store] at hs
    split at hs
    · next hid => exact .inr (by rw [← Option.some.inj hs, hid])
    · exact .inl hs

/-- A deletion loses what the holder is entitled to delete. -/
theorem evolves_release (r : Registration) :
    c.Evolves (fun id s => id = r.actor ∧ r.Releases s) (c.release r) where
  keeps id s hs hr := by
    by_cases hid : id = r.actor
    · rw [release, if_pos hid, hs, Option.filter_some, if_pos]
      exact decide_eq_true fun h => hr ⟨hid, h⟩
    · rw [release, if_neg hid, hs]
  keyed id s hs := by
    rw [release] at hs
    split at hs
    · exact .inl (Option.filter_eq_some_iff.1 hs).1
    · exact .inl hs

/-- Dropping nodes loses what is registered there. -/
theorem evolves_dropNodes (nodes : List Node) :
    c.Evolves (fun _ s => s.node ∈ nodes) (c.dropNodes nodes) where
  keeps id s hs hn := by
    rw [dropNodes, hs, Option.filter_some, if_pos (decide_eq_true hn)]
  keyed _ _ hs := .inl (Option.filter_eq_some_iff.1 hs).1

end Evolves

end Contents

/-! ### Answers -/

/-- The answers to a look-up: what is held, or a failure, which does not matter unless it may help
to try again. -/
inductive Looked (c : Contents) (id : ActorId) :
    Except DirectoryError (Option Registration) → Prop where
  /-- The answer is what is held. -/
  | found : Looked c id (.ok (c id))
  /-- The look-up failed. -/
  | failed (e : DirectoryError) (h : e.isTransient = true ∨ c id = none) : Looked c id (.error e)

/-- The answers to a registration, with the contents left behind. -/
inductive Registered (c : Contents) (r : Registration) :
    Except DirectoryError Registration → Contents → Prop where
  /-- The actor had a registration, which stays. -/
  | kept {stored : Registration} (h : c r.actor = some stored) : Registered c r (.ok stored) c
  /-- The actor had none, so that the given one is stored with a new token. -/
  | stored (h : c r.actor = none) (e : Etag) :
    Registered c r (.ok (r.withEtag e)) (c.store r.actor (r.withEtag e))
  /-- The registration failed and had no effect. -/
  | failed (e : DirectoryError) : Registered c r (.error e) c

/-- The answers to a deletion, with the contents left behind. -/
inductive Unregistered (c : Contents) (r : Registration) :
    Except DirectoryError Unit → Contents → Prop where
  /-- What is held was deleted if the given registration releases it. -/
  | released : Unregistered c r (.ok ()) (c.release r)
  /-- The deletion failed and had no effect. -/
  | failed (e : DirectoryError) (h : e.isTransient = true ∨ c r.actor = none) :
    Unregistered c r (.error e) c

/-- The answers to a deletion by nodes, with the contents left behind. -/
inductive Dropped (c : Contents) (nodes : List Node) :
    Except DirectoryError (List Registration) → Contents → Prop where
  /-- Everything on the nodes was deleted. -/
  | dropped (l : List Registration) : Dropped c nodes (.ok l) (c.dropNodes nodes)
  /-- The deletion failed and had no effect. -/
  | failed (e : DirectoryError) : Dropped c nodes (.error e) c

/-- What a successful look-up answers is what is held. -/
theorem Looked.eq_of_ok {c : Contents} {id : ActorId} {found : Option Registration}
    (h : Looked c id (.ok found)) : c id = found := by
  generalize hanswer : (.ok found : Except DirectoryError _) = answer at h
  cases h with
  | found => exact (Except.ok.inj hanswer).symm
  | failed _ _ => contradiction

/-- A registration loses nothing at all, however it ends: `p` is arbitrary. -/
theorem Registered.evolves {c c' : Contents} {r : Registration}
    {answer : Except DirectoryError Registration} (h : Registered c r answer c')
    (p : ActorId → Registration → Prop) : c.Evolves p c' := by
  cases h with
  | kept _ => exact .refl p c
  | stored h e => exact Contents.evolves_store (r := r.withEtag e) h
  | failed _ => exact .refl p c

/-- A deletion loses only what the holder is entitled to delete. -/
theorem Unregistered.evolves {c c' : Contents} {r : Registration}
    {answer : Except DirectoryError Unit} (h : Unregistered c r answer c') :
    c.Evolves (fun id s => id = r.actor ∧ r.Releases s) c' := by
  cases h with
  | released => exact Contents.evolves_release r
  | failed _ _ => exact .refl _ c

/-- A deletion that fails has no effect. -/
theorem Unregistered.eq_of_error {c c' : Contents} {r : Registration} {e : DirectoryError}
    (h : Unregistered c r (.error e) c') : c' = c := by
  cases h
  rfl

/-- A deletion by nodes loses only what is on those nodes, however it ends. -/
theorem Dropped.evolves {c c' : Contents} {nodes : List Node}
    {answer : Except DirectoryError (List Registration)} (h : Dropped c nodes answer c') :
    c.Evolves (fun _ s => s.node ∈ nodes) c' := by
  cases h with
  | dropped _ => exact Contents.evolves_dropNodes nodes
  | failed _ => exact .refl _ c

/-- What a registration returns is held then. -/
theorem Registered.eq_some_of_ok {c c' : Contents} {r stored : Registration}
    (h : Registered c r (.ok stored) c') : c' r.actor = some stored := by
  cases h with
  | kept h => exact h
  | stored _ e => rw [Contents.store, if_pos rfl]

/-- A registration that is accepted gets a token. -/
theorem Registered.exists_token {c c' : Contents} {r stored : Registration}
    (h : Registered c r (.ok stored) c') (hnone : c r.actor = none) :
    ∃ token, stored = r.withEtag token := by
  cases h with
  | kept h => exact absurd (hnone.symm.trans h) (Option.some_ne_none _).symm
  | stored _ e => exact ⟨e, rfl⟩

/-! ### Lawful backends -/

/-- Backends whose operations answer and act as promised, whether or not they fail. -/
class LawfulBackend (σ : Type) [Backend σ] where
  /-- What a state holds. -/
  contents : σ → Contents
  /-- A look-up returns what is held. -/
  looked (s : σ) (id : ActorId) : Looked (contents s) id (Backend.lookup s id).1
  /-- A look-up does not change what is held. -/
  contents_lookup (s : σ) (id : ActorId) : contents (Backend.lookup s id).2 = contents s
  /-- A look-up that succeeds has no effect. -/
  lookup_of_ok {s s' : σ} {id : ActorId} {found : Option Registration}
    (h : Backend.lookup s id = (.ok found, s')) : s' = s
  /-- A registration does not overwrite. -/
  registered (s : σ) (r : Registration) :
    Registered (contents s) r (Backend.register s r).1 (contents (Backend.register s r).2)
  /-- A deletion deletes what the holder is entitled to delete. -/
  unregistered (s : σ) (r : Registration) :
    Unregistered (contents s) r (Backend.unregister s r).1 (contents (Backend.unregister s r).2)
  /-- A batch is deleted one by one. -/
  unregisterBatch_eq (s : σ) (l : List Registration) :
    Backend.unregisterBatch s l = unregisterEach Backend.unregister s l
  /-- A backend that can delete by nodes does so. -/
  dropped (s : σ) (nodes : List Node) (h : (Backend.capabilities s).bulkRemoval = true) :
    Dropped (contents s) nodes (Backend.unregisterNodes s nodes).1
      (contents (Backend.unregisterNodes s nodes).2)

/-! ### Batches -/

/-- Batches are consecutive, and nothing gets lost.

**Proof sketch.** Induction over the batches: a batch and what it leaves make up the list. -/
theorem flatten_batches {α : Type} {size : Nat} (hs : 0 < size) (l : List α) :
    (batches size l).flatten = l := by
  refine batches_induction hs (motive := fun l bs => bs.flatten = l) rfl ?_ l
  intro l _ ih
  rw [List.flatten_cons, ih, List.take_append_drop]

/-- What is deleted in a batch is what is in the list. -/
theorem Directory.mem_iff_exists_batch {σ : Type} (d : Directory σ) {l : List Registration}
    {r : Registration} : r ∈ l ↔ ∃ b ∈ batches d.maxBatch l, r ∈ b := by
  rw [← List.mem_flatten, flatten_batches d.maxBatch_pos]

/-- Only deletions of the batch are reported as failed. -/
theorem mem_of_mem_failuresOf {batch : List Registration}
    {answers : List (Except DirectoryError Unit)} {f : Registration × DirectoryError}
    (hf : f ∈ failuresOf batch answers) : f.1 ∈ batch := by
  obtain ⟨⟨r, answer⟩, hr, h⟩ := List.mem_filterMap.1 hf
  have hmem := (List.of_mem_zip hr).1
  dsimp only at h
  split at h
  · contradiction
  · contradiction
  · rw [← Option.some.inj h]
    exact hmem

/-- Only what is in one of the batches is reported as failed. -/
theorem Directory.mem_of_mem_unregisterBatches {σ : Type} [Backend σ] {d : Directory σ}
    {bs : List (List Registration)} {f : Registration × DirectoryError}
    (hf : f ∈ (d.unregisterBatches bs).1) : ∃ b ∈ bs, f.1 ∈ b := by
  induction bs generalizing d with
  | nil => simp [unregisterBatches] at hf
  | cons b bs ih =>
    rw [unregisterBatches] at hf
    rcases List.mem_append.1 hf with hf | hf
    · exact ⟨b, List.mem_cons_self, mem_of_mem_failuresOf hf⟩
    · obtain ⟨b', hb', h⟩ := ih hf
      exact ⟨b', List.mem_cons_of_mem _ hb', h⟩

/-- What fails among many deletions is one of them. -/
theorem Directory.mem_of_mem_failures {σ : Type} [Backend σ] {d : Directory σ}
    {l : List Registration} {f : Registration × DirectoryError}
    (hf : f ∈ (d.unregisterMany l).1.failures) : f.1 ∈ l := by
  obtain ⟨b, hb, h⟩ := mem_of_mem_unregisterBatches hf
  exact d.mem_iff_exists_batch.2 ⟨b, hb, h⟩

/-! ### Directories -/

namespace Directory

section Backend

variable {σ : Type} [Backend σ] (d : Directory σ)

/-- A look-up leaves the directory as the look-up of its backend does; taking a corrupted entry for
an absent one only changes the answer. -/
theorem lookup_snd (id : ActorId) :
    (d.lookup id).2 = d.withBackend (Backend.lookup d.backend id).2 := by
  unfold lookup
  split <;> simp [*]

/-- A deletion leaves the directory as the deletion of its backend does. -/
theorem unregister_snd (r : Registration) :
    (d.unregister r).2 = d.withBackend (Backend.unregister d.backend r).2 := by
  unfold unregister
  split <;> simp [*]

/-- A directory succeeds if its backend does. -/
theorem unregister_of_ok {r : Registration} (h : (Backend.unregister d.backend r).1 = .ok ()) :
    (d.unregister r).1 = .ok () := by
  unfold unregister
  split
  · rfl
  · simp_all

/-- A directory fails only if its backend fails in the same way. -/
theorem unregister_of_error {r : Registration} {e : DirectoryError}
    (h : (d.unregister r).1 = .error e) : (Backend.unregister d.backend r).1 = .error e := by
  unfold unregister at h
  split at h
  · contradiction
  · simp_all

end Backend

variable {σ : Type} [Backend σ] [LawfulBackend σ]

/-- What the directory holds. -/
def contents (d : Directory σ) : Contents := LawfulBackend.contents d.backend

/-- A look-up returns what is held.

**Proof sketch.** The backend answers in one of the ways of `Looked`, and a directory repeats the
answer except when it is that the entry is corrupted.  That is not worth another try, so nothing is
held, and this is what the directory answers. -/
theorem looked (d : Directory σ) (id : ActorId) : Looked d.contents id (d.lookup id).1 := by
  have h := LawfulBackend.looked d.backend id
  unfold lookup
  rcases hb : Backend.lookup d.backend id with ⟨answer, s⟩
  rw [hb] at h
  split
  · -- The backend has met a corrupted entry.
    next heq =>
    obtain ⟨rfl, -⟩ := Prod.mk.inj heq
    cases h with
    | failed e h =>
      have hnone : d.contents id = none := h.resolve_left (by simp [DirectoryError.isTransient])
      have hfound : Looked d.contents id (.ok (d.contents id)) := .found
      rwa [hnone] at hfound
  · next heq =>
    obtain ⟨rfl, -⟩ := Prod.mk.inj heq
    exact h

/-- A look-up does not change what is held. -/
theorem contents_lookup (d : Directory σ) (id : ActorId) :
    (d.lookup id).2.contents = d.contents := by
  have h := LawfulBackend.contents_lookup d.backend id
  unfold lookup
  split
  all_goals
    next heq =>
    rw [heq] at h
    exact h

/-- A look-up that finds a registration has no effect. -/
theorem lookup_of_ok {d d' : Directory σ} {id : ActorId} {r : Registration}
    (h : d.lookup id = (.ok (some r), d')) : d' = d := by
  rw [lookup] at h
  split at h
  · simp at h
  · next answer s heq =>
    obtain ⟨rfl, rfl⟩ := Prod.mk.inj h
    rw [LawfulBackend.lookup_of_ok heq]
    rfl

/-- A look-up that is answered finds what is held. -/
theorem lookup_of_contents {d : Directory σ} {id : ActorId} {r : Registration}
    (hr : d.contents id = some r) (hok : ∃ found, (d.lookup id).1 = .ok found) :
    d.lookup id = (.ok (some r), d) := by
  have hlooked := d.looked id
  rcases hlookup : d.lookup id with ⟨answer, d'⟩
  rw [hlookup] at hlooked hok
  obtain ⟨found, rfl⟩ := hok
  obtain rfl : found = some r := hlooked.eq_of_ok.symm.trans hr
  rw [lookup_of_ok hlookup]

/-- A registration does not overwrite what is held. -/
theorem registered (d : Directory σ) (r : Registration) :
    Registered d.contents r (d.register r).1 (d.register r).2.contents :=
  LawfulBackend.registered d.backend r

/-- A deletion deletes what the holder is entitled to delete; a corrupted entry counts as absent.

**Proof sketch.** As for look-ups: the directory answers as its backend does, except that a
corrupted entry counts as absent.  Then nothing is held, so there is nothing to release
(`Contents.release_of_eq_none`), and success is what `Unregistered` asks for. -/
theorem unregistered (d : Directory σ) (r : Registration) :
    Unregistered d.contents r (d.unregister r).1 (d.unregister r).2.contents := by
  have h := LawfulBackend.unregistered d.backend r
  unfold unregister
  rcases hb : Backend.unregister d.backend r with ⟨answer, s⟩
  rw [hb] at h
  split
  · -- The backend has met a corrupted entry, which deleting would not have changed.
    next heq =>
    obtain ⟨rfl, rfl⟩ := Prod.mk.inj heq
    change Unregistered d.contents r (.error _) (LawfulBackend.contents s) at h
    change Unregistered d.contents r (.ok ()) (LawfulBackend.contents s)
    generalize LawfulBackend.contents s = c' at h ⊢
    cases h with
    | failed e h =>
      have hnone : d.contents r.actor = none :=
        h.resolve_left (by simp [DirectoryError.isTransient])
      have hreleased : Unregistered d.contents r (.ok ()) (d.contents.release r) := .released
      rwa [Contents.release_of_eq_none hnone] at hreleased
  · next heq =>
    obtain ⟨rfl, rfl⟩ := Prod.mk.inj heq
    exact h

/-- Deletions one after the other lose only what one of them releases.

**Proof sketch.** Induction on the batch; the step is `Unregistered.evolves`, weakened to all
registrations of the batch. -/
theorem evolves_unregisterEach (s : σ) (l : List Registration) :
    (LawfulBackend.contents s).Evolves (fun _ r => ∃ u ∈ l, u.Releases r)
      (LawfulBackend.contents (unregisterEach Backend.unregister s l).2) := by
  induction l generalizing s with
  | nil => exact .refl _ _
  | cons u l ih =>
    have hfirst := (LawfulBackend.unregistered s u).evolves
    have hrest := ih (Backend.unregister s u).2
    exact (hfirst.mono fun id r h => ⟨u, List.mem_cons_self, h.2⟩).trans
      (hrest.mono fun id r ⟨v, hv, h⟩ => ⟨v, List.mem_cons_of_mem _ hv, h⟩)

/-- Deletions batch after batch lose only what one of them releases. -/
theorem evolves_unregisterBatches (d : Directory σ) (bs : List (List Registration)) :
    d.contents.Evolves (fun _ r => ∃ b ∈ bs, ∃ u ∈ b, u.Releases r)
      (d.unregisterBatches bs).2.contents := by
  induction bs generalizing d with
  | nil => exact .refl _ _
  | cons b bs ih =>
    have hfirst := evolves_unregisterEach d.backend b
    rw [← LawfulBackend.unregisterBatch_eq] at hfirst
    have hrest := ih (d.withBackend (Backend.unregisterBatch d.backend b).2)
    exact (hfirst.mono fun id r h => ⟨b, List.mem_cons_self, h⟩).trans
      (hrest.mono fun id r ⟨b', hb', h⟩ => ⟨b', List.mem_cons_of_mem _ hb', h⟩)

/-- Many deletions lose only what one of them releases. -/
theorem evolves_unregisterMany (d : Directory σ) (l : List Registration) :
    d.contents.Evolves (fun _ r => ∃ u ∈ l, u.Releases r) (d.unregisterMany l).2.contents :=
  (d.evolves_unregisterBatches (batches d.maxBatch l)).mono
    fun _ _ ⟨b, hb, u, hu, h⟩ => ⟨u, d.mem_iff_exists_batch.2 ⟨b, hb, hu⟩, h⟩

/-- A deletion by nodes loses only what is registered there. -/
theorem evolves_unregisterNodes (d : Directory σ) (nodes : List Node) :
    d.contents.Evolves (fun _ r => r.node ∈ nodes) (d.unregisterNodes nodes).2.contents := by
  unfold unregisterNodes
  split
  · next hb =>
    have h := (LawfulBackend.dropped d.backend nodes hb).evolves
    split
    all_goals
      next heq =>
      rw [heq] at h
      exact h
  · exact .refl _ _

end Directory

end ActorLocation
