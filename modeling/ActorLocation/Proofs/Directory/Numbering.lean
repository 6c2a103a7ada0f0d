import ActorLocation.Proofs.Directory.Batches
import ActorLocation.Proofs.Directory.Flaky
/-!
# Tokens are given in order

A backend numbers the registrations that it stores.  As long as the numbers last, a registration
that is not held any more is never held again, since whatever is stored later has a greater number.

## Main definitions

* `Registration.TokenIn` — the token of a registration lies in a range.
* `ActorLocation.NumberedBackend` — backends that give the numbers in order.
* `ActorLocation.NumberedBackend.Gains`, `ActorLocation.Directory.Progress` — what may become of a
  backend, and of a directory, while at most `k` registrations are stored.

## Main results

* `Directory.Progress.ne_of_ne` — what is not held any more is never held again.
* The instances of `ActorLocation.NumberedBackend`.
-/

namespace ActorLocation

/-- Says that a registration has a token, which is greater than `m` and at most `n`. -/
def Registration.TokenIn (r : Registration) (m n : Nat) : Prop :=
  ∃ e, r.etag = some e ∧ m < e.num.toNat ∧ e.num.toNat ≤ n

/-- A token that lies in a range lies in every wider one. -/
theorem Registration.TokenIn.mono {r : Registration} {m n m' n' : Nat} (h : r.TokenIn m n)
    (hm : m' ≤ m) (hn : n ≤ n') : r.TokenIn m' n' := by
  obtain ⟨e, he, hme, hen⟩ := h
  exact ⟨e, he, by omega, by omega⟩

/-! ### Numbered backends -/

/-- A counter goes up by one unless it has reached the greatest word. -/
theorem toNat_add_one {n : UInt64} (h : n.toNat + 1 < UInt64.size) :
    (n + 1).toNat = n.toNat + 1 := by
  simp only [UInt64.size] at h
  rw [UInt64.toNat_add, UInt64.toNat_one]
  omega

/-- The answers to a registration, with the contents and the number of the latest token left
behind: it has no effect, or the registration is stored with the next number, unless the numbers run
out. -/
inductive Numbered (c : Contents) (n : Nat) (r : Registration) :
    Except DirectoryError Registration → Contents → Nat → Prop where
  /-- Nothing is stored. -/
  | unchanged (answer : Except DirectoryError Registration) : Numbered c n r answer c n
  /-- The registration is stored. -/
  | stored (e : Etag) (n' : Nat) (h : n + 1 < UInt64.size → e.num.toNat = n + 1 ∧ n' = n + 1) :
    Numbered c n r (.ok (r.withEtag e)) (c.store r.actor (r.withEtag e)) n'

/-- Backends that can do the same at any time, and number the registrations that they store. -/
class NumberedBackend (σ : Type) [Backend σ] [LawfulBackend σ] where
  /-- The number of the latest token. -/
  issued : σ → Nat
  /-- A look-up gives no token. -/
  lookup (s : σ) (id : ActorId) :
    Backend.capabilities (Backend.lookup s id).2 = Backend.capabilities s ∧
      issued (Backend.lookup s id).2 = issued s
  /-- A registration is given the next number if it is stored, until the numbers run out. -/
  register (s : σ) (r : Registration) :
    Backend.capabilities (Backend.register s r).2 = Backend.capabilities s ∧
      Numbered (LawfulBackend.contents s) (issued s) r (Backend.register s r).1
        (LawfulBackend.contents (Backend.register s r).2) (issued (Backend.register s r).2)
  /-- A deletion gives no token. -/
  unregister (s : σ) (r : Registration) :
    Backend.capabilities (Backend.unregister s r).2 = Backend.capabilities s ∧
      issued (Backend.unregister s r).2 = issued s
  /-- A deletion by nodes gives no token. -/
  unregisterNodes (s : σ) (nodes : List Node) :
    Backend.capabilities (Backend.unregisterNodes s nodes).2 = Backend.capabilities s ∧
      issued (Backend.unregisterNodes s nodes).2 = issued s

/-- A directory in memory gives the number that it has kept for the next token.

**Proof sketch.** A registration that is found gives no token.  One that is inserted gets the next
number, which is one more than that of the latest token unless the subtraction wraps around, and the
bound excludes that. -/
theorem InMemory.numbered (d : InMemory) (r : Registration) :
    Numbered d.held (d.nextEtag - 1).toNat r (.ok (d.register r).1) (d.register r).2.held
      ((d.register r).2.nextEtag - 1).toNat := by
  unfold register
  split
  · exact .unchanged _
  · have hheld : (InMemory.mk (d.entries.insert r.actor (r.withEtag ⟨d.nextEtag⟩))
        (d.nextEtag + 1)).held = d.held.store r.actor (r.withEtag ⟨d.nextEtag⟩) := by
      funext id
      exact Table.find?_insert _ _ _ _
    dsimp only
    rw [hheld]
    refine .stored ⟨d.nextEtag⟩ _ fun hn => ?_
    -- The bound on the numbers keeps the subtraction from wrapping around.
    have hnext : d.nextEtag.toNat = (d.nextEtag - 1).toNat + 1 := by
      simp only [UInt64.size] at hn
      have hlt := d.nextEtag.toNat_lt
      rw [UInt64.toNat_sub] at hn ⊢
      simp only [UInt64.toNat_one] at hn ⊢
      omega
    exact ⟨hnext, by rw [UInt64.add_sub_cancel, hnext]⟩

/-- The tokens of a directory in memory start with one. -/
instance : NumberedBackend InMemory where
  issued d := (d.nextEtag - 1).toNat
  lookup _ _ := ⟨rfl, rfl⟩
  register d r := ⟨rfl, d.numbered r⟩
  unregister _ _ := ⟨rfl, rfl⟩
  unregisterNodes _ _ := ⟨rfl, rfl⟩

/-- A deletion does not write to the store. -/
theorem OverStore.lastVersion_unregister (d : OverStore MemoryStore) (r : Registration) :
    (d.unregister r).2.store.lastVersion = d.store.lastVersion := by
  rcases unregister_cases d.store r with ⟨h, -⟩ | ⟨_, h, -⟩ | ⟨h, -⟩ | ⟨h, -⟩ <;> rw [h]

/-- A directory over a store gives the version of what it writes.

**Proof sketch.** The three ways in which a registration can end (`register_cases`): out of reach
and found, it leaves the store alone, and where it writes the version goes up by one. -/
theorem OverStore.numbered (d : OverStore MemoryStore) (r : Registration) :
    Numbered d.held d.store.lastVersion.toNat r (d.register r).1 (d.register r).2.held
      (d.register r).2.store.lastVersion.toNat := by
  rcases register_cases d.store r with ⟨h, -⟩ | ⟨stored, h, -⟩ | ⟨h, -⟩
  · rw [h]
    exact .unchanged _
  · rw [h]
    exact .unchanged _
  · rw [h, held_write]
    refine .stored ⟨d.store.lastVersion + 1⟩ _ fun hn => ?_
    have hversion := toNat_add_one hn
    exact ⟨hversion, hversion⟩

/-- The tokens of a directory over a store are the versions of the store. -/
instance : NumberedBackend (OverStore MemoryStore) where
  issued d := d.store.lastVersion.toNat
  lookup d id := ⟨rfl, congrArg (fun d : OverStore MemoryStore => d.store.lastVersion.toNat)
    (d.lookup_snd id)⟩
  register d r := ⟨rfl, d.numbered r⟩
  unregister d r := ⟨rfl, congrArg UInt64.toNat (d.lastVersion_unregister r)⟩
  unregisterNodes _ _ := ⟨rfl, rfl⟩

instance : NumberedBackend (AnyBackend MemoryStore) where
  issued
    | .inMemory d => NumberedBackend.issued d
    | .overStore d => NumberedBackend.issued d
  lookup
    | .inMemory d, id => NumberedBackend.lookup d id
    | .overStore d, id => NumberedBackend.lookup d id
  register
    | .inMemory d, r => NumberedBackend.register d r
    | .overStore d, r => NumberedBackend.register d r
  unregister
    | .inMemory d, r => NumberedBackend.unregister d r
    | .overStore d, r => NumberedBackend.unregister d r
  unregisterNodes
    | .inMemory d, nodes => NumberedBackend.unregisterNodes d nodes
    | .overStore d, nodes => NumberedBackend.unregisterNodes d nodes

namespace Flaky

variable {σ : Type} [Backend σ]

/-- What a flaky backend can do depends on the backend that does the work. -/
theorem capabilities_eq {b b' : Flaky σ}
    (h : Backend.capabilities b'.inner = Backend.capabilities b.inner)
    (hb : b'.bulkRemoval = b.bulkRemoval) : Backend.capabilities b' = Backend.capabilities b := by
  simp only [Backend.capabilities] at h ⊢
  rw [h, hb]

variable [LawfulBackend σ] [NumberedBackend σ]

/-- A change gives no token if it would give none without failures.

**Proof sketch.** A failure by plan does not reach the backend that does the work
(`change_cases`). -/
theorem steady_change {α : Type} (b : Flaky σ) {op : σ → Except DirectoryError α × σ}
    (h : Backend.capabilities (op b.inner).2 = Backend.capabilities b.inner ∧
      NumberedBackend.issued (op b.inner).2 = NumberedBackend.issued b.inner) :
    Backend.capabilities (b.change op).2 = Backend.capabilities b ∧
      NumberedBackend.issued (b.change op).2.inner = NumberedBackend.issued b.inner := by
  rcases b.change_cases op with heq | heq
  · rw [heq]
    exact ⟨capabilities_eq rfl rfl, rfl⟩
  · rw [heq]
    exact ⟨capabilities_eq h.1 rfl, h.2⟩

instance : NumberedBackend (Flaky σ) where
  issued b := NumberedBackend.issued b.inner
  lookup b id := by
    have h := NumberedBackend.lookup b.inner id
    change Backend.capabilities (if b.outages.lookups then _ else _ : _ × Flaky σ).2 = _ ∧
      NumberedBackend.issued (if b.outages.lookups then _ else _ : _ × Flaky σ).2.inner = _
    split
    · exact ⟨rfl, rfl⟩
    · exact ⟨capabilities_eq h.1 rfl, h.2⟩
  register b r := by
    obtain ⟨hcap, hnumbered⟩ := NumberedBackend.register b.inner r
    change Backend.capabilities (b.change (Backend.register · r)).2 = _ ∧
      Numbered _ _ r (b.change _).1 (LawfulBackend.contents (b.change _).2.inner)
        (NumberedBackend.issued (b.change _).2.inner)
    rcases b.change_cases (Backend.register · r) with h | h
    · rw [h]
      exact ⟨capabilities_eq rfl rfl, .unchanged _⟩
    · rw [h]
      exact ⟨capabilities_eq hcap rfl, hnumbered⟩
  unregister b r := b.steady_change (NumberedBackend.unregister b.inner r)
  unregisterNodes b nodes := b.steady_change (NumberedBackend.unregisterNodes b.inner nodes)

end Flaky

/-! ### What may become of a backend -/

namespace NumberedBackend

variable {σ : Type} [Backend σ] [LawfulBackend σ] [NumberedBackend σ]

/-- Says that `s` may become `s'` in `k` steps that store something: at most `k` tokens are given,
and what is held in `s'` and was not held in `s` has one of them. -/
structure Gains (k : Nat) (s s' : σ) : Prop where
  /-- No token is taken back. -/
  le_issued : issued s ≤ issued s'
  /-- At most `k` tokens are given. -/
  issued_le : issued s' ≤ issued s + k
  /-- What is new has a new token. -/
  fresh : ∀ id r, LawfulBackend.contents s' id = some r →
    LawfulBackend.contents s id = some r ∨ r.TokenIn (issued s) (issued s')

variable {s s' s'' : σ} {j k : Nat}

/-- Nothing is gained where nothing is new. -/
theorem Gains.of_shrinks (hissued : issued s' = issued s)
    (h : (LawfulBackend.contents s).Shrinks (LawfulBackend.contents s')) : Gains 0 s s' :=
  ⟨by omega, by omega, fun id r hr => .inl (h id r hr)⟩

/-- Nothing is gained where nothing happens. -/
theorem Gains.refl (s : σ) : Gains 0 s s := .of_shrinks rfl (.refl _)

/-- What two stretches of a run gain adds up, and the tokens of both lie in one range. -/
theorem Gains.trans (h : Gains j s s') (h' : Gains k s' s'') : Gains (j + k) s s'' where
  le_issued := Nat.le_trans h.le_issued h'.le_issued
  issued_le := by
    have := h.issued_le
    have := h'.issued_le
    omega
  fresh id r hr := by
    rcases h'.fresh id r hr with hr | hnew
    · rcases h.fresh id r hr with hr | hnew
      · exact .inl hr
      · exact .inr (hnew.mono (Nat.le_refl _) h'.le_issued)
    · exact .inr (hnew.mono h.le_issued (Nat.le_refl _))

/-- A bound on what is gained may be relaxed. -/
theorem Gains.mono (h : Gains j s s') (hjk : j ≤ k) : Gains k s s' :=
  ⟨h.le_issued, Nat.le_trans h.issued_le (Nat.add_le_add_left hjk _), h.fresh⟩

/-- A registration with an old token that is not held is not held later.

**Proof sketch.** If it were held later, it would have been held before or have a new token, and its
token is an old one. -/
theorem Gains.ne_of_ne (h : Gains k s s') {r : Registration} (hr : r.TokenIn 0 (issued s))
    {id : ActorId} (hne : LawfulBackend.contents s id ≠ some r) :
    LawfulBackend.contents s' id ≠ some r := by
  intro hheld
  rcases h.fresh id r hheld with hheld | ⟨e, he, hlow, -⟩
  · exact hne hheld
  · obtain ⟨e', he', -, hhigh⟩ := hr
    obtain rfl := Option.some.inj (he.symm.trans he')
    omega

/-- A token that was given before was given. -/
theorem Gains.tokenIn (h : Gains k s s') {r : Registration} (hr : r.TokenIn 0 (issued s)) :
    r.TokenIn 0 (issued s') := hr.mono (Nat.le_refl 0) h.le_issued

end NumberedBackend

/-! ### What may become of a directory -/

namespace Directory

open NumberedBackend (Gains)

variable {σ : Type} [Backend σ] [LawfulBackend σ] [NumberedBackend σ]

/-- The number of the latest token of a directory. -/
def issued (d : Directory σ) : Nat := NumberedBackend.issued d.backend

/-- Says that `d` may become `d'` while at most `k` registrations are stored: it can do the same,
and as long as the numbers last, what is held in `d'` and was not held in `d` has a token that was
given in between. -/
structure Progress (k : Nat) (d d' : Directory σ) : Prop where
  /-- The directory can do the same. -/
  capabilities : d'.capabilities = d.capabilities
  /-- At most `k` tokens are given. -/
  issued (h : d.issued + k < UInt64.size) : d.issued ≤ d'.issued ∧ d'.issued ≤ d.issued + k
  /-- What is new has a new token. -/
  fresh (h : d.issued + k < UInt64.size) (id : ActorId) (r : Registration)
    (hr : d'.contents id = some r) : d.contents id = some r ∨ r.TokenIn d.issued d'.issued

variable {d d' d'' : Directory σ} {j k : Nat}

/-- In terms of the backends: a directory that can do the same gains as much as its backend. -/
theorem Progress.of_gains (hcap : d'.capabilities = d.capabilities)
    (h : d.issued + k < UInt64.size → Gains k d.backend d'.backend) : Progress k d d' where
  capabilities := hcap
  issued hn := ⟨(h hn).le_issued, (h hn).issued_le⟩
  fresh hn := (h hn).fresh

/-- As long as the numbers last, the backend of a directory gains as much as the directory. -/
theorem Progress.gains (h : Progress k d d') (hn : d.issued + k < UInt64.size) :
    Gains k d.backend d'.backend := ⟨(h.issued hn).1, (h.issued hn).2, h.fresh hn⟩

/-- A directory in which nothing is new. -/
theorem Progress.of_shrinks (hcap : d'.capabilities = d.capabilities)
    (hissued : d'.issued = d.issued) (h : d.contents.Shrinks d'.contents) : Progress 0 d d' :=
  .of_gains hcap fun _ => .of_shrinks hissued h

/-- Nothing becomes of a directory to which nothing happens. -/
theorem Progress.refl (d : Directory σ) : Progress 0 d d := .of_shrinks rfl rfl (.refl _)

/-- What is stored in two stretches of a run adds up.  If the numbers last for the whole, they last
for each of them. -/
theorem Progress.trans (h : Progress j d d') (h' : Progress k d' d'') :
    Progress (j + k) d d'' := by
  refine .of_gains (h'.capabilities.trans h.capabilities) fun hn => ?_
  obtain ⟨hlow, hhigh⟩ := h.issued (by omega)
  exact (h.gains (by omega)).trans (h'.gains (by omega))

/-- A bound on what is stored may be relaxed. -/
theorem Progress.mono (h : Progress j d d') (hjk : j ≤ k) : Progress k d d' :=
  .of_gains h.capabilities fun hn => (h.gains (by omega)).mono hjk

/-- A registration with an old token that is not held is not held later. -/
theorem Progress.ne_of_ne (h : Progress k d d') (hn : d.issued + k < UInt64.size)
    {r : Registration} (hr : r.TokenIn 0 d.issued) {id : ActorId}
    (hne : d.contents id ≠ some r) : d'.contents id ≠ some r := (h.gains hn).ne_of_ne hr hne

/-! ### Operations -/

/-- A look-up stores nothing. -/
theorem progress_lookup (d : Directory σ) (id : ActorId) : Progress 0 d (d.lookup id).2 := by
  obtain ⟨hcap, hissued⟩ := NumberedBackend.lookup d.backend id
  refine .of_shrinks ?_ ?_ fun id' r hr => by rwa [d.contents_lookup id] at hr
  · rw [lookup_snd]
    exact hcap
  · rw [lookup_snd]
    exact hissued

/-- A deletion stores nothing. -/
theorem progress_unregister (d : Directory σ) (r : Registration) :
    Progress 0 d (d.unregister r).2 := by
  obtain ⟨hcap, hissued⟩ := NumberedBackend.unregister d.backend r
  refine .of_shrinks ?_ ?_ (d.unregistered r).shrinks
  · rw [unregister_snd]
    exact hcap
  · rw [unregister_snd]
    exact hissued

/-- A registration that stores something returns the activation that was to be registered.

**Proof sketch.** Either nothing was stored, or the registration was, with the next number as its
token.  Then one token is given, what is held for its actor is that registration, and for all other
actors what was held before. -/
theorem progress_register (d : Directory σ) (r : Registration) :
    Progress 0 d (d.register r).2 ∨ Progress 1 d (d.register r).2 ∧
      ∃ stored, (d.register r).1 = .ok stored ∧ stored.SameActivation r := by
  obtain ⟨hcap, hnumbered⟩ := NumberedBackend.register d.backend r
  have hcap : (d.register r).2.capabilities = d.capabilities := hcap
  change Numbered d.contents d.issued r (d.register r).1 (d.register r).2.contents
    (d.register r).2.issued at hnumbered
  generalize hcontents : (d.register r).2.contents = c' at hnumbered
  generalize hissued : (d.register r).2.issued = n' at hnumbered
  generalize (d.register r).1 = answer at hnumbered ⊢
  cases hnumbered with
  | unchanged answer => exact .inl (.of_shrinks hcap hissued (hcontents ▸ .refl _))
  | stored e n' h =>
    refine .inr ⟨⟨hcap, fun hn => ?_, fun hn id s hs => ?_⟩, _, rfl, rfl, rfl, rfl⟩
    · obtain ⟨-, hn'⟩ := h hn
      omega
    · obtain ⟨he, hn'⟩ := h hn
      rw [hcontents, Contents.store] at hs
      split at hs
      · -- The new registration has the next number.
        refine .inr ⟨e, ?_, by omega, by omega⟩
        rw [← Option.some.inj hs]
        rfl
      · exact .inl hs

/-- Deletions one after the other give no token. -/
theorem steady_unregisterEach (s : σ) (l : List Registration) :
    Backend.capabilities (unregisterEach Backend.unregister s l).2 = Backend.capabilities s ∧
      NumberedBackend.issued (unregisterEach Backend.unregister s l).2 =
        NumberedBackend.issued s := by
  induction l generalizing s with
  | nil => exact ⟨rfl, rfl⟩
  | cons r l ih =>
    obtain ⟨hcap, hissued⟩ := NumberedBackend.unregister s r
    obtain ⟨hcap', hissued'⟩ := ih (Backend.unregister s r).2
    exact ⟨hcap'.trans hcap, hissued'.trans hissued⟩

/-- Deletions batch after batch give no token. -/
theorem steady_unregisterBatches (d : Directory σ) (bs : List (List Registration)) :
    (d.unregisterBatches bs).2.capabilities = d.capabilities ∧
      (d.unregisterBatches bs).2.issued = d.issued := by
  induction bs generalizing d with
  | nil => exact ⟨rfl, rfl⟩
  | cons b bs ih =>
    obtain ⟨hcap, hissued⟩ := steady_unregisterEach d.backend b
    rw [← LawfulBackend.unregisterBatch_eq] at hcap hissued
    obtain ⟨hcap', hissued'⟩ := ih (d.withBackend (Backend.unregisterBatch d.backend b).2)
    exact ⟨hcap'.trans hcap, hissued'.trans hissued⟩

/-- Many deletions store nothing. -/
theorem progress_unregisterMany (d : Directory σ) (l : List Registration) :
    Progress 0 d (d.unregisterMany l).2 := by
  obtain ⟨hcap, hissued⟩ := d.steady_unregisterBatches (batches d.maxBatch l)
  exact .of_shrinks hcap hissued (d.shrinks_unregisterMany l)

/-- A deletion by nodes stores nothing.

**Proof sketch.** If the backend can do it, the directory is left as its backend is; if not, the
directory is not touched at all. -/
theorem progress_unregisterNodes (d : Directory σ) (nodes : List Node) :
    Progress 0 d (d.unregisterNodes nodes).2 := by
  have hshrinks := d.shrinks_unregisterNodes nodes
  by_cases hbulk : d.capabilities.bulkRemoval = true
  · have hbackend :
        (d.unregisterNodes nodes).2 =
          d.withBackend (Backend.unregisterNodes d.backend nodes).2 := by
      rw [unregisterNodes, if_pos hbulk]
      split <;> simp [*]
    obtain ⟨hcap, hissued⟩ := NumberedBackend.unregisterNodes d.backend nodes
    rw [hbackend] at hshrinks ⊢
    exact .of_shrinks hcap hissued hshrinks
  · rw [unregisterNodes, if_neg hbulk]
    exact .refl d

end Directory

end ActorLocation
