import ActorLocation.Proofs.Directory.Lawful
import ActorLocation.Proofs.Membership.Death
import ActorLocation.Proofs.Store.Journal
/-!
# Deleting amid rivals

A deletion over a store reads what is under the key, and deletes it if it means a registration of
the actor that the holder may delete.  A rival may write under the key in between.  What it writes
stays, be it a copy of what was read, since the deletion depends on the version.

## Main definitions

* `OverStore.Entitles` — a registration entitles its holder to delete a stored value.
* `OverStore.Withdraws` — the accesses of a deletion to the store, with its answer.
* `OverStore.DeletesOnly` — deletions took nothing but what they were entitled to.
* `OverStore.WithdrawsAmid` — what a deletion does with and without a rival.

## Main results

* `OverStore.withdraws_unregister` — what a deletion does is one of these.
* `OverStore.deletesOnly_unregisterEach` — deletions one after the other delete nothing else.
* `OverStore.unregister_amid_rivals` — the same for a directory, which deletes what it should unless
  a rival comes first.
-/

namespace ActorLocation

namespace OverStore

/-- Says that a stored value means a registration which the holder of `r` may delete. -/
def Entitles (r : Registration) (v : Versioned) : Prop :=
  ∃ stored, decode r.actor v = .ok stored ∧ r.Releases stored

/-! ### One deletion -/

/-- Says that a deletion for the holder of `r` makes these accesses to the store, gives this answer,
and leaves the store in the last state. -/
inductive Withdraws (r : Registration) (s : ContestedStore) : List Access →
    Except DirectoryError Unit → ContestedStore → Prop where
  /-- The store cannot be reached. -/
  | unreachable (h : s.store.available = false) (e : DirectoryError) :
    Withdraws r s
      [⟨.get (storageKey r.actor), s.store.entries.find? (storageKey r.actor),
        s.store.entries.find? (storageKey r.actor)⟩]
      (.error e) s
  /-- There is nothing that may be deleted. -/
  | kept (h : ∀ v, s.store.entries.find? (storageKey r.actor) = some v → ¬ Entitles r v)
    (answer : Except DirectoryError Unit) :
    Withdraws r s
      [⟨.get (storageKey r.actor), s.store.entries.find? (storageKey r.actor),
        s.store.entries.find? (storageKey r.actor)⟩]
      answer s
  /-- A rival has written something else, which stays. -/
  | beaten {v : Versioned} (h : s.store.entries.find? (storageKey r.actor) = some v)
    (hv : Entitles r v) (ha : s.store.available = true) (hrival : ¬ s.IsCalm) :
    Withdraws r s
      [⟨.get (storageKey r.actor), some v, some v⟩,
        ⟨.compareAndDelete (storageKey r.actor) v.version,
          (s.yield (storageKey r.actor)).store.entries.find? (storageKey r.actor),
          (s.yield (storageKey r.actor)).store.entries.find? (storageKey r.actor)⟩]
      (.ok ()) (s.yield (storageKey r.actor))
  /-- What may be deleted is deleted. -/
  | deleted {v : Versioned} (h : s.store.entries.find? (storageKey r.actor) = some v)
    (hv : Entitles r v) (ha : s.store.available = true) (hcalm : s.IsCalm) :
    Withdraws r s
      [⟨.get (storageKey r.actor), some v, some v⟩,
        ⟨.compareAndDelete (storageKey r.actor) v.version, some v, none⟩]
      (.ok ()) ((s.yield (storageKey r.actor)).erase (storageKey r.actor))

variable {r : Registration} {s s' : ContestedStore} {l : List Access}
  {answer : Except DirectoryError Unit}

/-- What a deletion notes in its journal, answers and leaves behind is one of the possibilities.

**Proof sketch.** By cases along the code: whether the store can be reached, what is under the key,
what that means, and whether it may be deleted.  Only in the last case is there a second access,
before which a rival may come; then the version is a new one, as versions are not given twice, so
the deletion does nothing (`ContestedStore.compareAndDelete_of_rival`). -/
theorem withdraws_unregister {j : Journaled} (hs : j.store.store.IsReached)
    (hn : j.store.store.lastVersion.toNat + 1 < UInt64.size) (r : Registration) :
    ∃ l, Withdraws r j.store l (unregister ⟨j⟩ r).1 (unregister ⟨j⟩ r).2.store.store ∧
      (unregister ⟨j⟩ r).2.store.journal = j.journal ++ l := by
  obtain ⟨s, journal⟩ := j
  rw [unregister, Journaled.get_eq]
  by_cases ha : s.store.available = true
  · rw [ContestedStore.get_of_available ha]
    cases hkey : s.store.entries.find? (storageKey r.actor) with
    | none =>
      refine ⟨_, .kept (by simp [hkey]) _, ?_⟩
      simp [Journaled.note, StoreCall.key]
    | some v =>
      -- What is found is all that could be deleted.
      have hkept (hnot : ¬ Entitles r v) : ∀ v',
          s.store.entries.find? (storageKey r.actor) = some v' → ¬ Entitles r v' := by
        intro v' hv'
        obtain rfl := Option.some.inj (hkey.symm.trans hv')
        exact hnot
      cases hv : decode r.actor v with
      | error e =>
        simp only [Journaled.note, hv]
        exact ⟨_, .kept (hkept (by simp [Entitles, hv])) _, rfl⟩
      | ok stored =>
        by_cases hr : r.Releases stored
        · have hentitles : Entitles r v := ⟨stored, hv, hr⟩
          simp only [Journaled.note, hv, hr, if_true, Journaled.compareAndDelete_eq]
          by_cases hcalm : s.IsCalm
          · rw [hcalm.compareAndDelete ha hkey]
            refine ⟨_, .deleted hkey hentitles ha hcalm, ?_⟩
            simp [StoreCall.key, ContestedStore.erase, hkey, hcalm.store_yield, Table.find?_erase]
          · rw [ContestedStore.compareAndDelete_of_rival hs hn ha hkey hcalm]
            refine ⟨_, .beaten hkey hentitles ha hcalm, ?_⟩
            simp [StoreCall.key, hkey]
        · simp only [Journaled.note, hv, hr, if_false]
          exact ⟨_, .kept (hkept (by simpa [Entitles, hv] using hr)) _, rfl⟩
  · have ha := Bool.eq_false_iff.2 ha
    rw [ContestedStore.get_of_unavailable ha]
    exact ⟨_, .unreachable ha _, rfl⟩

/-- A deletion gives no version, and the rival before it gives one at most.

**Proof sketch.** Only two of the possibilities touch the store: a rival writes once, which gives
one version, or the key is deleted, which gives none and is a step of the store. -/
theorem Withdraws.isReached (h : Withdraws r s l answer s') (hs : s.store.IsReached) {n : Nat}
    (hn : s.store.lastVersion.toNat + (n + 1) < UInt64.size) :
    s'.store.IsReached ∧ s'.store.lastVersion.toNat + n < UInt64.size := by
  cases h with
  | unreachable | kept => exact ⟨hs, by omega⟩
  | beaten => exact ContestedStore.isReached_yield hs hn
  | @deleted v h hv ha hcalm =>
    have hversion : s.store.HasVersion (storageKey r.actor) v.version := by
      simp [MemoryStore.HasVersion, h]
    have herase := hs.delete (storageKey r.actor) v.version
    rw [MemoryStore.compareAndDelete, if_pos hversion] at herase
    simp only [ContestedStore.erase, hcalm.store_yield]
    exact ⟨herase, by omega⟩

/-! ### Nothing else is deleted -/

/-- Says that deletions for the holders of the registrations `rs`, which found the store in the
state `s`, made these accesses and left it in the state `s'`, took nothing but what they were
entitled to. -/
structure DeletesOnly (rs : List Registration) (s : ContestedStore) (l : List Access)
    (s' : ContestedStore) : Prop where
  /-- A change is a deletion of what one of the registrations entitles to at that moment. -/
  deletions : ∀ a ∈ l, a.Changes → a.left = none ∧
    ∃ r ∈ rs, a.call.key = storageKey r.actor ∧ ∃ v, a.met = some v ∧ Entitles r v
  /-- What is gone has been deleted in this way. -/
  gone : ∀ key, s.store.entries.find? key ≠ none → s'.store.entries.find? key = none →
    ∃ a ∈ l, a.call.key = key ∧ a.Changes
  /-- What none of the registrations entitles to is there still, with its version. -/
  survives : ∀ key v, s.store.entries.find? key = some v →
    (∀ r ∈ rs, key = storageKey r.actor → ¬ Entitles r v) → s'.store.entries.find? key = some v

/-- No deletions take nothing. -/
theorem DeletesOnly.refl (s : ContestedStore) : DeletesOnly [] s [] s where
  deletions := by simp
  gone _ hkey hgone := absurd hgone hkey
  survives _ _ h _ := h

/-- A deletion comes before others.

**Proof sketch.** The accesses are those of the first deletion and those of the others.  What is
gone in the end was gone after the first one or went later; what nobody is entitled to survives the
first one and therefore the others. -/
theorem DeletesOnly.cons {rs : List Registration} {l₁ l₂ : List Access}
    {s₁ s₂ : ContestedStore} (h₁ : DeletesOnly [r] s l₁ s₁) (h₂ : DeletesOnly rs s₁ l₂ s₂) :
    DeletesOnly (r :: rs) s (l₁ ++ l₂) s₂ where
  deletions a ha hchanges := by
    rcases List.mem_append.1 ha with ha | ha
    · obtain ⟨hleft, r', hr', h⟩ := h₁.deletions a ha hchanges
      obtain rfl := List.mem_singleton.1 hr'
      exact ⟨hleft, r', List.mem_cons_self, h⟩
    · obtain ⟨hleft, r', hr', h⟩ := h₂.deletions a ha hchanges
      exact ⟨hleft, r', List.mem_cons_of_mem _ hr', h⟩
  gone key hkey hgone := by
    -- The key may have been cleared by the first deletion or by one of the others.
    by_cases hmid : s₁.store.entries.find? key = none
    · obtain ⟨a, ha, h⟩ := h₁.gone key hkey hmid
      exact ⟨a, List.mem_append_left _ ha, h⟩
    · obtain ⟨a, ha, h⟩ := h₂.gone key hmid hgone
      exact ⟨a, List.mem_append_right _ ha, h⟩
  survives key v h hfree := by
    apply h₂.survives key v
    · apply h₁.survives key v h
      intro r' hr'
      obtain rfl := List.mem_singleton.1 hr'
      exact hfree r' List.mem_cons_self
    · intro r' hr'
      exact hfree r' (List.mem_cons_of_mem _ hr')

/-- A key that a rival has written is not absent. -/
theorem find?_yield_ne_none (hrival : ¬ s.IsCalm) (key : String) :
    (s.yield key).store.entries.find? key ≠ none := by
  rcases s.store_yield key with ⟨value, -, h⟩ | ⟨hcalm, -⟩
  · rw [h, MemoryStore.find?_write_self]
    simp
  · exact absurd hcalm hrival

/-- A single deletion takes nothing but what it is entitled to, whether or not a rival comes first.

**Proof sketch.** Each of the three conditions by cases on the possibilities.  Where nothing may be
deleted or the store is out of reach, nothing happens.  Where a rival has come first, one key has
been written and none is gone.  Where the deletion took effect, the value that was met is the one
that was read, and all other keys are as they were. -/
theorem Withdraws.deletesOnly (h : Withdraws r s l answer s') : DeletesOnly [r] s l s' where
  deletions := by
    cases h with
    | unreachable | kept | beaten => simp [Access.Changes]
    | deleted h hv => simpa [Access.Changes, StoreCall.key] using hv
  gone key hkey hgone := by
    cases h with
    | unreachable | kept => exact absurd hgone hkey
    -- The rival has written under the one key that could be gone.
    | beaten h hv ha hrival =>
      by_cases heq : key = storageKey r.actor
      · subst heq
        exact absurd hgone (find?_yield_ne_none hrival _)
      · rw [ContestedStore.find?_yield_of_ne heq] at hgone
        exact absurd hgone hkey
    | deleted h hv ha hcalm =>
      by_cases heq : key = storageKey r.actor
      · subst heq
        exact ⟨_, List.mem_cons_of_mem _ List.mem_cons_self, rfl, by simp [Access.Changes]⟩
      · simp only [ContestedStore.erase, hcalm.store_yield, Table.find?_erase, if_neg heq] at hgone
        exact absurd hgone hkey
  survives key v hfind hfree := by
    have hfree := hfree r List.mem_cons_self
    cases h with
    | unreachable | kept => exact hfind
    -- What was under the key is what the holder was entitled to, so it need not survive.
    | beaten h hv ha hrival =>
      by_cases heq : key = storageKey r.actor
      · rw [heq, h] at hfind
        obtain rfl := Option.some.inj hfind
        exact absurd hv (hfree heq)
      · rw [ContestedStore.find?_yield_of_ne heq]
        exact hfind
    | deleted h hv ha hcalm =>
      by_cases heq : key = storageKey r.actor
      · rw [heq, h] at hfind
        obtain rfl := Option.some.inj hfind
        exact absurd hv (hfree heq)
      · simp only [ContestedStore.erase, hcalm.store_yield, Table.find?_erase, if_neg heq]
        exact hfind

/-- Deletions one after the other take nothing but what they are entitled to, whatever rivals write.

**Proof sketch.** Induction on the registrations.  The first deletion is one of the possibilities
(`withdraws_unregister`) and leaves enough versions for the others (`Withdraws.isReached`); then
`DeletesOnly.cons` puts it before them. -/
theorem deletesOnly_unregisterEach {rs : List Registration} {j : Journaled}
    (hs : j.store.store.IsReached)
    (hn : j.store.store.lastVersion.toNat + rs.length < UInt64.size) :
    ∃ l, DeletesOnly rs j.store l (unregisterEach unregister ⟨j⟩ rs).2.store.store ∧
      (unregisterEach unregister ⟨j⟩ rs).2.store.journal = j.journal ++ l := by
  induction rs generalizing j with
  | nil => exact ⟨[], .refl _, (List.append_nil _).symm⟩
  | cons r rs ih =>
    rw [List.length_cons] at hn
    obtain ⟨l₁, h₁, hjournal₁⟩ := withdraws_unregister hs (by omega) r
    obtain ⟨hs₁, hn₁⟩ := h₁.isReached hs hn
    obtain ⟨l₂, h₂, hjournal₂⟩ := ih (j := (unregister ⟨j⟩ r).2.store) hs₁ hn₁
    refine ⟨l₁ ++ l₂, h₁.deletesOnly.cons h₂, ?_⟩
    rw [← List.append_assoc, ← hjournal₁]
    exact hjournal₂

/-! ### What rivals can change -/

/-- What deletions for the holders of registrations do to the store, which is in the state `s` at
first. -/
def withdrawalJournal (s : ContestedStore) (rs : List Registration) : List Access :=
  (unregisterEach unregister (⟨⟨s, []⟩⟩ : OverStore Journaled) rs).2.store.journal

/-- Deletions over a store without a journal take nothing but what they are entitled to either;
keeping the journal changes nothing. -/
theorem deletesOnly_withdrawalJournal (hs : s.store.IsReached) {rs : List Registration}
    (hn : s.store.lastVersion.toNat + rs.length < UInt64.size) :
    DeletesOnly rs s (withdrawalJournal s rs) (unregisterEach unregister ⟨s⟩ rs).2.store := by
  obtain ⟨l, h, hjournal⟩ := deletesOnly_unregisterEach (j := ⟨s, []⟩) hs hn
  have hforget : unregisterEach unregister ⟨s⟩ rs = _ :=
    unregisterEach_map Journaled.forget rs ⟨⟨s, []⟩⟩
  rw [List.nil_append] at hjournal
  rw [hforget, withdrawalJournal, hjournal]
  exact h

/-- What a deletion answers and leaves behind over a store without a journal is one of the
possibilities too. -/
theorem exists_withdraws (hs : s.store.IsReached)
    (hn : s.store.lastVersion.toNat + 1 < UInt64.size) (r : Registration) :
    ∃ l, Withdraws r s l (unregister ⟨s⟩ r).1 (unregister ⟨s⟩ r).2.store := by
  obtain ⟨l, h, -⟩ := withdraws_unregister (j := ⟨s, []⟩) hs hn r
  have hforget : unregister ⟨s⟩ r = _ := unregister_map Journaled.forget r ⟨⟨s, []⟩⟩
  rw [hforget]
  exact ⟨l, h⟩

/-- Says that there is something that the holder of `r` may delete, and that it can be reached. -/
def Finds (r : Registration) (s : ContestedStore) : Prop :=
  s.store.available = true ∧
    ∃ v, s.store.entries.find? (storageKey r.actor) = some v ∧ Entitles r v

/-- A deletion that finds nothing leaves the store as it is. -/
theorem Withdraws.of_not_finds (h : Withdraws r s l answer s') (hr : ¬ Finds r s) : s' = s := by
  cases h with
  | unreachable | kept => rfl
  | beaten h hv ha | deleted h hv ha => exact absurd ⟨ha, _, h, hv⟩ hr

/-- A deletion that finds something, but which a rival has come before, succeeds and leaves what the
rival has written. -/
theorem Withdraws.of_rival (h : Withdraws r s l answer s') (hr : Finds r s)
    (hrival : ¬ s.IsCalm) : answer = .ok () ∧ s' = s.yield (storageKey r.actor) := by
  obtain ⟨ha, v, hv, he⟩ := hr
  cases h with
  | unreachable h => simp [h] at ha
  | kept h => exact absurd he (h v hv)
  | beaten => exact ⟨rfl, rfl⟩
  | deleted h hv ha hcalm => exact absurd hcalm hrival

/-- A deletion that finds something and that no rival comes before succeeds and erases the key. -/
theorem Withdraws.of_calm (h : Withdraws r s l answer s') (hr : Finds r s) (hcalm : s.IsCalm) :
    answer = .ok () ∧ s' = (s.yield (storageKey r.actor)).erase (storageKey r.actor) := by
  obtain ⟨ha, v, hv, he⟩ := hr
  cases h with
  | unreachable h => simp [h] at ha
  | kept h => exact absurd he (h v hv)
  | beaten h hv ha hrival => exact absurd hcalm hrival
  | deleted => exact ⟨rfl, rfl⟩

/-- Says that a deletion for the holder of `r` which found the store in the state `s` gave this
answer and left it in the state `s'`, as a deletion should. -/
structure WithdrawsAmid (r : Registration) (s : ContestedStore)
    (answer : Except DirectoryError Unit) (s' : ContestedStore) : Prop where
  /-- The store stays as it is, if it cannot be reached or has nothing that may be deleted. -/
  kept : ¬ Finds r s → s' = s
  /-- What a rival has written stays, with a version that nothing had before. -/
  rival : ∀ value, Finds r s → s.rivals.head? = some (some value) →
    answer = .ok () ∧ s' = s.yield (storageKey r.actor) ∧
      s'.store.entries.find? (storageKey r.actor) = some ⟨value, s.store.lastVersion + 1⟩ ∧
      ∀ key v, s.store.entries.find? key = some v → v.version ≠ s.store.lastVersion + 1
  /-- Without a rival, what may be deleted is deleted, and nothing else changes. -/
  removed : Finds r s → s.IsCalm →
    answer = .ok () ∧ s'.store.entries.find? (storageKey r.actor) = none ∧
      ∀ key, key ≠ storageKey r.actor →
        s'.store.entries.find? key = s.store.entries.find? key
  /-- Without a rival, a second deletion changes nothing. -/
  again : s.IsCalm → (unregister ⟨s'⟩ r).2.store = s'

/-- There is nothing left to do for a deletion that finds nothing. -/
theorem unregister_of_not_finds (hs : s.store.IsReached)
    (hn : s.store.lastVersion.toNat + 1 < UInt64.size) (hr : ¬ Finds r s) :
    (unregister ⟨s⟩ r).2.store = s := by
  obtain ⟨l, h⟩ := exists_withdraws hs hn r
  exact h.of_not_finds hr

/-- Under an absent key nothing is found. -/
theorem not_finds_of_eq_none (h : s.store.entries.find? (storageKey r.actor) = none) :
    ¬ Finds r s := by
  rintro ⟨-, v, hv, -⟩
  rw [h] at hv
  contradiction

/-- Each of the ways in which a deletion can go is as a deletion should.

**Proof sketch.** The conditions are `Withdraws.of_not_finds`, `Withdraws.of_rival` and
`Withdraws.of_calm`.  What a rival has written has the version that the store has counted up to, and
no value had a version as great as that (`MemoryStore.IsReached.version_le`).  A second deletion
finds nothing: the first one left the store alone because there was nothing to be found, or has
erased the key. -/
theorem Withdraws.withdrawsAmid (hs : s.store.IsReached)
    (hn : s.store.lastVersion.toNat + 1 < UInt64.size) (h : Withdraws r s l answer s') :
    WithdrawsAmid r s answer s' where
  kept := h.of_not_finds
  rival value hr hrival := by
    have hnot : ¬ s.IsCalm := fun hcalm => hcalm value hrival
    obtain ⟨hanswer, rfl⟩ := h.of_rival hr hnot
    have hfind : (s.yield (storageKey r.actor)).store =
        (s.store.write (storageKey r.actor) value).2 := by
      rcases s.store_yield (storageKey r.actor) with ⟨value', hrival', h⟩ | ⟨hcalm, -⟩
      · obtain rfl := Option.some.inj (Option.some.inj (hrival.symm.trans hrival'))
        exact h
      · exact absurd hcalm hnot
    refine ⟨hanswer, rfl, ?_, ?_⟩
    · rw [hfind, MemoryStore.find?_write_self]
    · -- Versions are counted up, so the new one is greater than all that are in use.
      intro key v hv heq
      have hle := hs.version_le hv
      have hnew := MemoryStore.lastVersion_write hn key value
      change (s.store.lastVersion + 1).toNat = _ at hnew
      rw [heq] at hle
      omega
  removed hr hcalm := by
    obtain ⟨hanswer, rfl⟩ := h.of_calm hr hcalm
    simp only [ContestedStore.erase, hcalm.store_yield, Table.find?_erase, if_true]
    refine ⟨hanswer, trivial, ?_⟩
    intro key hkey
    rw [if_neg hkey]
  again hcalm := by
    by_cases hr : Finds r s
    · -- The key has been erased, so the second deletion finds nothing under it.
      obtain ⟨hs', -⟩ := h.isReached hs hn
      obtain ⟨-, rfl⟩ := h.of_calm hr hcalm
      have hgone : ¬ Finds r ((s.yield (storageKey r.actor)).erase (storageKey r.actor)) :=
        not_finds_of_eq_none (by simp [ContestedStore.erase, Table.find?_erase])
      apply unregister_of_not_finds hs' _ hgone
      simpa only [ContestedStore.erase, hcalm.store_yield] using hn
    · obtain rfl := h.of_not_finds hr
      exact unregister_of_not_finds hs hn hr

/-- It is enough that success is reported as success. -/
theorem WithdrawsAmid.of_answer {answer' : Except DirectoryError Unit}
    (h : WithdrawsAmid r s answer s') (hanswer : answer = .ok () → answer' = .ok ()) :
    WithdrawsAmid r s answer' s' where
  kept := h.kept
  rival value hr hrival := ⟨hanswer (h.rival value hr hrival).1, (h.rival value hr hrival).2⟩
  removed hr hcalm := ⟨hanswer (h.removed hr hcalm).1, (h.removed hr hcalm).2⟩
  again := h.again

/-- Whatever a store holds and whatever rivals write, a directory over it deletes what it is
entitled to delete at that moment, one registration or many, and nothing else.  A deletion that
finds something deletes it, unless a rival writes under the key in between; then the rival's entry
stays.

**Proof sketch.** The single deletion is one of the possibilities (`exists_withdraws`), and
`Withdraws.withdrawsAmid` says what follows.  That nothing else is deleted is
`deletesOnly_withdrawalJournal`, for many registrations and for one.  The directory answers at least
as well as its backend (`WithdrawsAmid.of_answer`). -/
theorem unregister_amid_rivals {d : Directory (OverStore ContestedStore)}
    (hs : d.backend.store.store.IsReached) (r : Registration) (rs : List Registration)
    (hn : d.backend.store.store.lastVersion.toNat + (rs.length + 1) < UInt64.size) :
    DeletesOnly rs d.backend.store (withdrawalJournal d.backend.store rs)
        (Backend.unregisterBatch d.backend rs).2.store ∧
      DeletesOnly [r] d.backend.store (withdrawalJournal d.backend.store [r])
        (Backend.unregister d.backend r).2.store ∧
      WithdrawsAmid r d.backend.store (Backend.unregister d.backend r).1
        (Backend.unregister d.backend r).2.store ∧
      (d.unregister r).2 = d.withBackend (Backend.unregister d.backend r).2 ∧
      WithdrawsAmid r d.backend.store (d.unregister r).1 (d.unregister r).2.backend.store := by
  obtain ⟨l, h⟩ := exists_withdraws hs (by omega) r
  have hone := h.withdrawsAmid hs (by omega)
  refine ⟨deletesOnly_withdrawalJournal hs (by omega), ?_, hone, d.unregister_snd r, ?_⟩
  · exact deletesOnly_withdrawalJournal hs (by simp; omega)
  · rw [d.unregister_snd r]
    exact hone.of_answer d.unregister_of_ok

/-- A registration. -/
def timerOnFirst : Registration := ⟨⟨⟨1⟩, "timer"⟩, .loopback 1 1, ⟨1⟩, none⟩

/-- A directory over a store that holds a registration, where a rival writes the same octets once
more. -/
def copied : Directory (OverStore ContestedStore) := .ofBackend
  { store :=
      { store := (MemoryStore.write {} (storageKey timerOnFirst.actor) timerOnFirst.toStored).2
        rivals := [some timerOnFirst.toStored] } }

/-- The copy that a rival has written stays, although it means the same. -/
theorem unregister_amid_rivals_copied :
    copied.backend.store.store.IsReached ∧
      copied.backend.store.store.lastVersion.toNat + ([timerOnFirst].length + 1) < UInt64.size ∧
      (copied.unregister timerOnFirst).2.backend.store.store.entries.find?
        (storageKey timerOnFirst.actor) = some ⟨timerOnFirst.toStored, 2⟩ := by
  have hreached : copied.backend.store.store.IsReached := .write .empty _ _ (by decide)
  have hversions : copied.backend.store.store.lastVersion.toNat +
      ([timerOnFirst].length + 1) < UInt64.size := by decide
  have hfinds : Finds timerOnFirst copied.backend.store := by
    refine ⟨rfl, ⟨timerOnFirst.toStored, 1⟩, MemoryStore.find?_write_self _ _ _, _,
      decode_toStored _ _, ⟨rfl, rfl, rfl⟩, ?_⟩
    simp [timerOnFirst]
  obtain ⟨-, -, -, -, h⟩ := unregister_amid_rivals hreached timerOnFirst [timerOnFirst] hversions
  exact ⟨hreached, hversions, (h.rival timerOnFirst.toStored hfinds rfl).2.2.1⟩

end OverStore

end ActorLocation
