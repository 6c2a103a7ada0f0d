import ActorLocation.Proofs.Directory.Lawful
import ActorLocation.Proofs.Membership.Death
import ActorLocation.Proofs.Store.Journal
/-!
# Registering amid rivals

A registration over a store tries to write under an absent key, and replaces what it finds there if
that means nothing for its actor.  Rivals may write under the key before each replacement.  Whatever
they write, a registration that was stored is not overwritten: the replacement depends on the
version that was found to mean nothing, and no version is given twice.

## Main definitions

* `OverStore.Tries` — the accesses of a registration to the store, with its answer.
* `OverStore.registrationJournal` — what a registration does to the store.
* `OverStore.RegistersAmid` — what rivals cannot keep a registration from observing.

## Main results

* `OverStore.tries_registerWithin` — what a registration does is one of its possible tries.
* `OverStore.register_amid_rivals` — a registration overwrites nothing that means something for its
  actor, and tells the truth about what is stored.
-/

namespace ActorLocation

namespace OverStore

/-! ### The tries of a registration -/

/-- Says that a registration of `r` which may try a number of times makes these accesses to the
store, gives this answer, and leaves the store in the last state. -/
inductive Tries (r : Registration) : Nat → ContestedStore → List Access →
    Except DirectoryError Registration → ContestedStore → Prop where
  /-- Every try was in vain. -/
  | exhausted (s : ContestedStore) (e : DirectoryError) : Tries r 0 s [] (.error e) s
  /-- The store cannot be reached. -/
  | unreachable (n : Nat) (s : ContestedStore) (e : DirectoryError) :
    Tries r (n + 1) s
      [⟨.putIfAbsent (storageKey r.actor) r.toStored, s.store.entries.find? (storageKey r.actor),
        s.store.entries.find? (storageKey r.actor)⟩]
      (.error e) s
  /-- The key is absent, and is written. -/
  | inserted (n : Nat) {s : ContestedStore}
    (h : s.store.entries.find? (storageKey r.actor) = none) :
    Tries r (n + 1) s
      [⟨.putIfAbsent (storageKey r.actor) r.toStored, none,
        some ⟨r.toStored, s.store.lastVersion + 1⟩⟩]
      (.ok (r.withEtag ⟨s.store.lastVersion + 1⟩)) (s.write (storageKey r.actor) r.toStored)
  /-- The actor has a registration, and it is kept. -/
  | found (n : Nat) {s : ContestedStore} {v : Versioned} {stored : Registration}
    (h : s.store.entries.find? (storageKey r.actor) = some v) (hv : decode r.actor v = .ok stored) :
    Tries r (n + 1) s [⟨.putIfAbsent (storageKey r.actor) r.toStored, some v, some v⟩]
      (.ok stored) s
  /-- A value that means nothing for the actor is replaced, since no rival has replaced it. -/
  | replaced (n : Nat) {s : ContestedStore} {v : Versioned} {e : DirectoryError}
    (h : s.store.entries.find? (storageKey r.actor) = some v) (hv : decode r.actor v = .error e)
    (hcalm : s.IsCalm) :
    Tries r (n + 1) s
      [⟨.putIfAbsent (storageKey r.actor) r.toStored, some v, some v⟩,
        ⟨.compareAndSwap (storageKey r.actor) v.version r.toStored, some v,
          some ⟨r.toStored, s.store.lastVersion + 1⟩⟩]
      (.ok (r.withEtag ⟨s.store.lastVersion + 1⟩))
      ((s.yield (storageKey r.actor)).write (storageKey r.actor) r.toStored)
  /-- A rival has replaced a value that means nothing for the actor, and another try follows. -/
  | beaten {n : Nat} {s s' : ContestedStore} (v : Versioned) {l : List Access}
    {answer : Except DirectoryError Registration}
    (h : Tries r n (s.yield (storageKey r.actor)) l answer s') :
    Tries r (n + 1) s
      (⟨.putIfAbsent (storageKey r.actor) r.toStored, some v, some v⟩ ::
        ⟨.compareAndSwap (storageKey r.actor) v.version r.toStored,
          (s.yield (storageKey r.actor)).store.entries.find? (storageKey r.actor),
          (s.yield (storageKey r.actor)).store.entries.find? (storageKey r.actor)⟩ :: l)
      answer s'

variable {r : Registration} {n : Nat} {s s' : ContestedStore} {l : List Access}
  {answer : Except DirectoryError Registration}

/-- What a registration notes in its journal, answers and leaves behind is one of its possible
tries.

**Proof sketch.** The number of tries counts down.  In each the store is out of reach, or the key is
absent, or its value means something for the actor, or it does not; in the last case it matters
whether a rival comes before the replacement, which may give one more version. -/
theorem tries_registerWithin {j : Journaled} (hs : j.store.store.IsReached)
    (hn : j.store.store.lastVersion.toNat + n < UInt64.size) (r : Registration) :
    ∃ l, Tries r n j.store l (registerWithin r n ⟨j⟩).1 (registerWithin r n ⟨j⟩).2.store.store ∧
      (registerWithin r n ⟨j⟩).2.store.journal = j.journal ++ l := by
  induction n generalizing j with
  | zero => exact ⟨[], .exhausted _ _, (List.append_nil _).symm⟩
  | succ n ih =>
    obtain ⟨s, journal⟩ := j
    simp only at hs hn
    rw [registerWithin, Journaled.putIfAbsent_eq]
    by_cases ha : s.store.available = true
    · cases hkey : s.store.entries.find? (storageKey r.actor) with
      | none =>
        rw [ContestedStore.putIfAbsent_of_absent ha hkey]
        refine ⟨_, .inserted n hkey, ?_⟩
        simp [Journaled.note, StoreCall.key, hkey, ContestedStore.write]
      | some v =>
        rw [ContestedStore.putIfAbsent_of_present ha hkey]
        cases hv : decode r.actor v with
        | ok stored =>
          simp only [Journaled.note, hv]
          refine ⟨_, .found n hkey hv, ?_⟩
          simp [StoreCall.key, hkey]
        | error e =>
          obtain ⟨reason, rfl⟩ := eq_corrupted_of_decode hv
          simp only [Journaled.note, hv, Journaled.compareAndSwap_eq]
          -- The value means nothing.  It is replaced, unless a rival comes first.
          by_cases hcalm : s.IsCalm
          · rw [hcalm.compareAndSwap ha hkey]
            refine ⟨_, .replaced n hkey hv hcalm, ?_⟩
            simp [StoreCall.key, ContestedStore.write, hkey, hcalm.store_yield]
          · rw [ContestedStore.compareAndSwap_of_rival hs (by omega) ha hkey hcalm]
            obtain ⟨hs', hn'⟩ := ContestedStore.isReached_yield hs hn
            dsimp only [StoreCall.key]
            rw [hkey]
            obtain ⟨l, hl, hjournal⟩ := ih (j := ⟨s.yield (storageKey r.actor), _⟩) hs' hn'
            refine ⟨_, .beaten v hl, ?_⟩
            rw [hjournal, List.append_assoc, List.append_assoc]
            rfl
    · rw [ContestedStore.putIfAbsent_of_unavailable (Bool.eq_false_iff.2 ha)]
      exact ⟨_, .unreachable n s _, rfl⟩

/-- Each access is to the key of the actor. -/
theorem Tries.key_eq (h : Tries r n s l answer s') :
    ∀ a ∈ l, a.call.key = storageKey r.actor := by
  induction h with
  | exhausted | unreachable | inserted | found | replaced => simp [StoreCall.key]
  | beaten v h ih => simpa [StoreCall.key] using ih

/-- No more insertions are tried than there are tries.

**Proof sketch.** Induction on the tries: each try inserts once. -/
theorem Tries.countP_isInsertion_le (h : Tries r n s l answer s') :
    l.countP (·.call.isInsertion) ≤ n := by
  induction h with
  | exhausted => simp
  | unreachable | inserted | found | replaced => simp [StoreCall.isInsertion]
  | beaten v h ih =>
    rw [List.countP_cons_of_pos rfl, List.countP_cons_of_neg Bool.false_ne_true]
    exact Nat.succ_le_succ ih

/-- A change writes the registration where nothing means anything for its actor.

**Proof sketch.** Induction on the tries.  An insertion changes an absent key, and a replacement a
value that means nothing; the accesses of a try that a rival has beaten change nothing. -/
theorem Tries.of_changes (h : Tries r n s l answer s') :
    ∀ a ∈ l, a.Changes →
      (∀ v ∈ a.met, ∃ e, decode r.actor v = .error e) ∧
        ∃ version, a.left = some ⟨r.toStored, version⟩ := by
  induction h with
  | exhausted | unreachable | found => simp [Access.Changes]
  | inserted | replaced => simp_all [Access.Changes]
  | beaten v h ih =>
    intro a ha hchanges
    simp only [List.mem_cons] at ha
    rcases ha with rfl | rfl | ha
    · exact absurd rfl hchanges
    · exact absurd rfl hchanges
    · exact ih a ha hchanges

/-- A registration that fails has changed nothing, and one that succeeds has found its answer or
written it.  All else is due to rivals, of which there is at most one for each try.

**Proof sketch.** Induction on the tries, counting the rivals: one for each try that was beaten, and
one turn for the replacement that came before all rivals.  The last try is the one that decides. -/
theorem Tries.outcome (h : Tries r n s l answer s') :
    ∃ k ≤ n,
      ((∀ a ∈ l, ¬ a.Changes) ∧ s' = s.yieldTimes (storageKey r.actor) k ∧
        ∀ stored, answer = .ok stored → ∃ v,
          s'.store.entries.find? (storageKey r.actor) = some v ∧ decode r.actor v = .ok stored) ∨
      s' = (s.yieldTimes (storageKey r.actor) k).write (storageKey r.actor) r.toStored ∧
        answer = .ok (r.withEtag
          ⟨(s.yieldTimes (storageKey r.actor) k).store.lastVersion + 1⟩) := by
  induction h with
  | exhausted s e => exact ⟨0, Nat.le_refl _, .inl ⟨by simp, rfl, by simp⟩⟩
  | unreachable n s e =>
    exact ⟨0, Nat.zero_le _, .inl ⟨by simp [Access.Changes], rfl, by simp⟩⟩
  | inserted n h => exact ⟨0, Nat.zero_le _, .inr ⟨rfl, rfl⟩⟩
  | @found n s v stored h hv =>
    refine ⟨0, Nat.zero_le _, .inl ⟨by simp [Access.Changes], rfl, ?_⟩⟩
    intro stored' hstored
    exact ⟨v, h, hv.trans hstored⟩
  -- The replacement takes its turn before any rival.
  | @replaced n s v e h hv hcalm =>
    refine ⟨1, Nat.succ_le_succ (Nat.zero_le _), .inr ⟨rfl, ?_⟩⟩
    simp only [ContestedStore.yieldTimes, hcalm.store_yield]
  | beaten v h ih =>
    obtain ⟨k, hk, ⟨hsame, hs', hfound⟩ | hwritten⟩ := ih
    · refine ⟨k + 1, Nat.succ_le_succ hk, .inl ⟨?_, hs', hfound⟩⟩
      simpa [Access.Changes] using hsame
    · exact ⟨k + 1, Nat.succ_le_succ hk, .inr hwritten⟩

/-! ### What rivals cannot change -/

/-- What a registration of `r` does to the store, which is in the state `s` at first. -/
def registrationJournal (s : ContestedStore) (r : Registration) : List Access :=
  (register (⟨⟨s, []⟩⟩ : OverStore Journaled) r).2.store.journal

/-- Says that a registration of `r` which met the store in the state `s` made these accesses, gave
this answer and left the store in the state `s'`, as a registration should whatever rivals do. -/
structure RegistersAmid (r : Registration) (s : ContestedStore) (l : List Access)
    (answer : Except DirectoryError Registration) (s' : ContestedStore) : Prop where
  /-- Nothing was overwritten that meant something for the actor: a change wrote the registration
  where there was nothing, or nothing of the kind. -/
  changes : ∀ a ∈ l, a.Changes →
    (∀ v ∈ a.met, ∃ e, decode r.actor v = .error e) ∧
      ∃ version, a.left = some ⟨r.toStored, version⟩
  /-- It ended after a few attempts at an insertion. -/
  insertions : l.countP (·.call.isInsertion) ≤ maxAttempts
  /-- An answer tells what is under the key now, with its version, and what was written describes
  the activation of `r`. -/
  told : ∀ stored, answer = .ok stored →
    (∃ v, s'.store.entries.find? (storageKey r.actor) = some v ∧
      decode r.actor v = .ok stored ∧ stored.etag = some ⟨v.version⟩) ∧
    ((∃ a ∈ l, a.Changes) → stored.SameActivation r)
  /-- If it failed, then nothing was changed but by rivals. -/
  failed : ∀ e, answer = .error e →
    (∀ a ∈ l, ¬ a.Changes) ∧ ∃ k ≤ maxAttempts, s' = s.yieldTimes (storageKey r.actor) k
  /-- It had to do with the key of the actor only. -/
  key_eq : ∀ a ∈ l, a.call.key = storageKey r.actor
  /-- All other keys are as they were. -/
  others : ∀ key, key ≠ storageKey r.actor →
    s'.store.entries.find? key = s.store.entries.find? key

/-- Whatever accesses a registration tries, it behaves as it should.

**Proof sketch.** What was told and what was left are read off `Tries.outcome`: either nothing was
changed but by rivals, and an answer was found under the key, or the last thing that happened was
that the registration was written.  Rivals write under this one key, so that the others are as they
were. -/
theorem Tries.registersAmid (h : Tries r maxAttempts s l answer s') :
    RegistersAmid r s l answer s' where
  changes := h.of_changes
  insertions := h.countP_isInsertion_le
  told stored hok := by
    obtain ⟨k, -, ⟨hsame, -, hfound⟩ | ⟨rfl, hanswer⟩⟩ := h.outcome
    · obtain ⟨v, hv, hdecode⟩ := hfound stored hok
      refine ⟨⟨v, hv, hdecode, (of_decode_eq_ok hdecode).2⟩, ?_⟩
      rintro ⟨a, ha, hchanges⟩
      exact absurd hchanges (hsame a ha)
    · -- The registration was written last, so it is what the key has now.
      obtain rfl := Except.ok.inj (hok.symm.trans hanswer)
      refine ⟨⟨_, MemoryStore.find?_write_self _ _ _, decode_toStored _ _, rfl⟩, ?_⟩
      intro _
      exact ⟨rfl, rfl, rfl⟩
  failed e herror := by
    obtain ⟨k, hk, ⟨hsame, hs', -⟩ | ⟨-, hanswer⟩⟩ := h.outcome
    · exact ⟨hsame, k, hk, hs'⟩
    · exact absurd (herror.symm.trans hanswer) (by simp)
  key_eq := h.key_eq
  others key hkey := by
    obtain ⟨k, -, ⟨-, rfl, -⟩ | ⟨rfl, -⟩⟩ := h.outcome
    · exact ContestedStore.find?_yieldTimes_of_ne hkey k
    · rw [ContestedStore.write, MemoryStore.find?_write_of_ne _ _ hkey,
        ContestedStore.find?_yieldTimes_of_ne hkey k]

/-- Whatever a store holds and whatever rivals write before each replacement, a registration
overwrites nothing that means something for its actor.  If it succeeds then its answer is what is
stored, and if it fails then only rivals have written.  It needs at most one version more than there
are rivals, so the versions must not run out.

**Proof sketch.** The accesses that are noted in the journal are those of the store without one
(`registerWithin_map`).  By `tries_registerWithin` they are one of the possible tries, of which
`Tries.registersAmid` says the rest. -/
theorem register_amid_rivals {s : ContestedStore} (hs : s.store.IsReached)
    (hn : s.store.lastVersion.toNat + maxAttempts < UInt64.size) (r : Registration) :
    RegistersAmid r s (registrationJournal s r) (register ⟨s⟩ r).1 (register ⟨s⟩ r).2.store := by
  obtain ⟨l, htries, hjournal⟩ := tries_registerWithin (j := ⟨s, []⟩) hs hn r
  have hforget := registerWithin_map Journaled.forget r maxAttempts ⟨⟨s, []⟩⟩
  have hregister : register ⟨s⟩ r = _ := hforget
  rw [List.nil_append] at hjournal
  rw [hregister, registrationJournal, register, hjournal]
  exact htries.registersAmid

/-- A registration. -/
def counterOnFirst : Registration := ⟨⟨⟨1⟩, "counter"⟩, .loopback 1 1, ⟨1⟩, none⟩

/-- A store that holds nothing of the kind under the key of an actor, where a rival writes something
else that means nothing, and the next one registers the actor on another node. -/
def overtaken : ContestedStore where
  store := (MemoryStore.write {} (storageKey counterOnFirst.actor) [0x7b]).2
  rivals := [some [0x5b], some { counterOnFirst with node := .loopback 2 1 }.toStored]

/-- Two rivals come first, and the second one wins. -/
theorem register_amid_rivals_overtaken :
    overtaken.store.IsReached ∧ overtaken.store.lastVersion.toNat + maxAttempts < UInt64.size ∧
      RegistersAmid counterOnFirst overtaken (registrationJournal overtaken counterOnFirst)
        (register ⟨overtaken⟩ counterOnFirst).1 (register ⟨overtaken⟩ counterOnFirst).2.store := by
  have hreached : overtaken.store.IsReached := .write .empty _ _ (by decide)
  have hversions : overtaken.store.lastVersion.toNat + maxAttempts < UInt64.size := by decide
  exact ⟨hreached, hversions, register_amid_rivals hreached hversions counterOnFirst⟩

end OverStore

end ActorLocation
