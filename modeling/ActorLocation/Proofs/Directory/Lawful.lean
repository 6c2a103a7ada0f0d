import ActorLocation.Directory.AnyBackend
import ActorLocation.Proofs.Directory.Contents
import ActorLocation.Proofs.Format.Identity
/-!
# The backends are lawful

The directory in memory and the directory over a store in memory keep the promises of a backend in
every state.  The store may hold anything under any key, and may be switched off.

## Main definitions

* `ActorLocation.InMemory.held`, `OverStore.held`, `AnyBackend.held` — what a state holds.

## Main results

* The instances of `ActorLocation.LawfulBackend`.
* `ActorLocation.OverStore.held_write` — storing a registration under its key changes nothing for
  other actors.
-/

namespace ActorLocation

/-! ### In memory -/

namespace InMemory

/-- What a directory in memory holds: the entries of its table. -/
def held (d : InMemory) : Contents := d.entries.find?

/-- A new directory is well keyed. -/
theorem wellKeyed_held_new : (held {}).WellKeyed := by
  intro id r h
  contradiction

/-- A directory in memory keeps the promises of a backend. -/
instance : LawfulBackend InMemory where
  contents := held
  looked d id := .found
  contents_lookup d id := rfl
  lookup_of_ok h := (Prod.mk.inj h).2.symm
  registered d r := by
    change Registered d.held r (.ok (d.register r).1) (d.register r).2.held
    unfold register
    split
    · next stored h => exact .kept h
    · next h =>
      have hheld : (InMemory.mk (d.entries.insert r.actor (r.withEtag ⟨d.nextEtag⟩))
          (d.nextEtag + 1)).held = d.held.store r.actor (r.withEtag ⟨d.nextEtag⟩) := by
        funext id
        exact Table.find?_insert _ _ _ _
      dsimp only
      rw [hheld]
      exact .stored h _
  unregistered d r := by
    have hheld : (d.unregister r).held = d.held.release r := by
      funext id
      simp only [held, unregister, Table.find?_eraseIf, Contents.release, decide_not]
    change Unregistered d.held r (.ok ()) (d.unregister r).held
    rw [hheld]
    exact .released
  unregisterBatch_eq _ _ := rfl
  dropped d nodes _ := by
    have hheld : (d.unregisterNodes nodes).2.held = d.held.dropNodes nodes := by
      funext id
      exact Table.find?_filter _ _ _
    change Dropped d.held nodes (.ok _) (d.unregisterNodes nodes).2.held
    rw [hheld]
    exact .dropped _

end InMemory

/-! ### Over a store in memory -/

namespace OverStore

/-- What a directory over a store in memory holds: the values under the keys of the actors, as far
as they are registrations of these actors. -/
def held (d : OverStore MemoryStore) : Contents := fun id =>
  (d.store.entries.find? (storageKey id)).bind fun v => (decode id v).toOption

/-- A value that means nothing for an actor is corrupted for it.

The other failures of a directory cannot come from a value: they are those of a store that cannot be
reached, and of registrations that cannot be written down. -/
theorem eq_corrupted_of_decode {id : ActorId} {v : Versioned} {e : DirectoryError}
    (h : decode id v = .error e) : ∃ reason, e = .corrupted id reason := by
  rw [decode] at h
  split at h
  · exact ⟨_, (Except.error.inj h).symm⟩
  · split at h
    · contradiction
    · exact ⟨_, (Except.error.inj h).symm⟩

variable {d : OverStore MemoryStore} {id : ActorId} {r : Registration}

/-- Nothing is held for an actor under whose key there is no value. -/
theorem held_of_find?_eq_none (h : d.store.entries.find? (storageKey id) = none) :
    d.held id = none := by
  rw [held, h]
  rfl

/-- What a value under the key of an actor means for it is held. -/
theorem held_of_decode_eq_ok {v : Versioned}
    (h : d.store.entries.find? (storageKey id) = some v) (hv : decode id v = .ok r) :
    d.held id = some r := by
  rw [held, h, Option.bind_some, hv]
  rfl

/-- A value that means nothing for the actor under whose key it is counts as nothing. -/
theorem held_of_decode_eq_error {v : Versioned} {e : DirectoryError}
    (h : d.store.entries.find? (storageKey id) = some v) (hv : decode id v = .error e) :
    d.held id = none := by
  rw [held, h, Option.bind_some, hv]
  rfl

/-- What is held for an actor is what the value under its key means for it. -/
theorem exists_of_held (h : d.held id = some r) :
    ∃ v, d.store.entries.find? (storageKey id) = some v ∧ decode id v = .ok r := by
  obtain ⟨v, hv, hr⟩ := Option.bind_eq_some_iff.1 h
  refine ⟨v, hv, ?_⟩
  cases hdecode : decode id v with
  | ok s =>
    rw [hdecode] at hr
    rw [← Option.some.inj hr]
  | error e =>
    rw [hdecode] at hr
    contradiction

/-- Whatever a store keeps, a registration is held for its own actor only. -/
theorem wellKeyed_held (d : OverStore MemoryStore) : d.held.WellKeyed := by
  intro id r h
  obtain ⟨v, -, hv⟩ := exists_of_held h
  exact (of_decode_eq_ok hv).1

/-- Storing a registration under its key changes nothing for other actors, whose keys differ. -/
theorem held_write (s : MemoryStore) (r : Registration) :
    held ⟨(s.write (storageKey r.actor) r.toStored).2⟩ =
      (held ⟨s⟩).store r.actor (r.withEtag ⟨(s.write (storageKey r.actor) r.toStored).1⟩) := by
  funext id
  simp only [held, MemoryStore.write, Table.find?_insert, Contents.store]
  by_cases hid : id = r.actor
  · subst hid
    simp only [if_pos, Option.bind_some, decode_toStored]
    rfl
  · rw [if_neg fun h => hid (storageKey_injective h), if_neg hid]

/-- Deleting the key of an actor changes nothing for other actors. -/
theorem held_erase (s : MemoryStore) (id id' : ActorId) :
    held ⟨{ s with entries := s.entries.erase (storageKey id) }⟩ id' =
      if id' = id then none else held ⟨s⟩ id' := by
  simp only [held, Table.find?_erase]
  by_cases hid : id' = id
  · simp [hid]
  · rw [if_neg fun h => hid (storageKey_injective h), if_neg hid]

/-- A look-up returns what is held.

**Proof sketch.** The store is switched off, and the failure is worth another try; or the key is
absent, or its value means something for the actor, and the answer is what is held; or the value
means nothing, and nothing is held. -/
theorem looked (d : OverStore MemoryStore) (id : ActorId) : Looked d.held id (d.lookup id).1 := by
  by_cases ha : d.store.available = true
  · -- The store answers: what it answers with decides.
    cases hf : d.store.entries.find? (storageKey id) with
    | none =>
      have hheld := held_of_find?_eq_none hf
      have hanswer : (d.lookup id).1 = .ok (d.held id) := by
        simp [lookup, VersionedStore.get, MemoryStore.whenAvailable, ha, hf, hheld]
      exact hanswer ▸ .found
    | some v =>
      cases hv : decode id v with
      | ok r =>
        have hheld := held_of_decode_eq_ok hf hv
        have hanswer : (d.lookup id).1 = .ok (d.held id) := by
          simp [lookup, VersionedStore.get, MemoryStore.whenAvailable, ha, hf, hv, hheld,
            Except.map]
        exact hanswer ▸ .found
      | error e =>
        have hheld := held_of_decode_eq_error hf hv
        have hanswer : (d.lookup id).1 = .error e := by
          simp [lookup, VersionedStore.get, MemoryStore.whenAvailable, ha, hf, hv, Except.map]
        exact hanswer ▸ .failed e (.inr hheld)
  · have hanswer : (d.lookup id).1 = .error MemoryStore.switchedOff.toDirectoryError := by
      simp [lookup, VersionedStore.get, MemoryStore.whenAvailable, ha]
    exact hanswer ▸ .failed _ (.inl rfl)

/-- A look-up does not touch the store. -/
theorem lookup_snd (d : OverStore MemoryStore) (id : ActorId) : (d.lookup id).2 = d := by
  simp only [lookup, VersionedStore.get, MemoryStore.whenAvailable]
  split
  all_goals
    next heq =>
    split at heq <;> exact congrArg OverStore.mk (Prod.mk.inj heq).2.symm

/-- What a registration does if no rival interferes: it fails because the store is switched off, it
returns what is held, or the registration is written where nothing is held.

**Proof sketch.** If the key is absent, it is written.  If its value means something for the actor,
that is the answer.  Else the value is replaced at the first attempt, since it still has the version
that was read. -/
theorem register_cases (s : MemoryStore) (r : Registration) :
    (register ⟨s⟩ r = (.error MemoryStore.switchedOff.toDirectoryError, ⟨s⟩) ∧
        s.available = false) ∨
      (∃ stored, register ⟨s⟩ r = (.ok stored, ⟨s⟩) ∧ held ⟨s⟩ r.actor = some stored) ∨
      register ⟨s⟩ r = (.ok (r.withEtag ⟨(s.write (storageKey r.actor) r.toStored).1⟩),
          ⟨(s.write (storageKey r.actor) r.toStored).2⟩) ∧ held ⟨s⟩ r.actor = none := by
  by_cases ha : s.available = true
  · right
    cases hf : s.entries.find? (storageKey r.actor) with
    | none =>
      refine .inr ⟨?_, held_of_find?_eq_none hf⟩
      simp [register, registerWithin, maxAttempts, VersionedStore.putIfAbsent,
        MemoryStore.whenAvailable, MemoryStore.putIfAbsent, ha, hf]
    | some v =>
      cases hv : decode r.actor v with
      | ok stored =>
        refine .inl ⟨stored, ?_, held_of_decode_eq_ok hf hv⟩
        simp [register, registerWithin, maxAttempts, VersionedStore.putIfAbsent,
          MemoryStore.whenAvailable, MemoryStore.putIfAbsent, ha, hf, hv]
      | error e =>
        -- An entry that means nothing for the actor is replaced at the version that was read.
        obtain ⟨reason, rfl⟩ := eq_corrupted_of_decode hv
        have hversion : s.HasVersion (storageKey r.actor) v.version := by
          simp [MemoryStore.HasVersion, hf]
        refine .inr ⟨?_, held_of_decode_eq_error hf hv⟩
        simp [register, registerWithin, maxAttempts, VersionedStore.putIfAbsent,
          VersionedStore.compareAndSwap, MemoryStore.whenAvailable, MemoryStore.putIfAbsent,
          MemoryStore.compareAndSwap, ha, hf, hv, hversion]
  · refine .inl ⟨?_, Bool.eq_false_iff.2 ha⟩
    simp [register, registerWithin, maxAttempts, VersionedStore.putIfAbsent,
      MemoryStore.whenAvailable, ha]

/-- A registration does not overwrite.

**Proof sketch.** Each case of `register_cases` is one of the ways of `Registered`; what is written
is read back (`held_write`). -/
theorem registered (d : OverStore MemoryStore) (r : Registration) :
    Registered d.held r (d.register r).1 (d.register r).2.held := by
  rcases register_cases d.store r with ⟨h, -⟩ | ⟨stored, h, hheld⟩ | ⟨h, hheld⟩
  · rw [h]
    exact .failed _
  · rw [h]
    exact .kept hheld
  · rw [h, held_write]
    exact .stored hheld _

/-- What a deletion does if no rival interferes: it fails because the store is switched off, it
meets a corrupted entry, it leaves alone what is not released, or it erases the key of what is
released.  Between the look at the value and its deletion, the version does not change.

**Proof sketch.** By cases on the key: absent, with a value that means nothing, or with one that
means something, which is released or not.  Only in the last case does the code come to a second
call of the store. -/
theorem unregister_cases (s : MemoryStore) (r : Registration) :
    (unregister ⟨s⟩ r = (.error MemoryStore.switchedOff.toDirectoryError, ⟨s⟩) ∧
        s.available = false) ∨
      (∃ reason, unregister ⟨s⟩ r = (.error (.corrupted r.actor reason), ⟨s⟩) ∧
        held ⟨s⟩ r.actor = none) ∨
      (unregister ⟨s⟩ r = (.ok (), ⟨s⟩) ∧
        ∀ stored, held ⟨s⟩ r.actor = some stored → ¬ r.Releases stored) ∨
      unregister ⟨s⟩ r = (.ok (), ⟨{ s with entries := s.entries.erase (storageKey r.actor) }⟩) ∧
        ∃ stored, held ⟨s⟩ r.actor = some stored ∧ r.Releases stored := by
  by_cases ha : s.available = true
  · right
    cases hf : s.entries.find? (storageKey r.actor) with
    | none =>
      have hheld := held_of_find?_eq_none hf
      refine .inr (.inl ⟨?_, by simp [hheld]⟩)
      simp [unregister, VersionedStore.get, MemoryStore.whenAvailable, ha, hf]
    | some v =>
      cases hv : decode r.actor v with
      | error e =>
        obtain ⟨reason, rfl⟩ := eq_corrupted_of_decode hv
        refine .inl ⟨reason, ?_, held_of_decode_eq_error hf hv⟩
        simp [unregister, VersionedStore.get, MemoryStore.whenAvailable, ha, hf, hv]
      | ok stored =>
        have hheld := held_of_decode_eq_ok hf hv
        by_cases hr : r.Releases stored
        · -- No rival interferes, so the version is still the one that was read.
          have hversion : s.HasVersion (storageKey r.actor) v.version := by
            simp [MemoryStore.HasVersion, hf]
          refine .inr (.inr ⟨?_, stored, hheld, hr⟩)
          simp [unregister, VersionedStore.get, VersionedStore.compareAndDelete,
            MemoryStore.whenAvailable, MemoryStore.compareAndDelete, ha, hf, hv, hr, hversion]
        · refine .inr (.inl ⟨?_, by simp [hheld, hr]⟩)
          simp [unregister, VersionedStore.get, MemoryStore.whenAvailable, ha, hf, hv, hr]
  · refine .inl ⟨?_, Bool.eq_false_iff.2 ha⟩
    simp [unregister, VersionedStore.get, MemoryStore.whenAvailable, ha]

/-- A deletion deletes what the holder is entitled to delete.

**Proof sketch.** Each case of `unregister_cases` is one of the ways of `Unregistered`.  A corrupted
entry and a registration that is not released stay, and releasing changes nothing there; where the
key is erased, the release takes away the one registration that was held for it (`held_erase`). -/
theorem unregistered (d : OverStore MemoryStore) (r : Registration) :
    Unregistered d.held r (d.unregister r).1 (d.unregister r).2.held := by
  obtain ⟨s⟩ := d
  rcases unregister_cases s r with
    ⟨h, -⟩ | ⟨reason, h, hheld⟩ | ⟨h, hkept⟩ | ⟨h, stored, hheld, hr⟩
  · rw [h]
    exact .failed _ (.inl rfl)
  · rw [h]
    exact .failed _ (.inr hheld)
  · have hreleased : Unregistered (held ⟨s⟩) r (.ok ()) ((held ⟨s⟩).release r) := .released
    rw [Contents.release_eq_self hkept] at hreleased
    rwa [h]
  · -- The key is erased, and with it the one registration that was held for it.
    have hrelease : held ⟨{ s with entries := s.entries.erase (storageKey r.actor) }⟩ =
        (held ⟨s⟩).release r := by
      funext id
      rw [held_erase, Contents.release]
      split
      · next hid => rw [hid, hheld, Option.filter_some, if_neg (by simp [hr])]
      · rfl
    rw [h, hrelease]
    exact .released

/-- A directory over a store in memory keeps the promises of a backend. -/
instance : LawfulBackend (OverStore MemoryStore) where
  contents := held
  looked := looked
  contents_lookup d id := congrArg held (d.lookup_snd id)
  lookup_of_ok h := by
    rw [← (Prod.mk.inj h).2]
    exact lookup_snd _ _
  registered := registered
  unregistered := unregistered
  unregisterBatch_eq _ _ := rfl
  dropped _ _ h := absurd h (by simp [Backend.capabilities])

end OverStore

/-! ### Either kind -/

namespace AnyBackend

/-- What a directory of either kind holds. -/
def held : AnyBackend MemoryStore → Contents
  | inMemory d => d.held
  | overStore d => d.held

/-- A directory of either kind keeps the promises of a backend. -/
instance : LawfulBackend (AnyBackend MemoryStore) where
  contents := held
  looked
    | inMemory d, id => LawfulBackend.looked d id
    | overStore d, id => LawfulBackend.looked d id
  contents_lookup
    | inMemory d, id => LawfulBackend.contents_lookup d id
    | overStore d, id => LawfulBackend.contents_lookup d id
  lookup_of_ok {s _ id _} h := by
    rw [← (Prod.mk.inj h).2]
    cases s with
    | inMemory d => rfl
    | overStore d => exact congrArg overStore (d.lookup_snd id)
  registered
    | inMemory d, r => LawfulBackend.registered d r
    | overStore d, r => LawfulBackend.registered d r
  unregistered
    | inMemory d, r => LawfulBackend.unregistered d r
    | overStore d, r => LawfulBackend.unregistered d r
  unregisterBatch_eq _ _ := rfl
  dropped
    | inMemory d, nodes, h => LawfulBackend.dropped d nodes h
    | overStore d, nodes, h => LawfulBackend.dropped d nodes h

end AnyBackend

end ActorLocation
