import ActorLocation.Proofs.Directory.Equivalence
import ActorLocation.Proofs.Membership.Death
import ActorLocation.Proofs.Store.Lawful
/-!
# Storage keys do not collide

A directory over a store keeps the registration of each actor under a key of its own.  The key
begins with the type in a fixed width, so that it can be taken apart again, whatever the rest of it
holds.

Registering writes under the key of the actor and nowhere else, and what it writes means something
for that actor.  Hence, if nobody but the directory writes to the store, then no value under the key
of an actor is corrupted, and registering other actors leaves it as it is.  If two actors had one
key, then each of them would take the registration of the other for a corrupted value, and replace
it.

The store may be any store that keeps its promises, and may fail at any time.  Calls may overlap.

## Main definitions

* `OverStore.entry` — the value under the key of an actor.
* `OverStore.ChangesTo` — which values may be new in a state.
* `OverStore.IsUncorrupted` — the value under the key of an actor means something for it.
* `OverStore.IsOwn` — nobody but the directory has written to the store.
* `OverStore.RegistersOthers` — what happened was that other actors were registered.

## Main results

* `OverStore.storageKey_eq_iff` — actors with one key are equal.
* `OverStore.changesTo_registerWithin`, `OverStore.changesTo_unregister` — what a call may change.
* `OverStore.IsOwn.isUncorrupted`, `OverStore.RegistersOthers.entry_eq` — what runs preserve.
* `OverStore.entries_never_collide` — no actor gets in the way of another one.
-/

namespace ActorLocation

namespace OverStore

/-! ### Keys -/

/-- Actors with one key have one type and one key within it. -/
theorem storageKey_eq_iff {a b : ActorId} :
    storageKey a = storageKey b ↔ a.actorType.tag = b.actorType.tag ∧ a.key = b.key := by
  constructor
  · intro h
    rw [storageKey_injective h]
    exact ⟨rfl, rfl⟩
  · rintro ⟨htag, hkey⟩
    obtain ⟨⟨s⟩, k⟩ := a
    obtain ⟨⟨t⟩, l⟩ := b
    simp only at htag hkey
    rw [htag, hkey]

variable {τ : Type} [VersionedStore τ]

/-! ### Accesses -/

/-- The accesses by which a registration of `r` may change the store: an insertion, or a replacement
of whatever version. -/
inductive Attempts (r : Registration) (s : τ) : τ → Prop where
  /-- An insertion is attempted. -/
  | insertion : Attempts r s (VersionedStore.putIfAbsent s (storageKey r.actor) r.toStored).2
  /-- A replacement is attempted. -/
  | replacement (expected : UInt64) :
    Attempts r s (VersionedStore.compareAndSwap s (storageKey r.actor) expected r.toStored).2

/-- An insertion under the key of its actor is an attempt of a registration, whatever the store
answers. -/
theorem Attempts.of_putIfAbsent {r : Registration} {s s' : τ}
    {answer : Except StoreError PutOutcome}
    (h : VersionedStore.putIfAbsent s (storageKey r.actor) r.toStored = (answer, s')) :
    Attempts r s s' := by
  have hattempt := Attempts.insertion (r := r) (s := s)
  rwa [h] at hattempt

/-- A replacement under the key of its actor is an attempt of a registration, whatever the store
answers. -/
theorem Attempts.of_compareAndSwap {r : Registration} {s s' : τ} {expected : UInt64}
    {answer : Except StoreError (Option UInt64)}
    (h : VersionedStore.compareAndSwap s (storageKey r.actor) expected r.toStored = (answer, s')) :
    Attempts r s s' := by
  have hattempt := Attempts.replacement (r := r) (s := s) expected
  rwa [h] at hattempt

/-! ### What calls may change -/

variable [LawfulStore τ]

/-- The value under the key of an actor, if there is one. -/
def entry (d : OverStore τ) (id : ActorId) : Option Versioned :=
  LawfulStore.values d.store (storageKey id)

/-- Says that what is under the key of an actor in `d'` was there in `d`, or satisfies `P` for that
actor. -/
def ChangesTo (P : ActorId → Option Versioned → Prop) (d d' : OverStore τ) : Prop :=
  ∀ id, d'.entry id = d.entry id ∨ P id (d'.entry id)

/-- What a registration of `r` may leave under the key of an actor. -/
def Writes (r : Registration) (id : ActorId) (v : Option Versioned) : Prop :=
  id = r.actor ∧ ∃ version, v = some ⟨r.toStored, version⟩

/-- What a deletion may leave under the key of an actor. -/
def Clears (_ : ActorId) (v : Option Versioned) : Prop := v = none

section Changes

variable {P : ActorId → Option Versioned → Prop} {d d' d'' : OverStore τ}

/-- What is new after two changes is new after one of them. -/
theorem ChangesTo.trans (h : ChangesTo P d d') (h' : ChangesTo P d' d'') : ChangesTo P d d'' := by
  intro id
  rcases h' id with hid | hid
  · rw [hid]
    exact h id
  · exact .inr hid

/-- A store that has kept all values has changed nothing. -/
theorem changesTo_of_values {s : τ} (h : LawfulStore.values s = LawfulStore.values d.store) :
    ChangesTo P d ⟨s⟩ := by
  intro id
  left
  exact congrFun h _

/-- Assigning something to the key of an actor changes nothing for the others, whose keys differ. -/
theorem changesTo_of_update {id : ActorId} {v : Option Versioned} {s s' : τ} (hv : P id v)
    (h : LawfulStore.values s' = Function.update (LawfulStore.values s) (storageKey id) v) :
    ChangesTo P ⟨s⟩ ⟨s'⟩ := by
  intro id'
  by_cases hid : id' = id
  · right
    rw [hid, entry, h, Function.update_self]
    exact hv
  · left
    rw [entry, h, Function.update_of_ne fun hkey => hid (storageKey_injective hkey)]
    rfl

end Changes

/-- An attempt to write a registration writes it, or changes nothing. -/
theorem Attempts.changesTo {r : Registration} {s s' : τ} (h : Attempts r s s') :
    ChangesTo (Writes r) ⟨s⟩ ⟨s'⟩ := by
  have hassigned : LawfulStore.values s' = LawfulStore.values s ∨ ∃ version,
      LawfulStore.values s' = Function.update (LawfulStore.values s) (storageKey r.actor)
        (some ⟨r.toStored, version⟩) := by
    cases h with
    | insertion => exact (LawfulStore.inserted s _ _).eq_or_assigned
    | replacement expected => exact (LawfulStore.swapped s _ _ _).eq_or_assigned
  rcases hassigned with h | ⟨version, h⟩
  · exact changesTo_of_values h
  · exact changesTo_of_update ⟨rfl, version, rfl⟩ h

/-- A registration writes itself under the key of its actor, or it changes nothing, however often it
is tried and whether or not it fails.

**Proof sketch.** The number of tries counts down.  Each try attempts an insertion, and then perhaps
a replacement before the next one; the accesses are attempts (`Attempts.changesTo`), and whatever
branch is taken, nothing else touches the store. -/
theorem changesTo_registerWithin (r : Registration) (n : Nat) (d : OverStore τ) :
    ChangesTo (Writes r) d (registerWithin r n d).2 := by
  induction n generalizing d with
  | zero => exact changesTo_of_values rfl
  | succ n ih =>
    obtain ⟨s⟩ := d
    rw [registerWithin]
    rcases hput : VersionedStore.putIfAbsent s (storageKey r.actor) r.toStored with ⟨answer, s₁⟩
    have hfirst := (Attempts.of_putIfAbsent hput).changesTo
    rcases answer with e | version | v
    · exact hfirst
    · exact hfirst
    · dsimp only
      split
      · exact hfirst
      · -- Something meaningless is under the key, and is to be replaced.
        rcases hswap : VersionedStore.compareAndSwap s₁ (storageKey r.actor) v.version r.toStored
          with ⟨answer, s₂⟩
        have hsecond := hfirst.trans (Attempts.of_compareAndSwap hswap).changesTo
        rcases answer with e | _ | version
        · exact hsecond
        · exact hsecond.trans (ih ⟨s₂⟩)
        · exact hsecond
      · exact hfirst

/-- A look-up changes no value. -/
theorem changesTo_lookup {P : ActorId → Option Versioned → Prop} (d : OverStore τ) (id : ActorId) :
    ChangesTo P d (lookup d id).2 := by
  have hget := LawfulStore.values_get d.store (storageKey id)
  rw [lookup]
  split
  all_goals
    next heq =>
    rw [heq] at hget
    exact changesTo_of_values hget

/-- The deletion of the key of an actor clears it, or changes nothing. -/
theorem changesTo_compareAndDelete (s : τ) (id : ActorId) (expected : UInt64) :
    ChangesTo Clears ⟨s⟩ ⟨(VersionedStore.compareAndDelete s (storageKey id) expected).2⟩ := by
  rcases (LawfulStore.erased s (storageKey id) expected).eq_or_erased with h | h
  · exact changesTo_of_values h
  · exact changesTo_of_update rfl h

/-- A deletion clears the key of its actor, or it changes nothing, whether or not it fails.

**Proof sketch.** Reading changes no value (`LawfulStore.values_get`).  What follows, if anything,
is one conditional deletion under the same key. -/
theorem changesTo_unregister (d : OverStore τ) (r : Registration) :
    ChangesTo Clears d (unregister d r).2 := by
  have hvalues := LawfulStore.values_get d.store (storageKey r.actor)
  rw [unregister]
  rcases hget : VersionedStore.get d.store (storageKey r.actor) with ⟨answer, s⟩
  rw [hget] at hvalues
  have hread : ChangesTo Clears d ⟨s⟩ := changesTo_of_values hvalues
  rcases answer with e | _ | v
  · exact hread
  · exact hread
  · dsimp only
    split
    · exact hread
    · split
      · -- What was read is released, so that it is deleted if it has not changed.
        have hdeleted := hread.trans (changesTo_compareAndDelete s r.actor v.version)
        split
        all_goals
          next heq =>
          rw [heq] at hdeleted
          exact hdeleted
      · exact hread

/-- Deletions one after the other clear keys and do nothing else. -/
theorem changesTo_unregisterEach (d : OverStore τ) (l : List Registration) :
    ChangesTo Clears d (unregisterEach unregister d l).2 := by
  induction l generalizing d with
  | nil => exact changesTo_of_values rfl
  | cons r l ih => exact (changesTo_unregister d r).trans (ih (unregister d r).2)

/-! ### Runs of the directory -/

/-- Says that what is under the key of an actor is a registration of that actor. -/
def IsUncorrupted (d : OverStore τ) : Prop :=
  ∀ id v, d.entry id = some v → ∃ r, decode id v = .ok r

/-- Values stay meaningful if what is new is meaningful. -/
theorem IsUncorrupted.of_changesTo {P : ActorId → Option Versioned → Prop} {d d' : OverStore τ}
    (hd : d.IsUncorrupted) (h : ChangesTo P d d')
    (hP : ∀ id v, P id (some v) → ∃ r, decode id v = .ok r) : d'.IsUncorrupted := by
  intro id v hv
  rcases h id with hid | hid
  · exact hd id v (hid.symm.trans hv)
  · rw [hv] at hid
    exact hP id v hid

/-- What a registration writes means something for its actor. -/
theorem exists_of_writes {r : Registration} {id : ActorId} {v : Versioned}
    (h : Writes r id (some v)) : ∃ stored, decode id v = .ok stored := by
  obtain ⟨rfl, version, hv⟩ := h
  obtain rfl := Option.some.inj hv
  exact ⟨_, decode_toStored r version⟩

/-- A registration corrupts nothing. -/
theorem IsUncorrupted.of_writes {r : Registration} {d d' : OverStore τ} (hd : d.IsUncorrupted)
    (h : ChangesTo (Writes r) d d') : d'.IsUncorrupted :=
  hd.of_changesTo h fun _ _ => exists_of_writes

/-- A deletion corrupts nothing. -/
theorem IsUncorrupted.of_clears {d d' : OverStore τ} (hd : d.IsUncorrupted)
    (h : ChangesTo Clears d d') : d'.IsUncorrupted :=
  hd.of_changesTo h fun _ _ hcleared => absurd hcleared (Option.some_ne_none _)

/-- Says that nobody but the directory has written to the store: it was empty, and then the
directory was asked for something any number of times.  Calls may overlap, so that the single
accesses of a call are steps as well.  What else may happen to the store does not change any value;
it may go away and come back. -/
inductive IsOwn : OverStore τ → Prop where
  /-- The store is empty. -/
  | empty {d : OverStore τ} (h : ∀ key, LawfulStore.values d.store key = none) : IsOwn d
  /-- The directory is asked for something. -/
  | ask {d : OverStore τ} (hd : IsOwn d) (q : Request) : IsOwn (Backend.respond d q).2
  /-- The directory is asked to delete all registrations on given nodes. -/
  | unregisterNodes {d : OverStore τ} (hd : IsOwn d) (nodes : List Node) :
    IsOwn (Backend.unregisterNodes d nodes).2
  /-- A registration is under way. -/
  | attempt {d : OverStore τ} (hd : IsOwn d) (r : Registration) {s : τ}
    (hs : Attempts r d.store s) : IsOwn ⟨s⟩
  /-- A deletion is under way. -/
  | deletion {d : OverStore τ} (hd : IsOwn d) (id : ActorId) (expected : UInt64) :
    IsOwn ⟨(VersionedStore.compareAndDelete d.store (storageKey id) expected).2⟩
  /-- Something happens to the store that changes no value. -/
  | pause {d : OverStore τ} (hd : IsOwn d) {s : τ}
    (hs : LawfulStore.values s = LawfulStore.values d.store) : IsOwn ⟨s⟩

/-- A directory that nobody interferes with keeps only registrations of their actors.

**Proof sketch.** Induction on the run.  Every step writes registrations under the keys of their
actors, or clears keys, or changes no value; nothing of this corrupts what is there. -/
theorem IsOwn.isUncorrupted {d : OverStore τ} (h : d.IsOwn) : d.IsUncorrupted := by
  induction h with
  | empty h =>
    intro id v hv
    exact absurd ((h (storageKey id)).symm.trans hv) (Option.some_ne_none v).symm
  | @ask d _ q ih =>
    cases q with
    | lookup id => exact ih.of_clears (changesTo_lookup d id)
    | register r => exact ih.of_writes (changesTo_registerWithin r maxAttempts d)
    | unregister r => exact ih.of_clears (changesTo_unregister d r)
    | unregisterBatch l => exact ih.of_clears (changesTo_unregisterEach d l)
  | unregisterNodes _ _ ih => exact ih
  | attempt _ r hs ih => exact ih.of_writes hs.changesTo
  | deletion _ id expected ih => exact ih.of_clears (changesTo_compareAndDelete _ _ _)
  | pause _ hs ih => exact ih.of_clears (changesTo_of_values hs)

/-- Says that between two states of the directory nothing happened but registrations of actors other
than `id`, which may overlap, and changes of the store that keep every value. -/
inductive RegistersOthers (id : ActorId) : OverStore τ → OverStore τ → Prop where
  /-- Nothing happened. -/
  | refl (d : OverStore τ) : RegistersOthers id d d
  /-- At last, another actor was registered. -/
  | register {d d' : OverStore τ} (h : RegistersOthers id d d') (r : Registration)
    (hr : r.actor ≠ id) : RegistersOthers id d (Backend.register d' r).2
  /-- At last, a registration of another actor was under way. -/
  | attempt {d d' : OverStore τ} (h : RegistersOthers id d d') (r : Registration)
    (hr : r.actor ≠ id) {s : τ} (hs : Attempts r d'.store s) : RegistersOthers id d ⟨s⟩
  /-- At last, something happened to the store that changed no value. -/
  | pause {d d' : OverStore τ} (h : RegistersOthers id d d') {s : τ}
    (hs : LawfulStore.values s = LawfulStore.values d'.store) : RegistersOthers id d ⟨s⟩

section Others

variable {id : ActorId} {d d' : OverStore τ}

/-- What writes another actor leaves the entry as it is. -/
theorem ChangesTo.entry_eq {r : Registration} (h : ChangesTo (Writes r) d d') (hr : r.actor ≠ id) :
    d'.entry id = d.entry id := by
  rcases h id with hid | ⟨rfl, -⟩
  · exact hid
  · exact absurd rfl hr

/-- Registering other actors leaves the entry of an actor as it is, whatever it means.

**Proof sketch.** Induction on the run; the step is `ChangesTo.entry_eq`. -/
theorem RegistersOthers.entry_eq (h : RegistersOthers id d d') : d'.entry id = d.entry id := by
  induction h with
  | refl => rfl
  | register _ r hr ih => exact ((changesTo_registerWithin r maxAttempts _).entry_eq hr).trans ih
  | attempt _ r hr hs ih => exact (hs.changesTo.entry_eq hr).trans ih
  | pause _ hs ih => exact (congrFun hs _).trans ih

/-- A look-up does not report an entry as corrupted that means something for its actor. -/
theorem lookup_ne_corrupted (h : ∀ v, d.entry id = some v → ∃ r, decode id v = .ok r)
    (reason : String) : (lookup d id).1 ≠ .error (.corrupted id reason) := by
  have hgot := LawfulStore.got d.store (storageKey id)
  rw [lookup]
  rcases hget : VersionedStore.get d.store (storageKey id) with ⟨answer, s⟩
  rw [hget] at hgot
  rcases answer with e | _ | v
  · simp [StoreError.toDirectoryError]
  · simp
  · obtain ⟨r, hr⟩ := h v hgot.eq_of_ok
    simp [hr, Except.map]

end Others

/-- No actor gets in the way of another one.  Different actors have different keys, whatever
characters these hold.  If nobody but the directory writes to a store, then registering other
actors, in whatever way and whether or not the store fails, leaves the value under the key of an
actor as it is, with its version, and that value is a registration of the actor and is not found
corrupted.

**Proof sketch.** Keys are told apart by `storageKey_eq_iff`.  Registering others leaves the entry
(`RegistersOthers.entry_eq`); before that it meant something, by `IsOwn.isUncorrupted`, and so it is
not reported as corrupted (`lookup_ne_corrupted`). -/
theorem entries_never_collide :
    (∀ a b : ActorId,
      storageKey a = storageKey b ↔ a.actorType.tag = b.actorType.tag ∧ a.key = b.key) ∧
    ∀ (id : ActorId) (d d' : OverStore τ), d.IsOwn → RegistersOthers id d d' →
      d'.entry id = d.entry id ∧ (∀ v, d'.entry id = some v → ∃ r, decode id v = .ok r) ∧
        ∀ reason, (lookup d' id).1 ≠ .error (.corrupted id reason) := by
  refine ⟨fun a b => storageKey_eq_iff, ?_⟩
  intro id d d' hown hothers
  have hentry := hothers.entry_eq
  have hmeans (v : Versioned) (hv : d'.entry id = some v) : ∃ r, decode id v = .ok r := by
    rw [hentry] at hv
    exact hown.isUncorrupted id v hv
  exact ⟨hentry, hmeans, lookup_ne_corrupted hmeans⟩

/-- A registration under a key with two slashes. -/
def slashed : Registration := ⟨⟨⟨1⟩, "/2"⟩, .loopback 1 1, ⟨1⟩, none⟩

/-- A registration of an actor of the same type, with nothing behind the slash. -/
def unnamed : Registration := ⟨⟨⟨1⟩, ""⟩, .loopback 2 1, ⟨2⟩, none⟩

/-- A registration under a key that ends in the key of the first one. -/
def spelledOut : Registration := ⟨⟨⟨2⟩, "0000000000000001//2"⟩, .loopback 3 1, ⟨3⟩, none⟩

/-- A directory in which one actor was registered. -/
def single : OverStore MemoryStore := (Backend.register (⟨{}⟩ : OverStore MemoryStore) slashed).2

/-- The same directory after two others were registered. -/
def crowded : OverStore MemoryStore :=
  (Backend.register (Backend.register single unnamed).2 spelledOut).2

/-- Actors whose keys look alike do not get in each other's way. -/
theorem entries_never_collide_lookalike :
    single.IsOwn ∧ RegistersOthers slashed.actor single crowded ∧ crowded.store.size = 3 ∧
      crowded.entry slashed.actor = some ⟨slashed.toStored, 1⟩ ∧
      ∀ reason, (lookup crowded slashed.actor).1 ≠ .error (.corrupted slashed.actor reason) := by
  have hempty : (⟨{}⟩ : OverStore MemoryStore).IsOwn := .empty fun _ => rfl
  have hown : single.IsOwn := hempty.ask (.register slashed)
  have hothers : RegistersOthers slashed.actor single crowded :=
    .register (.register (.refl _) unnamed (by decide)) spelledOut (by decide)
  obtain ⟨-, hruns⟩ := entries_never_collide (τ := MemoryStore)
  obtain ⟨hentry, -, hlookup⟩ := hruns slashed.actor single crowded hown hothers
  refine ⟨hown, hothers, by decide +kernel, ?_, hlookup⟩
  rw [hentry]
  rfl

end OverStore

end ActorLocation
