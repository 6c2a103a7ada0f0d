import ActorLocation.Simulation.Rivals
import ActorLocation.Directory.OverStore
/-!
# Journals of stores

What a directory does to its store amid rivals is told by a journal, which says for each call what
was under the key when the call took effect, after the rival's write if there was one, and what the
call left there.  Keeping a journal changes no answer.

## Main definitions

* `MemoryStore.IsReached` — the states of a store in which no version has been given twice.
* `ContestedStore.yieldTimes` — the store after the next rivals.
* `ActorLocation.StoreMap` — states of one store taken for states of another that answers alike.
* `ActorLocation.Journaled` — a store amid rivals with a journal.

## Main results

* `MemoryStore.IsReached.version_le` — no value has a version that is still to be given.
* `ContestedStore.hasVersion_yield_iff` — a value that still has its old version is no rival's.
* `ContestedStore.compareAndSwap_of_rival`, `compareAndDelete_of_rival` — a rival that comes first
  keeps its entry.
* `OverStore.registerWithin_map`, `unregister_map`, `unregisterEach_map` — a directory does the same
  over stores that answer alike.
-/

namespace ActorLocation

/-! ### Versions -/

namespace MemoryStore

/-- Says that a store can be reached: it was empty, and then came any writes, deletions and
switches, none of which has used up the versions.  A conditional write is a write or nothing. -/
inductive IsReached : MemoryStore → Prop where
  /-- The store is empty. -/
  | empty : IsReached {}
  /-- Something is written, under whatever key. -/
  | write {s : MemoryStore} (hs : s.IsReached) (key : String) (value : Octets)
    (hn : s.lastVersion.toNat + 1 < UInt64.size) : IsReached (s.write key value).2
  /-- A key is deleted, if it has the version. -/
  | delete {s : MemoryStore} (hs : s.IsReached) (key : String) (version : UInt64) :
    IsReached (s.compareAndDelete key version).2
  /-- The store is switched off, or on again. -/
  | switch {s : MemoryStore} (hs : s.IsReached) (available : Bool) :
    IsReached (s.setAvailable available)

variable {s : MemoryStore} {key : String} {v : Versioned}

/-- A write gives the next version, as long as the versions are not used up. -/
theorem lastVersion_write (hn : s.lastVersion.toNat + 1 < UInt64.size) (key : String)
    (value : Octets) : (s.write key value).2.lastVersion.toNat = s.lastVersion.toNat + 1 := by
  simp only [UInt64.size] at hn
  change (s.lastVersion + 1).toNat = _
  rw [UInt64.toNat_add, UInt64.toNat_one]
  omega

/-- What was written is under its key, with the version that was given to it. -/
@[simp] theorem find?_write_self (s : MemoryStore) (key : String) (value : Octets) :
    (s.write key value).2.entries.find? key = some ⟨value, s.lastVersion + 1⟩ :=
  Table.find?_insert_self _ _ _

/-- A write touches no other key. -/
theorem find?_write_of_ne (s : MemoryStore) {key key' : String} (value : Octets)
    (h : key' ≠ key) : (s.write key value).2.entries.find? key' = s.entries.find? key' :=
  Table.find?_insert_of_ne _ _ h

/-- No value has a version that is still to be given.

**Proof sketch.** By induction on how the store was reached.  A write gives its value the greatest
version so far, and the other values had none that was greater before.  A deletion takes a value
away, or changes nothing, and a switch touches neither the values nor the versions. -/
theorem IsReached.version_le (hs : s.IsReached) (hv : s.entries.find? key = some v) :
    v.version.toNat ≤ s.lastVersion.toNat := by
  induction hs generalizing key v with
  | empty => simp at hv
  | @write s hs key' value hn ih =>
    rw [lastVersion_write hn]
    -- The value under the key may be the one that was written just now.
    by_cases hkey : key = key'
    · subst hkey
      rw [find?_write_self] at hv
      obtain rfl := Option.some.inj hv
      exact Nat.le_of_eq (lastVersion_write hn key value)
    · rw [find?_write_of_ne _ _ hkey] at hv
      exact Nat.le_succ_of_le (ih hv)
  | @delete s hs key' version ih =>
    unfold compareAndDelete at hv ⊢
    split at hv
    · next hversion =>
      rw [if_pos hversion]
      rw [Table.find?_erase] at hv
      split at hv
      · contradiction
      · exact ih hv
    · next hversion =>
      rw [if_neg hversion]
      exact ih hv
  | switch hs available ih => exact ih hv

end MemoryStore

/-! ### Rivals -/

namespace ContestedStore

variable {s : ContestedStore} {key : String} {v : Versioned}

/-- The store after the next `n` rivals, each of which writes under the key unless it stays away. -/
def yieldTimes (s : ContestedStore) (key : String) : Nat → ContestedStore
  | 0 => s
  | n + 1 => (s.yield key).yieldTimes key n

/-- Says that no rival comes before the next replacement or deletion. -/
def IsCalm (s : ContestedStore) : Prop := ∀ value, s.rivals.head? ≠ some (some value)

/-- The next rival writes under the key, or stays away. -/
theorem store_yield (s : ContestedStore) (key : String) :
    (∃ value, s.rivals.head? = some (some value) ∧
        (s.yield key).store = (s.store.write key value).2) ∨
      s.IsCalm ∧ (s.yield key).store = s.store := by
  obtain ⟨m, rivals⟩ := s
  rcases rivals with _ | ⟨_ | value, rivals⟩
  · right
    simp [IsCalm, yield]
  · right
    simp [IsCalm, yield]
  · left
    exact ⟨value, rfl, rfl⟩

/-- If no rival comes, the store stays as it is. -/
theorem IsCalm.store_yield (hs : s.IsCalm) (key : String) : (s.yield key).store = s.store := by
  rcases s.store_yield key with ⟨value, hrival, -⟩ | ⟨-, h⟩
  · exact absurd hrival (hs value)
  · exact h

/-- A rival does not switch the store on or off. -/
@[simp] theorem available_yield (s : ContestedStore) (key : String) :
    (s.yield key).store.available = s.store.available := by
  rcases s.store_yield key with ⟨value, -, h⟩ | ⟨-, h⟩ <;> rw [h]
  rfl

/-- Rivals write under the one key. -/
theorem find?_yield_of_ne {key' : String} (h : key' ≠ key) :
    (s.yield key).store.entries.find? key' = s.store.entries.find? key' := by
  rcases s.store_yield key with ⟨value, -, heq⟩ | ⟨-, heq⟩ <;> rw [heq]
  exact MemoryStore.find?_write_of_ne _ _ h

/-- However many rivals write under the one key, the others stay as they are. -/
theorem find?_yieldTimes_of_ne {key' : String} (h : key' ≠ key) (n : Nat) :
    (s.yieldTimes key n).store.entries.find? key' = s.store.entries.find? key' := by
  induction n generalizing s with
  | zero => rfl
  | succ n ih => rw [yieldTimes, ih, find?_yield_of_ne h]

/-- A rival gives one version at most. -/
theorem isReached_yield (hs : s.store.IsReached) {n : Nat}
    (hn : s.store.lastVersion.toNat + (n + 1) < UInt64.size) :
    (s.yield key).store.IsReached ∧
      (s.yield key).store.lastVersion.toNat + n < UInt64.size := by
  rcases s.store_yield key with ⟨value, -, h⟩ | ⟨-, h⟩
  · rw [h, MemoryStore.lastVersion_write (by omega)]
    exact ⟨hs.write key value (by omega), by omega⟩
  · rw [h]
    exact ⟨hs, by omega⟩

/-- The key has the version that it had before a rival's turn iff the rival has stayed away:
whatever a rival writes, be it what was there before, gets a version that no value has had.

**Proof sketch.** By whether a rival comes.  If one does, the key has the next version then, while
by `IsReached.version_le` the old one is at most the last that was given; so they differ.  If none
does, the store stays as it is and the key has its old version. -/
theorem hasVersion_yield_iff (hs : s.store.IsReached)
    (hn : s.store.lastVersion.toNat + 1 < UInt64.size) (hv : s.store.entries.find? key = some v) :
    (s.yield key).store.HasVersion key v.version ↔ s.IsCalm := by
  have hle := hs.version_le hv
  rcases s.store_yield key with ⟨value, hrival, h⟩ | ⟨hnone, h⟩
  · -- The rival's value has a version that is greater than all those given before.
    have hnew := MemoryStore.lastVersion_write hn key value
    rw [h]
    simp only [MemoryStore.HasVersion, MemoryStore.find?_write_self, Option.map_some,
      Option.some.injEq]
    constructor
    · intro hversion
      change (s.store.lastVersion + 1).toNat = _ at hnew
      rw [hversion] at hnew
      omega
    · intro hnone
      exact absurd hrival (hnone value)
  · rw [h]
    simp [MemoryStore.HasVersion, hv, hnone]

/-! ### Answers amid rivals -/

section Answers

variable {value : Octets}

/-- The store after a write under the key. -/
def write (s : ContestedStore) (key : String) (value : Octets) : ContestedStore :=
  { s with store := (s.store.write key value).2 }

/-- The store without the key. -/
def erase (s : ContestedStore) (key : String) : ContestedStore :=
  { s with store := { s.store with entries := s.store.entries.erase key } }

/-- A store that is switched off answers no look-up. -/
theorem get_of_unavailable (h : s.store.available = false) :
    VersionedStore.get s key = (.error MemoryStore.switchedOff, s) := by
  simp [VersionedStore.get, forward, MemoryStore.whenAvailable, h]

/-- A store that is switched on answers a look-up with what is under the key. -/
theorem get_of_available (h : s.store.available = true) :
    VersionedStore.get s key = (.ok (s.store.entries.find? key), s) := by
  simp [VersionedStore.get, forward, MemoryStore.whenAvailable, h]

/-- A store that is switched off inserts nothing. -/
theorem putIfAbsent_of_unavailable (h : s.store.available = false) :
    VersionedStore.putIfAbsent s key value = (.error MemoryStore.switchedOff, s) := by
  simp [VersionedStore.putIfAbsent, forward, MemoryStore.whenAvailable, h]

/-- A value is inserted under a key that is absent.  No rival comes before an insertion. -/
theorem putIfAbsent_of_absent (h : s.store.available = true)
    (hkey : s.store.entries.find? key = none) :
    VersionedStore.putIfAbsent s key value =
      (.ok (.inserted (s.store.lastVersion + 1)), s.write key value) := by
  simp [VersionedStore.putIfAbsent, forward, MemoryStore.whenAvailable, MemoryStore.putIfAbsent,
    h, hkey, write, MemoryStore.write]

/-- Nothing is inserted under a key that is present, and the answer tells what is there. -/
theorem putIfAbsent_of_present (h : s.store.available = true)
    (hkey : s.store.entries.find? key = some v) :
    VersionedStore.putIfAbsent s key value = (.ok (.exists v), s) := by
  simp [VersionedStore.putIfAbsent, forward, MemoryStore.whenAvailable, MemoryStore.putIfAbsent,
    h, hkey]

/-- If no rival comes first, a value that was found is replaced. -/
theorem IsCalm.compareAndSwap (hs : s.IsCalm) (h : s.store.available = true)
    (hkey : s.store.entries.find? key = some v) :
    VersionedStore.compareAndSwap s key v.version value =
      (.ok (some (s.store.lastVersion + 1)), (s.yield key).write key value) := by
  have hversion : s.store.HasVersion key v.version := by simp [MemoryStore.HasVersion, hkey]
  simp [VersionedStore.compareAndSwap, forward, MemoryStore.whenAvailable,
    MemoryStore.compareAndSwap, hs.store_yield, h, hversion, write, MemoryStore.write]

/-- If no rival comes first, a value that was found is deleted. -/
theorem IsCalm.compareAndDelete (hs : s.IsCalm) (h : s.store.available = true)
    (hkey : s.store.entries.find? key = some v) :
    VersionedStore.compareAndDelete s key v.version = (.ok true, (s.yield key).erase key) := by
  have hversion : s.store.HasVersion key v.version := by simp [MemoryStore.HasVersion, hkey]
  simp [VersionedStore.compareAndDelete, forward, MemoryStore.whenAvailable,
    MemoryStore.compareAndDelete, hs.store_yield, h, hversion, erase]

section Beaten

variable (hs : s.store.IsReached) (hn : s.store.lastVersion.toNat + 1 < UInt64.size)
  (h : s.store.available = true) (hkey : s.store.entries.find? key = some v) (hrival : ¬ s.IsCalm)
include hs hn h hkey hrival

/-- If a rival comes first, a value that was found is not replaced. -/
theorem compareAndSwap_of_rival :
    VersionedStore.compareAndSwap s key v.version value = (.ok none, s.yield key) := by
  have hversion : ¬ (s.yield key).store.HasVersion key v.version := by
    rwa [hasVersion_yield_iff hs hn hkey]
  simp [VersionedStore.compareAndSwap, forward, MemoryStore.whenAvailable,
    MemoryStore.compareAndSwap, h, hversion]

/-- If a rival comes first, nothing is deleted, since what was found is no longer there. -/
theorem compareAndDelete_of_rival :
    VersionedStore.compareAndDelete s key v.version = (.ok false, s.yield key) := by
  have hversion : ¬ (s.yield key).store.HasVersion key v.version := by
    rwa [hasVersion_yield_iff hs hn hkey]
  simp [VersionedStore.compareAndDelete, forward, MemoryStore.whenAvailable,
    MemoryStore.compareAndDelete, h, hversion]

end Beaten

end Answers

end ContestedStore

/-! ### Stores that answer alike -/

/-- A map that takes the states of one store for states of another.  The answers are the same, and
so are the states left behind. -/
structure StoreMap (τ υ : Type) [VersionedStore τ] [VersionedStore υ] where
  /-- The state of the other store. -/
  map : τ → υ
  /-- Reading is the same. -/
  get (s : τ) (key : String) :
    VersionedStore.get (map s) key = (VersionedStore.get s key).map id map
  /-- Writing to an absent key is the same. -/
  putIfAbsent (s : τ) (key : String) (value : Octets) :
    VersionedStore.putIfAbsent (map s) key value =
      (VersionedStore.putIfAbsent s key value).map id map
  /-- Replacing is the same. -/
  compareAndSwap (s : τ) (key : String) (expected : UInt64) (value : Octets) :
    VersionedStore.compareAndSwap (map s) key expected value =
      (VersionedStore.compareAndSwap s key expected value).map id map
  /-- Deleting is the same. -/
  compareAndDelete (s : τ) (key : String) (expected : UInt64) :
    VersionedStore.compareAndDelete (map s) key expected =
      (VersionedStore.compareAndDelete s key expected).map id map

namespace OverStore

variable {τ υ : Type} [VersionedStore τ] [VersionedStore υ]

/-- A directory over a state of another store. -/
def map (π : StoreMap τ υ) (d : OverStore τ) : OverStore υ := ⟨π.map d.store⟩

/-- A registration does the same over two stores that answer alike.

**Proof sketch.** By induction on the number of attempts.  An attempt asks the store to insert the
record and, if there is an entry in its place that cannot be read, to replace it.  Both calls answer
alike, so the two registrations take the same branch after each; only a lost replacement leads to
the next attempt. -/
theorem registerWithin_map (π : StoreMap τ υ) (r : Registration) (n : Nat) (d : OverStore τ) :
    registerWithin r n (d.map π) = (registerWithin r n d).map id (map π) := by
  induction n generalizing d with
  | zero => rfl
  | succ n ih =>
    simp only [registerWithin, map, π.putIfAbsent]
    rcases VersionedStore.putIfAbsent d.store (storageKey r.actor) r.toStored with
      ⟨_ | _ | v, s⟩
    · rfl
    · rfl
    · dsimp only [Prod.map, id]
      rcases decode r.actor v with (_ | _ | _) | stored
      · rfl
      · -- The entry in the record's place cannot be read, so it is to be replaced.
        dsimp only
        rw [π.compareAndSwap]
        rcases VersionedStore.compareAndSwap s (storageKey r.actor) v.version r.toStored with
          ⟨_ | _ | version, s'⟩
        · rfl
        · exact ih ⟨s'⟩
        · rfl
      · rfl
      · rfl

/-- A withdrawal does the same over two stores that answer alike.

**Proof sketch.** By the answers of the look-up and, if the entry found is the one to be withdrawn,
of the deletion.  They are the same for both stores, and in all other cases no further call is
made. -/
theorem unregister_map (π : StoreMap τ υ) (r : Registration) (d : OverStore τ) :
    unregister (d.map π) r = (unregister d r).map id (map π) := by
  simp only [unregister, map, π.get]
  rcases VersionedStore.get d.store (storageKey r.actor) with ⟨_ | _ | v, s⟩
  · rfl
  · rfl
  · dsimp only [Prod.map, id]
    rcases decode r.actor v with _ | stored
    · rfl
    · dsimp only
      split
      · rw [π.compareAndDelete]
        rcases VersionedStore.compareAndDelete s (storageKey r.actor) v.version with
          ⟨_ | _, s'⟩ <;> rfl
      · rfl

/-- Withdrawals one after the other do the same over two stores that answer alike. -/
theorem unregisterEach_map (π : StoreMap τ υ) (l : List Registration) (d : OverStore τ) :
    unregisterEach unregister (d.map π) l = (unregisterEach unregister d l).map id (map π) := by
  induction l generalizing d with
  | nil => rfl
  | cons r l ih =>
    simp only [unregisterEach, unregister_map, Prod.map_fst, Prod.map_snd, ih]
    rfl

end OverStore

/-! ### Journals -/

/-- What a store is asked for. -/
inductive StoreCall where
  /-- Reads the key. -/
  | get (key : String)
  /-- Writes the value if the key is absent. -/
  | putIfAbsent (key : String) (value : Octets)
  /-- Replaces the value if it has the version. -/
  | compareAndSwap (key : String) (expected : UInt64) (value : Octets)
  /-- Deletes the key if it has the version. -/
  | compareAndDelete (key : String) (expected : UInt64)

namespace StoreCall

/-- The key that a call is about. -/
def key : StoreCall → String
  | get key | putIfAbsent key _ | compareAndSwap key _ _ | compareAndDelete key _ => key

/-- Whether a call is an attempt to insert a value. -/
def isInsertion : StoreCall → Bool
  | putIfAbsent .. => true
  | get _ | compareAndSwap .. | compareAndDelete .. => false

end StoreCall

/-- A call with its effect. -/
structure Access where
  /-- The call. -/
  call : StoreCall
  /-- What was under the key when the call took effect. -/
  met : Option Versioned
  /-- What was under the key afterwards. -/
  left : Option Versioned

/-- Says that a call has changed what is under its key. -/
def Access.Changes (a : Access) : Prop := a.left ≠ a.met

/-- A store amid rivals with a journal. -/
structure Journaled where
  /-- The store. -/
  store : ContestedStore
  /-- The calls so far. -/
  journal : List Access := []

namespace Journaled

/-- The answer to a call that met the store in the state `met`, noted in the journal. -/
def note {α : Type} (j : Journaled) (call : StoreCall) (met : ContestedStore)
    (answer : α × ContestedStore) : α × Journaled :=
  (answer.1,
    { store := answer.2
      journal := j.journal ++
        [⟨call, met.store.entries.find? call.key, answer.2.store.entries.find? call.key⟩] })

instance : VersionedStore Journaled where
  get j key := j.note (.get key) j.store (VersionedStore.get j.store key)
  putIfAbsent j key value :=
    j.note (.putIfAbsent key value) j.store (VersionedStore.putIfAbsent j.store key value)
  compareAndSwap j key expected value :=
    j.note (.compareAndSwap key expected value) (j.store.yield key)
      (VersionedStore.compareAndSwap j.store key expected value)
  compareAndDelete j key expected :=
    j.note (.compareAndDelete key expected) (j.store.yield key)
      (VersionedStore.compareAndDelete j.store key expected)

section Calls

variable (s : ContestedStore) (l : List Access) (key : String) (value : Octets) (expected : UInt64)

/-- A look-up is passed on to the store and noted. -/
theorem get_eq : VersionedStore.get (mk s l) key =
    note ⟨s, l⟩ (.get key) s (VersionedStore.get s key) := rfl

/-- An insertion is passed on to the store and noted. -/
theorem putIfAbsent_eq : VersionedStore.putIfAbsent (mk s l) key value =
    note ⟨s, l⟩ (.putIfAbsent key value) s (VersionedStore.putIfAbsent s key value) := rfl

/-- A replacement is passed on to the store and noted, with what is under the key after the rival's
turn. -/
theorem compareAndSwap_eq : VersionedStore.compareAndSwap (mk s l) key expected value =
    note ⟨s, l⟩ (.compareAndSwap key expected value) (s.yield key)
      (VersionedStore.compareAndSwap s key expected value) := rfl

/-- A deletion is passed on to the store and noted, with what is under the key after the rival's
turn. -/
theorem compareAndDelete_eq : VersionedStore.compareAndDelete (mk s l) key expected =
    note ⟨s, l⟩ (.compareAndDelete key expected) (s.yield key)
      (VersionedStore.compareAndDelete s key expected) := rfl

end Calls

/-- The store without its journal answers alike. -/
def forget : StoreMap Journaled ContestedStore where
  map := store
  get _ _ := rfl
  putIfAbsent _ _ _ := rfl
  compareAndSwap _ _ _ _ := rfl
  compareAndDelete _ _ _ := rfl

end Journaled

end ActorLocation
