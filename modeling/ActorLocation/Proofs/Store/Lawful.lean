import ActorLocation.Store.Basic
import Mathlib.Logic.Function.Basic
/-!
# Lawful stores

What a versioned store promises, whatever it is made of: an access has to do with one key only, a
value is inserted where there is none, and it is replaced or deleted only while it has the expected
version.  An access may fail at any time.  Then it has had no effect, or it has had its effect and
the answer was lost; the caller cannot tell which.

Nothing is promised about the versions that are given.

## Main definitions

* `ActorLocation.Values` — the value under each key.
* `ActorLocation.Got`, `Inserted`, `Swapped`, `Erased` — the possible answers of an access, with the
  values that it leaves behind.
* `ActorLocation.LawfulStore` — stores whose operations answer and act in these ways.

## Main results

* `Inserted.eq_or_assigned`, `Swapped.eq_or_assigned`, `Erased.eq_or_erased` — what an access may
  change.
* The instance of `ActorLocation.LawfulStore` for stores in memory.
-/

namespace ActorLocation

/-- What a store keeps: the value under each key that has one. -/
abbrev Values := String → Option Versioned

/-! ### Answers -/

section Answers

variable (c : Values) (key : String) (expected : UInt64) (value : Octets)

/-- The answers to a look-up. -/
inductive Got : Except StoreError (Option Versioned) → Prop where
  /-- The answer is what is under the key. -/
  | found : Got (.ok (c key))
  /-- The look-up failed. -/
  | failed (e : StoreError) : Got (.error e)

/-- The answers to an insertion, with the values left behind. -/
inductive Inserted : Except StoreError PutOutcome → Values → Prop where
  /-- The key was absent, and is written. -/
  | inserted (h : c key = none) (version : UInt64) :
    Inserted (.ok (.inserted version)) (Function.update c key (some ⟨value, version⟩))
  /-- The key was present. -/
  | present {v : Versioned} (h : c key = some v) : Inserted (.ok (.exists v)) c
  /-- The insertion failed and had no effect. -/
  | failed (e : StoreError) : Inserted (.error e) c
  /-- The key was absent and is written, but the answer was lost. -/
  | unanswered (h : c key = none) (version : UInt64) (e : StoreError) :
    Inserted (.error e) (Function.update c key (some ⟨value, version⟩))

/-- The answers to a replacement, with the values left behind. -/
inductive Swapped : Except StoreError (Option UInt64) → Values → Prop where
  /-- The value had the expected version, and is replaced. -/
  | swapped {v : Versioned} (h : c key = some v) (hv : v.version = expected) (version : UInt64) :
    Swapped (.ok (some version)) (Function.update c key (some ⟨value, version⟩))
  /-- There was no value with the expected version. -/
  | kept (h : ∀ v, c key = some v → v.version ≠ expected) : Swapped (.ok none) c
  /-- The replacement failed and had no effect. -/
  | failed (e : StoreError) : Swapped (.error e) c
  /-- The value had the expected version and is replaced, but the answer was lost. -/
  | unanswered {v : Versioned} (h : c key = some v) (hv : v.version = expected) (version : UInt64)
    (e : StoreError) : Swapped (.error e) (Function.update c key (some ⟨value, version⟩))

/-- The answers to a deletion, with the values left behind. -/
inductive Erased : Except StoreError Bool → Values → Prop where
  /-- The value had the expected version, and is deleted. -/
  | erased {v : Versioned} (h : c key = some v) (hv : v.version = expected) :
    Erased (.ok true) (Function.update c key none)
  /-- There was no value with the expected version. -/
  | kept (h : ∀ v, c key = some v → v.version ≠ expected) : Erased (.ok false) c
  /-- The deletion failed and had no effect. -/
  | failed (e : StoreError) : Erased (.error e) c
  /-- The value had the expected version and is deleted, but the answer was lost. -/
  | unanswered {v : Versioned} (h : c key = some v) (hv : v.version = expected) (e : StoreError) :
    Erased (.error e) (Function.update c key none)

end Answers

section Effects

variable {c c' : Values} {key : String} {expected : UInt64} {value : Octets}

/-- A look-up that has an answer has answered with what is under the key. -/
theorem Got.eq_of_ok {found : Option Versioned} (h : Got c key (.ok found)) : c key = found := by
  generalize hanswer : (.ok found : Except StoreError _) = answer at h
  cases h with
  | found => exact (Except.ok.inj hanswer).symm
  | failed _ => contradiction

/-- An insertion writes the value under the key, or changes nothing. -/
theorem Inserted.eq_or_assigned {answer : Except StoreError PutOutcome}
    (h : Inserted c key value answer c') :
    c' = c ∨ ∃ version, c' = Function.update c key (some ⟨value, version⟩) := by
  cases h with
  | inserted _ version => exact .inr ⟨version, rfl⟩
  | present _ => exact .inl rfl
  | failed _ => exact .inl rfl
  | unanswered _ version _ => exact .inr ⟨version, rfl⟩

/-- A replacement writes the value under the key, or changes nothing. -/
theorem Swapped.eq_or_assigned {answer : Except StoreError (Option UInt64)}
    (h : Swapped c key expected value answer c') :
    c' = c ∨ ∃ version, c' = Function.update c key (some ⟨value, version⟩) := by
  cases h with
  | swapped _ _ version => exact .inr ⟨version, rfl⟩
  | kept _ => exact .inl rfl
  | failed _ => exact .inl rfl
  | unanswered _ _ version _ => exact .inr ⟨version, rfl⟩

/-- A deletion clears the key, or changes nothing. -/
theorem Erased.eq_or_erased {answer : Except StoreError Bool}
    (h : Erased c key expected answer c') :
    c' = c ∨ c' = Function.update c key none := by
  cases h with
  | erased _ _ => exact .inr rfl
  | kept _ => exact .inl rfl
  | failed _ => exact .inl rfl
  | unanswered _ _ _ => exact .inr rfl

end Effects

/-! ### Lawful stores -/

/-- Stores whose operations answer and act as promised, whether or not they fail. -/
class LawfulStore (τ : Type) [VersionedStore τ] where
  /-- What a state keeps. -/
  values : τ → Values
  /-- A look-up returns what is under the key. -/
  got (s : τ) (key : String) : Got (values s) key (VersionedStore.get s key).1
  /-- A look-up does not change what is kept. -/
  values_get (s : τ) (key : String) : values (VersionedStore.get s key).2 = values s
  /-- An insertion does not overwrite. -/
  inserted (s : τ) (key : String) (value : Octets) :
    Inserted (values s) key value (VersionedStore.putIfAbsent s key value).1
      (values (VersionedStore.putIfAbsent s key value).2)
  /-- A replacement depends on the version. -/
  swapped (s : τ) (key : String) (expected : UInt64) (value : Octets) :
    Swapped (values s) key expected value (VersionedStore.compareAndSwap s key expected value).1
      (values (VersionedStore.compareAndSwap s key expected value).2)
  /-- A deletion depends on the version. -/
  erased (s : τ) (key : String) (expected : UInt64) :
    Erased (values s) key expected (VersionedStore.compareAndDelete s key expected).1
      (values (VersionedStore.compareAndDelete s key expected).2)

namespace MemoryStore

variable (s : MemoryStore)

/-- A write assigns the value to its key, with the version that is given to it, and touches no other
key. -/
theorem find?_write_eq_update (key : String) (value : Octets) :
    (s.write key value).2.entries.find? =
      Function.update s.entries.find? key (some ⟨value, (s.write key value).1⟩) := by
  funext key'
  rw [Function.update_apply]
  exact Table.find?_insert _ _ _ _

/-- A deletion clears its key and touches no other key. -/
theorem find?_erase_eq_update (key : String) :
    (s.entries.erase key).find? = Function.update s.entries.find? key none := by
  funext key'
  rw [Function.update_apply]
  exact Table.find?_erase _ _ _

/-- A key has a version exactly if there is a value with this version under it. -/
theorem hasVersion_iff {key : String} {version : UInt64} :
    s.HasVersion key version ↔ ∃ v, s.entries.find? key = some v ∧ v.version = version :=
  Option.map_eq_some_iff

/-- An insertion into a store in memory ends in one of the ways of `Inserted`: the key was present,
or it is written. -/
theorem inserted (key : String) (value : Octets) :
    Inserted s.entries.find? key value (.ok (s.putIfAbsent key value).1)
      (s.putIfAbsent key value).2.entries.find? := by
  rw [putIfAbsent]
  split
  · next v h => exact .present h
  · next h =>
    rw [find?_write_eq_update]
    exact .inserted h _

/-- A replacement in a store in memory ends in one of the ways of `Swapped`, depending on the
version under the key. -/
theorem swapped (key : String) (expected : UInt64) (value : Octets) :
    Swapped s.entries.find? key expected value (.ok (s.compareAndSwap key expected value).1)
      (s.compareAndSwap key expected value).2.entries.find? := by
  rw [compareAndSwap]
  split
  · next h =>
    obtain ⟨v, hfind, hv⟩ := s.hasVersion_iff.1 h
    rw [find?_write_eq_update]
    exact .swapped hfind hv _
  · next h => exact .kept fun v hfind hv => h (s.hasVersion_iff.2 ⟨v, hfind, hv⟩)

/-- A deletion from a store in memory ends in one of the ways of `Erased`, depending on the version
under the key. -/
theorem erased (key : String) (expected : UInt64) :
    Erased s.entries.find? key expected (.ok (s.compareAndDelete key expected).1)
      (s.compareAndDelete key expected).2.entries.find? := by
  rw [compareAndDelete]
  split
  · next h =>
    obtain ⟨v, hfind, hv⟩ := s.hasVersion_iff.1 h
    rw [find?_erase_eq_update]
    exact .erased hfind hv
  · next h => exact .kept fun v hfind hv => h (s.hasVersion_iff.2 ⟨v, hfind, hv⟩)

/-- A store in memory keeps the promises of a store, switched on or off. -/
instance : LawfulStore MemoryStore where
  values s := s.entries.find?
  got s key := by
    change Got s.entries.find? key (s.whenAvailable _).1
    rw [whenAvailable]
    split
    · exact .found
    · exact .failed _
  values_get s key := by
    change (s.whenAvailable (s.entries.find? key, s)).2.entries.find? = s.entries.find?
    rw [whenAvailable]
    split
    · rfl
    · rfl
  inserted s key value := by
    change Inserted _ _ _ (s.whenAvailable _).1 (s.whenAvailable _).2.entries.find?
    rw [whenAvailable]
    split
    · exact s.inserted key value
    · exact .failed _
  swapped s key expected value := by
    change Swapped _ _ _ _ (s.whenAvailable _).1 (s.whenAvailable _).2.entries.find?
    rw [whenAvailable]
    split
    · exact s.swapped key expected value
    · exact .failed _
  erased s key expected := by
    change Erased _ _ _ (s.whenAvailable _).1 (s.whenAvailable _).2.entries.find?
    rw [whenAvailable]
    split
    · exact s.erased key expected
    · exact .failed _

end MemoryStore

end ActorLocation
