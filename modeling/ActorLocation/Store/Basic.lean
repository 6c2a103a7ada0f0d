import ActorLocation.Octets
import ActorLocation.Table
/-!
# Versioned stores

A store keeps octets under text keys and gives each write a new version.  Its conditional writes
take effect only if the key is absent, or still has the expected version.

## Main definitions

* `ActorLocation.VersionedStore` — the operations of a store.
* `ActorLocation.MemoryStore` — a store in memory, which can be switched off.
-/

namespace ActorLocation

/-- A stored value. -/
structure Versioned where
  /-- The value. -/
  value : Octets
  /-- The version that the last write was given. -/
  version : UInt64
deriving DecidableEq, Repr, Inhabited

/-- The outcome of a write to an absent key. -/
inductive PutOutcome where
  /-- The value was written, with this version. -/
  | inserted (version : UInt64)
  /-- The key was present, and nothing was written. -/
  | exists (found : Versioned)
deriving DecidableEq, Repr

/-- The store cannot be reached, for the given reason. -/
structure StoreError where
  /-- Why it cannot be reached. -/
  reason : String
deriving DecidableEq, Repr

/-- The wording of the error. -/
def StoreError.message (e : StoreError) : String := s!"store unavailable: {e.reason}"

/-- A versioned store with states in `τ`. -/
class VersionedStore (τ : Type) where
  /-- The value under a key, if there is one. -/
  get : τ → (key : String) → Except StoreError (Option Versioned) × τ
  /-- Writes a value under an absent key. -/
  putIfAbsent : τ → (key : String) → Octets → Except StoreError PutOutcome × τ
  /-- Replaces the value under a key if it still has the expected version.  Returns the new version,
  or `none` if nothing was written. -/
  compareAndSwap : τ → (key : String) → (expected : UInt64) → Octets →
    Except StoreError (Option UInt64) × τ
  /-- Deletes a key if its value still has the expected version, and says whether it did. -/
  compareAndDelete : τ → (key : String) → (expected : UInt64) → Except StoreError Bool × τ

/-- A store in memory. -/
structure MemoryStore where
  /-- The values. -/
  entries : Table String Versioned := ∅
  /-- The version that the last write was given. -/
  lastVersion : UInt64 := 0
  /-- Whether the store can be reached. -/
  available : Bool := true
deriving Inhabited

namespace MemoryStore

/-- The reason given while the store is switched off. -/
def switchedOff : StoreError := ⟨"memory store switched off"⟩

/-- Switches the store off, or on again. -/
def setAvailable (s : MemoryStore) (available : Bool) : MemoryStore := { s with available }

/-- Writes a value under a key, whatever it holds and whether or not the store can be reached.
Returns the version. -/
def write (s : MemoryStore) (key : String) (value : Octets) : UInt64 × MemoryStore :=
  let version := s.lastVersion + 1
  (version,
    { s with entries := s.entries.insert key ⟨value, version⟩, lastVersion := version })

/-- The number of keys. -/
def size (s : MemoryStore) : Nat := s.entries.size

/-- Whether there is no key. -/
def isEmpty (s : MemoryStore) : Bool := s.entries.isEmpty

/-- Says that the key has a value with this version. -/
def HasVersion (s : MemoryStore) (key : String) (version : UInt64) : Prop :=
  (s.entries.find? key).map Versioned.version = some version

instance (s : MemoryStore) (key : String) (version : UInt64) :
    Decidable (s.HasVersion key version) := inferInstanceAs (Decidable (_ = _))

/-- Writes a value under an absent key. -/
def putIfAbsent (s : MemoryStore) (key : String) (value : Octets) : PutOutcome × MemoryStore :=
  match s.entries.find? key with
  | some found => (.exists found, s)
  | none => (.inserted (s.write key value).1, (s.write key value).2)

/-- Replaces the value under a key if it still has the expected version. -/
def compareAndSwap (s : MemoryStore) (key : String) (expected : UInt64) (value : Octets) :
    Option UInt64 × MemoryStore :=
  if s.HasVersion key expected then (some (s.write key value).1, (s.write key value).2)
  else (none, s)

/-- Deletes a key if its value still has the expected version. -/
def compareAndDelete (s : MemoryStore) (key : String) (expected : UInt64) : Bool × MemoryStore :=
  if s.HasVersion key expected then (true, { s with entries := s.entries.erase key })
  else (false, s)

/-- The answer of an operation while the store can be reached, or else that it cannot. -/
def whenAvailable {α : Type} (s : MemoryStore) (answer : α × MemoryStore) :
    Except StoreError α × MemoryStore :=
  if s.available then (.ok answer.1, answer.2) else (.error switchedOff, s)

instance : VersionedStore MemoryStore where
  get s key := s.whenAvailable (s.entries.find? key, s)
  putIfAbsent s key value := s.whenAvailable (s.putIfAbsent key value)
  compareAndSwap s key expected value := s.whenAvailable (s.compareAndSwap key expected value)
  compareAndDelete s key expected := s.whenAvailable (s.compareAndDelete key expected)

end MemoryStore

end ActorLocation
