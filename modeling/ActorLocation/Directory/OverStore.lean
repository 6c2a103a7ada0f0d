import ActorLocation.Directory.Backend
import ActorLocation.Format.Identity
import ActorLocation.Store.Basic
/-!
# The directory over a versioned store

Each actor has one key, and its registration is stored there as JSON; the version of the stored
value is the token of the registration.  A value that is no registration of the actor is replaced
when the actor is registered, and left alone otherwise.  Registrations are not deleted by node,
since that would take a search of all keys.

## Main definitions

* `ActorLocation.OverStore` — the directory over a store, as a `Backend`.
* `OverStore.storageKey`, `OverStore.decode` — the key of an actor, and what a stored value means
  for it.
-/

namespace ActorLocation

/-- A failure of the store as a failure of the directory. -/
def StoreError.toDirectoryError (e : StoreError) : DirectoryError := .unavailable e.reason

/-- A directory over a versioned store. -/
structure OverStore (τ : Type) where
  /-- The state of the store. -/
  store : τ
deriving Inhabited

namespace OverStore

/-- The number of registrations that are deleted in one batch. -/
def maxBatch : Nat := 25

/-- How often a registration is tried while rivals write under the same key. -/
def maxAttempts : Nat := 3

/-- The key under which the registration of an actor is stored. -/
def storageKey (id : ActorId) : String := toString id

/-- Why a value that cannot be read is no registration. -/
def undecodable : String := "not a stored registration"

/-- Why the registration of another actor is no registration of this one. -/
def belongsTo (owner : ActorId) : String := s!"entry belongs to {owner}"

/-- What a stored value means for an actor: its registration, with the version for a token. -/
def decode (id : ActorId) (v : Versioned) : Except DirectoryError Registration :=
  match Registration.ofStored? v.value with
  | none => .error (.corrupted id undecodable)
  | some r =>
    if r.actor = id then .ok (r.withEtag ⟨v.version⟩)
    else .error (.corrupted id (belongsTo r.actor))

variable {τ : Type} [VersionedStore τ]

/-- The registration of an actor, if there is one. -/
def lookup (d : OverStore τ) (id : ActorId) :
    Except DirectoryError (Option Registration) × OverStore τ :=
  match VersionedStore.get d.store (storageKey id) with
  | (.error e, s) => (.error e.toDirectoryError, ⟨s⟩)
  | (.ok none, s) => (.ok none, ⟨s⟩)
  | (.ok (some v), s) => ((decode id v).map some, ⟨s⟩)

/-- Tries `attempts` times to store a registration under its key: as a new value, or in place of
one that is no registration of the actor. -/
def registerWithin (r : Registration) :
    (attempts : Nat) → OverStore τ → Except DirectoryError Registration × OverStore τ
  | 0, d => (.error (.unavailable s!"contended entry for {r.actor}"), d)
  | attempts + 1, d =>
    match VersionedStore.putIfAbsent d.store (storageKey r.actor) r.toStored with
    | (.error e, s) => (.error e.toDirectoryError, ⟨s⟩)
    | (.ok (.inserted version), s) => (.ok (r.withEtag ⟨version⟩), ⟨s⟩)
    | (.ok (.exists v), s) =>
      match decode r.actor v with
      | .ok stored => (.ok stored, ⟨s⟩)
      | .error (.corrupted ..) =>
        match VersionedStore.compareAndSwap s (storageKey r.actor) v.version r.toStored with
        | (.error e, s) => (.error e.toDirectoryError, ⟨s⟩)
        | (.ok (some version), s) => (.ok (r.withEtag ⟨version⟩), ⟨s⟩)
        | (.ok none, s) => registerWithin r attempts ⟨s⟩
      | .error e => (.error e, ⟨s⟩)

/-- Stores a registration unless its actor has one, and returns the one that is stored. -/
def register (d : OverStore τ) (r : Registration) :
    Except DirectoryError Registration × OverStore τ :=
  registerWithin r maxAttempts d

/-- Deletes the stored registration if the given one releases it, provided that it has not changed
since it was read. -/
def unregister (d : OverStore τ) (r : Registration) : Except DirectoryError Unit × OverStore τ :=
  match VersionedStore.get d.store (storageKey r.actor) with
  | (.error e, s) => (.error e.toDirectoryError, ⟨s⟩)
  | (.ok none, s) => (.ok (), ⟨s⟩)
  | (.ok (some v), s) =>
    match decode r.actor v with
    | .error e => (.error e, ⟨s⟩)
    | .ok stored =>
      if r.Releases stored then
        match VersionedStore.compareAndDelete s (storageKey r.actor) v.version with
        | (.error e, s) => (.error e.toDirectoryError, ⟨s⟩)
        | (.ok _, s) => (.ok (), ⟨s⟩)
      else (.ok (), ⟨s⟩)

instance : Backend (OverStore τ) where
  capabilities _ := { bulkRemoval := false, maxBatch }
  lookup := lookup
  register := register
  unregister := unregister
  unregisterNodes d _ := (.ok [], d)

end OverStore

end ActorLocation
