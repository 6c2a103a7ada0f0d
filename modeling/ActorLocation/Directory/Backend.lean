import ActorLocation.Registration
/-!
# Directory backends

A backend stores at most one registration per actor.  Registering never overwrites, and a
registration is deleted only by a holder that is entitled to.  The operations are functions of the
backend's state; they may fail, and leave a state behind in either case.

## Main definitions

* `ActorLocation.DirectoryError` — why an operation failed.
* `ActorLocation.Backend` — the operations of a backend.
* `ActorLocation.unregisterEach` — one deletion after the other.
-/

namespace ActorLocation

/-- Why an operation of a directory failed.  That an actor is absent is no failure. -/
inductive DirectoryError where
  /-- The backend cannot be reached, or gives up; trying again may help. -/
  | unavailable (reason : String)
  /-- What is stored for the actor is no registration of it. -/
  | corrupted (id : ActorId) (reason : String)
  /-- The registration of the actor cannot be written down; trying again cannot help. -/
  | encoding (id : ActorId) (reason : String)
deriving DecidableEq, Repr

namespace DirectoryError

/-- The wording of the error. -/
def message : DirectoryError → String
  | unavailable reason => s!"directory unavailable: {reason}"
  | corrupted id reason => s!"corrupted directory entry for {id}: {reason}"
  | encoding id reason => s!"cannot encode directory record for {id}: {reason}"

/-- Whether trying again may help. -/
def isTransient : DirectoryError → Bool
  | unavailable _ => true
  | corrupted .. | encoding .. => false

end DirectoryError

/-- What a backend can do beyond the basic operations. -/
structure Capabilities where
  /-- Whether it can delete all registrations on given nodes. -/
  bulkRemoval : Bool
  /-- The number of registrations that it accepts in one batch. -/
  maxBatch : Nat
deriving DecidableEq, Repr, Inhabited

/-- Deletes registrations one after the other.  A failure does not keep the others from being
tried. -/
def unregisterEach {σ : Type} (unregister : σ → Registration → Except DirectoryError Unit × σ) :
    σ → List Registration → List (Except DirectoryError Unit) × σ
  | s, [] => ([], s)
  | s, r :: rs =>
    let (answer, s) := unregister s r
    let (answers, s) := unregisterEach unregister s rs
    (answer :: answers, s)

/-- A directory backend with states in `σ`. -/
class Backend (σ : Type) where
  /-- What the backend can do. -/
  capabilities : σ → Capabilities
  /-- The registration of an actor, if there is one. -/
  lookup : σ → ActorId → Except DirectoryError (Option Registration) × σ
  /-- Stores a registration unless its actor has one, and returns the one that is stored. -/
  register : σ → Registration → Except DirectoryError Registration × σ
  /-- Deletes the stored registration if the given one releases it.  One that is absent or has been
  superseded is left alone, which is a success. -/
  unregister : σ → Registration → Except DirectoryError Unit × σ
  /-- Deletes a batch, with one answer per registration. -/
  unregisterBatch : σ → List Registration → List (Except DirectoryError Unit) × σ :=
    unregisterEach unregister
  /-- Deletes all registrations on the given nodes and returns them. -/
  unregisterNodes : σ → List Node → Except DirectoryError (List Registration) × σ

end ActorLocation
