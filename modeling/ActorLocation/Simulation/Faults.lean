import ActorLocation.Directory.Backend
/-!
# Faulty backends

A backend with faults switched on shows what its users do when it fails, when it confirms deletions
that it does not carry out, and when it can do less than others.  It keeps a log of the operations
that it is asked for.

## Main definitions

* `ActorLocation.Faults` — the faults that are switched on.
* `ActorLocation.BackendCall` — an operation that a backend is asked for.
* `ActorLocation.Faulty` — a backend with faults and a log, as a `Backend`.
-/

namespace ActorLocation

/-! ### Faults -/

/-- The kind of an injected failure. -/
inductive FailureKind where
  /-- The backend cannot be reached. -/
  | unavailable
  /-- The entry is corrupted. -/
  | corrupted
  /-- The registration cannot be written down. -/
  | encoding
deriving DecidableEq, Repr, Inhabited

namespace FailureKind

/-- The reason that injected failures give. -/
def reason : String := "injected"

/-- The failure of this kind for an actor. -/
def error (id : ActorId) : FailureKind → DirectoryError
  | unavailable => .unavailable reason
  | corrupted => .corrupted id reason
  | encoding => .encoding id reason

end FailureKind

/-- The faults of a backend. -/
structure Faults where
  /-- How every look-up fails, if it does. -/
  lookup : Option FailureKind := none
  /-- How every registration fails, if it does. -/
  register : Option FailureKind := none
  /-- How every deletion of one registration fails, if it does. -/
  unregister : Option FailureKind := none
  /-- How every deletion by node fails, if it does. -/
  unregisterNodes : Option FailureKind := none
  /-- The keys of the actors whose registrations cannot be deleted. -/
  stuckKeys : List String := []
  /-- Whether deletions are confirmed and not carried out. -/
  lag : Bool := false
deriving DecidableEq, Repr, Inhabited

namespace Faults

/-- The failure of a deletion, if it fails. -/
def unregisterError? (f : Faults) (id : ActorId) : Option DirectoryError :=
  match f.unregister with
  | some kind => some (kind.error id)
  | none => if id.key ∈ f.stuckKeys then some (FailureKind.unavailable.error id) else none

/-- The actor that a failed deletion by node names, since no single actor is concerned. -/
def allNodes : ActorId := ⟨⟨0⟩, "nodes"⟩

end Faults

/-! ### Calls -/

/-- An operation that a backend is asked for. -/
inductive BackendCall where
  /-- The registration of an actor. -/
  | lookup (id : ActorId)
  /-- A registration. -/
  | register (r : Registration)
  /-- A deletion. -/
  | unregister (r : Registration)
  /-- The deletion of a batch. -/
  | unregisterBatch (batch : List Registration)
  /-- The deletion of all registrations on given nodes. -/
  | unregisterNodes (nodes : List Node)
deriving DecidableEq, Repr

instance : ToString BackendCall where
  toString
    | .lookup id => s!"lookup {id.key}"
    | .register r => s!"register {r.actor.key}"
    | .unregister r => s!"unregister {r.actor.key}"
    | .unregisterBatch batch => s!"unregister_batch {batch.length}"
    | .unregisterNodes nodes => s!"unregister_nodes {nodes.length}"

/-! ### The backend -/

/-- A backend with faults and a log. -/
structure Faulty (σ : Type) where
  /-- The backend that does the work. -/
  inner : σ
  /-- The faults that are switched on. -/
  faults : Faults := {}
  /-- Whether deletion by node is offered, if that is not for the inner backend to say. -/
  bulkRemoval : Option Bool := none
  /-- The size of a batch, if that is not for the inner backend to say. -/
  maxBatch : Option Nat := none
  /-- The operations that it was asked for, the latest one last. -/
  log : List BackendCall := []
deriving Inhabited

namespace Faulty

variable {σ : Type} [Backend σ]

/-- Notes an operation in the log. -/
def note (b : Faulty σ) (c : BackendCall) : Faulty σ := { b with log := b.log ++ [c] }

/-- The backend with an empty log. -/
def clearLog (b : Faulty σ) : Faulty σ := { b with log := [] }

/-- The backend with other faults. -/
def withFaults (b : Faulty σ) (faults : Faults) : Faulty σ := { b with faults }

/-- The answer of the inner backend, whose state is kept. -/
def forward {α : Type} (b : Faulty σ) (answer : α × σ) : α × Faulty σ :=
  (answer.1, { b with inner := answer.2 })

/-- Deletes a registration, subject to the faults. -/
def unregister (b : Faulty σ) (r : Registration) : Except DirectoryError Unit × Faulty σ :=
  match b.faults.unregisterError? r.actor with
  | some e => (.error e, b)
  | none => if b.faults.lag then (.ok (), b) else b.forward (Backend.unregister b.inner r)

/-- Deletes all registrations on the given nodes, subject to the faults. -/
def unregisterNodes (b : Faulty σ) (nodes : List Node) :
    Except DirectoryError (List Registration) × Faulty σ :=
  match b.faults.unregisterNodes with
  | some kind => (.error (kind.error Faults.allNodes), b)
  | none => if b.faults.lag then (.ok [], b) else b.forward (Backend.unregisterNodes b.inner nodes)

instance : Backend (Faulty σ) where
  capabilities b :=
    { bulkRemoval := b.bulkRemoval.getD (Backend.capabilities b.inner).bulkRemoval
      maxBatch := b.maxBatch.getD (Backend.capabilities b.inner).maxBatch }
  lookup b id :=
    match b.faults.lookup with
    | some kind => (.error (kind.error id), b.note (.lookup id))
    | none => (b.note (.lookup id)).forward (Backend.lookup b.inner id)
  register b r :=
    match b.faults.register with
    | some kind => (.error (kind.error r.actor), b.note (.register r))
    | none => (b.note (.register r)).forward (Backend.register b.inner r)
  unregister b r := (b.note (.unregister r)).unregister r
  unregisterBatch b batch := unregisterEach unregister (b.note (.unregisterBatch batch)) batch
  unregisterNodes b nodes := (b.note (.unregisterNodes nodes)).unregisterNodes nodes

end Faulty

end ActorLocation
