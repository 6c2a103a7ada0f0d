import ActorLocation.Proofs.Directory.Contents
/-!
# Transcripts of backends

What is asked of a backend, and what it answers, is told by a transcript.  Keeping one changes no
answer.  More generally, a backend whose states stand for states of another one answers as the other
one does, and so does a directory over it.

## Main definitions

* `ActorLocation.BackendMap` — states of one backend taken for states of another.
* `ActorLocation.Directory.map` — a directory over the other backend.
* `ActorLocation.Exchange` — an operation with its answer.
* `ActorLocation.Recorded` — a backend with a transcript, as a `Backend`.

## Main results

* `ActorLocation.Directory.register_map`, `Directory.unregister_map` — the directories answer alike.
* `ActorLocation.Directory.register_recorded`, `Directory.unregister_recorded` — a directory notes
  what its backend is asked for.
-/

namespace ActorLocation

/-! ### Backends that answer alike -/

/-- A map that takes the states of one backend for states of another.  Registrations and deletions
are answered alike, and leave corresponding states behind. -/
structure BackendMap (σ τ : Type) [Backend σ] [Backend τ] where
  /-- The state of the other backend. -/
  map : σ → τ
  /-- Registering is the same. -/
  register (s : σ) (r : Registration) :
    Backend.register (map s) r = (Backend.register s r).map id map
  /-- Deleting is the same. -/
  unregister (s : σ) (r : Registration) :
    Backend.unregister (map s) r = (Backend.unregister s r).map id map

variable {σ τ : Type} [Backend σ] [Backend τ]

namespace Directory

/-- The directory over a state of another backend. -/
def map (π : BackendMap σ τ) (d : Directory σ) : Directory τ :=
  ⟨π.map d.backend, d.maxBatch, d.maxBatch_pos⟩

/-- Over corresponding states, directories register alike. -/
theorem register_map (π : BackendMap σ τ) (d : Directory σ) (r : Registration) :
    (d.map π).register r = (d.register r).map id (map π) := by
  simp only [register, map, π.register]
  rfl

/-- Over corresponding states, directories delete alike. -/
theorem unregister_map (π : BackendMap σ τ) (d : Directory σ) (r : Registration) :
    (d.map π).unregister r = (d.unregister r).map id (map π) := by
  simp only [unregister, map, π.unregister]
  rcases Backend.unregister d.backend r with ⟨(_ | _ | _) | _, s⟩ <;> rfl

end Directory

/-! ### Transcripts -/

/-- An operation that a backend was asked for, with its answer. -/
inductive Exchange where
  /-- A look-up. -/
  | lookedUp (id : ActorId) (answer : Except DirectoryError (Option Registration))
  /-- A registration. -/
  | registered (r : Registration) (answer : Except DirectoryError Registration)
  /-- A deletion. -/
  | unregistered (r : Registration) (answer : Except DirectoryError Unit)
  /-- The deletion of all registrations on given nodes. -/
  | removed (nodes : List Node) (answer : Except DirectoryError (List Registration))

namespace Exchange

/-- The answer to a registration. -/
def registered? : Exchange → Option (Except DirectoryError Registration)
  | registered _ answer => some answer
  | lookedUp .. | unregistered .. | removed .. => none

/-- Whether a registration was to be deleted. -/
def isDeletion : Exchange → Bool
  | unregistered .. => true
  | lookedUp .. | registered .. | removed .. => false

/-- Why the operation failed, if it did. -/
def error? : Exchange → Option DirectoryError
  | lookedUp _ (.error e) | registered _ (.error e) | unregistered _ (.error e)
  | removed _ (.error e) => some e
  | lookedUp _ (.ok _) | registered _ (.ok _) | unregistered _ (.ok _) | removed _ (.ok _) => none

end Exchange

/-- A backend with a transcript. -/
structure Recorded (σ : Type) where
  /-- The backend that does the work. -/
  inner : σ
  /-- What it was asked for, the latest operation last. -/
  transcript : List Exchange := []

namespace Recorded

/-- The answer of the backend, noted in the transcript. -/
def note {α : Type} (b : Recorded σ) (exchange : α → Exchange) (answer : α × σ) : α × Recorded σ :=
  (answer.1, ⟨answer.2, b.transcript ++ [exchange answer.1]⟩)

instance : Backend (Recorded σ) where
  capabilities b := Backend.capabilities b.inner
  lookup b id := b.note (.lookedUp id) (Backend.lookup b.inner id)
  register b r := b.note (.registered r) (Backend.register b.inner r)
  unregister b r := b.note (.unregistered r) (Backend.unregister b.inner r)
  unregisterNodes b nodes := b.note (.removed nodes) (Backend.unregisterNodes b.inner nodes)

/-- The backend without its transcript answers alike. -/
def forget (σ : Type) [Backend σ] : BackendMap (Recorded σ) σ where
  map := inner
  register _ _ := rfl
  unregister _ _ := rfl

end Recorded

namespace Directory

/-- The directory with an empty transcript. -/
def recorded (d : Directory σ) : Directory (Recorded σ) :=
  ⟨⟨d.backend, []⟩, d.maxBatch, d.maxBatch_pos⟩

variable (d : Directory (Recorded σ)) (r : Registration)

/-- What was asked of the backend of a directory. -/
def transcript : List Exchange := d.backend.transcript

/-- A registration is noted with its answer. -/
theorem register_recorded :
    (d.register r).2.transcript = d.transcript ++ [.registered r (d.register r).1] := rfl

/-- A deletion has the answer of the backend, unless the entry was corrupted. -/
theorem unregister_recorded :
    ∃ answer, (d.unregister r).2.transcript = d.transcript ++ [.unregistered r answer] ∧
      ∀ e, (d.unregister r).1 = .error e → answer = .error e := by
  refine ⟨(Backend.unregister d.backend r).1, ?_, fun e he => d.unregister_of_error he⟩
  rw [transcript, unregister_snd]
  rfl

end Directory

end ActorLocation
