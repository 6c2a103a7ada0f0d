import ActorLocation.Directory.Backend
/-!
# The directory

The directory is a backend under the policies that every caller wants: many deletions are sent in
batches, and a corrupted entry counts as absent.

## Main definitions

* `ActorLocation.Directory` — a backend with a batch size.
* `Directory.lookup`, `register`, `unregister`, `unregisterMany`, `unregisterNodes` — its
  operations.
* `ActorLocation.batches` — consecutive batches of a list.

## Main results

* `ActorLocation.batches_eq` — a batch is taken from the front as long as something is left.
* `ActorLocation.batches_induction` — induction over a list and its batches.
-/

namespace ActorLocation

/-! ### Batches -/

variable {α : Type}

/-- Takes batches of `size` items from the front, at most `count` of them. -/
def takeBatches (size : Nat) : (count : Nat) → List α → List (List α)
  | 0, _ => []
  | _ + 1, [] => []
  | count + 1, a :: l => (a :: l).take size :: takeBatches size count ((a :: l).drop size)

/-- A list in consecutive batches of `size` items, the last one possibly shorter. -/
def batches (size : Nat) (l : List α) : List (List α) := takeBatches size l.length l

/-- The bound on the number of batches does not show once it is at least the length of the list,
since every batch takes at least one item.

**Proof sketch.** Induction on the first bound.  Both sides take the same first batch, and what it
leaves is shorter by at least one item, so the decremented bounds still suffice for it. -/
private theorem takeBatches_stable {size : Nat} (hs : 0 < size) {m n : Nat} {l : List α}
    (hm : l.length ≤ m) (hn : l.length ≤ n) : takeBatches size m l = takeBatches size n l := by
  induction m generalizing n l with
  | zero =>
    obtain rfl := List.eq_nil_of_length_eq_zero (Nat.le_zero.1 hm)
    cases n <;> rfl
  | succ m ih =>
    cases l with
    | nil => cases n <;> rfl
    | cons a l =>
      obtain _ | n := n
      · simp at hn
      · simp only [List.length_cons] at hm hn
        simp only [takeBatches, List.cons.injEq, true_and]
        exact ih (by rw [List.length_drop, List.length_cons]; omega)
          (by rw [List.length_drop, List.length_cons]; omega)

/-- Batches are taken from the front as long as something is left. -/
theorem batches_eq {size : Nat} (hs : 0 < size) {l : List α} (hl : l ≠ []) :
    batches size l = l.take size :: batches size (l.drop size) := by
  cases l with
  | nil => exact absurd rfl hl
  | cons a l =>
    have hd : ((a :: l).drop size).length ≤ l.length := by
      rw [List.length_drop, List.length_cons]; omega
    rw [batches, batches, takeBatches_stable hs (Nat.le_refl _) hd]
    rfl

/-- Nothing makes no batch, not an empty one. -/
@[simp] theorem batches_nil (size : Nat) : batches size ([] : List α) = [] := rfl

/-- Induction over a list and its batches: there is nothing to be taken, or a batch is taken from the
front and the rest makes the other batches.

**Proof sketch.** Strong induction on the length, since what the first batch leaves is shorter by at
least one item; the step is `batches_eq`. -/
theorem batches_induction {size : Nat} (hs : 0 < size) {motive : List α → List (List α) → Prop}
    (nil : motive [] [])
    (batch : ∀ l, l ≠ [] → motive (l.drop size) (batches size (l.drop size)) →
      motive l (l.take size :: batches size (l.drop size)))
    (l : List α) : motive l (batches size l) := by
  induction hn : l.length using Nat.strongRecOn generalizing l with
  | ind n ih =>
    by_cases hl : l = []
    · subst hl
      exact nil
    · have hshorter : (l.drop size).length < n := by
        have hpos := List.length_pos_iff.2 hl
        rw [List.length_drop]
        omega
      rw [batches_eq hs hl]
      exact batch l hl (ih _ hshorter _ rfl)

/-! ### The directory -/

/-- A backend, and the number of registrations that are deleted in one batch. -/
structure Directory (σ : Type) where
  /-- The state of the backend. -/
  backend : σ
  /-- The size of a batch. -/
  maxBatch : Nat
  /-- A batch has room for a registration. -/
  maxBatch_pos : 0 < maxBatch

/-- The outcome of deleting many registrations. -/
structure BatchOutcome where
  /-- The number of registrations that were to be deleted. -/
  attempted : Nat
  /-- The registrations whose deletion failed, with the reason. -/
  failures : List (Registration × DirectoryError)

/-- Whether every registration was dealt with. -/
def BatchOutcome.isComplete (o : BatchOutcome) : Bool := o.failures.isEmpty

/-- The outcome of deleting all registrations on given nodes. -/
inductive BulkRemoval where
  /-- These registrations were deleted. -/
  | removed (l : List Registration)
  /-- The backend cannot do it, and nothing was done. -/
  | unsupported

/-- The registrations of a batch whose deletion failed.  A corrupted entry is left alone, which
counts as dealt with. -/
def failuresOf (batch : List Registration) (answers : List (Except DirectoryError Unit)) :
    List (Registration × DirectoryError) :=
  (batch.zip answers).filterMap fun (r, answer) =>
    match answer with
    | .ok () => none
    | .error (.corrupted ..) => none
    | .error e => some (r, e)

namespace Directory

variable {σ : Type} [Backend σ]

/-- What the backend can do. -/
def capabilities (d : Directory σ) : Capabilities := Backend.capabilities d.backend

/-- A directory over a backend, with batches as large as the backend accepts, and not empty. -/
def ofBackend (backend : σ) : Directory σ where
  backend := backend
  maxBatch := max 1 (Backend.capabilities backend).maxBatch
  maxBatch_pos := by omega

/-- The directory with batches of the given size, within what the backend accepts. -/
def withMaxBatch (d : Directory σ) (size : Nat) : Directory σ where
  backend := d.backend
  maxBatch := max 1 (min size (max 1 d.capabilities.maxBatch))
  maxBatch_pos := by omega

/-- The directory with another state of the backend. -/
def withBackend (d : Directory σ) (backend : σ) : Directory σ := { d with backend }

/-- The registration of an actor, if there is one; a corrupted entry counts as absent. -/
def lookup (d : Directory σ) (id : ActorId) :
    Except DirectoryError (Option Registration) × Directory σ :=
  match Backend.lookup d.backend id with
  | (.error (.corrupted ..), s) => (.ok none, d.withBackend s)
  | (answer, s) => (answer, d.withBackend s)

/-- Stores a registration unless its actor has one, and returns the one that is stored. -/
def register (d : Directory σ) (r : Registration) :
    Except DirectoryError Registration × Directory σ :=
  match Backend.register d.backend r with
  | (answer, s) => (answer, d.withBackend s)

/-- Deletes the stored registration if the given one releases it; a corrupted entry is left
alone. -/
def unregister (d : Directory σ) (r : Registration) :
    Except DirectoryError Unit × Directory σ :=
  match Backend.unregister d.backend r with
  | (.error (.corrupted ..), s) => (.ok (), d.withBackend s)
  | (answer, s) => (answer, d.withBackend s)

/-- Deletes batch after batch and collects the failures. -/
def unregisterBatches (d : Directory σ) :
    List (List Registration) → List (Registration × DirectoryError) × Directory σ
  | [] => ([], d)
  | batch :: rest =>
    let (answers, s) := Backend.unregisterBatch d.backend batch
    let (failures, d) := (d.withBackend s).unregisterBatches rest
    (failuresOf batch answers ++ failures, d)

/-- Deletes many registrations in batches.  Every one is tried, and failures are collected. -/
def unregisterMany (d : Directory σ) (l : List Registration) : BatchOutcome × Directory σ :=
  let (failures, d) := d.unregisterBatches (batches d.maxBatch l)
  ({ attempted := l.length, failures }, d)

/-- Deletes all registrations on the given nodes, if the backend can do it. -/
def unregisterNodes (d : Directory σ) (nodes : List Node) :
    Except DirectoryError BulkRemoval × Directory σ :=
  if d.capabilities.bulkRemoval then
    match Backend.unregisterNodes d.backend nodes with
    | (.ok l, s) => (.ok (.removed l), d.withBackend s)
    | (.error e, s) => (.error e, d.withBackend s)
  else (.ok .unsupported, d)

end Directory

end ActorLocation
