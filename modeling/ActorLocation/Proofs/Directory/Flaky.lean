import ActorLocation.Proofs.Directory.Lawful
/-!
# Flaky backends

Whatever a directory is asked for, its backend may be out of reach at that moment.  A flaky backend
fails by a plan that says which of the coming operations fail; the plan may be replaced at any time.
What holds under every plan holds in whatever way the backend fails.

A plan treats look-ups apart from the other operations, since a look-up that succeeds leaves its
backend as it is.

## Main definitions

* `ActorLocation.Outages` — a plan of failures.
* `ActorLocation.Flaky` — a backend that fails by plan, as a lawful backend.
* `ActorLocation.Directory.under` — a directory under another plan.
-/

namespace ActorLocation

/-- A plan of failures. -/
structure Outages where
  /-- Whether look-ups fail. -/
  lookups : Bool := false
  /-- Whether the other operations fail, one entry for each of those to come.  The operations after
  the last entry succeed. -/
  changes : List Bool := []
deriving DecidableEq, Repr, Inhabited

/-- A backend that is out of reach from time to time. -/
structure Flaky (σ : Type) where
  /-- The backend that does the work. -/
  inner : σ
  /-- Which of the coming operations fail. -/
  outages : Outages := {}
  /-- Whether the backend may delete by nodes, if it can. -/
  bulkRemoval : Bool := true
deriving Inhabited

namespace Flaky

/-- The failure of an operation while the backend is out of reach. -/
def outage : DirectoryError := .unavailable "outage"

variable {σ α : Type}

/-- The backend once it has been asked for a change. -/
def next (b : Flaky σ) : Flaky σ :=
  { b with outages := { b.outages with changes := b.outages.changes.tail } }

/-- Carries out a change, unless it is planned to fail. -/
def change (b : Flaky σ) (op : σ → Except DirectoryError α × σ) :
    Except DirectoryError α × Flaky σ :=
  if b.outages.changes.head? = some true then (.error outage, b.next)
  else ((op b.inner).1, { b.next with inner := (op b.inner).2 })

/-- A change fails without effect, or it is carried out. -/
theorem change_cases (b : Flaky σ) (op : σ → Except DirectoryError α × σ) :
    b.change op = (.error outage, b.next) ∨
      b.change op = ((op b.inner).1, { b.next with inner := (op b.inner).2 }) := by
  unfold change
  split
  · exact .inl rfl
  · exact .inr rfl

variable [Backend σ]

instance : Backend (Flaky σ) where
  capabilities b :=
    { Backend.capabilities b.inner with
      bulkRemoval := (Backend.capabilities b.inner).bulkRemoval && b.bulkRemoval }
  lookup b actor :=
    if b.outages.lookups then (.error outage, b)
    else ((Backend.lookup b.inner actor).1, { b with inner := (Backend.lookup b.inner actor).2 })
  register b r := b.change (Backend.register · r)
  unregister b r := b.change (Backend.unregister · r)
  unregisterNodes b nodes := b.change (Backend.unregisterNodes · nodes)

/-- A flaky backend keeps the promises of a backend if the one that does the work keeps them. -/
instance [LawfulBackend σ] : LawfulBackend (Flaky σ) where
  contents b := LawfulBackend.contents b.inner
  looked b actor := by
    change Looked _ actor (if b.outages.lookups then _ else _ : _ × Flaky σ).1
    split
    · exact .failed outage (.inl rfl)
    · exact LawfulBackend.looked b.inner actor
  contents_lookup b actor := by
    change LawfulBackend.contents (if b.outages.lookups then _ else _ : _ × Flaky σ).2.inner = _
    split
    · rfl
    · exact LawfulBackend.contents_lookup b.inner actor
  lookup_of_ok {b b' actor found} h := by
    change (if b.outages.lookups then _ else _) = _ at h
    split at h
    · simp at h
    · -- The backend that does the work stays as it is, and nothing else could change.
      obtain ⟨hanswer, rfl⟩ := Prod.mk.inj h
      have hinner : (Backend.lookup b.inner actor).2 = b.inner :=
        LawfulBackend.lookup_of_ok (Prod.ext hanswer rfl)
      rw [hinner]
  registered b r := by
    change Registered _ r (b.change _).1 (LawfulBackend.contents (b.change _).2.inner)
    rcases b.change_cases (Backend.register · r) with h | h
    · rw [h]
      exact .failed outage
    · rw [h]
      exact LawfulBackend.registered b.inner r
  unregistered b r := by
    change Unregistered _ r (b.change _).1 (LawfulBackend.contents (b.change _).2.inner)
    rcases b.change_cases (Backend.unregister · r) with h | h
    · rw [h]
      exact .failed outage (.inl rfl)
    · rw [h]
      exact LawfulBackend.unregistered b.inner r
  unregisterBatch_eq _ _ := rfl
  dropped b nodes hb := by
    have hbulk : (Backend.capabilities b.inner).bulkRemoval = true := (Bool.and_eq_true_iff.1 hb).1
    change Dropped _ nodes (b.change _).1 (LawfulBackend.contents (b.change _).2.inner)
    rcases b.change_cases (Backend.unregisterNodes · nodes) with h | h
    · rw [h]
      exact .failed outage
    · rw [h]
      exact LawfulBackend.dropped b.inner nodes hbulk

end Flaky

/-- The directory under another plan of failures. -/
def Directory.under {σ : Type} (o : Outages) (d : Directory (Flaky σ)) : Directory (Flaky σ) :=
  d.withBackend { d.backend with outages := o }

end ActorLocation
