import ActorLocation.Directory.Service
/-!
# Monitored backends

Whether every call of an operation succeeds depends on the calls that it makes, which depend on the
answers to those before.  A monitored backend leaves that to the operation and remembers whether one
of its answers was a failure.

## Main definitions

* `ActorLocation.Monitored` — a backend that remembers whether it has failed.

## Main results

* `ActorLocation.Directory.hasFailed_unregisterNodes`, `Directory.hasFailed_unregisterMany` — a
  deletion that reports a failure has met one.
-/

namespace ActorLocation

/-- A backend that remembers whether it has failed. -/
structure Monitored (σ : Type) where
  /-- The backend that does the work. -/
  inner : σ
  /-- Whether one of its answers was a failure. -/
  hasFailed : Bool := false
deriving Inhabited

namespace Monitored

variable {σ α : Type}

/-- Whether an answer is a failure. -/
def isFailure : Except DirectoryError α → Bool
  | .ok _ => false
  | .error _ => true

/-- Carries out an operation and remembers whether it has failed. -/
def watch (m : Monitored σ) (op : σ → Except DirectoryError α × σ) :
    Except DirectoryError α × Monitored σ :=
  ((op m.inner).1, ⟨(op m.inner).2, m.hasFailed || isFailure (op m.inner).1⟩)

/-- A failure is remembered. -/
theorem hasFailed_watch {m : Monitored σ} {op : σ → Except DirectoryError α × σ}
    {e : DirectoryError} (h : (m.watch op).1 = .error e) : (m.watch op).2.hasFailed = true := by
  change (op m.inner).1 = .error e at h
  change (m.hasFailed || isFailure (op m.inner).1) = true
  rw [h]
  exact Bool.or_true _

variable [Backend σ]

instance : Backend (Monitored σ) where
  capabilities m := Backend.capabilities m.inner
  lookup m id := m.watch (Backend.lookup · id)
  register m r := m.watch (Backend.register · r)
  unregister m r := m.watch (Backend.unregister · r)
  unregisterBatch m l :=
    ((Backend.unregisterBatch m.inner l).1,
      ⟨(Backend.unregisterBatch m.inner l).2,
        m.hasFailed || (Backend.unregisterBatch m.inner l).1.any isFailure⟩)
  unregisterNodes m nodes := m.watch (Backend.unregisterNodes · nodes)

end Monitored

/-- A batch without failures among its answers reports none. -/
theorem failuresOf_eq_nil (batch : List Registration) {answers : List (Except DirectoryError Unit)}
    (h : answers.any Monitored.isFailure = false) : failuresOf batch answers = [] := by
  refine List.filterMap_eq_nil_iff.2 fun ⟨r, answer⟩ hmem => ?_
  have hok := List.any_eq_false.1 h answer (List.of_mem_zip hmem).2
  cases answer with
  | ok _ => rfl
  | error _ => exact absurd rfl hok

namespace Directory

variable {σ : Type} [Backend σ]

/-- A deletion by nodes that fails has met a failure of the backend.

**Proof sketch.** A directory reports a failure only if the call of its backend is one, and that
call was watched (`Monitored.hasFailed_watch`). -/
theorem hasFailed_unregisterNodes {d : Directory (Monitored σ)} {nodes : List Node}
    {e : DirectoryError} (h : (d.unregisterNodes nodes).1 = .error e) :
    (d.unregisterNodes nodes).2.backend.hasFailed = true := by
  rw [unregisterNodes] at h ⊢
  split at h
  · next hbulk =>
    rw [if_pos hbulk]
    rcases hanswer : Backend.unregisterNodes d.backend nodes with ⟨answer, m⟩
    rw [hanswer] at h
    cases answer with
    | ok _ => contradiction
    | error e' =>
      have hfailed := Monitored.hasFailed_watch (congrArg Prod.fst hanswer)
      have hm : (Backend.unregisterNodes d.backend nodes).2 = m := congrArg Prod.snd hanswer
      change m.hasFailed = true
      rw [← hm]
      exact hfailed
  · contradiction

/-- What is remembered is not forgotten, and a failure that is reported is remembered.

**Proof sketch.** Induction on the batches.  After the first one, a failure is remembered if there
was one before or in this batch.  If not, the batch reports none (`failuresOf_eq_nil`), so that what
is reported comes from the batches that follow. -/
theorem hasFailed_unregisterBatches {d : Directory (Monitored σ)} (bs : List (List Registration))
    (h : d.backend.hasFailed = true ∨ (d.unregisterBatches bs).1 ≠ []) :
    (d.unregisterBatches bs).2.backend.hasFailed = true := by
  induction bs generalizing d with
  | nil => exact h.resolve_right fun hne => hne rfl
  | cons b bs ih =>
    refine ih (d := d.withBackend (Backend.unregisterBatch d.backend b).2) ?_
    change (d.backend.hasFailed || (Backend.unregisterBatch d.backend.inner b).1.any
      Monitored.isFailure) = true ∨ _
    cases hany : (Backend.unregisterBatch d.backend.inner b).1.any Monitored.isFailure with
    | true => exact .inl (Bool.or_true _)
    | false =>
      refine h.imp (fun h => by rw [h]; rfl) fun hne hrest => hne ?_
      change failuresOf b (Backend.unregisterBatch d.backend.inner b).1 ++
        ((d.withBackend (Backend.unregisterBatch d.backend b).2).unregisterBatches bs).1 = []
      rw [failuresOf_eq_nil b hany, hrest]
      rfl

/-- Many deletions that report a failure have met one. -/
theorem hasFailed_unregisterMany {d : Directory (Monitored σ)} {l : List Registration}
    (h : (d.unregisterMany l).1.failures ≠ []) :
    (d.unregisterMany l).2.backend.hasFailed = true :=
  hasFailed_unregisterBatches (batches d.maxBatch l) (.inr h)

end Directory

end ActorLocation
