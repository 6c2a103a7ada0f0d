import ActorLocation.Proofs.Directory.Batches
import ActorLocation.Proofs.Directory.Flaky
import ActorLocation.Proofs.Directory.Transcript
import ActorLocation.Proofs.Membership.Death
/-!
# Many deletions, one by one

How a list is cut into batches does not matter for a backend that deletes the registrations of a
batch one after the other.  Deleting many registrations then comes to the same as asking the
directory for each of them in turn: the same answers, the same failures in the same order, and the
same state, whichever deletions fail.

## Main definitions

* `ActorLocation.Backend.BatchesInTurn` — a batch is deleted one by one.
* `ActorLocation.Directory.unregisterInTurn` — the deletions asked for in turn.
* `ActorLocation.Exchange.failure?` — a deletion that counts as failed.
* `ActorLocation.Dispatched` — a backend that remembers the batches it was sent.

## Main results

* `ActorLocation.unregisterEach_recorded` — each registration is asked for once, in order.
* `ActorLocation.Directory.unregisterMany_eq` — many deletions are the deletions in turn.
* `ActorLocation.Directory.unregisterMany_one_by_one` — so the size of the batches does not matter.
-/

namespace ActorLocation

/-- Says that the registrations of a batch are deleted one after the other. -/
def Backend.BatchesInTurn (σ : Type) [Backend σ] : Prop :=
  ∀ (s : σ) (l : List Registration),
    Backend.unregisterBatch s l = unregisterEach Backend.unregister s l

/-- Lawful backends delete the registrations of a batch one after the other. -/
theorem LawfulBackend.batchesInTurn {σ : Type} [Backend σ] [LawfulBackend σ] :
    Backend.BatchesInTurn σ := LawfulBackend.unregisterBatch_eq

/-! ### Batches -/

/-- A batch is not empty and not larger than it may be.

**Proof sketch.** Induction over the batches.  A batch is taken from a list that is not empty, so it
has a first item, and at most `size` items in all. -/
theorem length_of_mem_batches {α : Type} {size : Nat} (hs : 0 < size) {l b : List α}
    (hb : b ∈ batches size l) : 1 ≤ b.length ∧ b.length ≤ size := by
  revert hb
  refine batches_induction hs (motive := fun _ bs => b ∈ bs → 1 ≤ b.length ∧ b.length ≤ size)
    (fun hb => absurd hb List.not_mem_nil) ?_ l
  intro l hl ih hb
  rcases List.mem_cons.1 hb with rfl | hb
  · have hpos := List.length_pos_iff.2 hl
    rw [List.length_take]
    omega
  · exact ih hb

variable {σ : Type} [Backend σ]

namespace Directory

/-! ### Deletions in turn -/

/-- Asks for one deletion after the other, and collects the failures. -/
def unregisterInTurn (d : Directory σ) :
    List Registration → List (Registration × DirectoryError) × Directory σ
  | [] => ([], d)
  | r :: rs =>
    let (answer, d) := d.unregister r
    let (failures, d) := d.unregisterInTurn rs
    (match answer with
      | .ok () => failures
      | .error e => (r, e) :: failures, d)

/-- The first deletion comes first, and its failure is the first one reported. -/
theorem unregisterInTurn_cons (d : Directory σ) (r : Registration) (rs : List Registration) :
    d.unregisterInTurn (r :: rs) =
      (match (d.unregister r).1 with
        | .ok () => ((d.unregister r).2.unregisterInTurn rs).1
        | .error e => (r, e) :: ((d.unregister r).2.unregisterInTurn rs).1,
        ((d.unregister r).2.unregisterInTurn rs).2) := rfl

/-- The failures are those that the answers of the backend amount to. -/
theorem unregisterInTurn_eq (d : Directory σ) (l : List Registration) :
    d.unregisterInTurn l =
      (failuresOf l (unregisterEach Backend.unregister d.backend l).1,
        d.withBackend (unregisterEach Backend.unregister d.backend l).2) := by
  induction l generalizing d with
  | nil => rfl
  | cons r rs ih =>
    rw [unregisterInTurn_cons, unregisterEach, failuresOf_cons, ih, unregister_snd]
    rw [unregister]
    rcases Backend.unregister d.backend r with ⟨(_ | _ | _) | _, s⟩ <;> rfl

/-- Deletions in turn may be interrupted anywhere: the state is handed on, and the failures are
collected. -/
theorem unregisterInTurn_append (d : Directory σ) (l l' : List Registration) :
    d.unregisterInTurn (l ++ l') =
      ((d.unregisterInTurn l).1 ++ ((d.unregisterInTurn l).2.unregisterInTurn l').1,
        ((d.unregisterInTurn l).2.unregisterInTurn l').2) := by
  induction l generalizing d with
  | nil => rfl
  | cons r rs ih =>
    rw [List.cons_append, unregisterInTurn_cons, unregisterInTurn_cons, ih]
    cases (d.unregister r).1 <;> rfl

/-- Batch after batch is registration after registration. -/
theorem unregisterBatches_eq (hturn : Backend.BatchesInTurn σ) (d : Directory σ)
    (bs : List (List Registration)) : d.unregisterBatches bs = d.unregisterInTurn bs.flatten := by
  induction bs generalizing d with
  | nil => rfl
  | cons b bs ih =>
    rw [List.flatten_cons, unregisterInTurn_append, unregisterInTurn_eq d b, unregisterBatches,
      hturn]
    simp only [ih]

/-- Many deletions are the deletions in turn. -/
theorem unregisterMany_eq (hturn : Backend.BatchesInTurn σ) (d : Directory σ)
    (l : List Registration) :
    d.unregisterMany l = (⟨l.length, (d.unregisterInTurn l).1⟩, (d.unregisterInTurn l).2) := by
  rw [unregisterMany, unregisterBatches_eq hturn, flatten_batches d.maxBatch_pos]

end Directory

/-! ### What is left -/

/-- What is held after a deletion: what was held before and is not released. -/
theorem Contents.release_eq_some_iff {c : Contents} {u r : Registration} {id : ActorId} :
    c.release u id = some r ↔ c id = some r ∧ ¬ (id = u.actor ∧ u.Releases r) := by
  rw [Contents.release]
  split
  · next hid => simp [Option.filter_eq_some_iff, hid]
  · next hid => simp [hid]

namespace Directory

/-- Only what was to be deleted is reported as failed. -/
theorem mem_of_mem_unregisterInTurn {d : Directory σ} {l : List Registration}
    {f : Registration × DirectoryError} (hf : f ∈ (d.unregisterInTurn l).1) : f.1 ∈ l := by
  rw [unregisterInTurn_eq] at hf
  exact mem_of_mem_failuresOf hf

/-- Of different registrations, each one deletes what it releases, unless it is reported as failed.
Everything else stays.

**Proof sketch.** Induction on the list.  The first deletion takes away what it releases and is not
reported, or takes away nothing and is reported; the rest is the induction hypothesis for the
directory that it leaves.  That the registrations differ is needed to tell the failure of the first
one from those of the others. -/
theorem contents_unregisterInTurn [LawfulBackend σ] (d : Directory σ) {l : List Registration}
    (hl : l.Nodup) (id : ActorId) (r : Registration) :
    (d.unregisterInTurn l).2.contents id = some r ↔
      d.contents id = some r ∧ ∀ u ∈ l, id = u.actor → u.Releases r →
        u ∈ (d.unregisterInTurn l).1.map Prod.fst := by
  induction l generalizing d with
  | nil => simp [unregisterInTurn]
  | cons u l ih =>
    obtain ⟨hu, hl⟩ := List.nodup_cons.1 hl
    have hfirst := d.unregistered u
    have hrest := ih (d.unregister u).2 hl
    -- The registrations differ, so a failure belongs to one deletion only.
    have hunreported : u ∉ ((d.unregister u).2.unregisterInTurn l).1.map Prod.fst := by
      intro h
      obtain ⟨f, hf, rfl⟩ := List.mem_map.1 h
      exact hu (mem_of_mem_unregisterInTurn hf)
    have hother (us : List Registration) :
        (∀ v ∈ l, id = v.actor → v.Releases r → v ∈ u :: us) ↔
          ∀ v ∈ l, id = v.actor → v.Releases r → v ∈ us :=
      forall₂_congr fun v hv => by
        rw [List.mem_cons, or_iff_right (ne_of_mem_of_not_mem hv hu)]
    rw [unregisterInTurn_cons, List.forall_mem_cons, hrest]
    generalize (d.unregister u).1 = answer at hfirst
    generalize (d.unregister u).2.contents = c' at hfirst
    -- Either the first deletion took effect, or it is reported.
    cases hfirst with
    | released =>
      simp only [Contents.release_eq_some_iff, not_and, hunreported, imp_false, and_assoc]
    | failed e h =>
      simp only [List.map_cons, hother, List.mem_cons_self, implies_true, true_and]

end Directory

/-! ### What the backend is asked for -/

/-- The registration whose deletion failed and the reason, unless the entry was corrupted. -/
def Exchange.failure? : Exchange → Option (Registration × DirectoryError)
  | unregistered r (.error e) =>
    match e with
    | .corrupted .. => none
    | .unavailable _ | .encoding .. => some (r, e)
  | unregistered _ (.ok _) | lookedUp .. | registered .. | removed .. => none

/-- There is one answer for each deletion. -/
theorem length_unregisterEach (s : σ) (l : List Registration) :
    (unregisterEach Backend.unregister s l).1.length = l.length := by
  induction l generalizing s with
  | nil => rfl
  | cons r rs ih => rw [unregisterEach, List.length_cons, List.length_cons, ih]

/-- The failures can be read off the exchanges.

**Proof sketch.** Both go through the pairs of a registration and its answer, and agree on each
pair. -/
theorem failuresOf_eq_filterMap (l : List Registration)
    (answers : List (Except DirectoryError Unit)) :
    failuresOf l answers = (List.zipWith .unregistered l answers).filterMap Exchange.failure? := by
  rw [failuresOf, ← List.map_uncurry_zip_eq_zipWith, List.filterMap_map]
  congr 1
  funext p
  obtain ⟨r, (_ | _ | _) | _⟩ := p <;> rfl

/-- Each registration is asked for once, in order.

**Proof sketch.** Induction on the batch, with the transcript so far left free: each deletion
appends its exchange to it. -/
theorem unregisterEach_recorded (b : Recorded σ) (l : List Registration) :
    unregisterEach Backend.unregister b l =
      ((unregisterEach Backend.unregister b.inner l).1,
        ⟨(unregisterEach Backend.unregister b.inner l).2,
          b.transcript ++
            List.zipWith .unregistered l (unregisterEach Backend.unregister b.inner l).1⟩) := by
  induction l generalizing b with
  | nil =>
    rw [unregisterEach, unregisterEach, List.zipWith_nil_left, List.append_nil]
  | cons r rs ih =>
    simp only [unregisterEach, ih, List.zipWith_cons_cons]
    simp only [Backend.unregister, Recorded.note, List.append_assoc, List.singleton_append]

/-- A backend that writes down what it is asked deletes the registrations of a batch one after the
other, whether or not the one that does the work would. -/
theorem Recorded.batchesInTurn : Backend.BatchesInTurn (Recorded σ) := fun _ _ => rfl

/-- Many deletions ask for each registration once, in order, and report what has failed.  The
transcript changes neither the outcome nor the state. -/
theorem Directory.unregisterMany_recorded (hturn : Backend.BatchesInTurn σ) (d : Directory σ)
    (l : List Registration) :
    ∃ answers : List (Except DirectoryError Unit), answers.length = l.length ∧
      (d.recorded.unregisterMany l).2.transcript = List.zipWith .unregistered l answers ∧
      (d.recorded.unregisterMany l).2.backend.inner = (d.unregisterMany l).2.backend ∧
      (d.recorded.unregisterMany l).1 = (d.unregisterMany l).1 ∧
      (d.unregisterMany l).1.failures =
        (List.zipWith .unregistered l answers).filterMap Exchange.failure? := by
  have hmany := d.unregisterMany_eq hturn l
  have hrecorded := d.recorded.unregisterMany_eq Recorded.batchesInTurn l
  have heach := unregisterEach_recorded d.recorded.backend l
  rw [unregisterInTurn_eq] at hmany hrecorded
  rw [hmany, hrecorded, transcript]
  refine ⟨(unregisterEach Backend.unregister d.backend l).1, length_unregisterEach _ l, ?_, ?_, ?_,
    failuresOf_eq_filterMap l _⟩
  · exact congrArg (fun p => p.2.transcript) heach
  · exact congrArg (fun p => p.2.inner) heach
  · exact congrArg (fun p => (⟨l.length, failuresOf l p.1⟩ : BatchOutcome)) heach

/-! ### Batches that were sent -/

/-- A backend that remembers the batches it was sent. -/
structure Dispatched (σ : Type) where
  /-- The backend that does the work. -/
  inner : σ
  /-- The batches, the latest one last. -/
  sent : List (List Registration) := []

instance : Backend (Dispatched σ) where
  capabilities b := Backend.capabilities b.inner
  lookup b actor := (Backend.lookup b.inner actor).map id fun s => { b with inner := s }
  register b r := (Backend.register b.inner r).map id fun s => { b with inner := s }
  unregister b r := (Backend.unregister b.inner r).map id fun s => { b with inner := s }
  unregisterBatch b l := (Backend.unregisterBatch b.inner l).map id (⟨·, b.sent ++ [l]⟩)
  unregisterNodes b nodes :=
    (Backend.unregisterNodes b.inner nodes).map id fun s => { b with inner := s }

namespace Directory

/-- The directory over a backend that was sent the given batches. -/
def dispatched (sent : List (List Registration)) (d : Directory σ) : Directory (Dispatched σ) :=
  ⟨⟨d.backend, sent⟩, d.maxBatch, d.maxBatch_pos⟩

/-- The batches are sent in order, behind those that were sent before, and sending them has no other
effect. -/
theorem unregisterBatches_dispatched (d : Directory σ) (sent bs : List (List Registration)) :
    (d.dispatched sent).unregisterBatches bs =
      ((d.unregisterBatches bs).1, (d.unregisterBatches bs).2.dispatched (sent ++ bs)) := by
  induction bs generalizing d sent with
  | nil => rw [List.append_nil, unregisterBatches, unregisterBatches]
  | cons b bs ih =>
    have hrest := ih (d.withBackend (Backend.unregisterBatch d.backend b).2) (sent ++ [b])
    rw [List.append_assoc, List.singleton_append] at hrest
    exact congrArg (fun p => (failuresOf b (Backend.unregisterBatch d.backend b).1 ++ p.1, p.2))
      hrest

/-- The batches that are sent are those that the list is cut into. -/
theorem unregisterMany_dispatched (d : Directory σ) (l : List Registration) :
    (d.dispatched []).unregisterMany l =
      ((d.unregisterMany l).1, (d.unregisterMany l).2.dispatched (batches d.maxBatch l)) :=
  congrArg (fun p => ((⟨l.length, p.1⟩ : BatchOutcome), p.2))
    (d.unregisterBatches_dispatched [] (batches d.maxBatch l))

/-! ### The size of the batches -/

/-- Batches are as large as the backend accepts, or smaller, whatever sizes are asked for.

**Proof sketch.** Induction on the sizes that are asked for: each one is cut down to what the
backend accepts, which no request changes. -/
theorem maxBatch_configured (s : σ) (sizes : List Nat) :
    (sizes.foldl withMaxBatch (ofBackend s)).maxBatch ≤
      max 1 (Backend.capabilities s).maxBatch := by
  suffices h : ∀ d : Directory σ, d.backend = s →
      d.maxBatch ≤ max 1 (Backend.capabilities s).maxBatch →
      (sizes.foldl withMaxBatch d).maxBatch ≤ max 1 (Backend.capabilities s).maxBatch from
    h (ofBackend s) rfl (Nat.le_refl _)
  intro d hd hmax
  induction sizes generalizing d with
  | nil => exact hmax
  | cons size sizes ih =>
    refine ih (d.withMaxBatch size) hd ?_
    simp only [withMaxBatch, Directory.capabilities, hd]
    omega

/-- For a backend that deletes a batch one by one, many deletions attempt each registration once and
in order, and give the outcome and the state of the deletions in turn, with the failures that were
met and no others.  The size of the batches makes no difference.  A batch that is sent is not empty
and not larger than it may be, and it may not be larger than the backend accepts.

**Proof sketch.** `unregisterMany_eq` reduces many deletions to deletions in turn, where no size
occurs any more; this gives the first part and the third.  What was asked for is
`unregisterMany_recorded`.  The batches that are sent are those that the list is cut into
(`unregisterMany_dispatched`), and `flatten_batches`, `length_of_mem_batches` and
`maxBatch_configured` describe them. -/
theorem unregisterMany_one_by_one (hturn : Backend.BatchesInTurn σ) (d : Directory σ)
    (l : List Registration) :
    d.unregisterMany l = (⟨l.length, (d.unregisterInTurn l).1⟩, (d.unregisterInTurn l).2) ∧
      (∃ answers : List (Except DirectoryError Unit), answers.length = l.length ∧
        (d.recorded.unregisterMany l).2.transcript = List.zipWith .unregistered l answers ∧
        (d.recorded.unregisterMany l).2.backend.inner = (d.unregisterMany l).2.backend ∧
        (d.recorded.unregisterMany l).1 = (d.unregisterMany l).1 ∧
        (d.unregisterMany l).1.failures =
          (List.zipWith .unregistered l answers).filterMap Exchange.failure?) ∧
      (∀ (size : Nat) (hsize : 0 < size),
        ((⟨d.backend, size, hsize⟩ : Directory σ).unregisterMany l).1 = (d.unregisterMany l).1 ∧
          ((⟨d.backend, size, hsize⟩ : Directory σ).unregisterMany l).2.backend =
            (d.unregisterMany l).2.backend) ∧
      (∃ sent : List (List Registration),
        (d.dispatched []).unregisterMany l =
            ((d.unregisterMany l).1, (d.unregisterMany l).2.dispatched sent) ∧
          sent.flatten = l ∧ ∀ b ∈ sent, 1 ≤ b.length ∧ b.length ≤ d.maxBatch) ∧
      ∀ (s : σ) (sizes : List Nat),
        1 ≤ (sizes.foldl withMaxBatch (ofBackend s)).maxBatch ∧
          (sizes.foldl withMaxBatch (ofBackend s)).maxBatch ≤
            max 1 (Backend.capabilities s).maxBatch := by
  have hmany := d.unregisterMany_eq hturn l
  refine ⟨hmany, d.unregisterMany_recorded hturn l, ?_, ?_, ?_⟩
  · intro size hsize
    have hother := unregisterMany_eq hturn ⟨d.backend, size, hsize⟩ l
    rw [unregisterInTurn_eq] at hmany hother
    rw [hmany, hother]
    exact ⟨rfl, rfl⟩
  · exact ⟨batches d.maxBatch l, d.unregisterMany_dispatched l, flatten_batches d.maxBatch_pos l,
      fun b hb => length_of_mem_batches d.maxBatch_pos hb⟩
  · intro s sizes
    exact ⟨(sizes.foldl withMaxBatch (ofBackend s)).maxBatch_pos, maxBatch_configured s sizes⟩

/-- A registration, one of another actor, and the first one again on another node. -/
def conflicting : List Registration :=
  [⟨⟨⟨1⟩, "counter"⟩, .loopback 1 1, ⟨1⟩, none⟩, ⟨⟨⟨1⟩, "timer"⟩, .loopback 1 1, ⟨2⟩, none⟩,
    ⟨⟨⟨1⟩, "counter"⟩, .loopback 2 1, ⟨3⟩, none⟩]

/-- A directory where the second actor has a corrupted entry and the third deletion fails, with
batches of two. -/
def unsteady : Directory (Flaky (OverStore MemoryStore)) :=
  (ofBackend
    { inner := ⟨(MemoryStore.write {} (OverStore.storageKey ⟨⟨1⟩, "timer"⟩) [0x5b]).2⟩
      outages := { changes := [false, false, true] } }).withMaxBatch 2

/-- The failure in the second batch is reported; the corrupted entry in the first one is not. -/
theorem unregisterMany_one_by_one_unsteady :
    Backend.BatchesInTurn (Flaky (OverStore MemoryStore)) ∧
      batches unsteady.maxBatch conflicting = [conflicting.take 2, conflicting.drop 2] ∧
      (unsteady.unregisterMany conflicting).1 =
        ⟨3, [(⟨⟨⟨1⟩, "counter"⟩, .loopback 2 1, ⟨3⟩, none⟩, Flaky.outage)]⟩ := by
  have hturn : Backend.BatchesInTurn (Flaky (OverStore MemoryStore)) :=
    LawfulBackend.batchesInTurn
  obtain ⟨hmany, -⟩ := unregisterMany_one_by_one hturn unsteady conflicting
  refine ⟨hturn, rfl, ?_⟩
  rw [hmany]
  rfl

end Directory

end ActorLocation
