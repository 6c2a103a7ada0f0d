import ActorLocation.Directory.InMemory
import ActorLocation.Proofs.Locator.Cleanup
/-!
# What becomes of a deletion by nodes that failed

When a backend that deletes by nodes fails to do so, the pass ends, and the only trace of it is that
its membership does not count as applied.  The next pass compares its own membership with the one
that was applied before, so it finds the same nodes only if it still knows that they are dead.

## Main definitions

* `ActorLocation.Locator.ComparesWith` — the membership with which the next pass compares its own.

## Main results

* `ActorLocation.Locator.ComparesWith.runWith` — what the next pass will look for.
* `ActorLocation.Locator.held_after_redo_iff` — what the next pass leaves on the nodes.
-/

namespace ActorLocation

namespace Locator

/-- Says that the answer to a call shows that a membership has been applied. -/
def Reply.IsApplied : Reply → Prop
  | .reconciled (.ok (.applied ..)) => True
  | _ => False

section Applied

variable {σ : Type} [Backend σ]

/-- Which membership counts as applied changes only in a pass that is applied.

**Proof sketch.** Only a pass changes which membership counts as applied, by `unchanged_perform`.
Of the ways in which a pass ends, a stale one changes nothing, a failed one only evicts, and an
applied one is excluded. -/
theorem applied_perform (l : Locator) (d : Directory σ) {c : Call}
    (h : ¬ (l.perform d c).1.IsApplied) : (l.perform d c).2.1.applied = l.applied := by
  by_cases hc : ∃ s, c = .applyMembership s
  · obtain ⟨s, rfl⟩ := hc
    have hreconciled := l.reconciled d s
    change ¬ (Reply.reconciled (l.applyMembership d s).1).IsApplied at h
    change (l.applyMembership d s).2.1.applied = _
    generalize (l.applyMembership d s).1 = answer at h hreconciled
    generalize (l.applyMembership d s).2.1 = l' at hreconciled ⊢
    cases hreconciled with
    | stale _ => rfl
    | applied _ => exact absurd trivial h
    | failed _ _ _ _ => exact l.applied_evicting s
  · exact (l.unchanged_perform d fun s hs => hc ⟨s, hs⟩).2

end Applied

variable {σ : Type} [Backend σ]

/-- Says that the next pass will look for the nodes that have died since `p`, and will have nothing
else to delete. -/
structure ComparesWith (p : Snapshot) (l : Locator) : Prop where
  /-- Nothing is pending. -/
  pending : l.pending = []
  /-- The membership `p` counts as applied. -/
  applied : l.applied = p

variable [LawfulBackend σ]

/-- A pass that is applied deletes what is registered on the nodes that have died since `p`. -/
theorem ComparesWith.contents_applyMembership {p : Snapshot} {l : Locator}
    (h : ComparesWith p l) {d : Directory σ} (hbulk : d.capabilities.bulkRemoval = true)
    {s : Snapshot} {v : Version} {dead : List Node} {count : Nat}
    (happlied : (l.applyMembership d s).1 = .ok (.applied v dead count)) :
    (l.applyMembership d s).2.2.contents = d.contents.dropNodes (s.newlyDeadSince p) := by
  obtain ⟨-, ⟨-, -, hcontents⟩ | ⟨e, he, -⟩⟩ :=
    applyMembership_of_bulk (newer_of_applied happlied) hbulk h.pending
  · rw [hcontents, h.applied]
  · rw [happlied] at he
    contradiction

/-- A call changes nothing about that unless a membership is applied. -/
theorem ComparesWith.perform {p : Snapshot} {l : Locator} (h : ComparesWith p l) {d : Directory σ}
    (hbulk : d.capabilities.bulkRemoval = true) {c : Call}
    (hc : ¬ (l.perform d c).1.IsApplied) : ComparesWith p (l.perform d c).2.1 where
  pending := pending_perform_of_bulk hbulk h.pending c
  applied := (l.applied_perform d hc).trans h.applied

/-- A run changes nothing about that unless a membership is applied. -/
theorem ComparesWith.runWith {p : Snapshot} {l : Locator} (h : ComparesWith p l)
    {cs : List (Directory σ × Call)}
    (hbulk : ∀ dc ∈ cs, dc.1.capabilities.bulkRemoval = true)
    (hcs : ∀ a ∈ (l.runWith cs).1, ¬ a.IsApplied) : ComparesWith p (l.runWith cs).2 := by
  induction cs generalizing l with
  | nil => exact h
  | cons dc cs ih =>
    have hfirst := h.perform (hbulk dc List.mem_cons_self) (hcs _ List.mem_cons_self)
    exact ih hfirst (fun dc' h => hbulk dc' (List.mem_cons_of_mem _ h))
      fun a ha => hcs a (List.mem_cons_of_mem _ ha)

/-- A backend that deletes by nodes fails to do so in a pass for `s`, and the next pass that is
applied is one for `s'`.  What is registered by then on a node that was to be purged stays exactly
in two cases: the node is not dead in `s'`, as when `s'` does not list its endpoint any more; or
`s'` knows of its death from a later incarnation only, and neither `s'` nor the membership applied
before lists the node itself.

**Proof sketch.** Before the failed pass nothing is pending, since all backends delete by nodes, and
the next pass will compare with the membership applied so far.  Neither the failed pass nor the
calls after it change that (`ComparesWith.perform`, `ComparesWith.runWith`).  So the pass for `s'`
deletes everything on the nodes that have died since that membership.  The node of the registration
was alive in it; hence it is among those exactly if it is dead in `s'` and listed in one of the
two. -/
theorem held_after_redo_iff {node : Node} {placements : Placements} {s₀ : Snapshot}
    {before : List (Directory σ × Call)}
    (hbulk : ∀ dc ∈ before, dc.1.capabilities.bulkRemoval = true) {replies : List Reply}
    {l : Locator} (hbefore : (start node placements s₀).runWith before = (replies, l))
    {d d₁ : Directory σ} (hd : d.capabilities.bulkRemoval = true) {s : Snapshot}
    {e : LocatorError} {l₁ : Locator} (hfailed : l.applyMembership d s = (.error e, l₁, d₁))
    {between : List (Directory σ × Call)}
    (hbulk' : ∀ dc ∈ between, dc.1.capabilities.bulkRemoval = true) {replies' : List Reply}
    {l' : Locator} (hbetween : l₁.runWith between = (replies', l'))
    (hnone : ∀ a ∈ replies', ¬ a.IsApplied)
    {d' : Directory σ} (hd' : d'.capabilities.bulkRemoval = true) {s' : Snapshot} {v : Version}
    {dead : List Node} {count : Nat}
    (happlied : (l'.applyMembership d' s').1 = .ok (.applied v dead count))
    {r : Registration} (hr : r.node ∈ s.newlyDeadSince l.applied) (id : ActorId) :
    (l'.applyMembership d' s').2.2.contents id = some r ↔
      d'.contents id = some r ∧ (¬ s'.IsDead r.node ∨
        r.node ∉ s'.members.keys ∧ r.node ∉ l.applied.members.keys) := by
  -- Until the pass for `s'`, nothing has been applied and nothing is pending.
  have hstart : ComparesWith l.applied l := by
    have hpending := pending_runWith (l := start node placements s₀) hbulk rfl
    rw [hbefore] at hpending
    exact ⟨hpending, rfl⟩
  have hafter : ComparesWith l.applied l₁ := by
    have h := hstart.perform hd (c := .applyMembership s)
    simp only [perform, hfailed] at h
    exact h not_false
  have hlater : ComparesWith l.applied l' := by
    have h := hafter.runWith hbulk' (by rw [hbetween]; exact hnone)
    rwa [hbetween] at h
  have halive : ¬ l.applied.IsDead r.node := (Snapshot.mem_newlyDeadSince.1 hr).2.2
  rw [hlater.contents_applyMembership hd' happlied, Contents.dropNodes,
    Option.filter_eq_some_iff, decide_eq_true_iff, Snapshot.mem_newlyDeadSince]
  refine and_congr_right fun _ => ?_
  by_cases hdead : s'.IsDead r.node
  · simp [hdead, halive]
  · simp [hdead]

/-- A directory in memory that deletes by nodes. -/
def byNodes : Directory (Flaky InMemory) := .ofBackend { inner := {} }

/-- The membership that does not list the second node any more. -/
def secondGone : Snapshot := .withActive ⟨3⟩ [.loopback 1 1]

/-- The answer, the locator and the directory after an activation on the second node has been
registered. -/
def beforePurge : Reply × Locator × Directory (Flaky InMemory) :=
  (start (.loopback 1 1) {} bothActive).perform byNodes (.register departed)

/-- The answer, the locator and the directory after its deletion has failed. -/
def afterPurge : Except LocatorError Reconciliation × Locator × Directory (Flaky InMemory) :=
  beforePurge.2.1.applyMembership (beforePurge.2.2.under { changes := [true] }) secondDead

/-- A registration on a dead node stays if its deletion fails and the next membership does not list
the node any more. -/
theorem held_after_redo_iff_unlisted :
    departed.node ∈ secondDead.newlyDeadSince beforePurge.2.1.applied ∧
      (afterPurge.2.1.applyMembership afterPurge.2.2 secondGone).1 = .ok (.applied ⟨3⟩ [] 0) ∧
      (afterPurge.2.1.applyMembership afterPurge.2.2 secondGone).2.2.contents departed.actor =
        some (departed.withEtag ⟨1⟩) := by
  have hbefore : (start (.loopback 1 1) {} bothActive).runWith [(byNodes, .register departed)] =
      ([beforePurge.1], beforePurge.2.1) := rfl
  have hfailed : beforePurge.2.1.applyMembership (beforePurge.2.2.under { changes := [true] })
      secondDead = (.error (.directory Flaky.outage), afterPurge.2.1, afterPurge.2.2) := rfl
  have happlied : (afterPurge.2.1.applyMembership afterPurge.2.2 secondGone).1 =
      .ok (.applied ⟨3⟩ [] 0) := rfl
  have hbulk : ∀ dc ∈ [(byNodes, Call.register departed)],
      dc.1.capabilities.bulkRemoval = true := by
    intro dc hdc
    obtain rfl := List.mem_singleton.1 hdc
    rfl
  have hdead : (departed.withEtag ⟨1⟩).node ∈
      secondDead.newlyDeadSince beforePurge.2.1.applied := by decide
  have hbetween : afterPurge.2.1.runWith ([] : List (Directory (Flaky InMemory) × Call)) =
      ([], afterPurge.2.1) := rfl
  have h := held_after_redo_iff hbulk hbefore rfl hfailed (fun _ h => by contradiction) hbetween
    (fun _ h => by contradiction) rfl happlied hdead departed.actor
  exact ⟨hdead, happlied, h.2 ⟨rfl, .inl (by decide)⟩⟩

end Locator

end ActorLocation
