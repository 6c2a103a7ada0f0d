import ActorLocation.Proofs.Locator.Runs
/-!
# Versions move forward

A locator keeps three versions: that of the membership that it takes for current, that of the one
that it has applied, and a copy of the latter for readers that do not wait for a pass.  A membership
may be seen long before it is applied, and offers come in any order.  Whatever happens, the copy is
right, the current membership is not older than the applied one, and no version goes back.

## Main definitions

* `ActorLocation.Locator.InStep` — the three versions of a locator fit together.
* `ActorLocation.Locator.NotBehind` — no version has gone back.

## Main results

* `ActorLocation.Locator.InStep.perform`, `InStep.runWith` — what a call and a run preserve.
* `ActorLocation.Locator.notBehind_perform`, `notBehind_runWith` — a call and a run take no version
  back.
* `ActorLocation.Locator.versions_move_forward` — what each outcome of a pass says about the
  versions.
-/

namespace ActorLocation

namespace Locator

/-! ### The versions of a locator -/

/-- Says that the versions of a locator fit together. -/
structure InStep (l : Locator) : Prop where
  /-- The version for readers is that of the membership that counts as applied. -/
  appliedVersion : l.appliedVersion = l.applied.version
  /-- The current membership is not older than the one that counts as applied. -/
  le_current : l.applied.version ≤ l.current.version

/-- Says that no version is smaller in `l'` than it is in `l`. -/
structure NotBehind (l l' : Locator) : Prop where
  /-- The current version has not gone back. -/
  current : l.current.version ≤ l'.current.version
  /-- The applied version has not gone back. -/
  applied : l.applied.version ≤ l'.applied.version

/-- A locator is not behind itself. -/
theorem NotBehind.refl (l : Locator) : l.NotBehind l := ⟨Version.le_refl _, Version.le_refl _⟩

/-- What goes back neither in one step nor in the next goes back in neither. -/
theorem NotBehind.trans {l l' l'' : Locator} (h : l.NotBehind l') (h' : l'.NotBehind l'') :
    l.NotBehind l'' :=
  ⟨Version.le_trans h.current h'.current, Version.le_trans h.applied h'.applied⟩

/-- The locator at the start has one membership, which is current and applied. -/
theorem inStep_start (node : Node) (placements : Placements) (s : Snapshot) :
    (start node placements s).InStep := ⟨rfl, Version.le_refl _⟩

/-! ### Memberships that are handed over -/

/-- Neither the membership that is seen nor the one that was current is newer than the one that is
current then. -/
theorem le_current_observe (l : Locator) (s : Snapshot) :
    l.current.version ≤ (l.observe s).2.current.version ∧
      s.version ≤ (l.observe s).2.current.version := by
  rw [observe_snd]
  dsimp only
  split
  · next h => exact ⟨Version.le_of_lt h, Version.le_refl _⟩
  · next h => exact ⟨Version.le_refl _, Version.le_of_not_lt h⟩

/-- The versions still fit together when a membership has been seen, as the current one is not older
then. -/
theorem InStep.observe {l : Locator} (h : l.InStep) (s : Snapshot) : (l.observe s).2.InStep := by
  have hcurrent := Version.le_trans h.le_current (l.le_current_observe s).1
  rw [observe_snd] at hcurrent ⊢
  exact ⟨h.appliedVersion, hcurrent⟩

/-- No version goes back when a membership is seen. -/
theorem notBehind_observe (l : Locator) (s : Snapshot) : l.NotBehind (l.observe s).2 := by
  have hcurrent := (l.le_current_observe s).1
  rw [observe_snd] at hcurrent ⊢
  exact ⟨hcurrent, Version.le_refl _⟩

section Reconciled

variable {l l' : Locator} {s : Snapshot} {answer : Except LocatorError Reconciliation}

/-- The current membership after a pass for a newer membership is the one after it has been seen. -/
theorem current_evicting (l : Locator) (s : Snapshot) :
    (l.evicting s).current = (l.observe s).2.current := by
  rw [evicting_eq]

/-- Evicting leaves alone the version for readers. -/
theorem appliedVersion_evicting (l : Locator) (s : Snapshot) :
    (l.evicting s).appliedVersion = l.appliedVersion := by
  rw [evicting_eq]

/-- However a pass ends, the versions fit together afterwards.

**Proof sketch.** By the way in which the pass has ended.  A stale pass changes nothing.  One that
is applied makes its membership the applied one, which is not newer than the current one, as it has
been seen before.  One that has failed leaves the applied membership and the version for readers as
they were, and the current membership has not gone back. -/
theorem Reconciled.inStep (h : Reconciled l s answer l') (hl : l.InStep) : l'.InStep := by
  have hcurrent := l.le_current_observe s
  rw [← current_evicting] at hcurrent
  cases h with
  | stale _ => exact hl
  | applied _ => exact ⟨rfl, hcurrent.2⟩
  | failed _ _ _ _ =>
    refine ⟨?_, ?_⟩
    · change (l.evicting s).appliedVersion = (l.evicting s).applied.version
      rw [appliedVersion_evicting, applied_evicting]
      exact hl.appliedVersion
    · change (l.evicting s).applied.version ≤ (l.evicting s).current.version
      rw [applied_evicting]
      exact Version.le_trans hl.le_current hcurrent.1

/-- However a pass ends, no version has gone back. -/
theorem Reconciled.notBehind (h : Reconciled l s answer l') : l.NotBehind l' := by
  have hcurrent := (l.le_current_observe s).1
  rw [← current_evicting] at hcurrent
  cases h with
  | stale _ => exact .refl l
  | applied hnewer => exact ⟨hcurrent, Version.le_of_lt (Version.lt_of_not_le hnewer)⟩
  | failed _ _ _ _ =>
    refine ⟨hcurrent, ?_⟩
    change l.applied.version ≤ (l.evicting s).applied.version
    rw [applied_evicting]
    exact Version.le_refl _

end Reconciled

/-! ### Calls and runs -/

section Runs

variable {σ : Type} [Backend σ] {l : Locator}

/-- The versions fit together after a call as before. -/
theorem InStep.perform (h : l.InStep) (d : Directory σ) (c : Call) :
    (l.perform d c).2.1.InStep := by
  cases hsnap : c.snapshot? with
  | none =>
    obtain ⟨catalog, cache, heq⟩ := l.sameMembership_perform d hsnap
    rw [heq]
    exact ⟨h.appliedVersion, h.le_current⟩
  | some s =>
    cases c with
    | observe t => exact h.observe t
    | applyMembership t => exact (l.reconciled d t).inStep h
    | resolve | place | register | unregister | invalidate | unregisterLocal | host | release
    | drain => contradiction

/-- A call takes no version back. -/
theorem notBehind_perform (l : Locator) (d : Directory σ) (c : Call) :
    l.NotBehind (l.perform d c).2.1 := by
  cases hsnap : c.snapshot? with
  | none =>
    obtain ⟨catalog, cache, heq⟩ := l.sameMembership_perform d hsnap
    rw [heq]
    exact ⟨Version.le_refl _, Version.le_refl _⟩
  | some s =>
    cases c with
    | observe t => exact l.notBehind_observe t
    | applyMembership t => exact (l.reconciled d t).notBehind
    | resolve | place | register | unregister | invalidate | unregisterLocal | host | release
    | drain => contradiction

/-- The versions fit together after a run as before. -/
theorem InStep.runWith (h : l.InStep) (cs : List (Directory σ × Call)) :
    (l.runWith cs).2.InStep := by
  induction cs generalizing l with
  | nil => exact h
  | cons dc cs ih => exact ih (h.perform dc.1 dc.2)

/-- A run takes no version back. -/
theorem notBehind_runWith (l : Locator) (cs : List (Directory σ × Call)) :
    l.NotBehind (l.runWith cs).2 := by
  induction cs generalizing l with
  | nil => exact .refl l
  | cons dc cs ih => exact (l.notBehind_perform dc.1 dc.2).trans (ih (l.perform dc.1 dc.2).2.1)

end Runs

/-! ### Outcomes of passes -/

section Outcomes

variable {l l' : Locator} {s : Snapshot}

/-- Only a membership that is not newer than the applied one is called stale. -/
theorem Reconciled.le_of_stale {offered applied : Version}
    (h : Reconciled l s (.ok (.stale offered applied)) l') : s.version ≤ l.applied.version := by
  cases h with
  | stale hle => exact hle

/-- A pass that fails leaves the applied membership as it is. -/
theorem Reconciled.applied_of_error {e : LocatorError} (h : Reconciled l s (.error e) l') :
    l'.applied = l.applied ∧ l'.appliedVersion = l.appliedVersion := by
  cases h with
  | failed _ _ _ _ => exact ⟨l.applied_evicting s, l.appliedVersion_evicting s⟩

/-- After a pass that does not fail, the applied membership is not older than the one that was
handed over. -/
theorem Reconciled.le_applied_of_ok {outcome : Reconciliation}
    (h : Reconciled l s (.ok outcome) l') : s.version ≤ l'.applied.version := by
  cases h with
  | stale hle => exact hle
  | applied _ => exact Version.le_refl _

/-- A pass that is applied leaves its membership behind as the applied one, and as the current one
if it is newer than that. -/
theorem Reconciled.versions_of_applied {v : Version} {dead : List Node} {count : Nat}
    (h : Reconciled l s (.ok (.applied v dead count)) l') :
    v = s.version ∧ l'.applied = s ∧ l'.appliedVersion = s.version ∧
      l'.current = if l.current.version < s.version then s else l.current := by
  cases h with
  | applied _ =>
    refine ⟨rfl, rfl, rfl, ?_⟩
    change (l.evicting s).current = _
    rw [current_evicting, observe_snd]

/-- A pass for a membership that is not newer than the applied one ends at once, whatever the
directory and its backend are. -/
theorem applyMembership_of_le {σ : Type} [Backend σ] (h : s.version ≤ l.applied.version)
    (d : Directory σ) :
    l.applyMembership d s = (.ok (.stale s.version l.applied.version), l, d) := by
  rw [applyMembership, if_pos h]

end Outcomes

/-- Versions move forward, and stale memberships do nothing.  After any calls, over any backend and
whatever each call finds in the directory, the version that a locator shows is that of the applied
membership, and the current membership is not older.  No version goes back in the calls that follow.
A pass is stale exactly if its membership is not newer than the applied one, and then it leaves the
locator as it is and asks no backend for anything.  A pass that fails changes nothing about what
counts as applied.  A pass that is applied leaves its membership behind as the applied one, and as
the current one if it is newer.

**Proof sketch.** The versions fit together at the start, by `inStep_start`, so they do after any
run by `InStep.runWith`; and `notBehind_runWith` says that none goes back in a later run.  The
version for readers is that of the applied membership, so the clauses about passes can be stated for
either.  They follow from the ways in which a pass ends: only a membership that is not newer is
called stale, and for such a one the pass ends before it asks the directory for anything. -/
theorem versions_move_forward {σ : Type} [Backend σ] (node : Node) (placements : Placements)
    (s₀ : Snapshot) (cs : List (Directory σ × Call)) {l : Locator}
    (hl : l = ((start node placements s₀).runWith cs).2) :
    (l.appliedVersion = l.applied.version ∧ l.appliedVersion ≤ l.current.version) ∧
      (∀ later : List (Directory σ × Call),
        l.appliedVersion ≤ (l.runWith later).2.appliedVersion ∧
          l.current.version ≤ (l.runWith later).2.current.version) ∧
      ∀ (d : Directory σ) (s : Snapshot),
        ((∃ offered applied, (l.applyMembership d s).1 = .ok (.stale offered applied)) ↔
          s.version ≤ l.appliedVersion) ∧
        (s.version ≤ l.appliedVersion → ∀ (τ : Type) [Backend τ] (d' : Directory τ),
          l.applyMembership d' s = (.ok (.stale s.version l.appliedVersion), l, d')) ∧
        (∀ e, (l.applyMembership d s).1 = .error e →
          (l.applyMembership d s).2.1.applied = l.applied ∧
            (l.applyMembership d s).2.1.appliedVersion = l.appliedVersion) ∧
        ∀ v dead count, (l.applyMembership d s).1 = .ok (.applied v dead count) →
          v = s.version ∧ (l.applyMembership d s).2.1.applied = s ∧
            (l.applyMembership d s).2.1.appliedVersion = s.version ∧
            (l.applyMembership d s).2.1.current =
              if l.current.version < s.version then s else l.current := by
  have hstep : l.InStep := hl ▸ (inStep_start node placements s₀).runWith cs
  have hversion := hstep.appliedVersion
  refine ⟨⟨hversion, hversion ▸ hstep.le_current⟩, ?_, ?_⟩
  · intro later
    -- After the later run, too, the version for readers is that of the applied membership.
    have hlater := (hstep.runWith later).appliedVersion
    have hforward := l.notBehind_runWith later
    exact ⟨by rw [hversion, hlater]; exact hforward.applied, hforward.current⟩
  · intro d s
    -- From here on the version for readers is written as that of the applied membership.
    rw [hversion]
    refine ⟨⟨?_, ?_⟩, ?_, ?_, ?_⟩
    · rintro ⟨offered, applied, hstale⟩
      exact (reconciled_of_eq hstale).le_of_stale
    · intro hle
      exact ⟨_, _, congrArg Prod.fst (applyMembership_of_le hle d)⟩
    · intro hle τ _ d'
      exact applyMembership_of_le hle d'
    · intro e he
      rw [← hversion]
      exact (reconciled_of_eq he).applied_of_error
    · intro v dead count happlied
      exact (reconciled_of_eq happlied).versions_of_applied

/-- A locator sees the third membership before it applies the second. -/
def seenAhead : List (Directory InMemory × Call) :=
  [(.ofBackend {}, .observe (.withActive ⟨3⟩ [])),
    (.ofBackend {}, .applyMembership (.withActive ⟨2⟩ []))]

/-- The second membership is applied then, the third one stays current, and another offer of a
second membership does nothing. -/
theorem versions_move_forward_seenAhead :
    ((start (.loopback 1 1) {} .empty).runWith seenAhead).2.appliedVersion = ⟨2⟩ ∧
      ((start (.loopback 1 1) {} .empty).runWith seenAhead).2.current.version = ⟨3⟩ ∧
      (((start (.loopback 1 1) {} .empty).runWith seenAhead).2.applyMembership
        (.ofBackend ({} : InMemory)) (.withActive ⟨2⟩ [.loopback 1 1])).2.1 =
          ((start (.loopback 1 1) {} .empty).runWith seenAhead).2 := by
  obtain ⟨-, -, hpasses⟩ := versions_move_forward (.loopback 1 1) {} .empty seenAhead rfl
  obtain ⟨-, hstale, -⟩ := hpasses (.ofBackend {}) (.withActive ⟨2⟩ [.loopback 1 1])
  have hle : (Snapshot.withActive ⟨2⟩ [.loopback 1 1]).version ≤
      ((start (.loopback 1 1) {} .empty).runWith seenAhead).2.appliedVersion := by decide
  exact ⟨rfl, rfl, congrArg (fun answer => answer.2.1) (hstale hle InMemory (.ofBackend {}))⟩

end Locator

end ActorLocation
