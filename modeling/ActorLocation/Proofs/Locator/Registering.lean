import ActorLocation.Proofs.Directory.Transcript
import ActorLocation.Proofs.Directory.Uneventful
import ActorLocation.Proofs.Locator.Cleanup
import ActorLocation.Proofs.Locator.Progress
import ActorLocation.Proofs.Locator.Reached
/-!
# What a registration tells

A locator registers an activation in a few rounds, since it replaces a registration on a dead node.
Whatever the backend does, what the locator reports and caches is the last answer that it got, and
after a failure it is as it was.  If nothing goes wrong meanwhile, the answer is what the directory
holds, and a race is lost to a live node only.

## Main definitions

* `ActorLocation.Locator.Replaces`, `Locator.Asks` — what replacing a registration on a dead node,
  and what a registration, asks of the backend.
* `ActorLocation.Locator.registrationTranscript` — what a registration has asked of the backend.
* `ActorLocation.Locator.RegistersTruly` — a registration reports what it was told.

## Main results

* `ActorLocation.Locator.asks_register` — what a registration asks, and what it makes of the
  answers.
* `ActorLocation.Locator.registersTruly` — over every backend that answers for the right actor, a
  registration reports what it was told.
* `ActorLocation.Locator.alive_of_lost` — over a lawful backend, a race is lost to a live node only.
* `ActorLocation.Locator.register_settle` — a registration that is spared does what it does over a
  lawful backend.
* `ActorLocation.Locator.register_tells_truth` — both for every directory that can be reached.
-/

namespace ActorLocation

namespace Locator

/-! ### Backends that answer alike -/

section Map

variable {σ τ : Type} [Backend σ] [Backend τ]

/-- The loop that replaces a dead registration does the same over two backends that answer alike.

**Proof sketch.** By induction on the number of attempts that are left.  Whether there is something
to be replaced does not depend on the backend.  The deletion and the registration have the same
answers over both, so that both loops end in the same way, or go on with the same registration. -/
theorem replaceDead_map (π : BackendMap σ τ) (l : Locator) (r : Registration) (n : Nat)
    (stored : Registration) (d : Directory σ) :
    l.replaceDead r n stored (d.map π) =
      (l.replaceDead r n stored d).map id (Directory.map π) := by
  induction n generalizing stored d with
  | zero => rfl
  | succ n ih =>
    unfold replaceDead
    split
    · rfl
    · rw [Directory.unregister_map]
      rcases d.unregister stored with ⟨_ | _, d₁⟩
      · rfl
      · dsimp only [Prod.map, id]
        rw [Directory.register_map]
        rcases d₁.register r with ⟨_ | stored', d₂⟩
        · rfl
        · exact ih stored' d₂

/-- A registration does the same over two backends that answer alike. -/
theorem register_map (π : BackendMap σ τ) (l : Locator) (d : Directory σ) (r : Registration) :
    l.register (d.map π) r = (l.register d r).map id (Prod.map id (Directory.map π)) := by
  unfold register
  rw [Directory.register_map]
  rcases d.register r with ⟨_ | stored, d₁⟩
  · rfl
  · dsimp only [Prod.map, id]
    rw [replaceDead_map]
    rcases l.replaceDead r maxReplacements stored d₁ with ⟨_ | stored', d₂⟩ <;> rfl

end Map

/-! ### What is asked of the backend -/

/-- Says that replacing the registration `stored` in favour of `r`, at most a number of times, asks
this of the backend and has this outcome. -/
inductive Replaces (r : Registration) : Nat → Registration → List Exchange →
    Except DirectoryError Registration → Prop where
  /-- The registration stays. -/
  | stays (n : Nat) (stored : Registration) : Replaces r n stored [] (.ok stored)
  /-- It cannot be deleted. -/
  | stuck (n : Nat) (stored : Registration) (e : DirectoryError) :
    Replaces r (n + 1) stored [.unregistered stored (.error e)] (.error e)
  /-- The new one is not accepted. -/
  | refused (n : Nat) (stored : Registration) (answer : Except DirectoryError Unit)
    (e : DirectoryError) :
    Replaces r (n + 1) stored [.unregistered stored answer, .registered r (.error e)] (.error e)
  /-- Another one is stored by then, and may be replaced in turn. -/
  | again {n : Nat} (stored : Registration) (answer : Except DirectoryError Unit)
    {stored' : Registration} {t : List Exchange} {outcome : Except DirectoryError Registration}
    (h : Replaces r n stored' t outcome) :
    Replaces r (n + 1) stored
      (.unregistered stored answer :: .registered r (.ok stored') :: t) outcome

variable {σ : Type} [Backend σ] {r stored : Registration} {n : Nat} {t : List Exchange}
  {outcome : Except DirectoryError Registration}

/-- What the loop asks of a backend that keeps a transcript, and its outcome, are as `Replaces`
says.

**Proof sketch.** By induction on the number of attempts that are left.  If nothing has to be
replaced, nothing is asked.  Otherwise a deletion is asked for, and if it fails this is the end.
Then a registration is asked for, and its failure is the end as well.  If it is answered, the
induction hypothesis says what is asked from then on, and this comes after the two in the
transcript. -/
theorem replaces_replaceDead (l : Locator) (r : Registration) (n : Nat) (stored : Registration)
    (d : Directory (Recorded σ)) :
    ∃ t, Replaces r n stored t (l.replaceDead r n stored d).1 ∧
      (l.replaceDead r n stored d).2.transcript = d.transcript ++ t := by
  induction n generalizing stored d with
  | zero => exact ⟨[], .stays 0 stored, (List.append_nil _).symm⟩
  | succ n ih =>
    obtain ⟨answer, htranscript, herror⟩ := d.unregister_recorded stored
    unfold replaceDead
    split
    · exact ⟨[], .stays _ stored, (List.append_nil _).symm⟩
    · rcases hunregister : d.unregister stored with ⟨e | _, d₁⟩
      · rw [hunregister] at htranscript herror
        obtain rfl := herror e rfl
        exact ⟨_, .stuck n stored e, htranscript⟩
      · rw [hunregister] at htranscript
        have hregistered := d₁.register_recorded r
        dsimp only
        rcases hregister : d₁.register r with ⟨e | stored', d₂⟩
        · rw [hregister, htranscript] at hregistered
          refine ⟨_, .refused n stored answer e, ?_⟩
          simpa using hregistered
        · rw [hregister, htranscript] at hregistered
          -- The two exchanges come first, and then what the rest of the loop asks.
          obtain ⟨t, ht, htail⟩ := ih stored' d₂
          refine ⟨_, .again stored answer ht, ?_⟩
          rw [htail, hregistered]
          simp

/-- The loop asks for one registration at most in each attempt. -/
theorem Replaces.length_registered?_le (h : Replaces r n stored t outcome) :
    (t.filterMap Exchange.registered?).length ≤ n := by
  induction h with
  | stays | stuck | refused => simp [List.filterMap_cons, Exchange.registered?]
  | again stored answer h ih => simpa [List.filterMap_cons, Exchange.registered?] using ih

/-- The loop asks for one deletion at most in each attempt. -/
theorem Replaces.countP_isDeletion_le (h : Replaces r n stored t outcome) :
    t.countP Exchange.isDeletion ≤ n := by
  induction h with
  | stays => exact Nat.zero_le _
  | stuck | refused => simp [List.countP_cons, Exchange.isDeletion]
  | again stored answer h ih =>
    rw [List.countP_cons_of_pos rfl, List.countP_cons_of_neg Bool.false_ne_true]
    exact Nat.succ_le_succ ih

/-- Whatever fails has been asked of the backend, and failed there. -/
theorem Replaces.exists_error? {e : DirectoryError} (h : Replaces r n stored t (.error e)) :
    ∃ x ∈ t, x.error? = some e := by
  generalize houtcome : Except.error e = outcome at h
  induction h with
  | stays => contradiction
  | stuck | refused =>
    obtain rfl := Except.error.inj houtcome
    simp [Exchange.error?]
  | again stored answer h ih =>
    obtain ⟨x, hx, hxe⟩ := ih houtcome
    exact ⟨x, List.mem_cons_of_mem _ (List.mem_cons_of_mem _ hx), hxe⟩

/-- The outcome is the last answer to a registration, or what was there at first. -/
theorem Replaces.getLast?_registered? {last : Registration} (h : Replaces r n stored t (.ok last)) :
    (.ok stored :: t.filterMap Exchange.registered?).getLast? = some (.ok last) := by
  generalize houtcome : Except.ok last = outcome at h
  induction h with
  | stays =>
    obtain rfl := Except.ok.inj houtcome
    rfl
  | stuck | refused => contradiction
  | again stored answer h ih => simpa [List.filterMap_cons, Exchange.registered?] using ih houtcome

/-- Says that a registration of `r` asks this of the backend and has this outcome. -/
inductive Asks (r : Registration) : List Exchange → Except DirectoryError Registration → Prop where
  /-- The registration is not accepted. -/
  | refused (e : DirectoryError) : Asks r [.registered r (.error e)] (.error e)
  /-- A registration is stored by then, and may be replaced. -/
  | accepted {stored : Registration} {t : List Exchange}
    {outcome : Except DirectoryError Registration}
    (h : Replaces r maxReplacements stored t outcome) :
    Asks r (.registered r (.ok stored) :: t) outcome

/-- A registration asks the backend for one registration more than the loop at most. -/
theorem Asks.length_registered?_le (h : Asks r t outcome) :
    (t.filterMap Exchange.registered?).length ≤ maxReplacements + 1 := by
  cases h with
  | refused => simp [Exchange.registered?]
  | accepted h => simpa [List.filterMap_cons, Exchange.registered?] using h.length_registered?_le

/-- Only the loop of a registration asks for deletions. -/
theorem Asks.countP_isDeletion_le (h : Asks r t outcome) :
    t.countP Exchange.isDeletion ≤ maxReplacements := by
  cases h with
  | refused => simp [Exchange.isDeletion]
  | accepted h =>
    rw [List.countP_cons_of_neg Bool.false_ne_true]
    exact h.countP_isDeletion_le

/-- If a registration fails, it has asked for something that has failed. -/
theorem Asks.exists_error? {e : DirectoryError} (h : Asks r t (.error e)) :
    ∃ x ∈ t, x.error? = some e := by
  cases h with
  | refused => exact ⟨_, List.mem_cons_self, rfl⟩
  | accepted h =>
    obtain ⟨x, hx, hxe⟩ := h.exists_error?
    exact ⟨x, List.mem_cons_of_mem _ hx, hxe⟩

/-- If a registration succeeds, its outcome is the last answer to a registration that was asked
for. -/
theorem Asks.getLast?_registered? {last : Registration} (h : Asks r t (.ok last)) :
    (t.filterMap Exchange.registered?).getLast? = some (.ok last) := by
  cases h with
  | accepted h => exact h.getLast?_registered?

/-- The answer of a locator after a registration had this outcome. -/
def report (r : Registration) : Except DirectoryError Registration → Except LocatorError Outcome
  | .error e => .error (.directory e)
  | .ok stored => .ok ⟨stored, stored.SameActivation r⟩

/-- An error that is reported is one of the directory. -/
theorem report_eq_error {e : LocatorError} (h : report r outcome = .error e) :
    ∃ e', outcome = .error e' ∧ e = .directory e' := by
  cases outcome with
  | error e' => exact ⟨e', rfl, (Except.error.inj h).symm⟩
  | ok last => contradiction

/-- A registration that is reported is the outcome, and it is reported as won exactly if it is the
activation. -/
theorem report_eq_ok {out : Outcome} (h : report r outcome = .ok out) :
    ∃ last, outcome = .ok last ∧ out = ⟨last, last.SameActivation r⟩ := by
  cases outcome with
  | error e => contradiction
  | ok last => exact ⟨last, rfl, (Except.ok.inj h).symm⟩

/-- The locator after a registration had this outcome. -/
def afterRegistration (l : Locator) : Except DirectoryError Registration → Locator
  | .error _ => l
  | .ok stored => l.remember stored

/-- The locator keeps to the outcome of what it asked.

**Proof sketch.** By the answer to the first registration.  If it has failed, this is all that was
asked, and the locator stays as it is.  Otherwise `replaces_replaceDead` says what the loop asks,
which comes after the first registration in the transcript, and the outcome of the loop is the one
that is reported and remembered. -/
theorem asks_register (l : Locator) (r : Registration) (d : Directory (Recorded σ)) :
    ∃ t outcome, Asks r t outcome ∧ (l.register d r).1 = report r outcome ∧
      (l.register d r).2.1 = l.afterRegistration outcome ∧
      (l.register d r).2.2.transcript = d.transcript ++ t := by
  have hregistered := d.register_recorded r
  unfold register
  rcases hregister : d.register r with ⟨e | stored, d₁⟩
  · rw [hregister] at hregistered
    exact ⟨_, _, .refused e, rfl, rfl, hregistered⟩
  · rw [hregister] at hregistered
    -- The first registration is answered: the loop starts with what is stored.
    obtain ⟨t, ht, htail⟩ := l.replaces_replaceDead r maxReplacements stored d₁
    dsimp only
    rcases hreplace : l.replaceDead r maxReplacements stored d₁ with ⟨e | last, d₂⟩
    · rw [hreplace, hregistered] at htail
      rw [hreplace] at ht
      refine ⟨_, _, .accepted ht, rfl, rfl, ?_⟩
      simpa using htail
    · rw [hreplace, hregistered] at htail
      rw [hreplace] at ht
      refine ⟨_, _, .accepted ht, rfl, rfl, ?_⟩
      simpa using htail

/-! ### What is reported -/

/-- What a registration asks of the backend, with the answers. -/
def registrationTranscript (l : Locator) (d : Directory σ) (r : Registration) : List Exchange :=
  (l.register d.recorded r).2.2.transcript

/-- Says that a registration of `r` by the locator `l` which asked this of the backend has reported
what it was told, and has left the locator in the state `l'`. -/
structure RegistersTruly (l : Locator) (r : Registration) (t : List Exchange)
    (answer : Except LocatorError Outcome) (l' : Locator) : Prop where
  /-- It has asked for few registrations. -/
  registrations : (t.filterMap Exchange.registered?).length ≤ maxReplacements + 1
  /-- It has asked for few deletions. -/
  deletions : t.countP Exchange.isDeletion ≤ maxReplacements
  /-- If it has failed, then something failed that it asked for, and the locator is as it was. -/
  failed : ∀ e, answer = .error e →
    l' = l ∧ ∃ x ∈ t, ∃ e', x.error? = some e' ∧ e = .directory e'
  /-- It has reported the last registration that it was told, and whether that is its own. -/
  told : ∀ out, answer = .ok out →
    (t.filterMap Exchange.registered?).getLast? = some (.ok out.registration) ∧
      (out.won = true ↔ out.registration.SameActivation r)
  /-- It has cached for the actor what it has reported, and has changed nothing else. -/
  cached : ∀ out, answer = .ok out →
    l'.cached? r.actor = some out.registration ∧
      (∀ id, id ≠ r.actor → l'.cached? id = l.cached? id) ∧ ∃ cache, l' = { l with cache }

/-- A locator reports what it was told, if it was told of the right actor.

**Proof sketch.** The bounds, the failure and the answer are what the lemmas about `Asks` say of the
transcript.  The locator caches the outcome under the actor that it is of, which is the actor of the
registration by hypothesis, so that nothing is cached anew for any other. -/
theorem Asks.registersTruly {l : Locator} (h : Asks r t outcome)
    (hactor : ∀ stored, outcome = .ok stored → stored.actor = r.actor) :
    RegistersTruly l r t (report r outcome) (l.afterRegistration outcome) where
  registrations := h.length_registered?_le
  deletions := h.countP_isDeletion_le
  failed e he := by
    obtain ⟨e', rfl, rfl⟩ := report_eq_error he
    obtain ⟨x, hx, hxe⟩ := h.exists_error?
    exact ⟨rfl, x, hx, e', hxe, rfl⟩
  told out hout := by
    obtain ⟨last, rfl, rfl⟩ := report_eq_ok hout
    exact ⟨h.getLast?_registered?, by simp⟩
  cached out hout := by
    obtain ⟨last, rfl, rfl⟩ := report_eq_ok hout
    -- What is remembered is remembered under its own actor.
    have hlast := hactor last rfl
    refine ⟨?_, ?_, _, rfl⟩
    · rw [← hlast]
      exact Table.find?_insert_self _ _ _
    · intro id hid
      exact Table.find?_insert_of_ne _ _ (hlast ▸ hid)

section Answers

variable {P : σ → Prop} (hP : Backend.Preserves P)
  (hactor : ∀ s r stored, P s → (Backend.register s r).1 = .ok stored → stored.actor = r.actor)
include hP hactor

/-- Whatever the loop leaves is of the actor, if the backend answers for the right actor.

**Proof sketch.** By induction on the number of attempts that are left, with the property `P` of the
backend as the invariant.  The deletion and the registration preserve it, so the answer to the
registration is of the right actor, and the induction hypothesis applies to it. -/
theorem actor_of_replaceDead {l : Locator} {d : Directory σ} (hd : P d.backend)
    (hstored : stored.actor = r.actor) {last : Registration}
    (h : (l.replaceDead r n stored d).1 = .ok last) : last.actor = r.actor := by
  induction n generalizing stored d with
  | zero => exact Except.ok.inj h ▸ hstored
  | succ n ih =>
    have hunregister := Directory.preserves_unregister hP hd stored
    unfold replaceDead at h
    split at h
    · exact Except.ok.inj h ▸ hstored
    · split at h
      · contradiction
      · next d₁ heq =>
        rw [heq] at hunregister
        have hregister := Directory.preserves_register hP hunregister r
        split at h
        · contradiction
        · next stored' d₂ heq =>
          rw [heq] at hregister
          -- The backend has the property when it is asked for the registration.
          exact ih hregister (hactor _ _ _ hunregister (congrArg Prod.fst heq)) h

/-- What a registration reports is of the actor, if the backend answers for the right actor.

**Proof sketch.** The answer to the first registration is of the right actor by hypothesis, and the
backend still has the property `P` afterwards.  From there on it is `actor_of_replaceDead`. -/
theorem actor_of_register {l : Locator} {d : Directory σ} (hd : P d.backend) {out : Outcome}
    (h : (l.register d r).1 = .ok out) : out.registration.actor = r.actor := by
  have hregister := Directory.preserves_register hP hd r
  unfold register at h
  split at h
  · contradiction
  · next stored d₁ heq =>
    rw [heq] at hregister
    have hstored := hactor _ _ _ hd (congrArg Prod.fst heq)
    split at h
    · contradiction
    · next last d₂ hreplace =>
      rw [← Except.ok.inj h]
      exact actor_of_replaceDead hP hactor hregister hstored (congrArg Prod.fst hreplace)

/-- Whatever the backend does besides, a locator reports what it was told. -/
theorem registersTruly (l : Locator) {d : Directory σ} (hd : P d.backend) (r : Registration) :
    RegistersTruly l r (l.registrationTranscript d r) (l.register d r).1 (l.register d r).2.1 := by
  obtain ⟨t, outcome, hasks, hanswer, hafter, htranscript⟩ := l.asks_register r d.recorded
  have hforget : l.register d r = _ := l.register_map (Recorded.forget σ) d.recorded r
  have hnil : l.registrationTranscript d r = t := htranscript
  have hreport : (l.register d r).1 = report r outcome := by rw [hforget]; exact hanswer
  have hlocator : (l.register d r).2.1 = l.afterRegistration outcome := by
    rw [hforget]
    exact hafter
  rw [hnil, hreport, hlocator]
  apply hasks.registersTruly
  rintro stored rfl
  exact actor_of_register hP hactor hd hreport

end Answers

/-! ### If nothing goes wrong -/

section Lawful

variable [LawfulBackend σ]

/-- Once a registration on a dead node has been deleted, the new one is accepted.

**Proof sketch.** If nothing has to be replaced, what is stored is the activation or on a live node.
Otherwise the deletion has succeeded, since the loop has.  Whatever it leaves was there before, and
what was stored under the actor is gone, so that nothing is.  The registration is accepted then, and
the loop ends with the activation. -/
theorem sameActivation_or_alive {l : Locator} {d : Directory σ} (hd : d.contents.WellKeyed)
    (hstored : d.contents r.actor = some stored) {last : Registration}
    (h : (l.replaceDead r (n + 1) stored d).1 = .ok last) :
    last.SameActivation r ∨ ¬ l.current.IsDead last.node := by
  unfold replaceDead at h
  split at h
  · next hkept =>
    rw [← Except.ok.inj h]
    exact hkept
  · split at h
    · contradiction
    · next d₁ hunregister =>
      have hunregistered := d.unregistered stored
      rw [hunregister] at hunregistered
      -- The deletion has not failed, so what was stored is gone, and nothing else has come.
      have hfree := hunregistered.freeOf fun e he => by contradiction
      have hnone : d₁.contents r.actor = none := by
        rw [Option.eq_none_iff_forall_ne_some]
        intro s hs
        have hsame : s = stored :=
          Option.some.inj ((hunregistered.shrinks _ _ hs).symm.trans hstored)
        rw [← hd _ _ hstored, hsame] at hs
        exact hfree.ne hs
      split at h
      · contradiction
      · next stored' d₂ hregister =>
        have hregistered := d₁.registered r
        rw [hregister] at hregistered
        obtain ⟨token, rfl⟩ := hregistered.exists_token hnone
        have hsame : (r.withEtag token).SameActivation r := ⟨rfl, rfl, rfl⟩
        rw [l.replaceDead_of_sameActivation n d₂ hsame] at h
        rw [← Except.ok.inj h]
        exact .inl hsame

/-- Over a lawful backend, a registration is lost only to an activation on a node that is not dead.

**Proof sketch.** What the first registration answers is held then, so `sameActivation_or_alive`
applies to the loop: it ends with the activation or with something on a live node.  The first would
be a win. -/
theorem alive_of_lost {l : Locator} {d : Directory σ} (hd : d.contents.WellKeyed) {out : Outcome}
    (h : (l.register d r).1 = .ok out) (hlost : out.won = false) :
    ¬ l.current.IsDead out.registration.node := by
  have hregistered := d.registered r
  unfold register at h
  split at h
  · contradiction
  · next stored d₁ hregister =>
    rw [hregister] at hregistered
    split at h
    · contradiction
    · next last d₂ hreplace =>
      have hlast := sameActivation_or_alive
        (hd.of_evolves (hregistered.evolves fun _ _ => True)) hregistered.eq_some_of_ok
        (congrArg Prod.fst hreplace)
      rw [← Except.ok.inj h] at hlost ⊢
      exact hlast.resolve_left (of_decide_eq_false hlost)

end Lawful

section Spared

variable {d : Directory (Unreliable (AnyBackend ContestedStore))}

/-- Replacing that is spared does what it does over the store alone.  Each operation leads to a
later state, so it is spared as well.

**Proof sketch.** By induction on the number of attempts that are left.  That nothing goes wrong
from the first state to the last means, by `Spared.split`, that nothing goes wrong in any part of
the way.  So the deletion is spared, the registration after it is, and so is what comes later.  Each
of them does over the settled directory what it has done here, and the induction hypothesis does the
rest. -/
theorem replaceDead_settle (l : Locator) (r : Registration) (n : Nat) (stored : Registration)
    (h : d.backend.Spared (l.replaceDead r n stored d).2.backend) :
    l.replaceDead r n stored d.settle =
      (l.replaceDead r n stored d).map id Directory.settle := by
  induction n generalizing stored d with
  | zero => rfl
  | succ n ih =>
    unfold replaceDead at h ⊢
    split at h
    · next hkept => rw [if_pos hkept, if_pos hkept]; rfl
    · next hdead =>
      rw [if_neg hdead, if_neg hdead]
      have hfirst := Directory.preserves_unregister (Unreliable.preserves_later d.backend)
        (.refl _) stored
      rcases hunregister : d.unregister stored with ⟨e | _, d₁⟩
      · rw [hunregister] at h
        rw [Directory.unregister_settle (by rwa [hunregister]), hunregister]
        rfl
      · rw [hunregister] at h hfirst
        dsimp only at h ⊢
        have hsecond := Directory.preserves_register (Unreliable.preserves_later d₁.backend)
          (.refl _) r
        rcases hregister : d₁.register r with ⟨e | stored', d₂⟩
        · rw [hregister] at h hsecond
          obtain ⟨hspared₁, hspared₂⟩ := h.split hfirst hsecond
          rw [Directory.unregister_settle (by rwa [hunregister]), hunregister]
          dsimp only [Prod.map, id]
          rw [Directory.register_settle (by rwa [hregister]), hregister]
          rfl
        · rw [hregister] at h hsecond
          -- Three parts of the way: the deletion, the registration, and the rest of the loop.
          have hthird := l.preserves_replaceDead (Unreliable.preserves_later d₁.backend) hsecond r n
            stored'
          obtain ⟨hspared₁, hrest⟩ := h.split hfirst hthird
          obtain ⟨hspared₂, hspared₃⟩ := hrest.split hsecond
            (l.preserves_replaceDead (Unreliable.preserves_later d₂.backend) (.refl _) r n stored')
          rw [Directory.unregister_settle (by rwa [hunregister]), hunregister]
          dsimp only [Prod.map, id]
          rw [Directory.register_settle (by rwa [hregister]), hregister]
          exact ih stored' hspared₃

/-- A registration that is spared does what it does over the store alone.

**Proof sketch.** The way from the first state to the last is that of the first registration,
followed by that of the loop, and both parts are spared by `Spared.split`.  The first is
`Directory.register_settle` and the second `replaceDead_settle`. -/
theorem register_settle (l : Locator) (r : Registration)
    (h : d.backend.Spared (l.register d r).2.2.backend) :
    l.register d.settle r = (l.register d r).map id (Prod.map id Directory.settle) := by
  have hfirst := Directory.preserves_register (Unreliable.preserves_later d.backend) (.refl _) r
  unfold register at h ⊢
  rcases hregister : d.register r with ⟨e | stored, d₁⟩
  · rw [hregister] at h
    rw [Directory.register_settle (by rwa [hregister]), hregister]
    rfl
  · rw [hregister] at h hfirst
    dsimp only at h ⊢
    have hsecond := l.preserves_replaceDead (Unreliable.preserves_later d₁.backend) (.refl _) r
      maxReplacements stored
    -- The loop ends where the registration ends, whatever it answers.
    have h : d.backend.Spared (l.replaceDead r maxReplacements stored d₁).2.backend := by
      rcases hreplace : l.replaceDead r maxReplacements stored d₁ with ⟨_ | _, d₂⟩ <;>
        rwa [hreplace] at h
    obtain ⟨hspared₁, hspared₂⟩ := h.split hfirst hsecond
    rw [Directory.register_settle (by rwa [hregister]), hregister]
    dsimp only [Prod.map, id]
    rw [l.replaceDead_settle r maxReplacements stored hspared₂]
    rcases l.replaceDead r maxReplacements stored d₁ with ⟨_ | _, d₂⟩ <;> rfl

/-- Whatever has happened to the directory and whatever goes wrong, a registration reports what it
was told, and leaves the locator as it was if it fails.  If nothing goes wrong meanwhile, it
succeeds, its answer is what the directory holds, and a race is lost to a live node only.

**Proof sketch.** In every directory that can be reached, what is held in memory is held for its own
actor (`Directory.Reached.keyed`), and this is preserved; hence the backend answers for the right
actor, and the first part is `registersTruly`.  If nothing that was asked for has failed, the
registration has not failed either.  As it is spared, it has done what it does over the settled
directory, by `register_settle`.  This one is lawful, so that `register_spec` tells what it holds,
and `alive_of_lost` to whom the race was lost. -/
theorem register_tells_truth (hd : d.Reached) (l : Locator) (r : Registration) :
    RegistersTruly l r (l.registrationTranscript d r) (l.register d r).1 (l.register d r).2.1 ∧
      (d.backend.Spared (l.register d r).2.2.backend →
        (∀ x ∈ l.registrationTranscript d r, x.error? = none) →
          ∃ out, (l.register d r).1 = .ok out ∧
            (l.register d r).2.2.settle.contents r.actor = some out.registration ∧
            (out.won = false → ¬ l.current.IsDead out.registration.node)) := by
  have htruly := registersTruly Unreliable.preserves_keyed
    (fun s r stored hs h => Unreliable.actor_of_register hs h) l hd.keyed r
  refine ⟨htruly, ?_⟩
  intro hspared hclean
  -- A failure would have been met by something that was asked for.
  obtain ⟨out, hout⟩ : ∃ out, (l.register d r).1 = .ok out := by
    cases hanswer : (l.register d r).1 with
    | ok out => exact ⟨out, rfl⟩
    | error e =>
      obtain ⟨-, x, hx, e', hxe, -⟩ := htruly.failed e hanswer
      rw [hclean x hx] at hxe
      contradiction
  have hsettle := l.register_settle r hspared
  have hkeyed : d.settle.contents.WellKeyed := hd.keyed.wellKeyed
  have hout' : (l.register d.settle r).1 = .ok out := by rwa [hsettle]
  refine ⟨out, hout, ?_, alive_of_lost hkeyed hout'⟩
  have hheld := ((l.register_spec hkeyed r).2 out hout').1
  rwa [hsettle] at hheld

end Spared

/-- A directory where an activation on the second node is registered. -/
def occupied : Directory (Unreliable (AnyBackend ContestedStore)) :=
  ((start (.loopback 2 1) {} bothActive).perform
    ⟨⟨.inMemory {}, []⟩, InMemory.maxBatch, by decide⟩ (.register departed)).2.2

/-- An activation of the same actor on the first node. -/
def successor : Registration := { departed with node := .loopback 1 1, activation := ⟨2⟩ }

/-- The registration on a dead node is replaced, which takes two registrations and a deletion. -/
theorem register_tells_truth_occupied :
    occupied.Reached ∧
      occupied.backend.Spared
        ((start (.loopback 1 1) {} secondDead).register occupied successor).2.2.backend ∧
      ((start (.loopback 1 1) {} secondDead).register occupied successor).2.2.settle.contents
        successor.actor = some (successor.withEtag ⟨2⟩) := by
  have hreached : occupied.Reached := .call (.inMemory [] _ _) _ _
  have hspared : occupied.backend.Spared
      ((start (.loopback 1 1) {} secondDead).register occupied successor).2.2.backend :=
    ⟨⟨[], rfl, by simp⟩, ⟨[], rfl, by simp⟩⟩
  have hclean : ∀ x ∈ (start (.loopback 1 1) {} secondDead).registrationTranscript occupied
      successor, x.error? = none := by decide
  obtain ⟨out, hout, hheld, -⟩ :=
    (register_tells_truth hreached (start (.loopback 1 1) {} secondDead) successor).2 hspared hclean
  have hanswer : ((start (.loopback 1 1) {} secondDead).register occupied successor).1 =
      .ok ⟨successor.withEtag ⟨2⟩, true⟩ := rfl
  refine ⟨hreached, hspared, hheld.trans ?_⟩
  rw [Except.ok.inj (hout.symm.trans hanswer)]

end Locator

end ActorLocation
