import ActorLocation.Config
import ActorLocation.Proofs.Cluster.Events
import ActorLocation.Proofs.Directory.Equivalence
import ActorLocation.Proofs.Directory.Numbering
import ActorLocation.Proofs.Membership.Death
/-!
# Tokens are not given twice

A backend numbers what it stores, over all actors.  Hence a registration that is not held any more
is never held again, even if the same activation is registered once more, and whoever still has it
cannot delete what has come after it.  Only the token tells the two apart.

## Main definitions

* `ActorLocation.AnyBackend.Event`, `AnyBackend.step`, `AnyBackend.after` — what can happen to a
  directory, what it shows and does then, and the directory after a run.
* `ActorLocation.AnyBackend.shownAlong`, `AnyBackend.writesAlong` — the registrations that a run
  shows, and how often it writes.
* `ActorLocation.AnyBackend.Knows` — every token held or shown has been given.

## Main results

* `AnyBackend.gains_step`, `AnyBackend.Knows.step` — what an event does and preserves.
* `AnyBackend.Knows.after` — what a run does and preserves.
* `AnyBackend.unregisterBatch_of_freeOf` — a registration that releases nothing does nothing in a
  batch.
* `AnyBackend.tokens_never_reused` — tokens grow, and what is gone stays gone and does no harm.
-/

namespace ActorLocation

/-- The registrations that an answer shows. -/
def Response.registrations : Response → List Registration
  | .found (.ok (some r)) | .registered (.ok r) => [r]
  | _ => []

namespace AnyBackend

open NumberedBackend (issued Gains)

/-! ### Runs -/

/-- What can happen to a directory. -/
inductive Event where
  /-- The directory is asked for something. -/
  | ask (q : Request)
  /-- The directory is asked to delete all registrations on given nodes. -/
  | unregisterNodes (nodes : List Node)
  /-- The store is switched off, or on again. -/
  | switch (available : Bool)
  /-- Somebody writes to the store behind the directory. -/
  | write (key : String) (value : Octets)

/-- A directory that holds nothing. -/
def empty : BackendKind → AnyBackend MemoryStore
  | .inMemory => inMemory {}
  | .keyValue => overStore ⟨{}⟩

/-- The registrations that are shown in an event, and the directory after it. -/
def step (s : AnyBackend MemoryStore) : Event → List Registration × AnyBackend MemoryStore
  | .ask q => (Backend.respond s q).map Response.registrations id
  | .unregisterNodes nodes =>
    (Backend.unregisterNodes s nodes).map (fun answer => answer.toOption.getD []) id
  | .switch available => ([], s.switch available)
  | .write key value => ([], s.write key value)

/-- How often an event writes: a registration is written if its actor has none and it does not fail,
and somebody may write to the store if there is one. -/
def writes (s : AnyBackend MemoryStore) : Event → Nat
  | .ask (.register r) =>
    match s.held r.actor, (Backend.register s r).1 with
    | none, .ok _ => 1
    | _, _ => 0
  | .write .. =>
    match s with
    | inMemory _ => 0
    | overStore _ => 1
  | _ => 0

/-- The directory after a run. -/
def after (s : AnyBackend MemoryStore) (es : List Event) : AnyBackend MemoryStore :=
  es.foldl (fun s e => (s.step e).2) s

/-- The registrations that are shown in a run. -/
def shownAlong (s : AnyBackend MemoryStore) : List Event → List Registration
  | [] => []
  | e :: es => (s.step e).1 ++ (s.step e).2.shownAlong es

/-- How often a run writes. -/
def writesAlong (s : AnyBackend MemoryStore) : List Event → Nat
  | [] => 0
  | e :: es => s.writes e + (s.step e).2.writesAlong es

/-- A run may be stopped anywhere and continued from there. -/
theorem after_append (s : AnyBackend MemoryStore) (es es' : List Event) :
    s.after (es ++ es') = (s.after es).after es' := List.foldl_append

/-- The writes of a run are those of its beginning and those of the rest. -/
theorem writesAlong_append (s : AnyBackend MemoryStore) (es es' : List Event) :
    s.writesAlong (es ++ es') = s.writesAlong es + (s.after es).writesAlong es' := by
  induction es generalizing s with
  | nil => exact (Nat.zero_add _).symm
  | cons e es ih =>
    simp only [List.cons_append, writesAlong, ih, after, List.foldl_cons]
    omega

/-! ### What an event does -/

/-- Says that every registration that is held, or that is listed in `shown`, has a token that was
given. -/
structure Knows (shown : List Registration) (s : AnyBackend MemoryStore) : Prop where
  /-- What is held has a token that was given. -/
  held : ∀ id r, s.held id = some r → r.TokenIn 0 (issued s)
  /-- What was shown has a token that was given. -/
  shown : ∀ r ∈ shown, r.TokenIn 0 (issued s)

variable {s : AnyBackend MemoryStore}

/-- A registration gains one registration if it is written, and nothing otherwise.

**Proof sketch.** If the backend has given a token, the registration is held with it.  Then its
actor had none before, since what was held had an older token. -/
theorem gains_register {shown : List Registration} (hs : s.Knows shown) (r : Registration)
    (hn : issued s + s.writes (.ask (.register r)) + 1 < UInt64.size) :
    Gains (s.writes (.ask (.register r))) s (Backend.register s r).2 := by
  have hregistered := LawfulBackend.registered s r
  obtain ⟨-, hnumbered⟩ := NumberedBackend.register s r
  rw [writes] at hn ⊢
  generalize hheld : LawfulBackend.contents (Backend.register s r).2 = c' at hregistered hnumbered
  generalize hissued : issued (Backend.register s r).2 = n' at hnumbered
  generalize (Backend.register s r).1 = answer at hregistered hnumbered hn ⊢
  cases hnumbered with
  | unchanged =>
    have h : Gains 0 s (Backend.register s r).2 := .of_shrinks hissued (hheld ▸ .refl _)
    exact h.mono (Nat.zero_le _)
  | stored e n' hnext =>
    obtain ⟨he, rfl⟩ := hnext (by omega)
    cases hnone : s.held r.actor with
    | some stored =>
      -- What was held is kept, which has an older token.
      have hkept := (hregistered.evolves fun _ _ => False).keeps _ _ hnone id
      rw [Contents.store, if_pos rfl] at hkept
      obtain ⟨e', he', -, hold⟩ := hs.held _ _ hnone
      rw [← Option.some.inj hkept] at he'
      obtain rfl := Option.some.inj he'
      omega
    | none =>
      refine ⟨by omega, by simp only; omega, fun id u hu => ?_⟩
      rw [hheld, Contents.store] at hu
      split at hu
      · rw [← Option.some.inj hu]
        exact .inr ⟨e, rfl, by omega, by omega⟩
      · exact .inl hu

/-- A write to the store gains at most the registration that is written.

**Proof sketch.** In memory there is nothing to write to.  In a store the version goes up by one;
what is held under the written key then has that version for a token, and what is held under other
keys was held before. -/
theorem gains_write (key : String) (value : Octets)
    (hn : issued s + s.writes (.write key value) + 1 < UInt64.size) :
    Gains (s.writes (.write key value)) s (s.write key value) := by
  cases s with
  | inMemory d => exact .refl _
  | overStore d =>
    change d.store.lastVersion.toNat + 1 + 1 < UInt64.size at hn
    have hnext := toNat_add_one (n := d.store.lastVersion) (by omega)
    have hissued : issued ((overStore d).write key value) = issued (overStore d) + 1 := hnext
    refine ⟨by omega, by rw [hissued]; exact Nat.le_refl _, fun id r hr => ?_⟩
    obtain ⟨v, hv, hdecode⟩ := OverStore.exists_of_held hr
    change (d.store.entries.insert key _).find? _ = some v at hv
    -- What is held under the key now has the new version for its token.
    rw [Table.find?_insert] at hv
    split at hv
    · obtain rfl := Option.some.inj hv
      refine .inr ⟨_, (OverStore.of_decode_eq_ok hdecode).2, ?_, ?_⟩
      · change d.store.lastVersion.toNat < (d.store.lastVersion + 1).toNat
        omega
      · exact Nat.le_refl (d.store.lastVersion + 1).toNat
    · exact .inl (OverStore.held_of_decode_eq_ok hv hdecode)

/-- An event gains no more registrations than it writes.

**Proof sketch.** One case for each event.  A look-up, a deletion and a switch give no token and
hold nothing new (`Gains.of_shrinks`).  Registrations are `gains_register` and writes
`gains_write`. -/
theorem gains_step {shown : List Registration} (hs : s.Knows shown) {e : Event}
    (hn : issued s + s.writes e + 1 < UInt64.size) : Gains (s.writes e) s (s.step e).2 := by
  cases e with
  | ask q =>
    cases q with
    | lookup id =>
      refine .of_shrinks (NumberedBackend.lookup s id).2 ?_
      change (LawfulBackend.contents s).Shrinks (LawfulBackend.contents (Backend.lookup s id).2)
      rw [LawfulBackend.contents_lookup]
      exact .refl _
    | register r => exact gains_register hs r hn
    | unregister r =>
      exact .of_shrinks (NumberedBackend.unregister s r).2 (LawfulBackend.unregistered s r).shrinks
    | unregisterBatch l =>
      exact .of_shrinks (Directory.steady_unregisterEach s l).2 (shrinks_unregisterEach s l)
  -- Only a directory in memory deletes by nodes.
  | unregisterNodes nodes =>
    cases s with
    | inMemory d =>
      exact .of_shrinks rfl (LawfulBackend.dropped d nodes rfl).shrinks
    | overStore d => exact .refl _
  | switch available =>
    refine .of_shrinks ?_ ?_
    · cases s <;> rfl
    · change s.held.Shrinks (s.switch available).held
      rw [held_switch]
      exact .refl _
  | write key value => exact gains_write key value hn

/-- What an event shows is held before it or after it.

**Proof sketch.** One case for each answer that shows something.  A look-up shows what is held
before it, a registration what is held after it, and a deletion by nodes what is held before it on
those nodes. -/
theorem held_of_mem_step {e : Event} {r : Registration} (hr : r ∈ (s.step e).1) :
    ∃ id, s.held id = some r ∨ (s.step e).2.held id = some r := by
  cases e with
  | ask q =>
    cases q with
    -- A look-up shows what it finds.
    | lookup id =>
      have hlooked := LawfulBackend.looked s id
      change r ∈ (Response.found (Backend.lookup s id).1).registrations at hr
      generalize (Backend.lookup s id).1 = answer at hr hlooked
      rcases answer with e | _ | found
      · contradiction
      · contradiction
      · obtain rfl := List.mem_singleton.1 hr
        exact ⟨id, .inl hlooked.eq_of_ok⟩
    | register u =>
      have hregistered := LawfulBackend.registered s u
      change r ∈ (Response.registered (Backend.register s u).1).registrations at hr
      generalize (Backend.register s u).1 = answer at hr hregistered
      rcases answer with e | stored
      · contradiction
      · obtain rfl := List.mem_singleton.1 hr
        exact ⟨u.actor, .inr hregistered.eq_some_of_ok⟩
    | unregister | unregisterBatch => contradiction
  | unregisterNodes nodes =>
    cases s with
    | inMemory d =>
      obtain ⟨hheld, -⟩ := List.mem_filter.1 (show r ∈ d.entries.values.filter _ from hr)
      obtain ⟨id, hid⟩ := Table.mem_values_iff.1 hheld
      exact ⟨id, .inl hid⟩
    | overStore d => contradiction
  | switch | write => contradiction

/-- What is held, was shown before or is shown in an event has a token that was given.

**Proof sketch.** By `gains_step`, what is held after the event was held before or has a token given
in it, and tokens that were given stay given.  What the event shows is held before it or after it
(`held_of_mem_step`). -/
theorem Knows.step {shown : List Registration} (hs : s.Knows shown) {e : Event}
    (hn : issued s + s.writes e + 1 < UInt64.size) :
    (s.step e).2.Knows (shown ++ (s.step e).1) := by
  have hgains := gains_step hs hn
  have hheld (id : ActorId) (r : Registration) (hr : (s.step e).2.held id = some r) :
      r.TokenIn 0 (issued (s.step e).2) := by
    rcases hgains.fresh id r hr with hr | hnew
    · exact hgains.tokenIn (hs.held id r hr)
    · exact hnew.mono (Nat.zero_le _) (Nat.le_refl _)
  refine ⟨hheld, fun r hr => ?_⟩
  rcases List.mem_append.1 hr with hr | hr
  · exact hgains.tokenIn (hs.shown r hr)
  · obtain ⟨id, hold | hnew⟩ := held_of_mem_step hr
    · exact hgains.tokenIn (hs.held id r hold)
    · exact hheld id r hnew

/-! ### What a run does -/

/-- A run gains no more registrations than it writes, and what it shows has a token that was given.

**Proof sketch.** Induction on the run, with the state and the list `shown` left free; the step is
`gains_step` with `Knows.step`.  What one event adds to the number of tokens leaves enough below the
bound for the rest. -/
theorem Knows.after {shown : List Registration} (hs : s.Knows shown) (es : List Event)
    (hn : issued s + s.writesAlong es + 1 < UInt64.size) :
    Gains (s.writesAlong es) s (s.after es) ∧ (s.after es).Knows (shown ++ s.shownAlong es) := by
  induction es generalizing s shown with
  | nil =>
    rw [shownAlong, List.append_nil]
    exact ⟨.refl s, hs⟩
  | cons e es ih =>
    rw [writesAlong] at hn
    have hfirst := gains_step hs (e := e) (by omega)
    have hissued := hfirst.issued_le
    obtain ⟨hgains, hknows⟩ := ih (hs.step (e := e) (by omega)) (by omega)
    rw [List.append_assoc] at hknows
    exact ⟨hfirst.trans hgains, hknows⟩

/-- A directory that holds nothing and has shown nothing knows all tokens. -/
theorem knows_empty (kind : BackendKind) : (empty kind).Knows [] := by
  refine ⟨fun id r hr => ?_, fun r hr => by contradiction⟩
  cases kind <;> contradiction

/-! ### Deletions by old registrations -/

/-- Whoever has a registration with a token may delete that one registration only. -/
theorem eq_of_releases {r u : Registration} {n : Nat} (hr : r.TokenIn 0 n) (h : r.Releases u) :
    u = r := by
  obtain ⟨e, he, -⟩ := hr
  obtain ⟨⟨hactor, hactivation, hnode⟩, hetag⟩ := h
  obtain ⟨actor, node, activation, etag⟩ := r
  obtain ⟨actor', node', activation', etag'⟩ := u
  simp only at hactor hactivation hnode he hetag
  rw [hactor, hactivation, hnode, he, hetag e he]

/-- Nothing happens when the holder of a registration deletes that is entitled to nothing.

**Proof sketch.** In memory the conditional erasure finds nothing to erase.  Over a store, three of
the four ways in which a deletion can end leave the store as it is (`OverStore.unregister_cases`),
and the fourth one needs a registration that is released. -/
theorem unregister_of_freeOf {r : Registration} (h : s.held.FreeOf r) :
    (Backend.unregister s r).2 = s := by
  cases s with
  | inMemory d =>
    have hsame : d.unregister r = d := by
      rw [InMemory.unregister, Table.eraseIf_eq_self fun u hu => decide_eq_false (h u hu)]
    exact congrArg inMemory hsame
  | overStore d =>
    obtain ⟨store⟩ := d
    have hsame : (OverStore.unregister ⟨store⟩ r).2 = ⟨store⟩ := by
      rcases OverStore.unregister_cases store r with
        ⟨heq, -⟩ | ⟨reason, heq, -⟩ | ⟨heq, -⟩ | ⟨-, stored, hstored, hreleases⟩
      · rw [heq]
      · rw [heq]
      · rw [heq]
      · -- The entry would be deleted only if it were released.
        exact absurd hreleases (h stored hstored)
    exact congrArg overStore hsame

/-- In a batch, the holder of a registration that is entitled to nothing might as well be left out.

**Proof sketch.** Induction on the batch.  Where the registration stands, nothing happens; any other
deletion only takes away, so that there is still nothing for it to delete. -/
theorem unregisterBatch_of_freeOf {r : Registration} (h : s.held.FreeOf r)
    (l : List Registration) :
    (Backend.unregisterBatch s l).2 = (Backend.unregisterBatch s (l.filter fun u => u ≠ r)).2 := by
  simp only [LawfulBackend.unregisterBatch_eq]
  induction l generalizing s with
  | nil => rfl
  | cons u l ih =>
    by_cases hu : u = r
    · subst hu
      rw [List.filter_cons_of_neg (by simp), ← ih h]
      change (unregisterEach Backend.unregister (Backend.unregister s u).2 l).2 = _
      rw [unregister_of_freeOf h]
    · rw [List.filter_cons_of_pos (by simpa using hu), unregisterEach, unregisterEach]
      exact ih (h.of_shrinks (LawfulBackend.unregistered s u).shrinks)

/-- What no member of a batch releases is still held after it. -/
theorem held_unregisterBatch {id : ActorId} {u : Registration} {l : List Registration}
    (hu : s.held id = some u) (hl : ∀ v ∈ l, ¬ v.Releases u) :
    (Backend.unregisterBatch s l).2.held id = some u := by
  rw [LawfulBackend.unregisterBatch_eq]
  refine (Directory.evolves_unregisterEach s l).keeps id u hu ?_
  rintro ⟨v, hv, hreleases⟩
  exact hl v hv hreleases

/-- Tokens are not given twice, so that an old registration does no harm.  Take any run of a
directory of either kind that holds nothing at first, with fewer than `2 ^ 64 - 1` writes.  A
registration that is stored in it gets a token greater than that of every registration shown before.
Once a registration that was shown is not held any more, it is never held again.  From then on,
deleting it changes nothing, and in a batch it might as well be left out: what is held for its actor
stays unless another member of the batch releases it.

**Proof sketch.** `Knows.after` is the invariant: every token that is held or was shown has been
given, and tokens are numbered in the order in which they are given.  For the first part, the new
registration is held after the call and was not before, so its token has been given in the call
(`gains_register`), after all that were shown.  For the second part, a run holds nothing new but
what has a new token (`Gains.ne_of_ne`), and the registration has an old one.  So nothing is held
that it releases, as a registration with a token releases only itself (`eq_of_releases`), and
`unregister_of_freeOf`, `unregisterBatch_of_freeOf` and `held_unregisterBatch` apply. -/
theorem tokens_never_reused (kind : BackendKind) {es : List Event}
    (hn : (empty kind).writesAlong es < UInt64.size - 1) :
    (∀ es₁ r stored, es₁ ++ [.ask (.register r)] <+: es →
      ((empty kind).after es₁).held r.actor = none →
      (Backend.register ((empty kind).after es₁) r).1 = .ok stored →
        ∃ token, stored = r.withEtag token ∧
          ∀ u ∈ (empty kind).shownAlong es₁, ∀ old ∈ u.etag, old.num < token.num) ∧
    ∀ es₁ es₂ r, es₁ ++ es₂ <+: es → r ∈ (empty kind).shownAlong es₁ →
      ((empty kind).after es₁).held r.actor ≠ some r →
        ((empty kind).after (es₁ ++ es₂)).held r.actor ≠ some r ∧
        (Backend.unregister ((empty kind).after (es₁ ++ es₂)) r).2 =
          (empty kind).after (es₁ ++ es₂) ∧
        ∀ l, (Backend.unregisterBatch ((empty kind).after (es₁ ++ es₂)) l).2 =
            (Backend.unregisterBatch ((empty kind).after (es₁ ++ es₂))
              (l.filter fun u => u ≠ r)).2 ∧
          ∀ u, ((empty kind).after (es₁ ++ es₂)).held r.actor = some u →
            (∀ v ∈ l, v.Releases u → v = r) →
            (Backend.unregisterBatch ((empty kind).after (es₁ ++ es₂)) l).2.held r.actor =
              some u := by
  have hissued : issued (empty kind) = 0 := by cases kind <;> rfl
  constructor
  · rintro es₁ r stored ⟨rest, rfl⟩ hnone hok
    rw [List.append_assoc, writesAlong_append, List.singleton_append, writesAlong] at hn
    obtain ⟨hgains, hknows⟩ := (knows_empty kind).after es₁ (by omega)
    have hle := hgains.issued_le
    have hregistered := LawfulBackend.registered ((empty kind).after es₁) r
    rw [hok] at hregistered
    have hheld := hregistered.eq_some_of_ok
    obtain ⟨token, rfl⟩ := hregistered.exists_token hnone
    refine ⟨token, rfl, fun u hu old hold => ?_⟩
    -- What is held now and was not before has a new token, and what was shown has an old one.
    rcases (gains_register hknows r (by omega)).fresh _ _ hheld with hheld | ⟨e, he, hlow, -⟩
    · exact absurd (hnone.symm.trans hheld) (Option.some_ne_none _).symm
    · obtain ⟨e', he', -, hhigh⟩ := hknows.shown u hu
      obtain rfl := Option.some.inj he
      obtain rfl := Option.some.inj (he'.symm.trans hold)
      exact UInt64.lt_iff_toNat_lt.2 (by omega)
  · -- What is gone stays gone, because what comes back would come back with another token.
    rintro es₁ es₂ r ⟨rest, rfl⟩ hshown hne
    rw [writesAlong_append, writesAlong_append] at hn
    obtain ⟨hgains, hknows⟩ := (knows_empty kind).after es₁ (by omega)
    have hle := hgains.issued_le
    obtain ⟨hgains', -⟩ := hknows.after es₂ (by omega)
    have htoken := hknows.shown r hshown
    have hgone := hgains'.ne_of_ne htoken hne
    rw [after_append]
    have hfree : (((empty kind).after es₁).after es₂).held.FreeOf r := by
      intro u hu hreleases
      rw [eq_of_releases htoken hreleases] at hu
      exact hgone hu
    refine ⟨hgone, unregister_of_freeOf hfree, fun l => ⟨unregisterBatch_of_freeOf hfree l, ?_⟩⟩
    intro u hu hl
    refine held_unregisterBatch hu fun v hv hreleases => ?_
    obtain rfl := hl v hv hreleases
    exact hfree u hu hreleases

/-- An activation that is registered, deleted and registered again. -/
def returning : Registration := ⟨⟨⟨1⟩, "counter"⟩, .loopback 1 1, ⟨1⟩, none⟩

/-- The activation is registered again after somebody has written to the store. -/
def registeredAgain : List Event :=
  [.ask (.register returning), .ask (.unregister returning), .write "settings" [],
    .ask (.register returning)]

/-- The activation is held with a new token, and whoever has the old one does not delete it. -/
theorem tokens_never_reused_registeredAgain :
    ((empty .keyValue).after registeredAgain).held returning.actor =
        some (returning.withEtag ⟨3⟩) ∧
      (Backend.unregister ((empty .keyValue).after registeredAgain)
        (returning.withEtag ⟨1⟩)).2 = (empty .keyValue).after registeredAgain := by
  have hwrites : (empty .keyValue).writesAlong registeredAgain < UInt64.size - 1 := by
    decide +kernel
  obtain ⟨-, hgone⟩ := tokens_never_reused .keyValue hwrites
  have hruns := List.take_append_drop 2 registeredAgain
  obtain ⟨-, hharmless, -⟩ := hgone _ _ (returning.withEtag ⟨1⟩) ⟨[], by rw [hruns]; rfl⟩
    (by decide +kernel) (by decide +kernel)
  rw [hruns] at hharmless
  exact ⟨by decide +kernel, hharmless⟩

end AnyBackend

end ActorLocation
