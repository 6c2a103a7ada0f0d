import ActorLocation.Proofs.Catalog.Roster
/-!
# The catalog is a roster

A catalog keeps a list for each actor and an index of the identifiers.  Together they hold what a
roster holds, and stay so however updates end: no list is empty, and each identifier is entered for
the actor to which it belongs.  Only the order in which activations of different actors were
admitted is lost.

## Main definitions

* `Catalog.Update`, `Catalog.update`, `Roster.update` — what can happen to a catalog, and the same
  for a roster.
* `Catalog.Represents` — the lists and the index of a catalog are those of a roster.
* `Catalog.Admission` — the answers to an admission.

## Main results

* `Catalog.Represents.host`, `Represents.release`, `Represents.drain` — what each update answers and
  preserves.
* `Catalog.refines_roster` — a catalog answers like the roster after any updates.
-/

namespace ActorLocation

namespace Catalog

/-! ### Updates -/

/-- An update of a catalog. -/
inductive Update where
  /-- An activation is to be admitted. -/
  | host (h : Hosted)
  /-- An activation is to be released. -/
  | release (h : Hosted)
  /-- All activations are to be released. -/
  | drain

/-- The catalog after an update, which changes nothing if it is refused. -/
def update (c : Catalog) : Update → Catalog
  | .host h =>
    match c.host h with
    | .ok c => c
    | .error _ => c
  | .release h => (c.release h).2
  | .drain => c.drain.2

/-- The catalog after updates, empty before. -/
def after (us : List Update) : Catalog := us.foldl update {}

end Catalog

namespace Roster

/-- The roster after an update. -/
def update (L : Roster) : Catalog.Update → Roster
  | .host h => if hr : L.Refuses h then L else L.add h (find?_of_not_refuses hr)
  | .release h => L.release h
  | .drain => {}

/-- The roster after updates, empty before. -/
def after (us : List Catalog.Update) : Roster := us.foldl update {}

end Roster

namespace Catalog

/-! ### Lists of activations -/

/-- In a table with lists of activations for their actors, the activations of one actor are those in
its list.

**Proof sketch.** Induction on the entries of the table.  The filter keeps the whole list of the
actor and nothing of the other lists, as each list has the activations of its own actor only; and
the actor has one list, because keys are distinct. -/
theorem filter_flatten_values {t : Table ActorId (List Hosted)}
    (ht : ∀ e ∈ t.entries, ∀ g ∈ e.2, g.actor = e.1) (id : ActorId) :
    (t.values.flatten.filter fun g => g.actor = id) = (t.find? id).getD [] := by
  obtain ⟨l, hl⟩ := t
  rw [Table.values, Table.find?]
  dsimp only at ht ⊢
  induction l with
  | nil => rfl
  | cons e l ih =>
    rw [List.map_cons, List.nodup_cons] at hl
    rw [List.map_cons, List.flatten_cons, List.filter_append,
      ih hl.2 fun e he => ht e (List.mem_cons_of_mem _ he)]
    have hfirst := ht e List.mem_cons_self
    by_cases hid : e.1 = id
    · -- The list of the actor is the first one, and there is no other one.
      have hnone : (l.find? fun e => e.1 = id) = none := by
        refine List.find?_eq_none.2 fun e' he' => ?_
        rw [decide_eq_true_eq, ← hid]
        exact fun heq => hl.1 (heq ▸ List.mem_map_of_mem (f := Prod.fst) he')
      rw [List.find?_cons_of_pos (by simpa using hid), hnone,
        List.filter_eq_self.2 fun g hg => by simpa [hid] using hfirst g hg]
      exact List.append_nil _
    · rw [List.find?_cons_of_neg (by simpa using hid),
        List.filter_eq_nil_iff.2 fun g hg => by simpa [hfirst g hg] using hid]
      rfl

/-- Two lists that agree on each actor have the same members. -/
theorem perm_of_filter_actor {l l' : List Hosted}
    (h : ∀ id, (l.filter fun g => g.actor = id) = l'.filter fun g => g.actor = id) :
    l.Perm l' := by
  refine List.perm_iff_count.2 fun g => ?_
  rw [← List.count_filter (l := l) (p := fun g' => g'.actor = g.actor) (by simp), h,
    List.count_filter (by simp)]

/-- A list takes the place of the one that was there, unless it is empty. -/
theorem find?_replace (t : Table ActorId (List Hosted)) (id id' : ActorId) (l : List Hosted) :
    (if l.isEmpty then t.erase id else t.insert id l).find? id' =
      if id' = id then if l = [] then none else some l else t.find? id' := by
  cases l with
  | nil => exact Table.find?_erase t id id'
  | cons g l => exact Table.find?_insert t id id' (g :: l)

/-- What is removed from the index is the identifier of the activation, under its actor. -/
theorem find?_unindex_eq_some_iff {owners : Table ActivationId ActorId} {h : Hosted}
    {a : ActivationId} {id : ActorId} :
    (unindex owners h).find? a = some id ↔
      owners.find? a = some id ∧ (h.activation = a → h.actor ≠ id) := by
  rw [unindex, Table.find?_eraseIf]
  split
  · next ha =>
    rw [Option.filter_eq_some_iff]
    simp [ha, @eq_comm _ id h.actor]
  · next ha => simp [Ne.symm ha]

/-- What is left of the index belongs to no activation that was removed. -/
theorem find?_foldl_unindex_eq_some_iff {l : List Hosted} {owners : Table ActivationId ActorId}
    {a : ActivationId} {id : ActorId} :
    (l.foldl unindex owners).find? a = some id ↔
      owners.find? a = some id ∧ ∀ h ∈ l, h.activation = a → h.actor ≠ id := by
  induction l generalizing owners with
  | nil => simp
  | cons h l ih =>
    rw [List.foldl_cons, ih, find?_unindex_eq_some_iff, List.forall_mem_cons, and_assoc]

/-! ### Representation -/

/-- Says that a catalog holds what the roster holds. -/
structure Represents (c : Catalog) (L : Roster) : Prop where
  /-- The list of an actor has its activations, and there is none if there are none. -/
  byActor : ∀ id, c.byActor.find? id = if L.of id = [] then none else some (L.of id)
  /-- The index says to which actor an identifier belongs. -/
  owners : ∀ a, c.owners.find? a = (L.find? a).map Hosted.actor

variable {c c' : Catalog} {L : Roster}

/-- The empty catalog holds what the empty roster holds.  Every run of updates starts there. -/
theorem represents_empty : Represents {} {} := ⟨fun _ => rfl, fun _ => rfl⟩

namespace Represents

/-- A catalog lists the activations of an actor in the order of their admission; that there is no
list and that there is no activation come to the same. -/
theorem hostedBy (hc : c.Represents L) (id : ActorId) : c.hostedBy id = L.of id := by
  rw [Catalog.hostedBy, hc.byActor]
  split
  · next hnone => exact hnone.symm
  · rfl

/-- The oldest activation of an actor is the first one on the roster that is its own. -/
theorem first? (hc : c.Represents L) (id : ActorId) :
    c.first? id = L.hosted.find? fun g => g.actor = id := by
  rw [Catalog.first?, hc.hostedBy, Roster.of, List.head?_filter]

/-- A catalog looks an identifier up in two steps, in the index and then in the list of the actor
that it finds there.  That is as good as looking through the roster. -/
theorem find? (hc : c.Represents L) (a : ActivationId) : c.find? a = L.find? a := by
  rw [Catalog.find?, hc.owners]
  cases hg : L.find? a with
  | none => rfl
  | some g =>
    change (c.hostedBy g.actor).find? _ = some g
    rw [hc.hostedBy, Roster.find?_of, hg]
    exact Option.filter_some_pos (by simp)

/-- The number of an actor's activations is read off its list. -/
theorem countOf (hc : c.Represents L) (id : ActorId) : c.countOf id = (L.of id).length := by
  rw [Catalog.countOf, hc.hostedBy]

/-- Of all activations, those of an actor are in the order of their admission. -/
theorem filter_all (hc : c.Represents L) (id : ActorId) :
    (c.all.filter fun g => g.actor = id) = L.of id := by
  have hactor : ∀ e ∈ c.byActor.entries, ∀ g ∈ e.2, g.actor = e.1 := by
    intro e he g hg
    have hlist := hc.hostedBy e.1
    rw [Catalog.hostedBy, Table.mem_entries_iff.1 he, Option.getD_some] at hlist
    rw [hlist] at hg
    exact (Roster.mem_of_iff.1 hg).2
  rw [← hc.hostedBy, Catalog.all, Catalog.hostedBy]
  exact filter_flatten_values hactor id

/-- The lists hold what the roster holds. -/
theorem all_perm (hc : c.Represents L) : c.all.Perm L.hosted :=
  perm_of_filter_actor hc.filter_all

/-- A catalog without lists holds nothing, since no list is empty.

**Proof sketch.** Without lists there are no activations, by `all_perm`.  Without activations no
actor has a list, by `byActor`, so the table of lists is the empty one. -/
theorem isEmpty (hc : c.Represents L) : c.isEmpty = L.hosted.isEmpty := by
  rw [Bool.eq_iff_iff, List.isEmpty_iff]
  constructor
  · intro h
    have hentries : c.byActor.entries = [] := List.isEmpty_iff.1 h
    have hperm := hc.all_perm
    rw [Catalog.all, Table.values, hentries] at hperm
    exact List.perm_nil.1 hperm.symm
  · intro h
    have hempty : c.byActor = ∅ := by
      refine Table.eq_empty_iff.2 fun id => ?_
      rw [hc.byActor, Roster.of, h]
      rfl
    rw [Catalog.isEmpty, hempty]
    rfl

end Represents

/-! ### What updates preserve -/

/-- The answers to an admission: a refusal, or a catalog that represents the roster with the new
activation. -/
inductive Admission (L : Roster) (h : Hosted) : Except CatalogError Catalog → Prop where
  /-- The activation is refused. -/
  | refused (hr : L.Refuses h) (e : CatalogError) : Admission L h (.error e)
  /-- The activation is admitted. -/
  | admitted (hr : ¬ L.Refuses h) (c' : Catalog)
    (hc : c'.Represents (L.add h (Roster.find?_of_not_refuses hr))) : Admission L h (.ok c')

namespace Represents

/-- An activation that is not excluded and stays within the limit is admitted if its identifier is
free, and refused if not.

**Proof sketch.** If the index has the identifier, the roster has an activation with it, and
refuses.  If not, the roster does not refuse, by `Roster.not_refuses`, and one entry is inserted
into each table.  `Table.find?_insert` on the one side and `Roster.of_add` and `Roster.find?_add` on
the other change the same answers. -/
theorem append (hc : c.Represents L) {h : Hosted}
    (hexcludes : ∀ g ∈ L.of h.actor, ¬ Excludes g h)
    (hlimit : ∀ limit ∈ h.hosting.limit?, L.of h.actor ≠ [] →
      (L.of h.actor).length < limit.toNat) :
    Admission L h (c.append (L.of h.actor) h) := by
  rw [Catalog.append, hc.owners]
  cases hg : L.find? h.activation with
  | some g => exact .refused (Roster.refuses_of_find? hg) _
  | none =>
    refine .admitted (Roster.not_refuses hexcludes hlimit hg) _ ⟨fun id => ?_, fun a => ?_⟩
    · rw [Table.find?_insert, Roster.of_add, hc.byActor]
      by_cases hid : id = h.actor
      · subst hid
        simp
      · simp [hid]
    · rw [Table.find?_insert, Roster.find?_add, hc.owners]
      split <;> rfl

/-- An activation is refused exactly if the roster refuses it, and else it is admitted.

**Proof sketch.** The cases are those of the code.  Where it refuses, the case itself is one of the
reasons for which a roster refuses: an activation that excludes the new one, or a limit that is
reached.  Where it goes on, those reasons are ruled out, and `append` says what becomes of it. -/
theorem host (hc : c.Represents L) (h : Hosted) : Admission L h (c.host h) := by
  rw [Catalog.host, hc.byActor]
  by_cases hof : L.of h.actor = []
  · rw [if_pos hof]
    -- There is no list to look at, and no limit either.
    have happend := hc.append (h := h) (by simp [hof]) fun _ _ hne => absurd hof hne
    rwa [hof] at happend
  · rw [if_neg hof]
    dsimp only
    split
    · next g hg =>
      have hexcludes : Excludes g h := by simpa using List.find?_some hg
      obtain ⟨hmem, hactor⟩ := Roster.mem_of_iff.1 (List.mem_of_find?_eq_some hg)
      exact .refused (.inl ⟨g, hmem, hactor, hexcludes⟩) _
    · next hnone =>
      have hexcludes : ∀ g ∈ L.of h.actor, ¬ Excludes g h := by
        simpa using List.find?_eq_none.1 hnone
      split
      · next limit hl =>
        split
        · next hle => exact .refused (.inr (.inl ⟨limit, hl, hof, hle⟩)) _
        · next hlt =>
          refine hc.append hexcludes fun limit' hl' _ => ?_
          obtain rfl := Option.some.inj (hl.symm.trans hl')
          exact Nat.lt_of_not_le hlt
      · next hl =>
        refine hc.append hexcludes fun limit hl' _ => ?_
        rw [hl] at hl'
        contradiction

/-- Without the identifier of an activation that is released, the index is that of the roster.

**Proof sketch.** Both sides start from the activation with the identifier, if there is one.  The
index drops its actor, and the roster drops the activation, under the same condition: it is the
released one. -/
theorem find?_unindex (hc : c.Represents L) (h : Hosted) (a : ActivationId) :
    (unindex c.owners h).find? a = ((L.release h).find? a).map Hosted.actor := by
  refine Option.ext fun id => ?_
  rw [find?_unindex_eq_some_iff, hc.owners, Roster.find?_release]
  cases hg : L.find? a with
  | none => simp
  | some g =>
    have hsame : g.activation = a := (Roster.find?_eq_some_iff.1 hg).2
    simp only [Option.map_some, Option.some.injEq, Option.map_eq_some_iff,
      Option.filter_eq_some_iff, decide_eq_true_eq]
    -- The index asks for the identifier and then the actor, the roster for the actor and then the
    -- identifier.
    constructor
    · rintro ⟨rfl, hkept⟩
      exact ⟨g, ⟨rfl, fun ⟨hactor, hid⟩ => hkept (hid.symm.trans hsame) hactor.symm⟩, rfl⟩
    · rintro ⟨_, ⟨rfl, hkept⟩, rfl⟩
      exact ⟨rfl, fun hid hactor => hkept ⟨hactor.symm, hsame.trans hid.symm⟩⟩

/-- A release says whether the roster has the activation, and releases it.

**Proof sketch.** An actor without activations has no list, and nothing is released.  Otherwise the
list gets shorter exactly if it had the activation.  The lists are those of the roster by
`find?_replace` and `Roster.of_release`.  The index is touched only if the list got shorter, which
is when the roster changes, and then `find?_unindex` applies. -/
theorem release (hc : c.Represents L) (h : Hosted) :
    ((c.release h).1 = true ↔
        ∃ g ∈ L.hosted, g.actor = h.actor ∧ g.activation = h.activation) ∧
      (c.release h).2.Represents (L.release h) := by
  rw [Catalog.release, hc.byActor]
  by_cases hof : L.of h.actor = []
  · have hnone : ¬ ∃ g ∈ L.hosted, g.actor = h.actor ∧ g.activation = h.activation := by
      rintro ⟨g, hg, hactor, -⟩
      exact List.ne_nil_of_mem (Roster.mem_of_iff.2 ⟨hg, hactor⟩) hof
    rw [if_pos hof, Roster.release_eq_self hnone]
    exact ⟨by simpa using hnone, hc⟩
  · -- The list gets shorter exactly if the activation was in it.
    have hremoved : ((L.of h.actor).filter fun g => g.activation ≠ h.activation).length ≠
          (L.of h.actor).length ↔
        ∃ g ∈ L.hosted, g.actor = h.actor ∧ g.activation = h.activation := by
      simp [List.length_filter_eq_length_iff, Roster.mem_of_iff]
    rw [if_neg hof]
    dsimp only
    refine ⟨decide_eq_true_iff.trans hremoved, fun id => ?_, fun a => ?_⟩
    · rw [find?_replace, Roster.of_release, hc.byActor]
      split
      · next hid => rw [hid]
      · rfl
    · dsimp only
      split
      · exact hc.find?_unindex h a
      · next hsame =>
        rw [Roster.release_eq_self (mt hremoved.2 hsame)]
        exact hc.owners a

/-- Releasing all activations returns them, and leaves an empty catalog.

**Proof sketch.** Suppose that an identifier is left in the index.  It belongs to an activation of
the roster, by `owners`; that activation is among those that were removed, by `all_perm`, and its
entry with it. -/
theorem drain (hc : c.Represents L) : c.drain.1.Perm L.hosted ∧ c.drain.2 = {} := by
  refine ⟨hc.all_perm, ?_⟩
  have howners : c.all.foldl unindex c.owners = ∅ := by
    refine Table.eq_empty_iff.2 fun a => Option.eq_none_iff_forall_ne_some.2 fun id hid => ?_
    obtain ⟨howner, hrest⟩ := find?_foldl_unindex_eq_some_iff.1 hid
    rw [hc.owners] at howner
    obtain ⟨g, hg, hactor⟩ := Option.map_eq_some_iff.1 howner
    obtain ⟨hmem, hsame⟩ := Roster.find?_eq_some_iff.1 hg
    exact hrest g (hc.all_perm.mem_iff.2 hmem) hsame hactor
  rw [Catalog.drain, howners]

/-- A catalog represents a roster after an update as before.

**Proof sketch.** One case for each update, from `host`, `release` and `drain`.  An admission ends
alike in both, refused or admitted, as `Admission` says. -/
theorem update (hc : c.Represents L) (u : Update) : (c.update u).Represents (L.update u) := by
  cases u with
  | host h =>
    have hhost := hc.host h
    rw [Catalog.update, Roster.update]
    generalize c.host h = answer at hhost
    cases hhost with
    | refused hr e =>
      rw [dif_pos hr]
      exact hc
    | admitted hr c' hc' =>
      rw [dif_neg hr]
      exact hc'
  | release h => exact (hc.release h).2
  | drain =>
    rw [Catalog.update, hc.drain.2]
    exact represents_empty

/-- A catalog represents a roster after updates as before.

**Proof sketch.** Induction on the updates, with both states left free; the step is `update`. -/
theorem foldl_update (hc : c.Represents L) (us : List Update) :
    (us.foldl Catalog.update c).Represents (us.foldl Roster.update L) := by
  induction us generalizing c L with
  | nil => exact hc
  | cons u us ih => exact ih (hc.update u)

end Represents

/-- A catalog is a roster in two maps.  After any updates of an empty catalog, its lists and its
index hold what the roster holds after the same updates.  An activation is refused exactly if the
roster refuses it, and a release says whether the roster has the activation.  The oldest activation
of an actor, the activation with an identifier, and the numbers of activations are those of the
roster.  All activations are those of the roster, those of one actor in the order of their
admission, and so are those that are released when the node shuts down, which leaves an empty
catalog.

**Proof sketch.** The catalog represents the roster, by `Represents.foldl_update` from the empty
ones.  All the rest is what representation says about one query or one more update; that refusals
coincide is read off `Represents.host`. -/
theorem refines_roster (us : List Update) :
    (after us).Represents (Roster.after us) ∧
      (∀ h, (∃ e, (after us).host h = .error e) ↔ (Roster.after us).Refuses h) ∧
      (∀ h, ((after us).release h).1 = true ↔
        ∃ g ∈ (Roster.after us).hosted, g.actor = h.actor ∧ g.activation = h.activation) ∧
      (∀ id, (after us).first? id = (Roster.after us).hosted.find? fun g => g.actor = id) ∧
      (∀ a, (after us).find? a = (Roster.after us).hosted.find? fun g => g.activation = a) ∧
      (∀ id, (after us).countOf id =
        ((Roster.after us).hosted.filter fun g => g.actor = id).length) ∧
      (after us).size = (Roster.after us).hosted.length ∧
      (after us).isEmpty = (Roster.after us).hosted.isEmpty ∧
      (after us).all.Perm (Roster.after us).hosted ∧
      (∀ id, ((after us).all.filter fun g => g.actor = id) =
        (Roster.after us).hosted.filter fun g => g.actor = id) ∧
      (after us).drain = ((after us).all, {}) := by
  have hc : (after us).Represents (Roster.after us) := represents_empty.foldl_update us
  refine ⟨hc, fun h => ?_, fun h => (hc.release h).1, hc.first?, hc.find?, hc.countOf,
    hc.all_perm.length_eq, hc.isEmpty, hc.all_perm, hc.filter_all, Prod.ext rfl hc.drain.2⟩
  have hhost := hc.host h
  generalize (after us).host h = answer at hhost
  cases hhost with
  | refused hr e => exact ⟨fun _ => hr, fun _ => ⟨e, rfl⟩⟩
  | admitted hr c' _ =>
    refine ⟨?_, fun hrefuses => absurd hrefuses hr⟩
    rintro ⟨e, he⟩
    contradiction

end Catalog

end ActorLocation
