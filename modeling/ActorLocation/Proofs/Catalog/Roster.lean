import ActorLocation.Catalog
/-!
# Rosters

What a catalog is about can be written on one list: the activations of the node in the order of
their admission, no two with the same identifier.  Who may be added to the list is a question about
its members.

## Main definitions

* `ActorLocation.Roster` — the activations of a node in the order of their admission.
* `Roster.of`, `Roster.find?` — the activations of an actor, and the one with a given identifier.
* `Roster.Refuses` — a further activation is not allowed.
* `Roster.add`, `Roster.release` — the roster with one activation more or less.

## Main results

* `Roster.find?_eq_some_iff` — the identifier tells the activations of a roster apart.
* `Roster.of_add`, `Roster.find?_add`, `Roster.of_release`, `Roster.find?_release` — queries
  after an update.
-/

namespace ActorLocation

/-- The activations of a node in the order of their admission. -/
structure Roster where
  /-- The activations. -/
  hosted : List Hosted := []
  /-- No identifier is used twice. -/
  nodup_activations : (hosted.map Hosted.activation).Nodup := by simp

namespace Roster

/-! ### Queries -/

/-- The activations of an actor. -/
def of (L : Roster) (id : ActorId) : List Hosted := L.hosted.filter fun g => g.actor = id

/-- The activation with the given identifier. -/
def find? (L : Roster) (a : ActivationId) : Option Hosted :=
  L.hosted.find? fun g => g.activation = a

/-- Says that `h` is not allowed: another activation of its actor excludes it, or it is a worker of
an actor that has workers, and not fewer than the limit, or its identifier belongs to another
actor. -/
def Refuses (L : Roster) (h : Hosted) : Prop :=
  (∃ g ∈ L.hosted, g.actor = h.actor ∧
      (h.hosting = .single ∨ g.activation = h.activation ∨ g.hosting ≠ h.hosting)) ∨
    (∃ limit ∈ h.hosting.limit?, L.of h.actor ≠ [] ∧ limit.toNat ≤ (L.of h.actor).length) ∨
    ∃ g ∈ L.hosted, g.activation = h.activation ∧ g.actor ≠ h.actor

instance (L : Roster) (h : Hosted) : Decidable (L.Refuses h) :=
  inferInstanceAs (Decidable (_ ∨ _ ∨ _))

variable {L : Roster} {g h : Hosted} {id : ActorId} {a : ActivationId}

/-- The activations of an actor are those of the roster that are its own. -/
theorem mem_of_iff : g ∈ L.of id ↔ g ∈ L.hosted ∧ g.actor = id := by
  rw [of, List.mem_filter, decide_eq_true_iff]

/-- The identifier tells the activations of a roster apart.

**Proof sketch.** What is found is on the roster and has the identifier.  Conversely, induction on
the roster: if `g` is the first activation, it is found; if it comes later, the first one has
another identifier, since no identifier is used twice, and is passed over. -/
theorem find?_eq_some_iff : L.find? a = some g ↔ g ∈ L.hosted ∧ g.activation = a := by
  constructor
  · intro hg
    rw [find?] at hg
    exact ⟨List.mem_of_find?_eq_some hg, by simpa using List.find?_some hg⟩
  · rintro ⟨hg, rfl⟩
    obtain ⟨l, hl⟩ := L
    rw [find?]
    dsimp only at hg ⊢
    induction l with
    | nil => contradiction
    | cons g' l ih =>
      rw [List.map_cons, List.nodup_cons] at hl
      rcases List.mem_cons.1 hg with rfl | hg
      · exact List.find?_cons_of_pos (by simp)
      · -- The first activation is another one, and no identifier is used twice.
        have hne : g'.activation ≠ g.activation := fun heq =>
          hl.1 (heq ▸ List.mem_map_of_mem (f := Hosted.activation) hg)
        rw [List.find?_cons_of_neg (by simpa using hne)]
        exact ih hl.2 hg

/-- An identifier is free if no activation of the roster has it. -/
theorem find?_eq_none_iff : L.find? a = none ↔ ∀ g ∈ L.hosted, g.activation ≠ a := by
  simp only [find?, List.find?_eq_none, decide_eq_true_eq, ne_eq]

/-- Among the activations of an actor, the identifier finds the one that it finds among all, if that
belongs to the actor. -/
theorem find?_of (L : Roster) (id : ActorId) (a : ActivationId) :
    ((L.of id).find? fun g => g.activation = a) = (L.find? a).filter fun g => g.actor = id := by
  refine Option.ext fun g => ?_
  have hpart := find?_eq_some_iff (a := a) (g := g)
    (L := ⟨L.of id, L.nodup_activations.sublist (List.filter_sublist.map _)⟩)
  rw [Option.filter_eq_some_iff, decide_eq_true_iff, find?_eq_some_iff]
  refine hpart.trans ?_
  rw [mem_of_iff]
  exact and_right_comm

/-- An identifier that is taken, by whichever actor, is refused. -/
theorem refuses_of_find? (hg : L.find? h.activation = some g) : L.Refuses h := by
  obtain ⟨hmem, hsame⟩ := find?_eq_some_iff.1 hg
  by_cases hactor : g.actor = h.actor
  · exact .inl ⟨g, hmem, hactor, .inr (.inl hsame)⟩
  · exact .inr (.inr ⟨g, hmem, hsame, hactor⟩)

/-- The identifier of an activation that is not refused is free. -/
theorem find?_of_not_refuses (hr : ¬ L.Refuses h) : L.find? h.activation = none :=
  Option.eq_none_iff_forall_ne_some.2 fun _ hg => hr (refuses_of_find? hg)

/-- An activation with a free identifier is not refused if it is not excluded and stays within the
limit. -/
theorem not_refuses (hexcludes : ∀ g ∈ L.of h.actor, ¬ Catalog.Excludes g h)
    (hlimit : ∀ limit ∈ h.hosting.limit?, L.of h.actor ≠ [] →
      (L.of h.actor).length < limit.toNat)
    (hfree : L.find? h.activation = none) : ¬ L.Refuses h := by
  rintro (⟨g, hg, hactor, hexcl⟩ | ⟨limit, hl, hne, hle⟩ | ⟨g, hg, hsame, -⟩)
  · exact hexcludes g (mem_of_iff.2 ⟨hg, hactor⟩) hexcl
  · exact Nat.not_le_of_lt (hlimit limit hl hne) hle
  · exact find?_eq_none_iff.1 hfree g hg hsame

/-! ### Updates -/

/-- The roster with one activation more, the identifier of which was free. -/
def add (L : Roster) (h : Hosted) (hfree : L.find? h.activation = none) : Roster where
  hosted := L.hosted ++ [h]
  nodup_activations := by
    rw [List.map_append, List.map_singleton, List.nodup_append]
    refine ⟨L.nodup_activations, List.pairwise_singleton _ _, ?_⟩
    intro a ha b hb
    obtain ⟨g, hg, rfl⟩ := List.mem_map.1 ha
    obtain rfl := List.mem_singleton.1 hb
    exact find?_eq_none_iff.1 hfree g hg

/-- The roster without the activation of the actor and with the identifier of `h`. -/
def release (L : Roster) (h : Hosted) : Roster where
  hosted := L.hosted.filter fun g => ¬ (g.actor = h.actor ∧ g.activation = h.activation)
  nodup_activations := L.nodup_activations.sublist (List.filter_sublist.map _)

/-- The new activation comes last among those of its actor, and the other actors have what they
had. -/
theorem of_add (hfree : L.find? h.activation = none) :
    (L.add h hfree).of id = if id = h.actor then L.of id ++ [h] else L.of id := by
  rw [of, add, List.filter_append]
  split
  · next hid => rw [List.filter_cons_of_pos (by simp [hid]), List.filter_nil, of]
  · next hid =>
    rw [List.filter_cons_of_neg (by simpa [eq_comm] using hid), List.filter_nil, List.append_nil,
      of]

/-- The identifier of the new activation was free, so it finds that one, and every other identifier
finds what it found before. -/
theorem find?_add (hfree : L.find? h.activation = none) :
    (L.add h hfree).find? a = if a = h.activation then some h else L.find? a := by
  split
  · next ha => exact find?_eq_some_iff.2 ⟨List.mem_append_right _ List.mem_cons_self, ha.symm⟩
  · next ha =>
    rw [find?, add, List.find?_append, List.find?_cons_of_neg (by simpa [eq_comm] using ha),
      List.find?_nil, Option.or_none, find?]

/-- A release changes the activations of one actor only. -/
theorem of_release (L : Roster) (h : Hosted) (id : ActorId) :
    (L.release h).of id =
      if id = h.actor then (L.of id).filter fun g => g.activation ≠ h.activation else L.of id := by
  rw [of, release, List.filter_filter]
  split
  · next hid =>
    subst hid
    rw [of, List.filter_filter]
    refine List.filter_congr fun g _ => ?_
    by_cases hactor : g.actor = h.actor <;> simp [hactor]
  · next hid =>
    rw [of]
    refine List.filter_congr fun g _ => ?_
    by_cases hactor : g.actor = id <;> simp [hactor, hid]

/-- Of the activations with an identifier only the released one is no longer found. -/
theorem find?_release (L : Roster) (h : Hosted) (a : ActivationId) :
    (L.release h).find? a =
      (L.find? a).filter fun g => ¬ (g.actor = h.actor ∧ g.activation = h.activation) := by
  refine Option.ext fun g => ?_
  rw [find?_eq_some_iff, Option.filter_eq_some_iff, find?_eq_some_iff, release, List.mem_filter]
  exact and_right_comm

/-- Nothing is released if there is no such activation. -/
theorem release_eq_self
    (hnone : ¬ ∃ g ∈ L.hosted, g.actor = h.actor ∧ g.activation = h.activation) :
    L.release h = L := by
  obtain ⟨l, hl⟩ := L
  have hfilter : (l.filter fun g => ¬ (g.actor = h.actor ∧ g.activation = h.activation)) = l :=
    List.filter_eq_self.2 fun g hg => decide_eq_true fun hsame => hnone ⟨g, hg, hsame⟩
  simp only [release, hfilter]

end Roster

end ActorLocation
