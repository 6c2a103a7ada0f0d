import ActorLocation.Proofs.Ip.Grammar
import ActorLocation.Split
import Mathlib.Data.List.Chain
/-!
# Where the colons of an address stand

Two colons stand next to each other in an address of version 6 in one place at most, the gap.  What
stands before the last colon of such an address is an address itself exactly if there is a gap in
it, since the gap can stand for one more group, and eight groups cannot become seven.

## Main definitions

* `ActorLocation.Ungapped` — no two colons stand next to each other.

## Main results

* `ActorLocation.gap_unique` — the only gap of a text stands in one place.
* `ActorLocation.Ipv6.SpellsGroups.exists_last` — the last group stands behind the last colon.
* `ActorLocation.Ipv6.Spells.exists_gap`, `ActorLocation.Ipv6.Spells.shorten` — the two directions
  for what stands before the last colon.
-/

namespace ActorLocation

/-! ### Gaps -/

/-- Says that no two colons stand next to each other. -/
def Ungapped (t : List Char) : Prop := t.IsChain fun a b => a = ':' → b ≠ ':'

namespace Ungapped

/-- A text without colons has no two next to each other. -/
theorem of_not_mem {t : List Char} (h : ':' ∉ t) : Ungapped t := by
  refine List.Pairwise.isChain (List.pairwise_of_forall_mem_list fun a ha b _ hcolon => ?_)
  exact absurd (hcolon ▸ ha) h

/-- A colon in front of a text without colons does not make a gap. -/
theorem cons_of_not_mem {t : List Char} (h : ':' ∉ t) : Ungapped (':' :: t) :=
  List.isChain_cons.2
    ⟨fun _ hc _ hcolon => h (hcolon ▸ List.mem_of_mem_head? hc), of_not_mem h⟩

/-- There is no gap in a text without one. -/
theorem ne {t : List Char} (h : Ungapped t) (l r : List Char) : t ≠ l ++ ':' :: ':' :: r := by
  rintro rfl
  exact (List.isChain_append_cons_cons.1 h).2.1 rfl rfl

/-- Behind a colon a word does not make a gap. -/
theorem append_cons {l p : List Char} (h : Ungapped (l ++ [':'])) (hp : ':' ∉ p) :
    Ungapped (l ++ ':' :: p) :=
  List.isChain_split.2 ⟨h, cons_of_not_mem hp⟩

/-- A word between colons does not make a gap. -/
theorem cons_append {t s : List Char} (hs : Ungapped s) (hne : t ≠ []) (ht : ':' ∉ t) :
    Ungapped (':' :: t ++ s) := by
  refine List.isChain_append.2 ⟨cons_of_not_mem ht, hs, fun a ha _ _ hcolon => ?_⟩
  obtain ⟨c, t, rfl⟩ := List.exists_cons_of_ne_nil hne
  rw [List.getLast?_cons_cons] at ha
  exact absurd (hcolon ▸ List.mem_of_getLast? ha) ht

end Ungapped

/-- The only gap of a text stands in one place.

**Proof sketch.** Of two places, one comes first, and what stands between them is the same in both
readings.  If it is not empty, then the gap of one reading lies within the part behind or before the
gap of the other, which has none. -/
theorem gap_unique {l r l' r' : List Char} (hl : Ungapped (l ++ [':'])) (hr : Ungapped (':' :: r))
    (h : l ++ ':' :: ':' :: r = l' ++ ':' :: ':' :: r') : l' = l ∧ r' = r := by
  -- One of the two places comes first; `x` is what stands between them.
  rcases List.append_eq_append_iff.1 h with ⟨x, rfl, hx⟩ | ⟨x, rfl, hx⟩
  · cases x with
    | nil => exact ⟨List.append_nil l, by simpa using hx.symm⟩
    | cons c x => exact absurd (List.cons.inj hx).2 (hr.ne x r')
  · cases x with
    | nil => exact ⟨(List.append_nil l').symm, by simpa using hx⟩
    | cons c x =>
      obtain ⟨rfl, htail⟩ := List.cons.inj hx
      cases x with
      | nil => exact absurd (List.append_assoc ..) (hl.ne l' [])
      | cons d x =>
        obtain rfl : ':' = d := (List.cons.inj htail).1
        exact absurd (by simp) (hl.ne l' (x ++ [':']))

/-! ### Colons in addresses -/

namespace Ipv6

/-- Behind other groups, what spells groups has a colon in front. -/
theorem SpellsGroups.cons_colon {dotted : Bool} {t : List Char} {gs : List UInt16}
    (h : SpellsGroups true t gs dotted) (hne : t ≠ []) :
    SpellsGroups false (':' :: t) gs dotted := by
  cases h with
  | nil => contradiction
  | dotted _ ht => exact .dotted false ht
  | group _ ht hs => exact .group false ht hs

/-- There is no gap in groups, and a colon behind them does not make one.

**Proof sketch.** Induction on the groups: a word that is not empty and has no colon stands between
colons (`Ungapped.cons_append`). -/
theorem SpellsGroups.ungapped {first dotted : Bool} {t : List Char} {gs : List UInt16}
    (h : SpellsGroups first t gs dotted) : Ungapped (t ++ [':']) := by
  have hword {first : Bool} {t s : List Char} (hs : Ungapped s) (hne : t ≠ []) (ht : ':' ∉ t) :
      Ungapped (separator first ++ t ++ s) := by
    cases first with
    | false => exact hs.cons_append hne ht
    | true => exact (hs.cons_append hne ht).tail
  induction h with
  | nil => exact List.isChain_singleton _
  | dotted first ht => exact hword (List.isChain_singleton _) ht.ne_nil ht.colon_not_mem
  | group first ht _ ih =>
    rw [List.append_assoc]
    exact hword ih ht.ne_nil ht.colon_not_mem

/-- A colon in front of groups does not make a gap. -/
theorem SpellsGroups.cons_ungapped {dotted : Bool} {t : List Char} {gs : List UInt16}
    (h : SpellsGroups true t gs dotted) : Ungapped (':' :: t) := by
  by_cases hne : t = []
  · rw [hne]
    exact List.isChain_singleton _
  · exact (h.cons_colon hne).ungapped.left_of_append

/-- What spells groups ends in a group or a dotted decimal, which stands alone or behind a colon.

**Proof sketch.** Induction on the groups.  The last piece is found in what follows the first group,
or it is the first group itself if nothing follows. -/
theorem SpellsGroups.exists_snoc {first dotted : Bool} {t : List Char} {gs : List UInt16}
    (h : SpellsGroups first t gs dotted) (ht : t ≠ []) :
    ∃ u v gs', t = u ++ separator (first && gs'.isEmpty) ++ v ∧ SpellsGroups first u gs' false ∧
      ((∃ g, SpellsGroup v g ∧ gs = gs' ++ [g] ∧ dotted = false) ∨ ∃ a, Ipv4.Spells v a) := by
  induction h with
  | nil => contradiction
  | @dotted first t a hspells =>
    exact ⟨[], t, [], by simp, .nil first, .inr ⟨a, hspells⟩⟩
  | @group first t s g gs dotted hgroup hs ih =>
    by_cases hnil : s = []
    · subst hnil
      obtain ⟨rfl, rfl⟩ := hs.unique (.nil false)
      exact ⟨[], t, [], by simp, .nil first, .inl ⟨g, hgroup, rfl, rfl⟩⟩
    · obtain ⟨u, v, gs', rfl, hgs', hlast⟩ := ih hnil
      refine ⟨separator first ++ t ++ u, v, g :: gs', by simp, .group first hgroup hgs', ?_⟩
      exact hlast.imp (fun ⟨g', hg', hgs, hd⟩ => ⟨g', hg', congrArg (g :: ·) hgs, hd⟩) id

/-- Behind the last colon in groups stands the last of them, unless it is a dotted decimal.

**Proof sketch.** Take the groups apart in front of their last piece (`SpellsGroups.exists_snoc`).
Neither that piece nor `p` has a colon, so the colon before it is the last one, which is also the
one before `p`: there is only one such place (`splitLast?_singleton_eq_some_iff`).  The piece is no
dotted decimal, because `p` has no dot. -/
theorem SpellsGroups.exists_last {first dotted : Bool} {u p : List Char} {gs : List UInt16}
    (h : SpellsGroups first (u ++ ':' :: p) gs dotted) (hcolon : ':' ∉ p) (hdot : '.' ∉ p) :
    ∃ gs' g, SpellsGroups first u gs' false ∧ SpellsGroup p g ∧ gs = gs' ++ [g] ∧
      dotted = false := by
  obtain ⟨u', v, gs', heq, hgs', hlast⟩ := h.exists_snoc (by simp)
  have hv : ':' ∉ v := by
    rcases hlast with ⟨g, hg, -⟩ | ⟨a, ha⟩
    · exact hg.colon_not_mem
    · exact ha.colon_not_mem
  by_cases hsep : (first && gs'.isEmpty) = true
  · -- There is no colon at all.
    obtain ⟨rfl, hempty⟩ := Bool.and_eq_true_iff.1 hsep
    obtain rfl := List.isEmpty_iff.1 hempty
    cases hgs'
    exact absurd (by simp [← show u ++ ':' :: p = v from heq]) hv
  · rw [Bool.eq_false_iff.2 hsep] at heq
    have hsplit : splitLast? [':'] (u ++ ':' :: p) = some (u', v) :=
      splitLast?_singleton_eq_some_iff.2 ⟨by simpa [separator] using heq, hv⟩
    rw [splitLast?_singleton_eq_some_iff.2 ⟨rfl, hcolon⟩] at hsplit
    obtain ⟨rfl, rfl⟩ := Prod.mk.inj (Option.some.inj hsplit)
    rcases hlast with ⟨g, hg, hgs, hd⟩ | ⟨a, ha⟩
    · exact ⟨gs', g, hgs', hg, hgs, hd⟩
    · exact absurd ha.chars.2 hdot

/-- If what stands before the last colon of an address is an address too, then there is a gap in it.

**Proof sketch.** Suppose that `ip` is groups or a dotted decimal, without a gap.  Then the whole
address has no gap either, as a colon and a word behind groups do not make one.  So it is eight
groups, of which `p` is the last, and `ip` is the other seven and no dotted decimal.  But an address
of version 4 is a dotted decimal, and one of version 6 without a gap is eight groups. -/
theorem Spells.exists_gap {s ip p : List Char} {a : Ipv6} {b : IpAddress} (h : Spells s a)
    (hs : s = ip ++ ':' :: p) (hip : b.Spells ip) (hcolon : ':' ∉ p) (hdot : '.' ∉ p) :
    ∃ head tail, ip = head ++ ':' :: ':' :: tail := by
  -- Groups without a gap would have to be seven, and to end in a group.
  have hfew {gs : List UInt16} {dotted : Bool} (hgs : SpellsGroups true ip gs dotted) :
      gs.length = 7 ∧ dotted = false := by
    cases h with
    | full h =>
      obtain ⟨gs', g, hgs', -, heq, -⟩ := (hs ▸ h).exists_last hcolon hdot
      obtain ⟨rfl, rfl⟩ := hgs.unique hgs'
      have hlen := a.length_groups
      rw [heq, List.length_append, List.length_singleton] at hlen
      exact ⟨Nat.succ.inj hlen, rfl⟩
    | gap => exact absurd hs.symm ((hgs.ungapped.append_cons hcolon).ne _ _)
  cases b with
  | v4 b => exact absurd (hfew (.dotted true hip)).2 (by decide)
  | v6 b =>
    cases (hip : Spells ip b) with
    | full hb =>
      have hlen := (hfew hb).1
      rw [b.length_groups] at hlen
      contradiction
    | gap => exact ⟨_, _, rfl⟩

/-- The last of the groups behind a gap can be left out: the gap grows by a group.

**Proof sketch.** The whole address has a gap, so it is not groups only, and its gap is the given
one (`gap_unique`).  The last group stands behind the gap (`SpellsGroups.exists_last`).  Without it
there is one group less, and the gap stands for one more. -/
theorem Spells.shorten {s head tail p : List Char} {a : Ipv6} (h : Spells s a)
    (hs : s = head ++ ':' :: ':' :: tail ++ ':' :: p) (hcolon : ':' ∉ p) (hdot : '.' ∉ p) :
    ∃ b g, Spells (head ++ ':' :: ':' :: tail) b ∧ SpellsGroup p g := by
  have hgap : s = head ++ ':' :: ':' :: (tail ++ ':' :: p) := by
    rw [hs]
    simp
  cases h with
  -- Eight groups have no gap.
  | full h =>
    have hungapped : Ungapped s := h.ungapped.left_of_append
    exact absurd hgap (hungapped.ne _ _)
  | @gap _ _ gs ts _ _ hhead htail hlen _ =>
    obtain ⟨rfl, rfl⟩ := gap_unique hhead.ungapped htail.cons_ungapped hgap
    obtain ⟨ts', g, hts', hg, rfl, -⟩ := htail.exists_last hcolon hdot
    rw [List.length_append, List.length_singleton] at hlen
    refine ⟨⟨gs ++ List.replicate (8 - gs.length - ts'.length) 0 ++ ts', ?_⟩, g, ?_, hg⟩
    · simp only [List.length_append, List.length_replicate]
      omega
    · exact .gap hhead hts' (by omega) rfl

end Ipv6

end ActorLocation
