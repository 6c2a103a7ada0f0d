import ActorLocation.Ip.Printer
import ActorLocation.Proofs.Ip.Grammar
import Mathlib.Tactic.SplitIfs
/-!
# IP addresses are read back from their text form

The text form of an address spells it: in dotted decimal for version 4, and for version 6 in
hexadecimal groups, with or without a gap, or with a dotted decimal behind the prefix that announces
it.  So it is read as that address.

## Main results

* `ActorLocation.Ipv4.spells_toText`, `ActorLocation.Ipv6.spells_toText` — the text form of an
  address spells it.
* `ActorLocation.IpAddress.ofText?_toText` — every address is read back from its text form.
-/

namespace ActorLocation

open Digits

/-! ### Version 4 -/

namespace Ipv4

/-- The decimal form of an octet spells it. -/
theorem spellsOctet_toDigits (b : UInt8) : SpellsOctet (Nat.toDigits 10 b.toNat) b := by
  have hb := b.toNat_lt
  obtain ⟨ds, hds, hreads⟩ := exists_reads_toDigits (show 1 < 10 by decide) (by decide) b.toNat
  have hlen : (Nat.toDigits 10 b.toNat).length ≤ 3 :=
    (Nat.length_toDigits_le_iff (by decide) (by decide)).2 (by omega)
  exact ⟨ds, hreads, hds.ne_nil, hreads.length_eq ▸ hlen, hds.head_zero, hds.value_eq⟩

/-- Dotted decimal spells an address. -/
theorem spells_toText (a : Ipv4) : Spells a.toText a :=
  ⟨_, _, _, _, rfl, spellsOctet_toDigits a.a, spellsOctet_toDigits a.b, spellsOctet_toDigits a.c,
    spellsOctet_toDigits a.d⟩

end Ipv4

/-! ### Version 6 -/

namespace Ipv6

/-- The hexadecimal form of a group spells it. -/
theorem spellsGroup_toDigits (g : UInt16) : SpellsGroup (Nat.toDigits 16 g.toNat) g := by
  have hg := g.toNat_lt
  obtain ⟨ds, hds, hreads⟩ := exists_reads_toDigits (show 1 < 16 by decide) (by decide) g.toNat
  have hlen : (Nat.toDigits 16 g.toNat).length ≤ 4 :=
    (Nat.length_toDigits_le_iff (by decide) (by decide)).2 (by omega)
  exact ⟨ds, hreads, hds.ne_nil, hreads.length_eq ▸ hlen, by rw [hds.value_eq, UInt16.ofNat_toNat]⟩

/-- Groups in hexadecimal, with a colon in front of each. -/
def tailText (gs : List UInt16) : List Char := gs.flatMap fun g => ':' :: Nat.toDigits 16 g.toNat

/-- Behind the first group, each group has a colon in front. -/
theorem groupsText_cons (g : UInt16) (gs : List UInt16) :
    groupsText (g :: gs) = Nat.toDigits 16 g.toNat ++ tailText gs := by
  induction gs generalizing g with
  | nil => simp [groupsText, tailText]
  | cons h gs ih => rw [groupsText.eq_3 _ _ (by simp), ih h]; rfl

/-- Groups in hexadecimal with colons in front spell these groups. -/
theorem spellsGroups_tailText (gs : List UInt16) : SpellsGroups false (tailText gs) gs false := by
  induction gs with
  | nil => exact .nil false
  | cons g gs ih => exact .group false (spellsGroup_toDigits g) ih

/-- Groups in hexadecimal spell these groups. -/
theorem spellsGroups_groupsText (gs : List UInt16) :
    SpellsGroups true (groupsText gs) gs false := by
  cases gs with
  | nil => exact .nil true
  | cons g gs =>
    rw [groupsText_cons]
    exact .group true (spellsGroup_toDigits g) (spellsGroups_tailText gs)

/-- The zero groups in front of a list are its first groups.

**Proof sketch.** Induction on the groups: a zero in front is one of those that are counted, and
anything else ends the count. -/
theorem replicate_leadingZeros (gs : List UInt16) :
    List.replicate (leadingZeros gs) 0 ++ gs.drop (leadingZeros gs) = gs := by
  induction gs with
  | nil => rfl
  | cons g gs ih =>
    by_cases h : g = 0
    · subst h
      have hz : leadingZeros (0 :: gs) = leadingZeros gs + 1 := by simp [leadingZeros]
      rw [hz, List.replicate_succ, List.drop_succ_cons, List.cons_append, ih]
    · have hz : leadingZeros (g :: gs) = 0 := by simp [leadingZeros, h]
      rw [hz]
      rfl

/-- Groups spell an address if a gap stands in place of all the zeros at some position, and there
are at least two.

**Proof sketch.** The groups before the zeros, the zeros and the groups behind them make up the
address, by `replicate_leadingZeros`.  There are at least two zeros, so the groups beside the gap
are at most seven. -/
theorem spells_gap (a : Ipv6) {start : Nat} (hc : 1 < leadingZeros (a.groups.drop start)) :
    Spells (groupsText (a.groups.take start) ++
      ':' :: ':' :: groupsText (a.groups.drop (start + leadingZeros (a.groups.drop start)))) a := by
  have he : a.groups.take start ++ List.replicate (leadingZeros (a.groups.drop start)) 0 ++
      a.groups.drop (start + leadingZeros (a.groups.drop start)) = a.groups := by
    rw [List.append_assoc, ← List.drop_drop, replicate_leadingZeros, List.take_append_drop]
  have hlen := congrArg List.length he
  simp only [List.length_append, List.length_replicate, a.length_groups] at hlen
  refine .gap (spellsGroups_groupsText _) (spellsGroups_groupsText _) (by omega) ?_
  -- The gap is as long as the run of zeros in whose place it stands.
  rw [show 8 - _ - _ = leadingZeros (a.groups.drop start) by omega, he]

/-- Hexadecimal groups, with or without a gap, spell an address. -/
theorem spells_compressedText (a : Ipv6) : Spells (compressedText a.groups) a := by
  simp only [compressedText]
  split_ifs with hc
  · exact spells_gap a hc
  · exact .full (spellsGroups_groupsText a.groups)

/-- A group is the number that its two octets spell. -/
theorem ofNat_octets (g : UInt16) :
    UInt16.ofNat ((g >>> 8).toUInt8.toNat * 256 + g.toUInt8.toNat) = g := by
  have := g.toNat_lt
  rw [← UInt16.toNat_inj]
  simp [Nat.shiftRight_eq_div_pow]
  omega

/-- An embedded version 4 address takes the last two groups, behind five of zero and one of
ones. -/
theorem groups_of_mapped? {a : Ipv6} {b : Ipv4} (h : a.mapped? = some b) :
    a.groups = [0, 0, 0, 0, 0, 0xffff] ++ b.toGroups := by
  rw [mapped?] at h
  split at h
  · next g k hg =>
    rw [hg, ← Option.some.inj h]
    simp only [Ipv4.toGroups, ofNat_octets]
    rfl
  · contradiction

/-- A dotted decimal behind a group of ones and a gap spells the address that embeds it. -/
theorem spells_mapped {a : Ipv6} {b : Ipv4} (h : a.mapped? = some b) :
    Spells ([':', ':', 'f', 'f', 'f', 'f', ':'] ++ b.toText) a := by
  have htail : SpellsGroups true (['f', 'f', 'f', 'f'] ++ ([':'] ++ b.toText))
      (0xffff :: b.toGroups) true :=
    .group true (spellsGroup_toDigits 0xffff) (.dotted false b.spells_toText)
  exact .gap (.nil true) htail (by simp [Ipv4.toGroups]) (groups_of_mapped? h)

/-- The text form of an address spells it. -/
theorem spells_toText (a : Ipv6) : Spells a.toText a := by
  unfold toText
  split
  · next b hb => exact spells_mapped hb
  · exact a.spells_compressedText

end Ipv6

/-- Every address is read back from its text form. -/
theorem IpAddress.ofText?_toText (a : IpAddress) : IpAddress.ofText? a.toText = some a :=
  ofText?_eq_some_iff.2 <|
    match a with
    | v4 a => a.spells_toText
    | v6 a => a.spells_toText

end ActorLocation
