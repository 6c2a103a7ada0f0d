/-!
# IP addresses

Addresses of both families, and the order that ranks them: all version 4 addresses come before all
version 6 addresses, and within a family the numerical order counts.

## Main definitions

* `ActorLocation.Ipv4`, `ActorLocation.Ipv6`, `ActorLocation.IpAddress` — the addresses.
* `IpAddress.rank` — the position of an address in the order.

## Main results

* `IpAddress.rank_injective` — distinct addresses have distinct ranks.
-/

namespace ActorLocation

/-- A version 4 address, as its four octets. -/
structure Ipv4 where
  /-- The most significant octet. -/
  a : UInt8
  /-- The second octet. -/
  b : UInt8
  /-- The third octet. -/
  c : UInt8
  /-- The least significant octet. -/
  d : UInt8
deriving DecidableEq, Repr, Inhabited

/-- A version 6 address, as its eight groups of sixteen bits. -/
structure Ipv6 where
  /-- The groups, most significant first. -/
  groups : List UInt16
  /-- There are eight groups. -/
  length_groups : groups.length = 8
deriving DecidableEq, Repr

instance : Inhabited Ipv6 := ⟨⟨List.replicate 8 0, rfl⟩⟩

/-- An address of either family. -/
inductive IpAddress where
  /-- A version 4 address. -/
  | v4 (a : Ipv4)
  /-- A version 6 address. -/
  | v6 (a : Ipv6)
deriving DecidableEq, Repr, Inhabited

namespace Ipv4

/-- The address as a 32-bit number. -/
def toNat (a : Ipv4) : Nat :=
  ((a.a.toNat * 256 + a.b.toNat) * 256 + a.c.toNat) * 256 + a.d.toNat

/-- Four octets make a number of 32 bits.  Hence the version 4 addresses come before all others in
the order by rank. -/
theorem toNat_lt (a : Ipv4) : a.toNat < UInt32.size := by
  have := a.a.toNat_lt; have := a.b.toNat_lt; have := a.c.toNat_lt; have := a.d.toNat_lt
  simp only [toNat, UInt32.size]; omega

/-- A version 4 address is known by its number, of which each octet is one digit to the base 256. -/
theorem toNat_injective {a b : Ipv4} (h : a.toNat = b.toNat) : a = b := by
  have := a.a.toNat_lt; have := a.b.toNat_lt; have := a.c.toNat_lt; have := a.d.toNat_lt
  have := b.a.toNat_lt; have := b.b.toNat_lt; have := b.c.toNat_lt; have := b.d.toNat_lt
  obtain ⟨a₁, a₂, a₃, a₄⟩ := a
  obtain ⟨b₁, b₂, b₃, b₄⟩ := b
  simp only [toNat] at *
  simp only [Ipv4.mk.injEq, ← UInt8.toNat_inj]
  omega

end Ipv4

namespace Ipv6

/-- The number spelt by groups of sixteen bits, most significant first. -/
def ofGroups (gs : List UInt16) : Nat := gs.foldl (fun n g => n * 65536 + g.toNat) 0

/-- The address as a 128-bit number. -/
def toNat (a : Ipv6) : Nat := ofGroups a.groups

/-- The groups can be read off the number that they spell, and so can the number that precedes them.

**Proof sketch.** Induction on the groups, with the preceding numbers `m` and `n` left free.  The
induction hypothesis for the longer prefixes gives `m * 65536 + a = n * 65536 + b`; both groups are
below 65536, so `a = b` and `m = n`. -/
private theorem foldl_inj {l₁ l₂ : List UInt16} {m n : Nat} (hl : l₁.length = l₂.length)
    (h : l₁.foldl (fun n g => n * 65536 + g.toNat) m
      = l₂.foldl (fun n g => n * 65536 + g.toNat) n) : m = n ∧ l₁ = l₂ := by
  induction l₁ generalizing l₂ m n with
  | nil =>
    obtain rfl := List.eq_nil_of_length_eq_zero hl.symm
    exact ⟨h, rfl⟩
  | cons a l₁ ih =>
    obtain _ | ⟨b, l₂⟩ := l₂
    · simp at hl
    · have := a.toNat_lt; have := b.toNat_lt
      simp only [List.length_cons, Nat.add_right_cancel_iff] at hl
      simp only [List.foldl_cons] at h
      obtain ⟨h₁, h₂⟩ := ih hl h
      have hab : a = b := by rw [← UInt16.toNat_inj]; omega
      exact ⟨by omega, by rw [hab, h₂]⟩

/-- A version 6 address is known by its number: both have eight groups, and nothing precedes
them. -/
theorem toNat_injective {a b : Ipv6} (h : a.toNat = b.toNat) : a = b := by
  obtain ⟨l₁, h₁⟩ := a
  obtain ⟨l₂, h₂⟩ := b
  obtain ⟨-, rfl⟩ := foldl_inj (h₁.trans h₂.symm) h
  rfl

/-- The address with these groups, if there are eight. -/
def ofList? (gs : List UInt16) : Option Ipv6 :=
  if h : gs.length = 8 then some ⟨gs, h⟩ else none

end Ipv6

namespace IpAddress

/-- Whether the address is of version 6. -/
def isV6 : IpAddress → Bool
  | v4 _ => false
  | v6 _ => true

/-- The position of the address in the order of all addresses. -/
def rank : IpAddress → Nat
  | v4 a => a.toNat
  | v6 a => UInt32.size + a.toNat

/-- An address is known by its rank. -/
theorem rank_injective {a b : IpAddress} (h : a.rank = b.rank) : a = b := by
  cases a with
  | v4 a =>
    have ha := a.toNat_lt
    cases b with
    | v4 b => rw [Ipv4.toNat_injective h]
    | v6 b => simp only [rank] at h; omega
  | v6 a =>
    cases b with
    | v4 b => have hb := b.toNat_lt; simp only [rank] at h; omega
    | v6 b => simp only [rank] at h; rw [Ipv6.toNat_injective (Nat.add_left_cancel h)]

end IpAddress

end ActorLocation
