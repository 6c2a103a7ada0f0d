import ActorLocation.Proofs.Ip.Colons
import ActorLocation.Proofs.Node.Spelling
/-!
# Addresses without a port

The colon stands between the groups of an address of version 6 as it stands before a port.  In
brackets an address without a port is refused.  Without brackets the last colon is taken for the one
before the port, and what is left of an address with a gap may be an address with a longer gap.

## Main results

* `ActorLocation.Endpoint.ofText_brackets` — an address in brackets is no endpoint.
* `ActorLocation.Endpoint.bare_address_taken_iff` — which addresses are taken for an endpoint.
-/

namespace ActorLocation

open Digits

namespace Endpoint

/-- Decimal digits that spell a group are a port.

**Proof sketch.** The digits of a group are at most four, so that in decimal they make a number
below `10 ^ 4`, which is a port. -/
theorem exists_port? {s : List Char} {g : UInt16} (h : Ipv6.SpellsGroup s g)
    (hs : ∀ c ∈ s, c.isDigit = true) : ∃ p, port? s = some p := by
  obtain ⟨ds, hds⟩ := exists_reads fun c hc => (isSome_digit?_ten c).trans (hs c hc)
  obtain ⟨hex, hhex, hne, hlen, -⟩ := h
  have heq : ds.length = hex.length := hds.length_eq.trans hhex.length_eq.symm
  have hlt : value 10 ds < 65536 := by
    have hcapacity : ∀ n : Fin 5, capacity 10 n < 65536 := by decide
    have hfour := hcapacity ⟨ds.length, by omega⟩
    have hvalue := value_lt_capacity hds.lt_base
    exact Nat.lt_trans hvalue hfour
  refine ⟨UInt16.ofNat (value 10 ds), port?_eq_some_iff.2 (unsigned?_eq_some_iff.2 ?_)⟩
  refine ⟨s, ds, .inl rfl, hds, ?_, (UInt16.toNat_ofNat_of_lt' hlt).symm⟩
  exact List.ne_nil_of_length_pos (heq ▸ List.length_pos_of_ne_nil hne)

/-- An address in brackets is no endpoint, since no port follows. -/
theorem ofText_brackets {s : List Char} {a : IpAddress} (hs : IpAddress.ofText? s = some a) :
    ofText ('[' :: s ++ [']']) = .error .missingPort := by
  have hbracket : ']' ∉ s :=
    IpAddress.not_mem_of_ofText? hs (by decide) (by decide) (by decide)
  have hsplit : splitFirst? ']' (s ++ [']']) = some (s, []) :=
    splitFirst?_eq_some_iff.2 ⟨rfl, hbracket⟩
  simp only [ofText, List.cons_append, splitPort, hsplit]

/-- If an address is taken for an endpoint, then it is split behind a gap, and the last group is
taken for the port.

**Proof sketch.** The text is an address and a port, not in brackets, as no address has a bracket
(`ofText_eq_ok_iff`).  The port is decimal digits without a sign, for the address has no plus sign
either.  An address of version 4 has no colon.  One of version 6, of which the part before the last
colon is an address too, has a gap in that part (`Ipv6.Spells.exists_gap`). -/
theorem exists_gap_of_ofText {s : List Char} {a : IpAddress} (hs : IpAddress.ofText? s = some a)
    {e : Endpoint} (h : ofText s = .ok e) :
    ∃ head tail port, s = head ++ ':' :: ':' :: tail ++ ':' :: port ∧
      ∀ c ∈ port, c.isDigit = true := by
  obtain ⟨ip, port, hip, hport, rfl | rfl⟩ := ofText_eq_ok_iff.1 h
  · exact absurd (by simp)
      (IpAddress.not_mem_of_ofText? hs (c := '[') (by decide) (by decide) (by decide))
  · have hplus : '+' ∉ ip ++ ':' :: port :=
      IpAddress.not_mem_of_ofText? hs (by decide) (by decide) (by decide)
    -- The text of an address has no sign, so the port has only digits.
    have hdigits {c : Char} (hc : c ∈ port) : (digit? 10 c).isSome := by
      refine (mem_of_port? hport hc).resolve_left ?_
      rintro rfl
      exact hplus (by simp [hc])
    have hdot : '.' ∉ port := fun hc => absurd (hdigits hc) (by decide)
    have hspells := IpAddress.ofText?_eq_some_iff.1 hs
    cases a with
    | v4 a => exact absurd (by simp) (Ipv4.Spells.colon_not_mem hspells)
    | v6 a =>
      obtain ⟨head, tail, rfl⟩ := Ipv6.Spells.exists_gap hspells rfl
        (IpAddress.ofText?_eq_some_iff.1 hip) (colon_not_mem_of_port? hport) hdot
      exact ⟨head, tail, port, rfl, fun c hc => isSome_digit?_ten c ▸ hdigits hc⟩

/-- An address is taken for an endpoint if decimal digits follow on the last colon, which stands
behind a gap.

**Proof sketch.** Without its last group the address is an address with a longer gap
(`Ipv6.Spells.shorten`), and that group is a port (`exists_port?`). -/
theorem exists_ofText_of_gap {s head tail port : List Char} {a : IpAddress}
    (hs : IpAddress.ofText? s = some a) (hgap : s = head ++ ':' :: ':' :: tail ++ ':' :: port)
    (hport : ∀ c ∈ port, c.isDigit = true) : ∃ e, ofText s = .ok e := by
  have hspells := IpAddress.ofText?_eq_some_iff.1 hs
  have hnot {c : Char} (hc : c.isDigit = false) : c ∉ port := fun hmem =>
    absurd (hport c hmem) (by simp [hc])
  cases a with
  | v4 a => exact absurd (by simp [hgap]) (Ipv4.Spells.colon_not_mem hspells)
  | v6 a =>
    obtain ⟨b, g, hb, hg⟩ := Ipv6.Spells.shorten hspells hgap (hnot (by decide)) (hnot (by decide))
    obtain ⟨p, hp⟩ := exists_port? hg hport
    exact ⟨⟨.v6 b, p⟩, ofText_eq_ok_iff.2
      ⟨_, port, IpAddress.ofText?_eq_some_iff.2 hb, hp, .inr hgap⟩⟩

/-- An address in brackets is refused because there is no port.  Without brackets an address is
taken for an endpoint exactly if there is a gap in it and a further colon behind the gap, after
which only decimal digits follow: these are the port then.  Endpoints at addresses of version 6 are
accepted with brackets and without.

**Proof sketch.** The two directions are `exists_gap_of_ofText` and `exists_ofText_of_gap`; brackets
are `ofText_brackets`, and the endpoints at addresses of version 6 are a case of
`ofText_eq_ok_iff`. -/
theorem bare_address_taken_iff {s : List Char} {a : IpAddress} (hs : IpAddress.ofText? s = some a) :
    ofText ('[' :: s ++ [']']) = .error .missingPort ∧
      ((∃ e, ofText s = .ok e) ↔
        ∃ head tail port, s = head ++ ':' :: ':' :: tail ++ ':' :: port ∧
          ∀ c ∈ port, c.isDigit = true) ∧
      ∀ (t : List Char) (b : Ipv6) (p : UInt16), ofText t = .ok ⟨.v6 b, p⟩ ↔
        ∃ ip port, IpAddress.ofText? ip = some (.v6 b) ∧ port? port = some p ∧
          (t = '[' :: ip ++ ']' :: ':' :: port ∨ t = ip ++ ':' :: port) := by
  refine ⟨ofText_brackets hs, ⟨?_, ?_⟩, fun t b p => ofText_eq_ok_iff⟩
  · rintro ⟨e, he⟩
    exact exists_gap_of_ofText hs he
  · rintro ⟨head, tail, port, hgap, hport⟩
    exact exists_ofText_of_gap hs hgap hport

/-- An address that ends in a group of decimal digits behind its gap is taken for another one with
that group as the port. -/
theorem bare_address_taken_link_local :
    IpAddress.ofText? "fe80::1:80".toList =
        some (.v6 ⟨[0xfe80, 0, 0, 0, 0, 0, 0x1, 0x80], rfl⟩) ∧
      ofText "[fe80::1:80]".toList = .error .missingPort ∧
      (∃ e, ofText "fe80::1:80".toList = .ok e) ∧
      ofText "fe80::1:80".toList = .ok ⟨.v6 ⟨[0xfe80, 0, 0, 0, 0, 0, 0, 0x1], rfl⟩, 80⟩ := by
  have haddress : IpAddress.ofText? "fe80::1:80".toList =
      some (.v6 ⟨[0xfe80, 0, 0, 0, 0, 0, 0x1, 0x80], rfl⟩) := by decide
  obtain ⟨hbrackets, hiff, hends⟩ := bare_address_taken_iff haddress
  refine ⟨haddress, hbrackets, hiff.2 ⟨"fe80".toList, "1".toList, "80".toList, rfl, by simp⟩, ?_⟩
  exact (hends _ _ _).2 ⟨"fe80::1".toList, "80".toList, by decide, by decide, .inr rfl⟩

end Endpoint

end ActorLocation
