import ActorLocation.Node
import ActorLocation.Proofs.Ip.RoundTrip
/-!
# Endpoints and nodes are read back from their text form

Which texts denote an endpoint: an address and a port with a colon between them, the address in
brackets or not.  The text form of an endpoint is one of these texts, and the text form of a node
ends in its generation, which is set off by a mark that no number contains.

## Main results

* `ActorLocation.Endpoint.ofText_eq_ok_iff` — which texts denote which endpoints.
* `ActorLocation.Endpoint.ofText_toText`, `ActorLocation.Node.ofText?_toText` — endpoints and nodes
  are read back.
* `ActorLocation.Node.toText_unambiguous` — neither texts of endpoints nor texts of nodes are
  ambiguous.
-/

namespace ActorLocation

open Digits

/-- No other characters occur in the text of an address than hexadecimal digits, colons and dots. -/
theorem IpAddress.not_mem_of_ofText? {s : List Char} {a : IpAddress} (h : ofText? s = some a)
    {c : Char} (hdigit : digit? 16 c = none) (hcolon : c ≠ ':') (hdot : c ≠ '.') : c ∉ s := by
  intro hc
  rcases (ofText?_eq_some_iff.1 h).chars hc with hsome | hc | hc
  · rw [hdigit] at hsome
    contradiction
  · exact hcolon hc
  · exact hdot hc

namespace Endpoint

/-! ### Ports -/

/-- A text denotes a port exactly if it spells the number of the port in decimal.

**Proof sketch.** The reader reads a number and asks whether it is below 65536; if so, the number is
that of the port. -/
theorem port?_eq_some_iff {s : List Char} {p : UInt16} :
    port? s = some p ↔ unsigned? s = some p.toNat := by
  have hp := p.toNat_lt
  unfold port?
  cases unsigned? s with
  | none => simp
  | some n =>
    simp only [Option.some.injEq]
    constructor
    · intro h
      split at h
      · next hn =>
        rw [← Option.some.inj h, UInt16.toNat_ofNat_of_lt' hn]
      · contradiction
    · rintro rfl
      rw [if_pos hp, UInt16.ofNat_toNat]

/-- A port is spelt by digits, perhaps with a plus sign in front. -/
theorem mem_of_port? {s : List Char} {p : UInt16} (h : port? s = some p) {c : Char} (hc : c ∈ s) :
    c = '+' ∨ (digit? 10 c).isSome := by
  obtain ⟨t, ds, rfl | rfl, hds, -⟩ := unsigned?_eq_some_iff.1 (port?_eq_some_iff.1 h)
  · exact .inr (hds.isSome hc)
  · exact (List.mem_cons.1 hc).imp id hds.isSome

/-- A port has no colon. -/
theorem colon_not_mem_of_port? {s : List Char} {p : UInt16} (h : port? s = some p) : ':' ∉ s := by
  intro hc
  rcases mem_of_port? h hc with hc | hc <;> contradiction

/-! ### Endpoints -/

/-- Where a text is split into an address and a port.

**Proof sketch.** A text that begins with a bracket is split at the first closing bracket, behind
which a colon has to follow (`splitFirst?_eq_some_iff`); any other text is split at its last colon
(`splitLast?_singleton_eq_some_iff`). -/
theorem splitPort_eq_ok_iff {s ip port : List Char} :
    splitPort s = .ok (ip, port) ↔
      (s = '[' :: ip ++ ']' :: ':' :: port ∧ ']' ∉ ip) ∨
        s.head? ≠ some '[' ∧ s = ip ++ ':' :: port ∧ ':' ∉ port := by
  unfold splitPort
  split
  · next s =>
    have hiff : splitFirst? ']' s = some (ip, ':' :: port) ↔
        '[' :: s = '[' :: ip ++ ']' :: ':' :: port ∧ ']' ∉ ip := by
      rw [splitFirst?_eq_some_iff]
      simp
    rw [← hiff]
    simp only [List.head?_cons, ne_eq, not_true_eq_false, false_and, or_false]
    split
    · next hnone => simp [hnone]
    · next ip' port' hsome => simp [hsome]
    · next parts hne hsome =>
      simp only [reduceCtorEq, false_iff]
      intro heq
      exact hne _ _ (Option.some.inj (hsome.symm.trans heq))
  · -- The text does not begin with a bracket.
    next hs =>
    have hhead : s.head? ≠ some '[' := by
      intro h
      obtain ⟨r, rfl⟩ := List.head?_eq_some_iff.1 h
      exact hs r rfl
    have hno : ¬ (s = '[' :: ip ++ ']' :: ':' :: port ∧ ']' ∉ ip) := fun h => hs _ h.1
    simp only [hno, hhead, ne_eq, not_false_eq_true, true_and, false_or]
    rw [← splitLast?_singleton_eq_some_iff]
    cases splitLast? [':'] s <;> simp

/-- A text denotes an endpoint exactly if it consists of an address, in brackets or not, a colon and
a port.

**Proof sketch.** The reader splits the text and reads the two parts, so it remains to see that each
text of the given form is split there.  In brackets it is, since no address has a closing bracket;
without brackets it is, since no address begins with an opening one and no port has a colon. -/
theorem ofText_eq_ok_iff {s : List Char} {e : Endpoint} :
    ofText s = .ok e ↔
      ∃ ip port, IpAddress.ofText? ip = some e.ip ∧ port? port = some e.port ∧
        (s = '[' :: ip ++ ']' :: ':' :: port ∨ s = ip ++ ':' :: port) := by
  have hok : ofText s = .ok e ↔ ∃ ip port, splitPort s = .ok (ip, port) ∧
      IpAddress.ofText? ip = some e.ip ∧ port? port = some e.port := by
    rw [ofText]
    cases splitPort s with
    | error => simp
    | ok parts =>
      obtain ⟨ip, port⟩ := parts
      cases hip : IpAddress.ofText? ip with
      | none => simp [hip]
      | some a =>
        cases hport : port? port with
        | none => simp [hip, hport]
        | some p =>
          obtain ⟨a', p'⟩ := e
          simp [hip, hport]
  rw [hok]
  constructor
  · rintro ⟨ip, port, hsplit, hip, hport⟩
    refine ⟨ip, port, hip, hport, ?_⟩
    exact (splitPort_eq_ok_iff.1 hsplit).imp And.left fun h => h.2.1
  · rintro ⟨ip, port, hip, hport, hs⟩
    refine ⟨ip, port, splitPort_eq_ok_iff.2 (hs.imp (fun hs => ⟨hs, ?_⟩) fun hs => ⟨?_, hs, ?_⟩),
      hip, hport⟩
    · exact IpAddress.not_mem_of_ofText? hip (by decide) (by decide) (by decide)
    · -- A text that begins with a bracket would make the address begin with it.
      have hbracket : '[' ∉ ip :=
        IpAddress.not_mem_of_ofText? hip (by decide) (by decide) (by decide)
      rw [hs]
      cases ip with
      | nil => simp
      | cons c ip => exact fun h => hbracket (Option.some.inj h ▸ List.mem_cons_self)
    · exact colon_not_mem_of_port? hport

/-- Every endpoint is read back from its text form. -/
theorem ofText_toText (e : Endpoint) : ofText e.toText = .ok e := by
  have hport : port? (Nat.toDigits 10 e.port.toNat) = some e.port :=
    port?_eq_some_iff.2 (unsigned?_toDigits _)
  refine ofText_eq_ok_iff.2 ⟨e.ip.toText, _, e.ip.ofText?_toText, hport, ?_⟩
  obtain ⟨ip, port⟩ := e
  cases ip with
  | v4 a => exact .inr rfl
  | v6 a => exact .inl rfl

end Endpoint

/-! ### Nodes -/

namespace Node

/-- Every node is read back from its text form.

**Proof sketch.** The mark before the generation begins with a character that is neither in the mark
again nor among the digits, so the text is split at it (`splitLast?_append`); the two parts are read
back. -/
theorem ofText?_toText (n : Node) : ofText? n.toText = some n := by
  have hmark : '@' ∉ Nat.toDigits 10 n.generation.toNat := by
    obtain ⟨ds, -, hds⟩ :=
      exists_reads_toDigits (show 1 < 10 by decide) (by decide) n.generation.toNat
    intro hc
    have := hds.isSome hc
    contradiction
  have hsplit : splitLast? ['@', 'g', 'e', 'n'] n.toText =
      some (n.endpoint.toText, Nat.toDigits 10 n.generation.toNat) :=
    splitLast?_append (by decide) hmark n.endpoint.toText
  have hgeneration := n.generation.toNat_lt
  simp only [ofText?, hsplit, n.endpoint.ofText_toText, unsigned?_toDigits]
  rw [if_pos hgeneration, UInt64.ofNat_toNat]

/-- The text of an endpoint is read as that endpoint, whatever the address and the port.  Every text
that denotes an endpoint, in whatever spelling, denotes one whose text form denotes it too.  Nodes
with the same text form are the same.

**Proof sketch.** Endpoints and nodes are read back from their text forms (`Endpoint.ofText_toText`,
`ofText?_toText`), and what is read back is determined by its text. -/
theorem toText_unambiguous :
    (∀ (ip : IpAddress) (port : UInt16), Endpoint.ofText (Endpoint.toText ⟨ip, port⟩) =
      .ok ⟨ip, port⟩) ∧
      (∀ (s : List Char) (e : Endpoint), Endpoint.ofText s = .ok e →
        Endpoint.ofText e.toText = .ok e) ∧
      ∀ m n : Node, m.toText = n.toText → m = n := by
  refine ⟨fun ip port => Endpoint.ofText_toText _, fun s e _ => e.ofText_toText, fun m n h => ?_⟩
  have hread := m.ofText?_toText
  rw [h, n.ofText?_toText] at hread
  exact (Option.some.inj hread).symm

/-- An endpoint at a version 6 address that embeds one of version 4. -/
def embedded : Endpoint := ⟨.v6 ⟨[0, 0, 0, 0, 0, 0xffff, 0x102, 0x304], rfl⟩, 80⟩

/-- In another spelling of the endpoint there are zeros and a sign that its text form leaves out,
and a node there is known by its text. -/
theorem toText_unambiguous_embedded :
    Endpoint.ofText "[0::0:FFFF:1.2.3.4]:+080".toList = .ok embedded ∧
      embedded.toText = "[::ffff:1.2.3.4]:80".toList ∧
      Endpoint.ofText embedded.toText = .ok embedded ∧
      toText ⟨embedded, 3 + 4⟩ = toText ⟨⟨embedded.ip, 80⟩, 7⟩ ∧
      (⟨embedded, 3 + 4⟩ : Node) = ⟨⟨embedded.ip, 80⟩, 7⟩ := by
  obtain ⟨-, hagain, hnodes⟩ := toText_unambiguous
  have hspelt : Endpoint.ofText "[0::0:FFFF:1.2.3.4]:+080".toList = .ok embedded := by decide
  have hsame : toText ⟨embedded, 3 + 4⟩ = toText ⟨⟨embedded.ip, 80⟩, 7⟩ := by decide
  exact ⟨hspelt, by decide, hagain _ _ hspelt, hsame, hnodes _ _ hsame⟩

end Node

end ActorLocation
