import ActorLocation.Json.Quoted
import Mathlib.Tactic.SplitIfs
/-!
# Quoted texts are read back

Each octet of a text is quoted on its own: as itself, by a short escape, or by an escape of four
hexadecimal digits.  In each form it is scanned as one piece, which spells that octet again.

## Main results

* `ActorLocation.Json.Quoted.scan?_escape` — the quoted form of an octet is one piece.
* `Quoted.read?_encode` — a quoted text is read as the text, whatever follows its closing mark.
-/

namespace ActorLocation

namespace Json

namespace Quoted

/-- Says that a piece spells one octet, whatever pieces follow it. -/
def Piece.Spells (p : Piece) (b : UInt8) : Prop :=
  ∀ ps, octets? (p :: ps) = (octets? ps).map (b :: ·)

/-- An octet that stands for itself, or a short escape of it, spells it. -/
theorem Piece.octet_spells (b : UInt8) : (Piece.octet b).Spells b := fun _ => rfl

/-- The unit of an ASCII control character spells it. -/
theorem Piece.unit_spells {b : UInt8} (hb : b < 0x20) : (Piece.unit b.toNat).Spells b := by
  intro ps
  have hn : b.toNat < 32 := hb
  have key : ∀ n : Fin 32, codePoint n.val = [UInt8.ofNat n.val] := by decide
  have hc : codePoint b.toNat = [b] := by
    rw [key ⟨b.toNat, hn⟩, UInt8.ofNat_toNat]
  rw [octets?.eq_def]
  change (if b.toNat < 0xd800 ∨ 0xe000 ≤ b.toNat then (octets? ps).map (codePoint b.toNat ++ ·)
    else _) = _
  rw [if_pos (Or.inl (by omega)), hc]
  rfl

/-- A short escape is scanned as the octet that it spells. -/
theorem scan?_shortEscape {e b : UInt8} (h : shortEscape? e = some b) (s : Octets) :
    scan? (Ascii.backslash :: e :: s) = consPiece (.octet b) (scan? s) := by
  by_cases hs : ∃ a b c d t, s = a :: b :: c :: d :: t
  · obtain ⟨a, b, c, d, t, rfl⟩ := hs
    refine (scan?.eq_4 ..).trans ?_
    rw [h]
  · refine (scan?.eq_5 e s fun a b c d t ht => hs ⟨a, b, c, d, t, ht⟩).trans ?_
    rw [h]

/-- An escape of four hexadecimal digits is scanned as the unit that they spell. -/
theorem scan?_unit {a b c d : UInt8} {u : Nat} (h : unit? a b c d = some u) (s : Octets) :
    scan? (Ascii.backslash :: 'u'.toUInt8 :: a :: b :: c :: d :: s) =
      consPiece (.unit u) (scan? s) := by
  have hu : shortEscape? 'u'.toUInt8 = none := by decide
  refine (scan?.eq_4 ..).trans ?_
  simp only [hu, h, if_true]

/-- An octet that needs no escape is scanned as itself. -/
theorem scan?_octet {b : UInt8} (hq : b ≠ Ascii.quote) (hb : b ≠ Ascii.backslash)
    (hc : ¬ b < 0x20) (s : Octets) : scan? (b :: s) = consPiece (.octet b) (scan? s) := by
  rw [scan?.eq_6 b s hq (fun h => absurd h hb) (fun _ _ h => absurd h hb), if_neg hc]

/-- The two last digits of the escape of a control character spell its number. -/
theorem unit?_control {b : UInt8} (hb : b < 0x20) :
    unit? '0'.toUInt8 '0'.toUInt8 (hexOctet (b.toNat / 16)) (hexOctet (b.toNat % 16)) =
      some b.toNat := by
  have key : ∀ n : Fin 32, unit? '0'.toUInt8 '0'.toUInt8 (hexOctet (n.val / 16))
      (hexOctet (n.val % 16)) = some n.val := by decide
  exact key ⟨b.toNat, hb⟩

/-- The quoted form of an octet is scanned as one piece, which spells the octet.

**Proof sketch.** By the cases of `escape`: seven short escapes, the escape of a control
character by its number, and an octet that stands for itself. -/
theorem scan?_escape (b : UInt8) (s : Octets) :
    ∃ p : Piece, p.Spells b ∧ scan? (escape b ++ s) = consPiece p (scan? s) := by
  -- The short escapes differ only in the letter and in the octet that it stands for.
  have short : ∀ {e c : UInt8}, b = c → shortEscape? e = some c →
      ∃ p : Piece, p.Spells b ∧
        scan? ([Ascii.backslash, e] ++ s) = consPiece p (scan? s) := by
    rintro e c rfl he
    exact ⟨_, Piece.octet_spells b, scan?_shortEscape he s⟩
  unfold escape
  split_ifs with h₁ h₂ h₃ h₄ h₅ h₆ h₇ h₈
  · exact short h₁ (by decide)
  · exact short h₂ (by decide)
  · exact short h₃ (by decide)
  · exact short h₄ (by decide)
  · exact short h₅ (by decide)
  · exact short h₆ (by decide)
  · exact short h₇ (by decide)
  · exact ⟨_, Piece.unit_spells h₈, scan?_unit (unit?_control h₈) s⟩
  · exact ⟨_, Piece.octet_spells b, scan?_octet h₁ h₂ h₈ s⟩

/-- The quoted form of octets is scanned, up to the closing mark, as pieces that spell them.

**Proof sketch.** Induction on the octets; the step is `scan?_escape`. -/
theorem scan?_flatMap_escape (o rest : Octets) :
    ∃ ps, octets? ps = some o ∧
      scan? (o.flatMap escape ++ Ascii.quote :: rest) = some (ps, rest) := by
  induction o with
  | nil => exact ⟨[], rfl, rfl⟩
  | cons b o ih =>
    obtain ⟨ps, hps, hs⟩ := ih
    obtain ⟨p, hp, hb⟩ := scan?_escape b (o.flatMap escape ++ Ascii.quote :: rest)
    refine ⟨p :: ps, by rw [hp, hps]; rfl, ?_⟩
    rw [List.flatMap_cons, List.append_assoc, hb, hs]
    rfl

/-- A quoted text is read as the text, whatever follows its closing mark. -/
theorem read?_encode (t : String) (rest : Octets) :
    ∃ s, encode t ++ rest = Ascii.quote :: s ∧ read? s = some (some t, rest) := by
  obtain ⟨ps, hps, hs⟩ := scan?_flatMap_escape (Octets.ofText t) rest
  refine ⟨(Octets.ofText t).flatMap escape ++ Ascii.quote :: rest, by simp [encode], ?_⟩
  simp only [read?, hs, Option.map_some, hps, Option.bind_some, Octets.text?_ofText]

end Quoted

end Json

end ActorLocation
