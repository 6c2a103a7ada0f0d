/-!
# Octets

Stored values and JSON texts are sequences of octets, which need not be valid UTF-8.  This module
passes between octets and texts.

## Main definitions

* `ActorLocation.Octets` — a sequence of octets.
* `Octets.ofText`, `Octets.text?` — the UTF-8 form of a text, and the text of a valid UTF-8 form.
* `Octets.hex` — the octets as pairs of hexadecimal digits.

## Main results

* `Octets.text?_ofText` — a text is read back from its octets.
-/

namespace ActorLocation

/-- A sequence of octets, not necessarily the UTF-8 form of a text. -/
abbrev Octets := List UInt8

namespace Octets

/-- The UTF-8 form of a text. -/
def ofText (s : String) : Octets := s.toByteArray.data.toList

/-- The text with this UTF-8 form, or `none` if the octets are not valid UTF-8. -/
def text? (o : Octets) : Option String := String.fromUTF8? ⟨o.toArray⟩

/-- The octets as pairs of lowercase hexadecimal digits. -/
def hex (o : Octets) : String :=
  String.ofList (o.flatMap fun b => [(b.toNat / 16).digitChar, (b.toNat % 16).digitChar])

/-- A text is read back from its UTF-8 form. -/
@[simp] theorem text?_ofText (s : String) : text? (ofText s) = some s := by
  have h : (⟨s.toByteArray.data.toList.toArray⟩ : ByteArray) = s.toByteArray := rfl
  rw [text?, ofText, h, String.fromUTF8?, dif_pos s.isValidUTF8]
  rfl

end Octets

end ActorLocation
