/-!
# Octets of ASCII characters

Names for the octets that stand for punctuation in structured texts, and the octets that are digits
or blanks.

## Main definitions

* `ActorLocation.Ascii.isBlank`, `Ascii.isDigit` — classes of octets.
* `Ascii.ofChars`, `Ascii.toChar` — the octet of an ASCII character, and back.
-/

namespace ActorLocation

namespace Ascii

/-- The quotation mark. -/
@[match_pattern] abbrev quote : UInt8 := 0x22

/-- The reverse solidus. -/
@[match_pattern] abbrev backslash : UInt8 := 0x5c

/-- The plus sign. -/
@[match_pattern] abbrev plus : UInt8 := 0x2b

/-- The minus sign. -/
@[match_pattern] abbrev minus : UInt8 := 0x2d

/-- The full stop. -/
@[match_pattern] abbrev dot : UInt8 := 0x2e

/-- The comma. -/
@[match_pattern] abbrev comma : UInt8 := 0x2c

/-- The colon. -/
@[match_pattern] abbrev colon : UInt8 := 0x3a

/-- The opening square bracket. -/
@[match_pattern] abbrev openBracket : UInt8 := 0x5b

/-- The closing square bracket. -/
@[match_pattern] abbrev closeBracket : UInt8 := 0x5d

/-- The opening curly bracket. -/
@[match_pattern] abbrev openBrace : UInt8 := 0x7b

/-- The closing curly bracket. -/
@[match_pattern] abbrev closeBrace : UInt8 := 0x7d

/-- Whether an octet is a space, a tabulator, a line feed or a carriage return. -/
def isBlank (b : UInt8) : Bool := b == 0x20 || b == 0x09 || b == 0x0a || b == 0x0d

/-- Whether an octet is a decimal digit. -/
def isDigit (b : UInt8) : Bool := 0x30 ≤ b && b ≤ 0x39

/-- The character of an octet. -/
def toChar (b : UInt8) : Char := Char.ofNat b.toNat

/-- The octets of ASCII characters. -/
def ofChars (s : List Char) : List UInt8 := s.map Char.toUInt8

end Ascii

end ActorLocation
