import ActorLocation.Ascii
import ActorLocation.Octets
/-!
# Quoted texts

A text is quoted by escaping the quotation mark, the reverse solidus and the control characters
below `0x20`, and nothing else.  A quoted text may spell any character by an escape; it need not
denote a text at all, since its escapes may spell surrogates and its octets may be no valid UTF-8.

## Main definitions

* `ActorLocation.Json.Quoted.escape`, `Quoted.encode` — quoting.
* `Quoted.Piece`, `Quoted.scan?`, `Quoted.octets?` — the pieces of a quoted text, and the octets
  that they spell.
* `Quoted.read?` — reads a quoted text: the text that it denotes, if any, and the rest.
-/

namespace ActorLocation

namespace Json

namespace Quoted

/-! ### Quoting -/

/-- A hexadecimal digit as an octet. -/
def hexOctet (d : Nat) : UInt8 := d.digitChar.toUInt8

/-- The form of an octet inside quotation marks. -/
def escape (b : UInt8) : Octets :=
  if b = Ascii.quote then [Ascii.backslash, Ascii.quote]
  else if b = Ascii.backslash then [Ascii.backslash, Ascii.backslash]
  else if b = 0x08 then [Ascii.backslash, 'b'.toUInt8]
  else if b = 0x09 then [Ascii.backslash, 't'.toUInt8]
  else if b = 0x0a then [Ascii.backslash, 'n'.toUInt8]
  else if b = 0x0c then [Ascii.backslash, 'f'.toUInt8]
  else if b = 0x0d then [Ascii.backslash, 'r'.toUInt8]
  else if b < 0x20 then
    [Ascii.backslash, 'u'.toUInt8, '0'.toUInt8, '0'.toUInt8, hexOctet (b.toNat / 16),
      hexOctet (b.toNat % 16)]
  else [b]

/-- The quoted form of a text. -/
def encode (t : String) : Octets :=
  Ascii.quote :: (Octets.ofText t).flatMap escape ++ [Ascii.quote]

/-- A quoted form that denotes no text: the escape of a surrogate that stands alone. -/
def loneSurrogate : Octets :=
  [Ascii.quote, Ascii.backslash, 'u'.toUInt8, 'd'.toUInt8, '8'.toUInt8, '0'.toUInt8, '0'.toUInt8,
    Ascii.quote]

/-! ### Reading -/

/-- A piece of a quoted text. -/
inductive Piece where
  /-- An octet, which stands for itself or is spelt by a short escape. -/
  | octet (b : UInt8)
  /-- A unit of sixteen bits, spelt by four hexadecimal digits. -/
  | unit (u : Nat)
deriving DecidableEq, Repr

/-- The octet that a short escape spells. -/
def shortEscape? (b : UInt8) : Option UInt8 :=
  if b = Ascii.quote then some Ascii.quote
  else if b = Ascii.backslash then some Ascii.backslash
  else if b = '/'.toUInt8 then some '/'.toUInt8
  else if b = 'b'.toUInt8 then some 0x08
  else if b = 'f'.toUInt8 then some 0x0c
  else if b = 'n'.toUInt8 then some 0x0a
  else if b = 'r'.toUInt8 then some 0x0d
  else if b = 't'.toUInt8 then some 0x09
  else none

/-- The value of a hexadecimal digit, in either case. -/
def hexDigit? (b : UInt8) : Option Nat :=
  if 0x30 ≤ b ∧ b ≤ 0x39 then some (b.toNat - 0x30)
  else if 0x61 ≤ b ∧ b ≤ 0x66 then some (b.toNat - 0x61 + 10)
  else if 0x41 ≤ b ∧ b ≤ 0x46 then some (b.toNat - 0x41 + 10)
  else none

/-- The unit that four hexadecimal digits spell. -/
def unit? (a b c d : UInt8) : Option Nat := do
  let a ← hexDigit? a
  let b ← hexDigit? b
  let c ← hexDigit? c
  let d ← hexDigit? d
  return ((a * 16 + b) * 16 + c) * 16 + d

/-- Puts a piece in front of the pieces that were scanned. -/
def consPiece (p : Piece) (r : Option (List Piece × Octets)) :
    Option (List Piece × Octets) :=
  r.map fun (ps, rest) => (p :: ps, rest)

/-- Scans a quoted text behind its opening mark, up to its closing mark. -/
def scan? : Octets → Option (List Piece × Octets)
  | [] => none
  | Ascii.quote :: s => some ([], s)
  | [Ascii.backslash] => none
  | Ascii.backslash :: e :: s =>
    match shortEscape? e with
    | some b => consPiece (.octet b) (scan? s)
    | none =>
      if e = 'u'.toUInt8 then
        match s with
        | a :: b :: c :: d :: s =>
          match unit? a b c d with
          | some u => consPiece (.unit u) (scan? s)
          | none => none
        | _ => none
      else none
  | b :: s => if b < 0x20 then none else consPiece (.octet b) (scan? s)

/-- The UTF-8 form of the character with the given code point. -/
def codePoint (n : Nat) : Octets := String.utf8EncodeChar (Char.ofNat n)

/-- The octets that pieces spell.  A high surrogate and the low surrogate right behind it spell one
character; any other surrogate spells nothing. -/
def octets? : List Piece → Option Octets
  | [] => some []
  | .octet b :: ps => (octets? ps).map (b :: ·)
  | .unit u :: ps =>
    if u < 0xd800 ∨ 0xe000 ≤ u then (octets? ps).map (codePoint u ++ ·)
    else
      match ps with
      | .unit v :: ps =>
        if u < 0xdc00 ∧ 0xdc00 ≤ v ∧ v < 0xe000 then
          (octets? ps).map (codePoint (0x10000 + (u - 0xd800) * 0x400 + (v - 0xdc00)) ++ ·)
        else none
      | _ => none

/-- Reads a quoted text behind its opening mark: the text that it denotes, or `none` if it denotes
none, and what stands behind the closing mark. -/
def read? (s : Octets) : Option (Option String × Octets) :=
  (scan? s).map fun (ps, rest) => ((octets? ps).bind Octets.text?, rest)

end Quoted

end Json

end ActorLocation
