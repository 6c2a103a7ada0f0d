import ActorLocation.Json.Basic
import ActorLocation.Json.Quoted
/-!
# JSON texts

The compact text form of a JSON value: no blanks, and members in their order.

## Main definitions

* `ActorLocation.Json.toOctets` — the text form, as octets.
-/

namespace ActorLocation

namespace Json

/-- The form of a quoted text; one that denotes no text is written as an escape that denotes
none. -/
def quotedOctets : Option String → Octets
  | some t => Quoted.encode t
  | none => Quoted.loneSurrogate

mutual

/-- The compact text form of a value. -/
def toOctets : Json → Octets
  | null => Octets.ofText "null"
  | bool true => Octets.ofText "true"
  | bool false => Octets.ofText "false"
  | number n => n.toOctets
  | string t => quotedOctets t
  | array items => Ascii.openBracket :: itemsOctets items
  | object members => Ascii.openBrace :: membersOctets members

/-- The items of an array with commas between them, and the closing bracket. -/
def itemsOctets : List Json → Octets
  | [] => [Ascii.closeBracket]
  | [j] => toOctets j ++ [Ascii.closeBracket]
  | j :: js => toOctets j ++ Ascii.comma :: itemsOctets js

/-- The members of an object with commas between them, and the closing bracket. -/
def membersOctets : List (Option String × Json) → Octets
  | [] => [Ascii.closeBrace]
  | [(name, j)] => quotedOctets name ++ Ascii.colon :: toOctets j ++ [Ascii.closeBrace]
  | (name, j) :: ms =>
    quotedOctets name ++ Ascii.colon :: toOctets j ++ Ascii.comma :: membersOctets ms

end

end Json

end ActorLocation
