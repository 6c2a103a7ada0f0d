import ActorLocation.Digits
import ActorLocation.Ip.Basic
/-!
# Reading IP addresses

Readers take the text in front of them and return what they have read with the rest, or `none`.

## Main definitions

* `ActorLocation.Ipv4.read?` — four decimal octets without leading zeros, dots between them.
* `Ipv6.readGroups` — groups of up to four hexadecimal digits, the last two possibly in dotted
  decimal.
* `Ipv6.read?` — eight groups, or fewer around one `::`, which stands for at least one zero group.
* `IpAddress.ofText?` — the address that a whole text denotes.
-/

namespace ActorLocation

open Digits

namespace Ipv4

/-- Reads an octet: all digits in front, one to three of them, spelling less than 256, with no
leading zero unless it is the only digit. -/
def readOctet? (s : List Char) : Option (UInt8 × List Char) :=
  match Digits.span 10 s with
  | ([], _) => none
  | (d :: ds, rest) =>
    if 2 < ds.length ∨ (d = 0 ∧ ds ≠ []) ∨ 256 ≤ value 10 (d :: ds) then none
    else some (UInt8.ofNat (value 10 (d :: ds)), rest)

/-- Reads a dot and an octet. -/
def readDotOctet? : List Char → Option (UInt8 × List Char)
  | '.' :: s => readOctet? s
  | _ => none

/-- Reads an address in dotted decimal. -/
def read? (s : List Char) : Option (Ipv4 × List Char) := do
  let (a, s) ← readOctet? s
  let (b, s) ← readDotOctet? s
  let (c, s) ← readDotOctet? s
  let (d, s) ← readDotOctet? s
  return (⟨a, b, c, d⟩, s)

/-- The address as two groups of sixteen bits. -/
def toGroups (a : Ipv4) : List UInt16 :=
  [UInt16.ofNat (a.a.toNat * 256 + a.b.toNat), UInt16.ofNat (a.c.toNat * 256 + a.d.toNat)]

end Ipv4

namespace Ipv6

/-- Reads a group: all hexadecimal digits in front, one to four of them. -/
def readGroup? (s : List Char) : Option (UInt16 × List Char) :=
  match Digits.span 16 s with
  | ([], _) => none
  | (ds, rest) => if 4 < ds.length then none else some (UInt16.ofNat (value 16 ds), rest)

/-- Reads the colon between two groups; there is none before the first. -/
def readColon? (first : Bool) (s : List Char) : Option (List Char) :=
  if first then some s
  else
    match s with
    | ':' :: s => some s
    | _ => none

/-- The longest list of at most `room` groups in front of the text, whether it ends in a dotted
decimal, which takes the room of two groups and is always the last, and the rest of the text. -/
def readGroups : (room : Nat) → (first : Bool) → List Char → List UInt16 × Bool × List Char
  | 0, _, s => ([], false, s)
  | room + 1, first, s =>
    match readColon? first s with
    | none => ([], false, s)
    | some t =>
      match if room = 0 then none else Ipv4.read? t with
      | some (a, rest) => (a.toGroups, true, rest)
      | none =>
        match readGroup? t with
        | none => ([], false, s)
        | some (g, rest) =>
          let (gs, dotted, rest) := readGroups room false rest
          (g :: gs, dotted, rest)

/-- Reads the groups after `::` and fills the gap with zeros, at least one. -/
def readTail? (head : List UInt16) : List Char → Option (Ipv6 × List Char)
  | ':' :: ':' :: s =>
    let (tail, _, rest) := readGroups (7 - head.length) true s
    let zeros := List.replicate (8 - head.length - tail.length) 0
    (ofList? (head ++ zeros ++ tail)).map (·, rest)
  | _ => none

/-- Reads an address.  A dotted decimal may end it, but may not stand before `::`. -/
def read? (s : List Char) : Option (Ipv6 × List Char) :=
  match readGroups 8 true s with
  | (head, dotted, rest) =>
    match ofList? head with
    | some a => some (a, rest)
    | none => if dotted then none else readTail? head rest

end Ipv6

namespace IpAddress

/-- Reads an address of either family. -/
def read? (s : List Char) : Option (IpAddress × List Char) :=
  match Ipv4.read? s with
  | some (a, rest) => some (v4 a, rest)
  | none => (Ipv6.read? s).map fun r => (v6 r.1, r.2)

/-- The address that the whole text denotes. -/
def ofText? (s : List Char) : Option IpAddress :=
  match read? s with
  | some (a, []) => some a
  | _ => none

end IpAddress

end ActorLocation
