import ActorLocation.Ip.Basic
/-!
# Text form of IP addresses

Version 4 addresses are written in dotted decimal.  A version 6 address that embeds a version 4
address (`::ffff:0:0/96`) is written with its last two groups in dotted decimal; in any other one
the first longest run of at least two zero groups is written `::`, and groups are written in
lowercase hexadecimal without leading zeros.

## Main definitions

* `ActorLocation.Ipv4.toText`, `Ipv6.toText`, `IpAddress.toText` — the text forms.
* `Ipv6.zeroRun` — the run of zero groups that the text form leaves out.
-/

namespace ActorLocation

/-- Dotted decimal. -/
def Ipv4.toText (a : Ipv4) : List Char :=
  Nat.toDigits 10 a.a.toNat ++ '.' :: Nat.toDigits 10 a.b.toNat ++
    '.' :: Nat.toDigits 10 a.c.toNat ++ '.' :: Nat.toDigits 10 a.d.toNat

namespace Ipv6

/-- Groups in hexadecimal, with colons between them. -/
def groupsText : List UInt16 → List Char
  | [] => []
  | [g] => Nat.toDigits 16 g.toNat
  | g :: gs => Nat.toDigits 16 g.toNat ++ ':' :: groupsText gs

/-- The number of zero groups in front. -/
def leadingZeros (gs : List UInt16) : Nat := (gs.takeWhile (· == 0)).length

/-- The start of the first longest run of zero groups. -/
def zeroRun (gs : List UInt16) : Nat :=
  (List.range gs.length).foldl
    (fun best i => if leadingZeros (gs.drop best) < leadingZeros (gs.drop i) then i else best) 0

/-- The embedded version 4 address, if the first eighty bits are zero and the next sixteen one. -/
def mapped? (a : Ipv6) : Option Ipv4 :=
  match a.groups with
  | [0, 0, 0, 0, 0, 0xffff, g, h] =>
    some ⟨(g >>> 8).toUInt8, g.toUInt8, (h >>> 8).toUInt8, h.toUInt8⟩
  | _ => none

/-- Hexadecimal groups, with `::` in place of the run of zeros that starts at `start`. -/
def compressedText (gs : List UInt16) : List Char :=
  let start := zeroRun gs
  let count := leadingZeros (gs.drop start)
  if 1 < count then
    groupsText (gs.take start) ++ ':' :: ':' :: groupsText (gs.drop (start + count))
  else groupsText gs

/-- The text form of the address. -/
def toText (a : Ipv6) : List Char :=
  match a.mapped? with
  | some b => [':', ':', 'f', 'f', 'f', 'f', ':'] ++ b.toText
  | none => compressedText a.groups

end Ipv6

namespace IpAddress

/-- The text form of the address. -/
def toText : IpAddress → List Char
  | v4 a => a.toText
  | v6 a => a.toText

instance : ToString IpAddress where
  toString a := String.ofList a.toText

end IpAddress

end ActorLocation
