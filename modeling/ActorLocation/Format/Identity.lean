import ActorLocation.Json.Parser
import ActorLocation.Json.Printer
import ActorLocation.Json.Shape
import ActorLocation.Registration
/-!
# JSON forms of actors, nodes and registrations

Identifiers are plain words, addresses are texts, and the rest are records.  The token of a
registration is left out while there is none.

## Main definitions

* `toJson` and `ofJson?` of `ActorLocation.ActorType`, `ActorId`, `ActivationId`, `Etag`,
  `IpAddress`, `Endpoint`, `Node` and `Registration`.
* `Registration.toStored`, `Registration.ofStored?` — the form in which a store keeps a
  registration, without its token.
-/

namespace ActorLocation

open Json (record fields?)

/-! ### Actors -/

/-- The JSON form of a type. -/
def ActorType.toJson (t : ActorType) : Json := .word t.tag

/-- Reads a type. -/
def ActorType.ofJson? (j : Json) : Option ActorType := j.word?.map ActorType.mk

/-- The JSON form of an actor. -/
def ActorId.toJson (id : ActorId) : Json :=
  record [("actor_type", id.actorType.toJson), ("key", .text id.key)]

/-- Reads an actor. -/
def ActorId.ofJson? (j : Json) : Option ActorId :=
  match fields? ["actor_type", "key"] j with
  | some [some t, some k] => do return ⟨← ActorType.ofJson? t, ← k.text?⟩
  | _ => none

/-- The JSON form of an activation. -/
def ActivationId.toJson (a : ActivationId) : Json := .word a.num

/-- Reads an activation. -/
def ActivationId.ofJson? (j : Json) : Option ActivationId := j.word?.map ActivationId.mk

/-! ### Nodes -/

/-- The JSON form of an address: its text form. -/
def IpAddress.toJson (a : IpAddress) : Json := .text (toString a)

/-- Reads an address. -/
def IpAddress.ofJson? (j : Json) : Option IpAddress :=
  j.text?.bind fun t => IpAddress.ofText? t.toList

/-- Reads a port. -/
def Endpoint.portOfJson? (j : Json) : Option UInt16 :=
  match j.nat? with
  | some n => if n < 65536 then some (UInt16.ofNat n) else none
  | none => none

/-- The JSON form of an endpoint. -/
def Endpoint.toJson (e : Endpoint) : Json :=
  record [("ip", e.ip.toJson), ("port", .nat e.port.toNat)]

/-- Reads an endpoint. -/
def Endpoint.ofJson? (j : Json) : Option Endpoint :=
  match fields? ["ip", "port"] j with
  | some [some ip, some port] => do return ⟨← IpAddress.ofJson? ip, ← portOfJson? port⟩
  | _ => none

/-- The JSON form of a node. -/
def Node.toJson (n : Node) : Json :=
  record [("endpoint", n.endpoint.toJson), ("generation", .word n.generation)]

/-- Reads a node. -/
def Node.ofJson? (j : Json) : Option Node :=
  match fields? ["endpoint", "generation"] j with
  | some [some e, some g] => do return ⟨← Endpoint.ofJson? e, ← g.word?⟩
  | _ => none

/-! ### Registrations -/

/-- The JSON form of a token. -/
def Etag.toJson (e : Etag) : Json := .word e.num

/-- Reads a token. -/
def Etag.ofJson? (j : Json) : Option Etag := j.word?.map Etag.mk

namespace Registration

/-- The fields of a registration, its token apart. -/
def storedFields (r : Registration) : List (String × Json) :=
  [("actor_id", r.actor.toJson), ("node", r.node.toJson),
    ("activation_id", r.activation.toJson)]

/-- The JSON form of a registration. -/
def toJson (r : Registration) : Json :=
  record (r.storedFields ++
    match r.etag with
    | some e => [("etag", e.toJson)]
    | none => [])

/-- Reads a registration. -/
def ofJson? (j : Json) : Option Registration :=
  match fields? ["actor_id", "node", "activation_id", "etag"] j with
  | some [some id, some n, some a, e] => do
    return ⟨← ActorId.ofJson? id, ← Node.ofJson? n, ← ActivationId.ofJson? a,
      ← Json.optional? Etag.ofJson? e⟩
  | _ => none

/-- The form in which a store keeps a registration: without its token, which is the version of the
stored value. -/
def toStored (r : Registration) : Octets := (record r.storedFields).toOctets

/-- Reads the stored form of a registration. -/
def ofStored? (o : Octets) : Option Registration := do
  let j ← Json.ofOctets? o
  match fields? ["actor_id", "node", "activation_id"] j with
  | some [some id, some n, some a] =>
    return ⟨← ActorId.ofJson? id, ← Node.ofJson? n, ← ActivationId.ofJson? a, none⟩
  | _ => none

end Registration

end ActorLocation
