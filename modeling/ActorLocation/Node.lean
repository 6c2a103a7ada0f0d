import ActorLocation.Digits
import ActorLocation.Ip.Parser
import ActorLocation.Ip.Printer
import ActorLocation.Sorting
import ActorLocation.Split
/-!
# Nodes

A node is a process of the cluster: the endpoint that it is bound to and its generation, which
grows with every restart at that endpoint.  Two incarnations at one endpoint are different nodes,
and the later one supersedes the earlier.

## Main definitions

* `ActorLocation.Endpoint`, `Endpoint.ofText`, `Endpoint.toText` — an IP address with a port, and
  its text form `ip:port`, or `[ip]:port` for version 6.
* `ActorLocation.Node`, `Node.toText`, `Node.ofText?` — an endpoint with a generation, and its text
  form `ip:port@genN`.
* `Node.SupersededBy` — a later incarnation at the same endpoint.
* `Node.rank`, `Node.sort`, `Node.sortDistinct` — the order of nodes: by endpoint, then by
  generation.

## Main results

* `Node.rank_injective` — the order is total.
-/

namespace ActorLocation

/-! ### Endpoints -/

/-- The place where a process listens. -/
structure Endpoint where
  /-- The address. -/
  ip : IpAddress
  /-- The port. -/
  port : UInt16
deriving DecidableEq, Repr, Inhabited

/-- Why a text is not an endpoint. -/
inductive EndpointError where
  /-- The part for the address is not an address. -/
  | invalidIp
  /-- The part for the port is not a port. -/
  | invalidPort
  /-- No colon sets off a port. -/
  | missingPort
deriving DecidableEq, Repr

/-- The wording of the error. -/
def EndpointError.message : EndpointError → String
  | invalidIp => "invalid IP address"
  | invalidPort => "invalid port number"
  | missingPort => "missing port separator"

namespace Endpoint

/-- The text form: brackets set off an address of version 6. -/
def toText (e : Endpoint) : List Char :=
  match e.ip with
  | .v4 a => a.toText ++ ':' :: Nat.toDigits 10 e.port.toNat
  | .v6 a => '[' :: a.toText ++ ']' :: ':' :: Nat.toDigits 10 e.port.toNat

instance : ToString Endpoint where
  toString e := String.ofList e.toText

/-- The texts for the address and for the port: the port follows the first closing bracket and a
colon if the text opens with a bracket, else the last colon. -/
def splitPort : List Char → Except EndpointError (List Char × List Char)
  | '[' :: s =>
    match splitFirst? ']' s with
    | none => .error .invalidIp
    | some (ip, ':' :: port) => .ok (ip, port)
    | some _ => .error .missingPort
  | s =>
    match splitLast? [':'] s with
    | none => .error .missingPort
    | some parts => .ok parts

/-- The port that a text denotes in decimal. -/
def port? (s : List Char) : Option UInt16 :=
  match Digits.unsigned? s with
  | some n => if n < 65536 then some (UInt16.ofNat n) else none
  | none => none

/-- The endpoint that a text denotes. -/
def ofText (s : List Char) : Except EndpointError Endpoint :=
  match splitPort s with
  | .error e => .error e
  | .ok (ip, port) =>
    match IpAddress.ofText? ip with
    | none => .error .invalidIp
    | some ip =>
      match port? port with
      | none => .error .invalidPort
      | some port => .ok ⟨ip, port⟩

/-- The position of the endpoint in the order of all endpoints: by address, then by port. -/
def rank (e : Endpoint) : Nat := e.ip.rank * UInt16.size + e.port.toNat

/-- An endpoint is known by its rank, of which the address is the quotient and the port the
remainder. -/
theorem rank_injective {d e : Endpoint} (h : d.rank = e.rank) : d = e := by
  have hd := d.port.toNat_lt
  have he := e.port.toNat_lt
  obtain ⟨i, p⟩ := d
  obtain ⟨j, q⟩ := e
  simp only [rank, UInt16.size] at h hd he
  have hi : i = j := IpAddress.rank_injective (by omega)
  have hp : p = q := UInt16.toNat_inj.1 (by omega)
  rw [hi, hp]

end Endpoint

/-! ### Nodes -/

/-- A process of the cluster. -/
structure Node where
  /-- Where the process listens. -/
  endpoint : Endpoint
  /-- The generation of the process among those that listened there. -/
  generation : UInt64
deriving DecidableEq, Repr, Inhabited

namespace Node

/-- Says that `m` is a later incarnation at the endpoint of `n`. -/
def SupersededBy (n m : Node) : Prop := n.endpoint = m.endpoint ∧ n.generation < m.generation

instance (n m : Node) : Decidable (n.SupersededBy m) := inferInstanceAs (Decidable (_ ∧ _))

/-- The text form. -/
def toText (n : Node) : List Char :=
  n.endpoint.toText ++ ['@', 'g', 'e', 'n'] ++ Nat.toDigits 10 n.generation.toNat

instance : ToString Node where
  toString n := String.ofList n.toText

/-- The node that a text denotes: an endpoint, with `@gen` and a generation behind it unless the
generation is one. -/
def ofText? (s : List Char) : Option Node :=
  let (endpoint, generation) :=
    match splitLast? ['@', 'g', 'e', 'n'] s with
    | some (l, r) => (l, Digits.unsigned? r)
    | none => (s, some 1)
  match Endpoint.ofText endpoint, generation with
  | .ok e, some g => if g < UInt64.size then some ⟨e, UInt64.ofNat g⟩ else none
  | _, _ => none

/-- The position of the node in the order of all nodes: by endpoint, then by generation. -/
def rank (n : Node) : Nat := n.endpoint.rank * UInt64.size + n.generation.toNat

/-- A node is known by its rank. -/
theorem rank_injective {m n : Node} (h : m.rank = n.rank) : m = n := by
  have hm := m.generation.toNat_lt
  have hn := n.generation.toNat_lt
  obtain ⟨d, p⟩ := m
  obtain ⟨e, q⟩ := n
  simp only [rank, UInt64.size] at h hm hn
  have hd : d = e := Endpoint.rank_injective (by omega)
  have hp : p = q := UInt64.toNat_inj.1 (by omega)
  rw [hd, hp]

instance : LE Node := ⟨fun m n => m.rank ≤ n.rank⟩

instance (m n : Node) : Decidable (m ≤ n) := inferInstanceAs (Decidable (m.rank ≤ n.rank))

instance : LT Node := ⟨fun m n => m.rank < n.rank⟩

instance (m n : Node) : Decidable (m < n) := inferInstanceAs (Decidable (m.rank < n.rank))

instance : Ord Node := ⟨fun m n => compare m.rank n.rank⟩

/-- The nodes in ascending order, repetitions kept. -/
def sort (l : List Node) : List Node := sortBy (fun m n => decide (m ≤ n)) l

/-- The distinct nodes in ascending order. -/
def sortDistinct (l : List Node) : List Node := sort l.eraseDups

end Node

end ActorLocation
