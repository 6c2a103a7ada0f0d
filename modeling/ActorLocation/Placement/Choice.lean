import ActorLocation.Digest.Sha256
import ActorLocation.Membership.Snapshot
import ActorLocation.Placement.RandomWords
import ActorLocation.Placement.Strategy
/-!
# Choosing a node

The choice of a node for a new activation is a function of the strategy, the actor, the membership,
the candidates, the local node and the random words.

## Main definitions

* `ActorLocation.ActorId.hash` — a hash of an actor that every node computes alike.
* `ActorLocation.PlacementError` — why there is no node.
* `Strategy.chooseNode` — the choice.
-/

namespace ActorLocation

/-- A hash of the actor: the first 64 bits of the digest of its type, as eight octets, and key. -/
def ActorId.hash (id : ActorId) : UInt64 :=
  (Sha256.digest (Sha256.octetsOfWord id.actorType.tag ++ Octets.ofText id.key)).front

/-- Why an actor cannot be placed. -/
inductive PlacementError where
  /-- There is no candidate. -/
  | noCompatibleNode (id : ActorId)
  /-- The node that the strategy demands is no candidate. -/
  | nodeUnavailable (id : ActorId) (target : Node)
deriving DecidableEq, Repr

/-- The wording of the error. -/
def PlacementError.message : PlacementError → String
  | noCompatibleNode id => s!"no compatible node for actor {id}"
  | nodeUnavailable id target => s!"node {target} unavailable for actor {id}"

namespace Strategy

/-- Any candidate, with equal chances. -/
def anyOf (id : ActorId) (compatible : List Node) (r : RandomWords) :
    Except PlacementError Node × RandomWords :=
  match r.choose? compatible with
  | (some n, r) => (.ok n, r)
  | (none, r) => (.error (.noCompatibleNode id), r)

/-- The local node if it is a candidate and not about to go, else any candidate. -/
def localOrAny (id : ActorId) (s : Snapshot) (compatible : List Node) (home : Node)
    (r : RandomWords) : Except PlacementError Node × RandomWords :=
  if home ∈ compatible ∧ ¬ s.IsTerminating home then (.ok home, r) else anyOf id compatible r

/-- The candidate whose position among the distinct candidates in ascending order is the hash of
the actor modulo their number. -/
def byHash (id : ActorId) (compatible : List Node) : Except PlacementError Node :=
  let candidates := Node.sortDistinct compatible
  match candidates[id.hash.toNat % candidates.length]? with
  | some n => .ok n
  | none => .error (.noCompatibleNode id)

/-- The given node, if it is a candidate. -/
def pinned (id : ActorId) (compatible : List Node) (target : Node) : Except PlacementError Node :=
  if target ∈ compatible then .ok target else .error (.nodeUnavailable id target)

/-- The node for a new activation of `id` under the strategy. -/
def chooseNode (strategy : Strategy) (id : ActorId) (s : Snapshot) (compatible : List Node)
    (home : Node) (r : RandomWords) : Except PlacementError Node × RandomWords :=
  match strategy with
  | random => anyOf id compatible r
  | preferLocal | statelessWorker _ => localOrAny id s compatible home r
  | hashBased => (byHash id compatible, r)
  | fixed target => (pinned id compatible target, r)

end Strategy

end ActorLocation
