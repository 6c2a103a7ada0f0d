import ActorLocation.Actor
import ActorLocation.Node
import ActorLocation.Table
/-!
# Placement strategies

A strategy says where the actors of a type want to live.  It is configured once per type.

## Main definitions

* `ActorLocation.Hosting` — how many activations of an actor a node may host.
* `ActorLocation.Strategy`, `Strategy.usesDirectory`, `Strategy.hosting` — the strategies.
* `ActorLocation.Placements`, `Placements.strategyFor` — the strategies per type.
-/

namespace ActorLocation

/-- How many activations of one actor a node may host. -/
inductive Hosting where
  /-- At most one. -/
  | single
  /-- Up to a limit, each independent of the others. -/
  | workers (limit : UInt64)
deriving DecidableEq, Repr, Inhabited

/-- The number of activations that a node may host, where several are allowed. -/
def Hosting.limit? : Hosting → Option UInt64
  | single => none
  | workers limit => some limit

/-- Where the actors of a type are placed. -/
inductive Strategy where
  /-- On any candidate, with equal chances. -/
  | random
  /-- On the local node if it can take the actor, else on any candidate. -/
  | preferLocal
  /-- On the candidate that a hash of the actor selects. -/
  | hashBased
  /-- As near as possible; up to `limit` activations per node, none of them registered. -/
  | statelessWorker (limit : UInt64)
  /-- On one given node. -/
  | fixed (target : Node)
deriving DecidableEq, Repr, Inhabited

namespace Strategy

/-- Whether activations are registered in the directory. -/
def usesDirectory : Strategy → Bool
  | statelessWorker _ => false
  | random | preferLocal | hashBased | fixed _ => true

/-- How many activations of one actor a node may host under the strategy. -/
def hosting : Strategy → Hosting
  | statelessWorker limit => .workers limit
  | random | preferLocal | hashBased | fixed _ => .single

/-- Whether the strategy allows no activation at all. -/
def isUnusable (s : Strategy) : Bool := s = .statelessWorker 0

end Strategy

/-- The strategies per type. -/
structure Placements where
  /-- The strategy of the types that have none of their own. -/
  default : Strategy := .random
  /-- The strategies of single types. -/
  byType : Table ActorType Strategy := ∅
deriving Inhabited

namespace Placements

/-- Gives a type its own strategy. -/
def withStrategy (p : Placements) (t : ActorType) (s : Strategy) : Placements :=
  { p with byType := p.byType.insert t s }

/-- The strategy of a type. -/
def strategyFor (p : Placements) (t : ActorType) : Strategy := (p.byType.find? t).getD p.default

/-- The strategies of single types, the last one given for a type counting, over a default. -/
def ofList (default : Strategy) (l : List (ActorType × Strategy)) : Placements :=
  l.foldl (fun p e => p.withStrategy e.1 e.2) { default }

end Placements

end ActorLocation
