import ActorLocation.Format.Identity
import ActorLocation.Placement.Strategy
/-!
# JSON forms of placement strategies

A strategy is a record with the name of its kind in the field `kind`, wherever that stands among the
others, or an array with that name in front.  Its other fields are held in memory until the kind is
known, so all of them have to be holdable, those that the kind does not use included.

## Main definitions

* `ActorLocation.Strategy.toJson`, `Strategy.ofJson?` — the JSON form.
-/

namespace ActorLocation

open Json (record memberFields? itemFields?)

namespace Strategy

/-- The name of the kind. -/
def kindName : Strategy → String
  | random => "random"
  | preferLocal => "prefer_local"
  | hashBased => "hash_based"
  | statelessWorker _ => "stateless_worker"
  | fixed _ => "fixed"

/-- The fields besides the kind. -/
def parameters : Strategy → List (String × Json)
  | statelessWorker limit => [("max_local", .word limit)]
  | fixed target => [("target", target.toJson)]
  | random | preferLocal | hashBased => []

/-- The JSON form of a strategy. -/
def toJson (s : Strategy) : Json := record (("kind", .text s.kindName) :: s.parameters)

/-- A kind of strategy: complete, or in need of the value of one field. -/
inductive Kind where
  /-- A kind without parameters. -/
  | plain (s : Strategy)
  /-- A kind whose parameter is the field `name`. -/
  | needs (name : String) (read? : Json → Option Strategy)

/-- The kind with the given name. -/
def Kind.ofName? (t : String) : Option Kind :=
  if t = "random" then some (.plain random)
  else if t = "prefer_local" then some (.plain preferLocal)
  else if t = "hash_based" then some (.plain hashBased)
  else if t = "stateless_worker" then
    some (.needs "max_local" fun j => j.word?.map statelessWorker)
  else if t = "fixed" then some (.needs "target" fun j => (Node.ofJson? j).map fixed)
  else none

/-- The strategy of a kind, given the values of its fields in the order of their names. -/
def ofParameters? (kind : Kind) (fields? : List String → Option (List (Option Json))) :
    Option Strategy :=
  match kind with
  | .plain s => (fields? []).map fun _ => s
  | .needs name read? =>
    match fields? [name] with
    | some [some j] => read? j
    | _ => none

/-- Reads a strategy from its members, one of which names the kind. -/
def ofMembers? (members : List (Option String × Json)) : Option Strategy :=
  match members.filter fun m => m.1 = some "kind" with
  | [(_, .string (some t))] => do
    ofParameters? (← Kind.ofName? t)
      (memberFields? · (members.filter fun m => m.1 ≠ some "kind"))
  | _ => none

/-- Reads a strategy from its items, the first of which names the kind. -/
def ofItems? : List Json → Option Strategy
  | .string (some t) :: items => do ofParameters? (← Kind.ofName? t) (itemFields? · items)
  | _ => none

/-- The number of arrays and objects that may be open while a value is held in memory. -/
def maxOpen : Nat := 127

/-- Reads a strategy inside `outer` arrays and objects. -/
def ofJson? (outer : Nat) (j : Json) : Option Strategy :=
  if j.isHoldable (maxOpen - outer) then
    match j with
    | .object members => ofMembers? members
    | .array items => ofItems? items
    | _ => none
  else none

end Strategy

end ActorLocation
