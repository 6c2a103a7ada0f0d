import ActorLocation.Placement.Strategy
import ActorLocation.Registration
import ActorLocation.Table
/-!
# The catalog of local activations

The catalog is what a node knows about the activations that it hosts.  It keeps the activations of
each actor in the order of their admission, and an index that says which actor each activation
belongs to.

## Main definitions

* `ActorLocation.Hosted` — an activation hosted by the node.
* `ActorLocation.Catalog` — the activations of each actor, and the index.
* `Catalog.host`, `Catalog.release`, `Catalog.drain` — updates.
* `Catalog.first?`, `Catalog.find?`, `Catalog.countOf`, `Catalog.size`, `Catalog.all` — queries.
-/

namespace ActorLocation

/-- An activation that a node hosts. -/
structure Hosted where
  /-- The actor. -/
  actor : ActorId
  /-- The activation. -/
  activation : ActivationId
  /-- The node that hosts it. -/
  node : Node
  /-- How many activations of the actor the node may host. -/
  hosting : Hosting
deriving DecidableEq, Repr, Inhabited

/-- The registration of the activation, not stored yet. -/
def Hosted.registration (h : Hosted) : Registration where
  actor := h.actor
  node := h.node
  activation := h.activation

/-- Why an activation is refused. -/
inductive CatalogError where
  /-- The actor has an activation that excludes the new one, or the identifier is taken. -/
  | duplicateActivation (id : ActorId) (existing attempted : ActivationId)
  /-- The actor has as many activations as its limit allows. -/
  | workerLimitReached (id : ActorId) (limit : UInt64)
deriving DecidableEq, Repr

/-- The wording of the error. -/
def CatalogError.message : CatalogError → String
  | duplicateActivation id existing attempted =>
    s!"actor {id} already has local activation {existing}, refused {attempted}"
  | workerLimitReached id limit => s!"actor {id} already has {limit.toNat} local workers"

/-- The activations that a node hosts. -/
structure Catalog where
  /-- The activations of each actor that has any, in the order of their admission. -/
  byActor : Table ActorId (List Hosted) := ∅
  /-- The actor of each activation. -/
  owners : Table ActivationId ActorId := ∅
deriving Inhabited

namespace Catalog

/-! ### Queries -/

/-- The activations of an actor, in the order of their admission. -/
def hostedBy (c : Catalog) (id : ActorId) : List Hosted := (c.byActor.find? id).getD []

/-- The oldest activation of an actor. -/
def first? (c : Catalog) (id : ActorId) : Option Hosted := (c.hostedBy id).head?

/-- The activation with the given identifier. -/
def find? (c : Catalog) (a : ActivationId) : Option Hosted :=
  match c.owners.find? a with
  | some id => (c.hostedBy id).find? fun h => h.activation = a
  | none => none

/-- The number of activations of an actor. -/
def countOf (c : Catalog) (id : ActorId) : Nat := (c.hostedBy id).length

/-- All activations, those of one actor in the order of their admission. -/
def all (c : Catalog) : List Hosted := c.byActor.values.flatten

/-- The number of activations. -/
def size (c : Catalog) : Nat := c.all.length

/-- Whether no activation is hosted. -/
def isEmpty (c : Catalog) : Bool := c.byActor.isEmpty

/-! ### Updates -/

/-- Says that `g`, an activation of the same actor, excludes the admission of `h`: only one is
allowed, or it has the same identifier, or the two disagree on what is allowed. -/
def Excludes (g h : Hosted) : Prop :=
  h.hosting = .single ∨ g.activation = h.activation ∨ g.hosting ≠ h.hosting

instance (g h : Hosted) : Decidable (Excludes g h) := inferInstanceAs (Decidable (_ ∨ _))

/-- Enters the identifier of `h` in the index and puts `h` behind the other activations of its
actor.  An identifier that is in the index already, under whatever actor, is refused. -/
def append (c : Catalog) (others : List Hosted) (h : Hosted) : Except CatalogError Catalog :=
  match c.owners.find? h.activation with
  | some _ => .error (.duplicateActivation h.actor h.activation h.activation)
  | none =>
    .ok
      { byActor := c.byActor.insert h.actor (others ++ [h])
        owners := c.owners.insert h.activation h.actor }

/-- Admits an activation.  The first of an actor needs only a free identifier; a further one must
not be excluded by those that are there, and must stay within its limit. -/
def host (c : Catalog) (h : Hosted) : Except CatalogError Catalog :=
  match c.byActor.find? h.actor with
  | none => c.append [] h
  | some others =>
    match others.find? fun g => Excludes g h with
    | some g => .error (.duplicateActivation h.actor g.activation h.activation)
    | none =>
      match h.hosting.limit? with
      | some limit =>
        if limit.toNat ≤ others.length then .error (.workerLimitReached h.actor limit)
        else c.append others h
      | none => c.append others h

/-- Removes an activation from the index, if it is there under the right actor. -/
def unindex (owners : Table ActivationId ActorId) (h : Hosted) : Table ActivationId ActorId :=
  owners.eraseIf h.activation fun id => id = h.actor

/-- Releases the activation of the actor and with the identifier of `h`.  Says whether there was
one. -/
def release (c : Catalog) (h : Hosted) : Bool × Catalog :=
  match c.byActor.find? h.actor with
  | none => (false, c)
  | some hosted =>
    let rest := hosted.filter fun g => g.activation ≠ h.activation
    let removed := rest.length ≠ hosted.length
    (removed,
      { byActor :=
          if rest.isEmpty then c.byActor.erase h.actor else c.byActor.insert h.actor rest
        owners := if removed then unindex c.owners h else c.owners })

/-- Releases all activations and returns them. -/
def drain (c : Catalog) : List Hosted × Catalog :=
  (c.all, { byActor := ∅, owners := c.all.foldl unindex c.owners })

end Catalog

/-- The activations in ascending order of their actors; those of one actor keep their order. -/
def Hosted.sort (l : List Hosted) : List Hosted := sortBy (fun g h => g.actor.le h.actor) l

end ActorLocation
