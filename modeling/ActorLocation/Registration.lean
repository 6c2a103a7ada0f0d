import ActorLocation.Actor
import ActorLocation.Node
/-!
# Registrations

A registration says which activation of an actor is current and on which node it lives.  A stored
one carries the etag that the store gave it.

## Main definitions

* `ActorLocation.Etag`, `ActorLocation.Registration` — the token and the registration.
* `Registration.SameActivation` — two registrations describe one activation.
* `Registration.Releases` — a registration entitles its holder to delete a stored one.
-/

namespace ActorLocation

/-- A token that a directory gives to each registration that it stores. -/
structure Etag where
  /-- The number of the token. -/
  num : UInt64
deriving DecidableEq, Repr, Inhabited

instance : ToString Etag where
  toString e := "etag-" ++ toString e.num.toNat

/-- The place of an actor: which activation is current, and on which node. -/
structure Registration where
  /-- The actor. -/
  actor : ActorId
  /-- The node that hosts the activation. -/
  node : Node
  /-- The activation. -/
  activation : ActivationId
  /-- The token of the directory, absent until the registration is stored. -/
  etag : Option Etag := none
deriving DecidableEq, Repr, Inhabited

namespace Registration

instance : ToString Registration where
  toString r :=
    toString r.actor ++ " -> " ++ toString r.node ++ " (" ++ toString r.activation ++ ")"

/-- The registration with the given token. -/
def withEtag (r : Registration) (e : Etag) : Registration := { r with etag := some e }

/-- Says that two registrations describe the same activation of the same actor on the same node;
tokens do not count. -/
def SameActivation (r s : Registration) : Prop :=
  r.actor = s.actor ∧ r.activation = s.activation ∧ r.node = s.node

instance (r s : Registration) : Decidable (r.SameActivation s) :=
  inferInstanceAs (Decidable (_ ∧ _ ∧ _))

/-- Says that the holder of `r` may delete the stored registration `s`: both describe one
activation, and the token of `r`, if it has one, is that of `s`. -/
def Releases (r s : Registration) : Prop :=
  r.SameActivation s ∧ ∀ e ∈ r.etag, s.etag = some e

instance (r s : Registration) : Decidable (r.Releases s) :=
  inferInstanceAs (Decidable (_ ∧ _))

/-- The registrations in ascending order of their actors. -/
def sort (l : List Registration) : List Registration := sortBy (fun r s => r.actor.le s.actor) l

end Registration

end ActorLocation
