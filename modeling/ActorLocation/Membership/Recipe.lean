import ActorLocation.Membership.Snapshot
/-!
# Recipes for snapshots

A recipe describes a snapshot by what changes relative to a base snapshot.

## Main definitions

* `ActorLocation.Snapshot.Recipe` — where to start and what to change.
* `Snapshot.Recipe.build?` — the snapshot that a recipe describes.
-/

namespace ActorLocation

namespace Snapshot

/-- The snapshot that a recipe starts from. -/
inductive Recipe.Start where
  /-- The base snapshot. -/
  | base
  /-- The snapshot with the given active members. -/
  | active (version : Version) (nodes : List Node)
  /-- The snapshot that lists the given members; the last one listed for a node counts. -/
  | listing (version : Version) (members : List (Node × Member))
deriving Inhabited

/-- A description of a snapshot. -/
structure Recipe where
  /-- The snapshot to start from. -/
  start : Recipe.Start := .base
  /-- The changes of state, in order. -/
  updates : List (Node × Status) := []
  /-- The nodes taken off the list after that. -/
  removed : List Node := []
  /-- The version given to the result, if it is not to keep its own. -/
  version : Option Version := none
deriving Inhabited

namespace Recipe

/-- The snapshot to start from, given the base. -/
def Start.snapshot (base : Snapshot) : Start → Snapshot
  | .base => base
  | .active version nodes => withActive version nodes
  | .listing version members => ⟨Table.ofList members, version⟩

/-- The snapshot after a list of changes of state. -/
def updateAll? (s : Snapshot) : List (Node × Status) → Option Snapshot
  | [] => some s
  | (n, st) :: l =>
    match s.update? n st with
    | some t => updateAll? t l
    | none => none

/-- The snapshot that the recipe describes, or `none` if the changes exhaust the versions. -/
def build? (r : Recipe) (base : Snapshot) : Option Snapshot :=
  (updateAll? (r.start.snapshot base) r.updates).map fun s =>
    { members := r.removed.foldl Table.erase s.members
      version := r.version.getD s.version }

end Recipe

end Snapshot

end ActorLocation
