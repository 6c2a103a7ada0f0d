import ActorLocation.Directory.Backend
import ActorLocation.Table
/-!
# The directory in memory

A table of registrations, for a cluster in one process.  Each registration that is stored gets the
next token; tokens are not used again.

## Main definitions

* `ActorLocation.InMemory` — the table, as a `Backend`.
-/

namespace ActorLocation

/-- A directory in memory. -/
structure InMemory where
  /-- The registrations. -/
  entries : Table ActorId Registration := ∅
  /-- The token of the next registration that is stored. -/
  nextEtag : UInt64 := 1
deriving Inhabited

namespace InMemory

/-- The number of registrations that are deleted in one batch. -/
def maxBatch : Nat := 1024

/-- The registrations, in no particular order. -/
def toList (d : InMemory) : List Registration := d.entries.values

/-- Stores a registration unless its actor has one, and returns the one that is stored. -/
def register (d : InMemory) (r : Registration) : Registration × InMemory :=
  match d.entries.find? r.actor with
  | some stored => (stored, d)
  | none =>
    let stored := r.withEtag ⟨d.nextEtag⟩
    (stored, { entries := d.entries.insert r.actor stored, nextEtag := d.nextEtag + 1 })

/-- Deletes the stored registration if the given one releases it. -/
def unregister (d : InMemory) (r : Registration) : InMemory :=
  { d with entries := d.entries.eraseIf r.actor fun stored => r.Releases stored }

/-- Deletes all registrations on the given nodes and returns them. -/
def unregisterNodes (d : InMemory) (nodes : List Node) : List Registration × InMemory :=
  (d.entries.values.filter fun r => r.node ∈ nodes,
    { d with entries := d.entries.filter fun _ r => r.node ∉ nodes })

instance : Backend InMemory where
  capabilities _ := { bulkRemoval := true, maxBatch }
  lookup d id := (.ok (d.entries.find? id), d)
  register d r := (.ok (d.register r).1, (d.register r).2)
  unregister d r := (.ok (), d.unregister r)
  unregisterNodes d nodes := (.ok (d.unregisterNodes nodes).1, (d.unregisterNodes nodes).2)

end InMemory

end ActorLocation
