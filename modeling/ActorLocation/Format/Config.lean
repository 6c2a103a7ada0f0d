import ActorLocation.Config
import ActorLocation.Format.Placement
/-!
# JSON forms of configurations

A configuration is a record, and fields that it leaves out have their defaults.  Only a consistent
configuration is read from a text.

## Main definitions

* `ActorLocation.Config.toJson`, `Config.ofJson?` — the JSON form.
* `Config.ofText` — reads a consistent configuration from a text.
-/

namespace ActorLocation

open Json (record fields? orDefault?)

namespace BackendKind

/-- The JSON form: the name. -/
def toJson (k : BackendKind) : Json := .text k.name

/-- Reads a kind. -/
def ofJson? (j : Json) : Option BackendKind := j.name?.bind ofName?

end BackendKind

namespace Config

/-- The JSON form of a strategy of a single type. -/
def placementToJson (p : ActorType × Strategy) : Json := .array [p.1.toJson, p.2.toJson]

/-- The JSON form of a configuration. -/
def toJson (c : Config) : Json :=
  record
    [("directory", c.backend.toJson), ("max_unregister_batch", .word c.maxUnregisterBatch),
      ("reconcile_retry_ms", .word c.reconcileRetryMs),
      ("default_placement", c.defaultPlacement.toJson),
      ("placements", .array (c.placements.map placementToJson))]

/-- Reads the strategy of a single type.  The strategy stands inside three others: the
configuration, the list of strategies, and the pair of type and strategy. -/
def placementOfJson? : Json → Option (ActorType × Strategy)
  | .array [t, s] => do return (← ActorType.ofJson? t, ← Strategy.ofJson? 3 s)
  | _ => none

/-- Reads the strategies of single types. -/
def placementsOfJson? (j : Json) : Option (List (ActorType × Strategy)) :=
  j.items?.bind fun items => items.mapM placementOfJson?

/-- Reads a configuration, consistent or not. -/
def ofJson? (j : Json) : Option Config :=
  match
    fields? ["directory", "max_unregister_batch", "reconcile_retry_ms", "default_placement",
      "placements"] j with
  | some [backend, batch, retry, default, placements] => do
    return {
      backend := ← orDefault? .inMemory BackendKind.ofJson? backend
      maxUnregisterBatch := ← orDefault? 100 Json.word? batch
      reconcileRetryMs := ← orDefault? 1000 Json.word? retry
      defaultPlacement := ← orDefault? .random (Strategy.ofJson? 1) default
      placements := ← orDefault? [] placementsOfJson? placements }
  | _ => none

/-- Reads a consistent configuration from a text. -/
def ofText (o : Octets) : Except ConfigError Config :=
  match (Json.ofOctets? o).bind ofJson? with
  | some c => c.validate
  | none => .error .malformed

end Config

end ActorLocation
