import ActorLocation.Format.Identity
import ActorLocation.Membership.Snapshot
/-!
# JSON forms of the membership

A snapshot is a record whose members would have nodes for names.  Names of members are texts, so
only a snapshot without members has a JSON form.

## Main definitions

* `toJson` and `ofJson?` of `ActorLocation.Version`, `Status` and `Member`.
* `Snapshot.toJson?`, `Snapshot.ofJson?` — the form of a snapshot without members.
* `Snapshot.toText` — its text, or why there is none.
-/

namespace ActorLocation

open Json (record fields?)

/-- The JSON form of a version. -/
def Version.toJson (v : Version) : Json := .word v.num

/-- Reads a version. -/
def Version.ofJson? (j : Json) : Option Version := j.word?.map Version.mk

namespace Status

/-- The state with the given name. -/
def ofName? (t : String) : Option Status :=
  [joining, active, stopping, dead].find? fun st => st.name = t

/-- The JSON form of a state: its name. -/
def toJson (st : Status) : Json := .text st.name

/-- Reads a state. -/
def ofJson? (j : Json) : Option Status := j.name?.bind ofName?

end Status

/-- The JSON form of a member. -/
def Member.toJson (m : Member) : Json :=
  record [("node", m.node.toJson), ("status", m.status.toJson), ("name", .text m.name)]

/-- Reads a member. -/
def Member.ofJson? (j : Json) : Option Member :=
  match fields? ["node", "status", "name"] j with
  | some [some n, some st, some t] => do
    return ⟨← Node.ofJson? n, ← Status.ofJson? st, ← t.text?⟩
  | _ => none

/-- The name of a member would not be a text, so there is no JSON form. -/
inductive NameError where
  /-- The name would be a node. -/
  | notText
deriving DecidableEq, Repr

/-- The wording of the error. -/
def NameError.message : NameError → String
  | notText => "key must be a string"

namespace Snapshot

/-- The JSON form of a snapshot, if it has one. -/
def toJson? (s : Snapshot) : Option Json :=
  if s.members.isEmpty then
    some (record [("members", .object []), ("version", s.version.toJson)])
  else none

/-- The JSON text of a snapshot, if it has one. -/
def toText (s : Snapshot) : Except NameError Octets :=
  match s.toJson? with
  | some j => .ok j.toOctets
  | none => .error .notText

/-- Reads a snapshot. -/
def ofJson? (j : Json) : Option Snapshot :=
  match fields? ["members", "version"] j with
  | some [some (.object []), some v] => do return ⟨∅, ← Version.ofJson? v⟩
  | _ => none

end Snapshot

end ActorLocation
