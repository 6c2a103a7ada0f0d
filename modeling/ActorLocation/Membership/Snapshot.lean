import ActorLocation.Node
import ActorLocation.Table
/-!
# Membership snapshots

A snapshot says which nodes belong to the cluster and in which state they are.  Snapshots are
versioned, and the version grows with every change.

## Main definitions

* `ActorLocation.Version`, `ActorLocation.Status`, `ActorLocation.Member`,
  `ActorLocation.Snapshot` — versions, the states of a member, members, and snapshots.
* `Snapshot.withActive`, `Snapshot.update?` — a first snapshot, and the one after a change.
* `Snapshot.IsDead`, `Snapshot.IsTerminating` — a node is gone, or about to go.
* `Snapshot.activeNodes`, `Snapshot.newlyDeadSince` — who can serve, and who has died.
-/

namespace ActorLocation

/-! ### Versions -/

/-- The version of a snapshot. -/
structure Version where
  /-- The number of the version. -/
  num : UInt64
deriving DecidableEq, Repr, Inhabited

namespace Version

instance : ToString Version where
  toString v := "v" ++ toString v.num.toNat

instance : LE Version := ⟨fun v w => v.num ≤ w.num⟩

instance (v w : Version) : Decidable (v ≤ w) := inferInstanceAs (Decidable (v.num ≤ w.num))

instance : LT Version := ⟨fun v w => v.num < w.num⟩

instance (v w : Version) : Decidable (v < w) := inferInstanceAs (Decidable (v.num < w.num))

/-- Versions are ordered by their numbers, so the laws of the order are those of words. -/
theorem le_refl (v : Version) : v ≤ v := UInt64.le_refl v.num

/-- What is no newer than an older version is no newer than the newer one either. -/
theorem le_trans {u v w : Version} (h : u ≤ v) (h' : v ≤ w) : u ≤ w := UInt64.le_trans h h'

/-- A version that is older than an older one is older. -/
theorem lt_trans {u v w : Version} (h : u < v) (h' : v < w) : u < w := UInt64.lt_trans h h'

/-- Whoever is at most at an older version is behind the newer one. -/
theorem lt_of_le_of_lt {u v w : Version} (h : u ≤ v) (h' : v < w) : u < w :=
  UInt64.lt_of_le_of_lt h h'

/-- An older version is at most the newer one. -/
theorem le_of_lt {v w : Version} (h : v < w) : v ≤ w := UInt64.le_of_lt h

/-- A newer version is not at most an older one. -/
theorem not_le_of_lt {v w : Version} (h : v < w) : ¬ w ≤ v := UInt64.not_le.2 h

/-- Versions are totally ordered: a version that is not at most another one is newer. -/
theorem lt_of_not_le {v w : Version} (h : ¬ v ≤ w) : w < v := UInt64.not_le.1 h

/-- A version that is not older than another one is at least as new. -/
theorem le_of_not_lt {v w : Version} (h : ¬ v < w) : w ≤ v := UInt64.not_lt.1 h

/-- The version before any change. -/
def initial : Version := ⟨0⟩

/-- The version after a change, or `none` if this is the greatest version. -/
def next? (v : Version) : Option Version :=
  if v.num.toNat + 1 < UInt64.size then some ⟨v.num + 1⟩ else none

end Version

/-! ### Members -/

/-- The state of a member of the cluster. -/
inductive Status where
  /-- The node is announced, but does not serve yet. -/
  | joining
  /-- The node serves. -/
  | active
  /-- The node finishes its work and takes no more. -/
  | stopping
  /-- The node is gone. -/
  | dead
deriving DecidableEq, Repr, Inhabited

namespace Status

/-- The name of the state. -/
def name : Status → String
  | joining => "Joining"
  | active => "Active"
  | stopping => "Stopping"
  | dead => "Dead"

instance : ToString Status := ⟨name⟩

/-- Whether a node in this state must not get new activations. -/
def isTerminating : Status → Bool
  | stopping | dead => true
  | joining | active => false

end Status

/-- A member of the cluster. -/
structure Member where
  /-- The node. -/
  node : Node
  /-- Its state. -/
  status : Status
  /-- A name for people to read. -/
  name : String
deriving DecidableEq, Repr, Inhabited

/-- Whether the member serves. -/
def Member.isActive (m : Member) : Bool := m.status = .active

/-! ### Snapshots -/

/-- The membership of the cluster at one version. -/
structure Snapshot where
  /-- The members, each under the node that it is listed for. -/
  members : Table Node Member
  /-- The version. -/
  version : Version
deriving Inhabited

namespace Snapshot

/-- The snapshot without members, at the first version. -/
def empty : Snapshot := ⟨∅, .initial⟩

/-- The name of a member that is the first to be listed after `i` others. -/
def memberName (i : Nat) : String := "node-" ++ toString i

/-- The snapshot in which exactly the given nodes are members, all of them active. -/
def withActive (version : Version) (nodes : List Node) : Snapshot where
  members := Table.ofList (nodes.zipIdx.map fun (n, i) => (n, ⟨n, .active, memberName i⟩))
  version := version

/-- The member that results from setting the state of `node`: a listed member keeps its name. -/
def setStatus (s : Snapshot) (node : Node) (status : Status) : Member :=
  match s.members.find? node with
  | some m => { m with status }
  | none => ⟨node, status, memberName s.members.size⟩

/-- The snapshot after the state of `node` has changed, which lists it if it was not yet a member,
or `none` if there is no next version. -/
def update? (s : Snapshot) (node : Node) (status : Status) : Option Snapshot :=
  s.version.next?.map fun version =>
    { members := s.members.insert node (s.setStatus node status), version }

/-- The state of a node, if it is a member. -/
def status? (s : Snapshot) (n : Node) : Option Status := (s.members.find? n).map Member.status

/-- Says that a node is gone: its state is dead, or a later incarnation is listed at its endpoint.
A node that is not listed is not dead for that. -/
def IsDead (s : Snapshot) (n : Node) : Prop :=
  s.status? n = some .dead ∨ ∃ m ∈ s.members.keys, n.SupersededBy m

instance (s : Snapshot) (n : Node) : Decidable (s.IsDead n) :=
  inferInstanceAs (Decidable (_ ∨ _))

/-- Says that a node must not get new activations: it stops, or it is gone. -/
def IsTerminating (s : Snapshot) (n : Node) : Prop :=
  (∃ st ∈ s.status? n, st.isTerminating = true) ∨ s.IsDead n

instance (s : Snapshot) (n : Node) : Decidable (s.IsTerminating n) :=
  inferInstanceAs (Decidable (_ ∨ _))

/-- The nodes of the active members, in ascending order. -/
def activeNodes (s : Snapshot) : List Node :=
  Node.sort ((s.members.values.filter Member.isActive).map Member.node)

/-- The nodes listed now or before that are dead now and were not dead before, in ascending
order. -/
def newlyDeadSince (s previous : Snapshot) : List Node :=
  (Node.sortDistinct (s.members.keys ++ previous.members.keys)).filter
    fun n => s.IsDead n ∧ ¬ previous.IsDead n

/-- Says that two snapshots have the same version and list the same members. -/
def Same (s t : Snapshot) : Prop := s.version = t.version ∧ s.members.Same t.members

instance (s t : Snapshot) : Decidable (s.Same t) := inferInstanceAs (Decidable (_ ∧ _))

end Snapshot

end ActorLocation
