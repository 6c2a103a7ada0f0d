import ActorLocation.Format.Placement
import ActorLocation.Proofs.Format.Identity
import ActorLocation.Proofs.Json.Holdable
/-!
# Strategies are read back

The fields of a strategy are held in memory before its kind is known.  Those that are written can be
held wherever they stand, provided that there is room for three more objects.

## Main results

* `ActorLocation.Strategy.ofJson?_toJson` — a strategy is read back.
-/

namespace ActorLocation

open Json

/-- An endpoint can be held in memory where one more object may be open. -/
@[simp] theorem Endpoint.isHoldable_toJson (room : Nat) (e : Endpoint) :
    isHoldable (room + 1) e.toJson = true := by
  have hport : e.port.toNat < UInt64.size :=
    Nat.lt_of_lt_of_le e.port.toNat_lt (by decide)
  rw [toJson, isHoldable_record]
  simp [IpAddress.toJson, isHoldable_nat room hport]

/-- A node can be held in memory where two more objects may be open: the node itself and its
endpoint. -/
@[simp] theorem Node.isHoldable_toJson (room : Nat) (n : Node) :
    isHoldable (room + 2) n.toJson = true := by
  rw [toJson, isHoldable_record]
  simp

namespace Strategy

/-- A strategy can be held in memory where three more objects may be open, whether or not it names a
node. -/
@[simp] theorem isHoldable_toJson (room : Nat) (s : Strategy) :
    isHoldable (room + 3) s.toJson = true := by
  rw [toJson, isHoldable_record]
  cases s <;> simp [parameters]

/-- A strategy is made of what can be written. -/
theorem written_toJson (s : Strategy) : Written s.toJson := by
  refine .record fun f hf => ?_
  rcases List.mem_cons.1 hf with rfl | hf
  · exact .text _
  · cases s with
    | statelessWorker limit => exact List.mem_singleton.1 hf ▸ .word _
    | fixed target => exact List.mem_singleton.1 hf ▸ target.written_toJson
    | random | preferLocal | hashBased => contradiction

/-- No parameter has the name that the kind has. -/
theorem kind_not_mem_parameters (s : Strategy) : "kind" ∉ s.parameters.map Prod.fst := by
  cases s <;> simp [parameters]

/-- No two parameters of a strategy have one name. -/
theorem nodup_parameters (s : Strategy) : (s.parameters.map Prod.fst).Nodup := by
  cases s <;> simp [parameters]

/-- A strategy is read from the name of its kind and its parameters.

**Proof sketch.** The parameters are looked up by their names, and these are distinct
(`nodup_parameters`).  Then by cases on the strategy, of which two have a parameter. -/
theorem ofParameters?_parameters (s : Strategy) :
    (Kind.ofName? s.kindName).bind (ofParameters? ·
      (memberFields? · (s.parameters.map fun f => (some f.1, f.2)))) = some s := by
  have hfields (names : List String) :
      memberFields? names (s.parameters.map fun f => (some f.1, f.2)) =
        some (names.map fun name => s.parameters.lookup name) :=
    fields?_record s.nodup_parameters names
  cases s with
  | random | preferLocal | hashBased => rfl
  | statelessWorker limit =>
    simp only [Kind.ofName?, kindName, ofParameters?, hfields]
    simp [parameters]
  | fixed target =>
    simp only [Kind.ofName?, kindName, ofParameters?, hfields]
    simp [parameters]

/-- The kind is found among the members of a strategy. -/
theorem filter_kind (s : Strategy) :
    ((("kind", text s.kindName) :: s.parameters).map fun f => (some f.1, f.2)).filter
      (fun m => m.1 = some "kind") = [(some "kind", text s.kindName)] := by
  have hnodup : ((("kind", text s.kindName) :: s.parameters).map Prod.fst).Nodup :=
    List.nodup_cons.2 ⟨s.kind_not_mem_parameters, s.nodup_parameters⟩
  rw [filter_record hnodup, List.lookup_cons_self]
  rfl

/-- The other members of a strategy are its parameters. -/
theorem filter_ne_kind (s : Strategy) :
    ((("kind", text s.kindName) :: s.parameters).map fun f => (some f.1, f.2)).filter
      (fun m => m.1 ≠ some "kind") = s.parameters.map fun f => (some f.1, f.2) := by
  rw [List.map_cons, List.filter_cons_of_neg (by simp), List.filter_eq_self]
  intro m hm
  obtain ⟨f, hf, rfl⟩ := List.mem_map.1 hm
  simpa using fun heq => s.kind_not_mem_parameters (List.mem_map.2 ⟨f, hf, heq⟩)

/-- A strategy is read back, inside so many arrays and objects that three more may be open.

**Proof sketch.** There is room for what a strategy is made of, so its members are read.  The kind
is found among them (`filter_kind`), the others are the parameters (`filter_ne_kind`), and both
together give the strategy (`ofParameters?_parameters`). -/
theorem ofJson?_toJson {outer : Nat} (h : outer + 3 ≤ maxOpen) (s : Strategy) :
    ofJson? outer s.toJson = some s := by
  obtain ⟨room, hroom⟩ := Nat.exists_eq_add_of_le' (Nat.le_sub_of_add_le' h)
  have hread : ofJson? outer s.toJson =
      ofMembers? ((("kind", text s.kindName) :: s.parameters).map fun f => (some f.1, f.2)) := by
    unfold ofJson?
    rw [hroom, if_pos (isHoldable_toJson room s)]
    rfl
  rw [hread, ofMembers?, s.filter_kind, s.filter_ne_kind]
  exact s.ofParameters?_parameters

end Strategy

end ActorLocation
