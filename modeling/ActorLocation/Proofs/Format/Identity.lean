import ActorLocation.Directory.OverStore
import ActorLocation.Proofs.Ip.RoundTrip
import ActorLocation.Proofs.Json.RoundTrip
import ActorLocation.Proofs.Json.Shape
/-!
# Stored registrations are read back

The record that a store keeps for a registration is read as that registration, without its token.
Together with the key of the actor it determines what the stored value means.

## Main results

* `ActorLocation.Registration.ofStored?_toStored` — the stored form is read back.
* `ActorLocation.OverStore.storageKey_injective` — no two actors share a key.
* `ActorLocation.OverStore.decode_toStored` — the stored form means the registration with the
  version for a token.
-/

namespace ActorLocation

open Json

/-! ### Actors -/

/-- A type is read back from its tag. -/
@[simp] theorem ActorType.ofJson?_toJson (t : ActorType) : ofJson? t.toJson = some t := by
  simp [ofJson?, toJson]

/-- The identifier of an activation is read back from its number. -/
@[simp] theorem ActivationId.ofJson?_toJson (a : ActivationId) : ofJson? a.toJson = some a := by
  simp [ofJson?, toJson]

namespace ActorId

/-- An actor is made of what can be written. -/
theorem written_toJson (id : ActorId) : Written id.toJson := by
  refine .record ?_
  simp only [List.mem_cons, List.not_mem_nil, or_false]
  rintro f (rfl | rfl)
  · exact .word _
  · exact .text _

/-- An actor is read back. -/
@[simp] theorem ofJson?_toJson (id : ActorId) : ofJson? id.toJson = some id := by
  simp [ofJson?, toJson, fields?_record, List.lookup_cons]

end ActorId

/-! ### Nodes -/

namespace Endpoint

/-- An endpoint is made of what can be written. -/
theorem written_toJson (e : Endpoint) : Written e.toJson := by
  refine .record ?_
  simp only [List.mem_cons, List.not_mem_nil, or_false]
  rintro f (rfl | rfl)
  · exact .text _
  · exact .nat _

/-- An endpoint is read back: the address from its text form (`IpAddress.ofText?_toText`), and the
port from a number that is small enough. -/
@[simp] theorem ofJson?_toJson (e : Endpoint) : ofJson? e.toJson = some e := by
  have hport : portOfJson? (nat e.port.toNat) = some e.port := by
    have := e.port.toNat_lt
    simp [portOfJson?, this]
  have hip : IpAddress.ofJson? e.ip.toJson = some e.ip := by
    simp [IpAddress.ofJson?, IpAddress.toJson, toString, IpAddress.ofText?_toText]
  simp [ofJson?, toJson, fields?_record, List.lookup_cons, hport, hip]

end Endpoint

namespace Node

/-- A node is made of what can be written. -/
theorem written_toJson (n : Node) : Written n.toJson := by
  refine .record ?_
  simp only [List.mem_cons, List.not_mem_nil, or_false]
  rintro f (rfl | rfl)
  · exact n.endpoint.written_toJson
  · exact .word _

/-- A node is read back. -/
@[simp] theorem ofJson?_toJson (n : Node) : ofJson? n.toJson = some n := by
  simp [ofJson?, toJson, fields?_record, List.lookup_cons]

end Node

/-! ### Registrations -/

/-- A token is read back from the field that holds it. -/
theorem Etag.optional?_toJson (e : Etag) : optional? ofJson? (some e.toJson) = some (some e) := by
  change (ofJson? e.toJson).map some = some (some e)
  simp [ofJson?, toJson]

namespace Registration

/-- The fields of the stored form are made of what can be written. -/
theorem written_of_mem_storedFields {r : Registration} {f : String × Json}
    (hf : f ∈ r.storedFields) : Written f.2 := by
  simp only [storedFields, List.mem_cons, List.not_mem_nil, or_false] at hf
  rcases hf with rfl | rfl | rfl
  · exact r.actor.written_toJson
  · exact r.node.written_toJson
  · exact .word _

/-- The stored form is made of what can be written. -/
theorem written_storedFields (r : Registration) : Written (record r.storedFields) :=
  .record fun _ => written_of_mem_storedFields

/-- The stored form is read back, without the token. -/
theorem ofStored?_toStored (r : Registration) :
    ofStored? r.toStored = some { r with etag := none } := by
  rw [ofStored?, toStored, ofOctets?_toOctets r.written_storedFields]
  simp [storedFields, fields?_record, List.lookup_cons]

/-- A registration is made of what can be written, with its token or without one. -/
theorem written_toJson (r : Registration) : Written r.toJson := by
  refine .record fun f hf => ?_
  have hfields : f ∈ r.storedFields ∨ ∃ e : Etag, f = ("etag", e.toJson) := by
    obtain ⟨actor, node, activation, etag⟩ := r
    cases etag with
    | none => exact .inl (by simpa using hf)
    | some e => exact (List.mem_append.1 hf).imp id fun h => ⟨e, List.mem_singleton.1 h⟩
  rcases hfields with hf | ⟨e, rfl⟩
  · exact written_of_mem_storedFields hf
  · exact .word _

/-- A registration is read back, with its token or without one. -/
@[simp] theorem ofJson?_toJson (r : Registration) : ofJson? r.toJson = some r := by
  obtain ⟨actor, node, activation, etag⟩ := r
  cases etag with
  | none => simp [ofJson?, toJson, storedFields, fields?_record, List.lookup_cons, optional?]
  | some e =>
    simp [ofJson?, toJson, storedFields, fields?_record, List.lookup_cons, e.optional?_toJson]

end Registration

namespace OverStore

/-- No two actors share a key. -/
theorem storageKey_injective {a b : ActorId} (h : storageKey a = storageKey b) : a = b :=
  ActorId.toText_injective (String.ofList_injective h)

/-- The stored form of a registration means that registration for its actor, with the version for
a token, and nothing for any other. -/
theorem decode_toStored_eq (r : Registration) (id : ActorId) (version : UInt64) :
    decode id ⟨r.toStored, version⟩ =
      if r.actor = id then .ok (r.withEtag ⟨version⟩)
      else .error (.corrupted id (belongsTo r.actor)) := by
  simp [decode, r.ofStored?_toStored, Registration.withEtag]

/-- The stored form of a registration means that registration for its own actor. -/
theorem decode_toStored (r : Registration) (version : UInt64) :
    decode r.actor ⟨r.toStored, version⟩ = .ok (r.withEtag ⟨version⟩) := by
  rw [decode_toStored_eq, if_pos rfl]

/-- The meaning of a stored value is a registration of the actor, with the version for a token. -/
theorem of_decode_eq_ok {id : ActorId} {v : Versioned} {r : Registration}
    (h : decode id v = .ok r) : r.actor = id ∧ r.etag = some ⟨v.version⟩ := by
  rw [decode] at h
  split at h
  · contradiction
  · next s hs =>
    split at h
    · next hid =>
      rw [← Except.ok.inj h]
      exact ⟨hid, rfl⟩
    · contradiction

end OverStore

end ActorLocation
