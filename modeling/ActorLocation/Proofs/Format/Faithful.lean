import ActorLocation.Format.Config
import ActorLocation.Format.Membership
import ActorLocation.Proofs.Format.Placement
/-!
# Values survive their JSON texts

A format consists of a way to write values and a way to read them.  If what is written is read back,
then a text that is read, in whatever form, can be replaced by the text of the value that it
denotes: that text denotes the same value, and writing it again changes nothing.

## Main definitions

* `ActorLocation.Json.encode`, `ActorLocation.Json.decode?` — the text of a value, and the value of
  a text, in a format.
* `Json.Faithful` — values survive their texts.

## Main results

* `ActorLocation.Member.ofJson?_toJson`, `ActorLocation.Config.ofJson?_toJson` — members and
  configurations are read back.
* `ActorLocation.Json.forms_faithful` — the stored and configured values survive their texts.
-/

namespace ActorLocation

namespace Json

/-! ### Formats -/

section Format

variable {α : Type} (write : α → Json) (read? : Json → Option α)

/-- The text of a value. -/
def encode (v : α) : Octets := (write v).toOctets

/-- The value that a text denotes. -/
def decode? (o : Octets) : Option α := (ofOctets? o).bind read?

/-- Says that values survive their texts: the text of a value denotes it, and once a text has been
read, the text of its value denotes the same value and is its own text. -/
def Faithful : Prop :=
  (∀ v, decode? read? (encode write v) = some v) ∧
    ∀ o v, decode? read? o = some v →
      decode? read? (encode write v) = some v ∧
        ∀ w, decode? read? (encode write v) = some w → encode write w = encode write v

variable {write} {read?}

/-- A format is faithful if what it writes is read back before it becomes a text.

**Proof sketch.** The text of a value is read as the form in which it was written, since that form
can be written (`ofOctets?_toOctets`).  So the text of `v` denotes `v` and nothing else, whichever
text `v` was read from. -/
theorem faithful_of_read_back (hw : ∀ v, Written (write v)) (hr : ∀ v, read? (write v) = some v) :
    Faithful write read? := by
  have hback (v : α) : decode? read? (encode write v) = some v := by
    rw [decode?, encode, ofOctets?_toOctets (hw v), Option.bind_some, hr]
  refine ⟨hback, fun o v _ => ⟨hback v, fun w h => ?_⟩⟩
  rw [hback v] at h
  rw [Option.some.inj h]

end Format

end Json

open Json

/-! ### Members -/

namespace Status

/-- A status is read back from its name. -/
@[simp] theorem ofJson?_toJson (st : Status) : ofJson? st.toJson = some st := by
  cases st <;> rfl

end Status

namespace Member

/-- A member is made of what can be written. -/
theorem written_toJson (m : Member) : Written m.toJson := by
  refine .record ?_
  simp only [List.mem_cons, List.not_mem_nil, or_false]
  rintro f (rfl | rfl | rfl)
  · exact m.node.written_toJson
  · exact .text _
  · exact .text _

/-- A member is read back. -/
@[simp] theorem ofJson?_toJson (m : Member) : ofJson? m.toJson = some m := by
  simp [ofJson?, toJson, fields?_record, List.lookup_cons]

end Member

/-! ### Configurations -/

namespace BackendKind

/-- The kind of a backend is read back from its name. -/
@[simp] theorem ofJson?_toJson (k : BackendKind) : ofJson? k.toJson = some k := by
  cases k <;> rfl

end BackendKind

namespace Config

/-- An entry for a type is made of what can be written. -/
theorem written_placementToJson (p : ActorType × Strategy) : Written (placementToJson p) := by
  refine .array ?_
  simp only [List.mem_cons, List.not_mem_nil, or_false]
  rintro j (rfl | rfl)
  · exact .word _
  · exact p.2.written_toJson

/-- A configuration is made of what can be written, field by field. -/
theorem written_toJson (c : Config) : Written c.toJson := by
  refine .record ?_
  simp only [List.mem_cons, List.not_mem_nil, or_false]
  rintro f (rfl | rfl | rfl | rfl | rfl)
  · exact .text _
  · exact .word _
  · exact .word _
  · exact c.defaultPlacement.written_toJson
  · refine .array fun j hj => ?_
    obtain ⟨p, -, rfl⟩ := List.mem_map.1 hj
    exact written_placementToJson p

/-- An entry for a type is read back.  Its strategy stands inside three arrays and objects, which
leaves room enough for it. -/
@[simp] theorem placementOfJson?_placementToJson (p : ActorType × Strategy) :
    placementOfJson? (placementToJson p) = some p := by
  have hstrategy := p.2.ofJson?_toJson (show 3 + 3 ≤ Strategy.maxOpen by decide)
  simp [placementOfJson?, placementToJson, hstrategy]

/-- A list of entries is read back, in order. -/
@[simp] theorem placementsOfJson?_map (ps : List (ActorType × Strategy)) :
    placementsOfJson? (.array (ps.map placementToJson)) = some ps := by
  have hread : ps.mapM (placementOfJson? ∘ placementToJson) = some (ps.map id) :=
    mapM_eq_some_map fun p _ => placementOfJson?_placementToJson p
  change (ps.map placementToJson).mapM placementOfJson? = some ps
  rw [List.mapM_map, hread, List.map_id]

/-- A configuration is read back, consistent or not. -/
@[simp] theorem ofJson?_toJson (c : Config) : ofJson? c.toJson = some c := by
  have hdefault := c.defaultPlacement.ofJson?_toJson (show 1 + 3 ≤ Strategy.maxOpen by decide)
  simp [ofJson?, toJson, fields?_record, List.lookup_cons, orDefault?, hdefault]

end Config

/-! ### All formats -/

namespace Json

/-- Actors, nodes, registrations with a token or without, members, strategies and configurations
survive their texts.  What a store keeps for a registration denotes that registration for its actor,
with the version for a token, and is corrupt for any other.

**Proof sketch.** Each format is faithful because what it writes can be written and is read back
(`faithful_of_read_back`).  A strategy on its own stands inside nothing, so there is room enough. -/
theorem forms_faithful :
    Faithful ActorId.toJson ActorId.ofJson? ∧ Faithful Node.toJson Node.ofJson? ∧
      Faithful Registration.toJson Registration.ofJson? ∧
      Faithful Member.toJson Member.ofJson? ∧
      Faithful Strategy.toJson (Strategy.ofJson? 0) ∧ Faithful Config.toJson Config.ofJson? ∧
      ∀ (r : Registration) (id : ActorId) (version : UInt64),
        OverStore.decode id ⟨r.toStored, version⟩ =
          if r.actor = id then .ok (r.withEtag ⟨version⟩)
          else .error (.corrupted id (OverStore.belongsTo r.actor)) := by
  have hstrategy (s : Strategy) := s.ofJson?_toJson (show 0 + 3 ≤ Strategy.maxOpen by decide)
  exact
    ⟨faithful_of_read_back ActorId.written_toJson ActorId.ofJson?_toJson,
      faithful_of_read_back Node.written_toJson Node.ofJson?_toJson,
      faithful_of_read_back Registration.written_toJson Registration.ofJson?_toJson,
      faithful_of_read_back Member.written_toJson Member.ofJson?_toJson,
      faithful_of_read_back Strategy.written_toJson hstrategy,
      faithful_of_read_back Config.written_toJson Config.ofJson?_toJson,
      OverStore.decode_toStored_eq⟩

/-- The text of a configuration with its fields in another order, among them an unknown one, with
array forms, with an escape, and with defaults left out. -/
def unusual : Octets :=
  Octets.ofText <|
    "\x7b\"placements\":[[7,[\"fixed\"," ++
      "\x7b\"generation\":3,\"endpoint\":[\"::FFFF:9.8.7.6\",80]\x7d]]]," ++
      "\"note\":[1.5,null],\"dir\\u0065ctory\":\"key_value\"\x7d"

/-- The configuration that the text denotes. -/
def usual : Config where
  backend := .keyValue
  placements :=
    [(⟨7⟩, .fixed ⟨⟨.v6 ⟨[0, 0, 0, 0, 0, 0xffff, 0x908, 0x706], rfl⟩, 80⟩, 3⟩)]

/-- From then on the configuration is read from its own text. -/
theorem forms_faithful_unusual :
    decode? Config.ofJson? unusual = some usual ∧
      decode? Config.ofJson? (encode Config.toJson usual) = some usual := by
  obtain ⟨-, -, -, -, -, ⟨-, hstable⟩, -⟩ := forms_faithful
  have hread : decode? Config.ofJson? unusual = some usual := by decide +kernel
  exact ⟨hread, (hstable _ _ hread).1⟩

end Json

end ActorLocation
