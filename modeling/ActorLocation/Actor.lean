import ActorLocation.Digits
import ActorLocation.Sorting
/-!
# Actors

An actor is known by its type and a key; each time it is activated it gets a new activation
identifier, which tells the activations of one actor apart.

## Main definitions

* `ActorLocation.ActorType`, `ActorLocation.ActorId`, `ActorLocation.ActivationId` — the
  identities, with their text forms.
* `ActorId.le` — the order of actors: by type, then by key.

## Main results

* `ActorId.toText_injective` — the text form of an actor tells actors apart, whatever characters
  their keys hold.
-/

namespace ActorLocation

/-- A family of actors, such as all bank accounts. -/
structure ActorType where
  /-- The tag of the family. -/
  tag : UInt64
deriving DecidableEq, Repr, Inhabited

/-- Sixteen hexadecimal digits of a word. -/
def hexWord (w : UInt64) : List Char := Digits.fixed 16 16 w.toNat

/-- A word is known by its sixteen hexadecimal digits: sixteen of them have room for 64 bits, so
none is cut off. -/
theorem hexWord_injective {v w : UInt64} (h : hexWord v = hexWord w) : v = w := by
  have hv : v.toNat < Digits.capacity 16 16 := Nat.lt_of_lt_of_eq v.toNat_lt (by decide)
  have hw : w.toNat < Digits.capacity 16 16 := Nat.lt_of_lt_of_eq w.toNat_lt (by decide)
  exact UInt64.toNat_inj.1 (Digits.fixed_inj (by decide) (by decide) hv hw h)

namespace ActorType

instance : ToString ActorType where
  toString t := String.ofList (hexWord t.tag)

end ActorType

/-- An actor: its type, and its key among the actors of that type. -/
structure ActorId where
  /-- The family of the actor. -/
  actorType : ActorType
  /-- The key within the family; any text, the empty one included. -/
  key : String
deriving DecidableEq, Repr, Inhabited

namespace ActorId

/-- The text form: the type in sixteen digits, a slash and the key. -/
def toText (id : ActorId) : List Char := hexWord id.actorType.tag ++ '/' :: id.key.toList

instance : ToString ActorId where
  toString id := String.ofList id.toText

/-- The text form tells actors apart: the type has a fixed width, so the key starts at one place,
whatever it holds. -/
theorem toText_injective {a b : ActorId} (h : a.toText = b.toText) : a = b := by
  obtain ⟨⟨s⟩, k⟩ := a
  obtain ⟨⟨t⟩, l⟩ := b
  obtain ⟨h₁, h₂⟩ := List.append_inj h (by simp [hexWord])
  have hst : s = t := hexWord_injective h₁
  have hkl : k = l := String.toList_inj.1 (List.cons_inj_right '/' |>.1 h₂)
  rw [hst, hkl]

/-- The order of actors: by type, then by the code points of the key. -/
def le (a b : ActorId) : Bool :=
  decide (a.actorType.tag < b.actorType.tag) ||
    (a.actorType.tag == b.actorType.tag && decide (a.key ≤ b.key))

/-- The actors in ascending order. -/
def sort (l : List ActorId) : List ActorId := sortBy le l

end ActorId

/-- An activation of an actor. -/
structure ActivationId where
  /-- The number of the activation. -/
  num : UInt64
deriving DecidableEq, Repr, Inhabited

namespace ActivationId

instance : ToString ActivationId where
  toString a := "act-" ++ String.ofList (hexWord a.num)

end ActivationId

end ActorLocation
