import ActorLocation.Json.Numeral
/-!
# JSON values

A JSON value as the grammar sees it: members of objects keep their order and may repeat a name, and
a quoted text need not denote a text.

## Main definitions

* `ActorLocation.Json` — values.
* `Json.text`, `Json.nat`, `Json.word`, `Json.record` — the values that are written.
* `Json.isHoldable` — whether a value can be held in memory: every quoted text denotes a text, every
  number is in the range of doubles, and the nesting is not too deep.
-/

namespace ActorLocation

/-- A JSON value. -/
inductive Json where
  /-- The null value. -/
  | null
  /-- A truth value. -/
  | bool (b : Bool)
  /-- A number. -/
  | number (n : Json.Numeral)
  /-- A quoted text, or `none` if what is quoted denotes no text. -/
  | string (t : Option String)
  /-- An array. -/
  | array (items : List Json)
  /-- An object: its members, with their names. -/
  | object (members : List (Option String × Json))
deriving Inhabited

namespace Json

/-- A text. -/
def text (t : String) : Json := .string (some t)

/-- A natural number. -/
def nat (n : Nat) : Json := .number (.ofNat n)

/-- A word of 64 bits. -/
def word (w : UInt64) : Json := nat w.toNat

/-- An object with the given fields. -/
def record (fields : List (String × Json)) : Json :=
  .object (fields.map fun (name, value) => (some name, value))

/-- The members of a record are its fields, with names that are texts. -/
theorem record_eq (fields : List (String × Json)) :
    record fields = .object (fields.map fun f => (some f.1, f.2)) := rfl

mutual

/-- Whether a value can be held in memory with at most `room` open arrays and objects. -/
def isHoldable (room : Nat) : Json → Bool
  | null => true
  | bool _ => true
  | number n => n.isFinite
  | string t => t.isSome
  | array items => decide (0 < room) && itemsHoldable (room - 1) items
  | object members => decide (0 < room) && membersHoldable (room - 1) members

/-- Whether all items can be held in memory. -/
def itemsHoldable (room : Nat) : List Json → Bool
  | [] => true
  | j :: js => isHoldable room j && itemsHoldable room js

/-- Whether all members and their names can be held in memory. -/
def membersHoldable (room : Nat) : List (Option String × Json) → Bool
  | [] => true
  | (name, j) :: ms => name.isSome && isHoldable room j && membersHoldable room ms

end

end Json

end ActorLocation
