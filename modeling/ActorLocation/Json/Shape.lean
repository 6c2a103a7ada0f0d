import ActorLocation.Json.Basic
/-!
# Shapes of JSON values

Records, words and names have more than one JSON form.  A record is an object with its fields in
any order, or an array of its fields in their order; a name is a text, or an object whose only
member has that name and the value null.

## Main definitions

* `ActorLocation.Json.text?`, `Json.nat?`, `Json.word?`, `Json.items?` — the readers of simple
  values.
* `Json.fields?` — the values of the fields of a record, where present.
* `Json.name?` — the name that stands for a case of an enumeration.
-/

namespace ActorLocation

namespace Json

/-- The text that a value denotes. -/
def text? : Json → Option String
  | string t => t
  | _ => none

/-- The natural number that a value denotes, written in plain digits. -/
def nat? : Json → Option Nat
  | number n => n.toNat?
  | _ => none

/-- The word of 64 bits that a value denotes. -/
def word? (j : Json) : Option UInt64 :=
  match j.nat? with
  | some n => if n < UInt64.size then some (UInt64.ofNat n) else none
  | none => none

/-- The items of an array. -/
def items? : Json → Option (List Json)
  | array items => some items
  | _ => none

/-- Whether every member has a name. -/
def allNamed (members : List (Option String × Json)) : Bool := members.all fun m => m.1.isSome

/-- The value of the field `name`: `some none` if no member has that name, and `none` if more than
one has it. -/
def field? (members : List (Option String × Json)) (name : String) : Option (Option Json) :=
  match members.filter fun m => m.1 = some name with
  | [] => some none
  | [m] => some (some m.2)
  | _ => none

/-- The values of the fields with the given names in an object that may have further members. -/
def memberFields? (names : List String) (members : List (Option String × Json)) :
    Option (List (Option Json)) :=
  if allNamed members then names.mapM (field? members) else none

/-- The values of fields that are given in their order, the last ones possibly left out. -/
def itemFields? (names : List String) (items : List Json) : Option (List (Option Json)) :=
  if items.length ≤ names.length then
    some (items.map some ++ List.replicate (names.length - items.length) none)
  else none

/-- The values of the fields of a record, in the order of `names`; a field that the value leaves
out is `none`. -/
def fields? (names : List String) : Json → Option (List (Option Json))
  | object members => memberFields? names members
  | array items => itemFields? names items
  | _ => none

/-- The name that a value denotes. -/
def name? : Json → Option String
  | string t => t
  | object [(name, null)] => name
  | _ => none

/-- The value of a field that may be left out or be null. -/
def optional? {α : Type} (read? : Json → Option α) : Option Json → Option (Option α)
  | none | some null => some none
  | some j => (read? j).map some

/-- The value of a field that has a default. -/
def orDefault? {α : Type} (default : α) (read? : Json → Option α) : Option Json → Option α
  | none => some default
  | some j => read? j

end Json

end ActorLocation
