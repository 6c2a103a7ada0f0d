import ActorLocation.Json.Basic
import ActorLocation.Json.Quoted
/-!
# Reading JSON texts

The grammar of JSON over octets: blanks are allowed around values and punctuation, and nothing may
follow the value.  Octets outside the range of ASCII occur in quoted texts only, and what they
denote is left to `Quoted`.

## Main definitions

* `ActorLocation.Json.ofOctets?` — the value that a whole text denotes.

## Implementation notes

The readers of values, items and members call one another, each on a rest of the text.  A call that
does not consume an octet is followed by one that does, so twice the length of the text bounds the
depth of calls.
-/

namespace ActorLocation

namespace Json

/-- The text without the blanks in front. -/
def skipBlanks (s : Octets) : Octets := s.dropWhile Ascii.isBlank

/-- Reads a keyword. -/
def keyword? (word : String) (value : Json) (s : Octets) : Option (Json × Octets) :=
  let w := Octets.ofText word
  if w.isPrefixOf s then some (value, s.drop w.length) else none

/-- Reads a value that is neither an array nor an object. -/
def readScalar? (s : Octets) : Option (Json × Octets) :=
  match s with
  | Ascii.quote :: s => (Quoted.read? s).map fun (t, rest) => (.string t, rest)
  | _ =>
    (keyword? "null" .null s).or <| (keyword? "true" (.bool true) s).or <|
      (keyword? "false" (.bool false) s).or <|
        (Numeral.read? s).map fun (n, rest) => (.number n, rest)

mutual

/-- Reads a value, blanks in front of it skipped. -/
def readValue? : (depth : Nat) → Octets → Option (Json × Octets)
  | 0, _ => none
  | depth + 1, s =>
    match skipBlanks s with
    | Ascii.openBracket :: s =>
      match skipBlanks s with
      | Ascii.closeBracket :: s => some (.array [], s)
      | s => (readItems? depth s).map fun (js, rest) => (.array js, rest)
    | Ascii.openBrace :: s =>
      match skipBlanks s with
      | Ascii.closeBrace :: s => some (.object [], s)
      | s => (readMembers? depth s).map fun (ms, rest) => (.object ms, rest)
    | s => readScalar? s

/-- Reads one or more items of an array and the closing bracket. -/
def readItems? : (depth : Nat) → Octets → Option (List Json × Octets)
  | 0, _ => none
  | depth + 1, s =>
    match readValue? depth s with
    | none => none
    | some (j, s) =>
      match skipBlanks s with
      | Ascii.comma :: s => (readItems? depth s).map fun (js, rest) => (j :: js, rest)
      | Ascii.closeBracket :: s => some ([j], s)
      | _ => none

/-- Reads one or more members of an object and the closing bracket. -/
def readMembers? : (depth : Nat) → Octets → Option (List (Option String × Json) × Octets)
  | 0, _ => none
  | depth + 1, s =>
    match skipBlanks s with
    | Ascii.quote :: s =>
      match Quoted.read? s with
      | none => none
      | some (name, s) =>
        match skipBlanks s with
        | Ascii.colon :: s =>
          match readValue? depth s with
          | none => none
          | some (j, s) =>
            match skipBlanks s with
            | Ascii.comma :: s =>
              (readMembers? depth s).map fun (ms, rest) => ((name, j) :: ms, rest)
            | Ascii.closeBrace :: s => some ([(name, j)], s)
            | _ => none
        | _ => none
    | _ => none

end

/-- The value that a whole text denotes. -/
def ofOctets? (s : Octets) : Option Json :=
  match readValue? (2 * s.length + 2) s with
  | some (j, rest) => if (skipBlanks rest).isEmpty then some j else none
  | none => none

end Json

end ActorLocation
