import ActorLocation.Ascii
import ActorLocation.Octets
/-!
# JSON numerals

A numeral is kept as it is written: sign, whole digits, fraction digits and exponent.  Which number
it stands for, and whether that number is in the range of doubles, are functions of it.

## Main definitions

* `ActorLocation.Json.Numeral` — a numeral.
* `Numeral.ofNat`, `Numeral.toNat?` — plain digits, and their value.
* `Numeral.isFinite` — whether the number is in the range of doubles.
* `Numeral.toOctets`, `Numeral.read?` — its text form, and reading it.
-/

namespace ActorLocation

namespace Json

/-- A numeral, as it is written. -/
structure Numeral where
  /-- Whether there is a minus sign. -/
  negative : Bool := false
  /-- The digits before the point, without a leading zero unless it is the only digit. -/
  whole : List Char
  /-- The digits after the point; empty if there is no point. -/
  fraction : List Char := []
  /-- The exponent, if there is one: whether it has a minus sign, and its digits. -/
  exponent : Option (Bool × List Char) := none
deriving DecidableEq, Repr, Inhabited

namespace Numeral

/-! ### Values -/

/-- The numeral of a natural number: plain digits. -/
def ofNat (n : Nat) : Numeral where
  whole := Nat.toDigits 10 n

/-- Whether the numeral is written without point and exponent. -/
def isInteger (n : Numeral) : Bool := n.fraction.isEmpty && n.exponent.isNone

/-- The value of plain digits: `none` if there is a sign, a point or an exponent. -/
def toNat? (n : Numeral) : Option Nat :=
  if n.isInteger && !n.negative then some (Nat.ofDigitChars 10 n.whole 0) else none

/-! ### The range of doubles

A numeral is turned into a double by collecting digits in a word of 64 bits as long as they fit,
rounding that word to a double, and scaling it by a power of ten that is itself rounded to a
double.  Too large a result is out of range. -/

/-- Collects whole digits in a word that already holds `m`.  Returns the word and the number of
digits that no longer fit. -/
def collectWhole (m : Nat) : List Char → Nat × Nat
  | [] => (m, 0)
  | c :: ds =>
    let next := 10 * m + (c.toNat - '0'.toNat)
    if next < UInt64.size then collectWhole next ds else (m, ds.length + 1)

/-- Collects fraction digits in a word that already holds `m`.  Returns the word and the number of
digits that fitted. -/
def collectFraction (m : Nat) : List Char → Nat × Nat
  | [] => (m, 0)
  | c :: ds =>
    let next := 10 * m + (c.toNat - '0'.toNat)
    if next < UInt64.size then
      let (m, count) := collectFraction next ds
      (m, count + 1)
    else (m, 0)

/-- The natural number with 53 significant bits that is nearest to `n`, a tie going to the even
one. -/
def roundSignificant (n : Nat) : Nat :=
  let shift := n.log2 - 52
  let unit := 1 <<< shift
  let q := n / unit
  let r := n % unit
  if unit < 2 * r ∨ (unit = 2 * r ∧ q % 2 = 1) then (q + 1) * unit else q * unit

/-- The least product that rounds to a number beyond the greatest double: half a unit in the last
place above that double, where the tie goes up. -/
def overflowBound : Nat := (1 <<< 1024) - (1 <<< 970)

/-- Whether `m` scaled by the power of ten with exponent `e` is in the range of doubles. -/
def scaledIsFinite (m : Nat) (e : Int) : Bool :=
  m = 0 || e < 0 ||
    (e ≤ 308 && roundSignificant m * roundSignificant (Nat.pow 10 e.toNat) < overflowBound)

/-- Whether the number is in the range of doubles; an integer that fits a word always is. -/
def isFinite (n : Numeral) : Bool :=
  let (m, dropped) := collectWhole 0 n.whole
  if n.isInteger && dropped = 0 then true
  else
    let (m, taken) := collectFraction m n.fraction
    let power : Int :=
      match n.exponent with
      | none => 0
      | some (true, ds) => -(Nat.ofDigitChars 10 ds 0 : Int)
      | some (false, ds) => Nat.ofDigitChars 10 ds 0
    scaledIsFinite m (dropped - taken + power)

/-! ### Text form -/

/-- The text form. -/
def toOctets (n : Numeral) : Octets :=
  (if n.negative then [Ascii.minus] else []) ++ Ascii.ofChars n.whole ++
    (if n.fraction.isEmpty then [] else Ascii.dot :: Ascii.ofChars n.fraction) ++
    match n.exponent with
    | none => []
    | some (true, ds) => 'e'.toUInt8 :: Ascii.minus :: Ascii.ofChars ds
    | some (false, ds) => 'e'.toUInt8 :: Ascii.ofChars ds

/-- The digits in front of a text, and the rest of it. -/
def readDigits (s : Octets) : List Char × Octets :=
  ((s.takeWhile Ascii.isDigit).map Ascii.toChar, s.dropWhile Ascii.isDigit)

/-- Reads the digits before the point: one or more, and no leading zero among several. -/
def readWhole? (s : Octets) : Option (List Char × Octets) :=
  match readDigits s with
  | ([], _) => none
  | ('0' :: _ :: _, _) => none
  | (ds, rest) => some (ds, rest)

/-- Reads the point and the digits after it, if there is a point. -/
def readFraction? : Octets → Option (List Char × Octets)
  | Ascii.dot :: s =>
    match readDigits s with
    | ([], _) => none
    | (ds, rest) => some (ds, rest)
  | s => some ([], s)

/-- Reads the sign of an exponent, if there is one. -/
def readSign : Octets → Bool × Octets
  | Ascii.minus :: s => (true, s)
  | Ascii.plus :: s => (false, s)
  | s => (false, s)

/-- Reads the exponent, if there is one. -/
def readExponent? : Octets → Option (Option (Bool × List Char) × Octets)
  | [] => some (none, [])
  | b :: s =>
    if b = 'e'.toUInt8 ∨ b = 'E'.toUInt8 then
      match readDigits (readSign s).2 with
      | ([], _) => none
      | (ds, rest) => some (some ((readSign s).1, ds), rest)
    else some (none, b :: s)

/-- Reads the part of a numeral behind its sign. -/
def readUnsigned? (negative : Bool) (s : Octets) : Option (Numeral × Octets) := do
  let (whole, s) ← readWhole? s
  let (fraction, s) ← readFraction? s
  let (exponent, s) ← readExponent? s
  return ({ negative, whole, fraction, exponent }, s)

/-- Reads the numeral in front of a text. -/
def read? : Octets → Option (Numeral × Octets)
  | Ascii.minus :: s => readUnsigned? true s
  | s => readUnsigned? false s

end Numeral

end Json

end ActorLocation
