/-!
# Numerals

Digit texts of natural numbers, most significant digit first.  Printing is `Nat.toDigits`, and
`Digits.fixed` where the width is given; this module adds the readers.

## Main definitions

* `ActorLocation.Digits.digit?` — the value of a digit character.
* `Digits.span`, `Digits.value` — the digits at the front of a text, and the number they spell.
* `Digits.unsigned?` — the number that a whole text spells, an optional plus sign in front.
* `Digits.fixed` — the last digits of a number, in a given width.

## Main results

* `Digits.length_fixed`, `Digits.fixed_inj` — texts of one width tell numbers apart.
-/

namespace ActorLocation

namespace Digits

/-- The value of a digit in a base of at most sixteen; letters count from ten, in either case. -/
def digit? (base : Nat) (c : Char) : Option Nat :=
  let d :=
    if '0' ≤ c ∧ c ≤ '9' then c.toNat - '0'.toNat
    else if 'a' ≤ c ∧ c ≤ 'f' then c.toNat - 'a'.toNat + 10
    else if 'A' ≤ c ∧ c ≤ 'F' then c.toNat - 'A'.toNat + 10
    else base
  if d < base then some d else none

/-- The digits at the front of a text, and the rest of it. -/
def span (base : Nat) : List Char → List Nat × List Char
  | [] => ([], [])
  | c :: s =>
    match digit? base c with
    | some d => (d :: (span base s).1, (span base s).2)
    | none => ([], c :: s)

/-- The number that a list of digits spells. -/
def value (base : Nat) (ds : List Nat) : Nat := ds.foldl (fun n d => base * n + d) 0

/-- The number that a text spells, if it consists of one or more digits. -/
def read? (base : Nat) (s : List Char) : Option Nat :=
  match span base s with
  | (d :: ds, []) => some (value base (d :: ds))
  | _ => none

/-- The number that a text spells in decimal, if it consists of one or more digits after an
optional plus sign. -/
def unsigned? (s : List Char) : Option Nat :=
  match s with
  | '+' :: r => read? 10 r
  | _ => read? 10 s

/-- The last `width` digits of `n`, with leading zeros. -/
def fixed (base : Nat) : Nat → Nat → List Char
  | 0, _ => []
  | width + 1, n => fixed base width (n / base) ++ [(n % base).digitChar]

/-- A fixed number of digits is written, however small the number is. -/
@[simp] theorem length_fixed (base width n : Nat) : (fixed base width n).length = width := by
  induction width generalizing n with
  | zero => rfl
  | succ w ih => simp [fixed, ih]

/-- Digit characters up to base sixteen are distinct. -/
private theorem digitChar_inj {m n : Nat} (hm : m < 16) (hn : n < 16)
    (h : m.digitChar = n.digitChar) : m = n := by
  have key : ∀ a : Fin 16, ∀ b : Fin 16, a.val.digitChar = b.val.digitChar → a = b := by decide
  exact congrArg Fin.val (key ⟨m, hm⟩ ⟨n, hn⟩ h)

/-- The number of texts of `width` digits. -/
def capacity (base : Nat) : (width : Nat) → Nat
  | 0 => 1
  | width + 1 => base * capacity base width

/-- Numbers that fit the width are told apart by their digits. -/
theorem fixed_inj {base width m n : Nat} (hb : 0 < base) (hb' : base ≤ 16)
    (hm : m < capacity base width) (hn : n < capacity base width)
    (h : fixed base width m = fixed base width n) : m = n := by
  induction width generalizing m n with
  | zero => simp only [capacity] at hm hn; omega
  | succ w ih =>
    obtain ⟨h₁, h₂⟩ := List.append_inj' h rfl
    have hm' : m / base < capacity base w := Nat.div_lt_of_lt_mul hm
    have hn' : n / base < capacity base w := Nat.div_lt_of_lt_mul hn
    have hq := ih hm' hn' h₁
    have hr := digitChar_inj (Nat.lt_of_lt_of_le (Nat.mod_lt m hb) hb')
      (Nat.lt_of_lt_of_le (Nat.mod_lt n hb) hb') (List.singleton_inj.1 h₂)
    rw [← Nat.div_add_mod m base, ← Nat.div_add_mod n base, hq, hr]

end Digits

end ActorLocation
