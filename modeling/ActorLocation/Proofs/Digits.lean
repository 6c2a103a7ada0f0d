import ActorLocation.Digits
import Mathlib.Data.List.Induction
import Mathlib.Tactic.IntervalCases
import Mathlib.Tactic.SplitIfs
/-!
# Numerals that are written are read back

`Nat.toDigits` writes a number without leading zeros, and the readers of `Digits` take exactly the
digits that it wrote, provided that no further digit follows.

## Main definitions

* `ActorLocation.Digits.Spells` — a list of digits is the numeral of a number.
* `Digits.Reads` — the characters of a text are digits with given values.

## Main results

* `Digits.exists_spells_toDigits` — the digits that are written spell the number.
* `Digits.value_lt_capacity` — a bound on the number that so many digits spell.
* `Digits.Reads.span`, `Digits.exists_reads_span` — what is taken from the front of a text.
* `Digits.unsigned?_eq_some_iff` — which texts spell a number in decimal.
-/

namespace ActorLocation

namespace Digits

/-- Says that `ds` are the digits of `n`, without a leading zero unless it is the only digit. -/
structure Spells (base n : Nat) (ds : List Nat) : Prop where
  /-- The digits are below the base. -/
  lt_base : ∀ d ∈ ds, d < base
  /-- The number is their value. -/
  value_eq : value base ds = n
  /-- There is a digit. -/
  ne_nil : ds ≠ []
  /-- A leading zero is the only digit. -/
  head_zero : ds.head? = some 0 → ds = [0]

/-- A further digit at the end multiplies what was there by the base. -/
theorem value_append_singleton (base : Nat) (ds : List Nat) (d : Nat) :
    value base (ds ++ [d]) = base * value base ds + d := by
  simp [value]

/-- The digits that are written spell the number.

**Proof sketch.** Strong induction along `Nat.toDigits_of_base_le`: the digits of `n / base` are
followed by `n % base`.  A leading zero would make `n / base` zero, but `base ≤ n`. -/
theorem exists_spells_toDigits {base : Nat} (hb : 1 < base) (n : Nat) :
    ∃ ds, Spells base n ds ∧ Nat.toDigits base n = ds.map Nat.digitChar := by
  induction n using Nat.strong_induction_on with
  | _ n ih =>
    rcases Nat.lt_or_ge n base with h | h
    · refine ⟨[n], ⟨by simpa using h, by simp [value], by simp, ?_⟩, ?_⟩
      · simp
      · rw [Nat.toDigits_of_lt_base h, List.map_singleton]
    · obtain ⟨ds, hds, e⟩ := ih (n / base) (Nat.div_lt_self (by omega) hb)
      refine ⟨ds ++ [n % base], ⟨?_, ?_, by simp, ?_⟩, ?_⟩
      · intro d hd
        rcases List.mem_append.1 hd with hd | hd
        · exact hds.lt_base d hd
        · obtain rfl := List.mem_singleton.1 hd
          exact Nat.mod_lt n (by omega)
      · rw [value_append_singleton, hds.value_eq, Nat.div_add_mod]
      · -- A leading zero would be that of `n / base`, which would be zero then.
        intro h0
        obtain ⟨c, cs, rfl⟩ := List.exists_cons_of_ne_nil hds.ne_nil
        have hq := hds.value_eq
        rw [hds.head_zero (by simpa using h0)] at hq
        have : 0 < n / base := Nat.div_pos h (by omega)
        simp only [value, List.foldl_cons, List.foldl_nil] at hq
        omega
      · rw [Nat.toDigits_of_base_le hb h, e, List.map_append, List.map_singleton]

/-- A digit is read back from its character. -/
theorem digit?_digitChar {base d : Nat} (hb : base ≤ 16) (hd : d < base) :
    digit? base d.digitChar = some d := by
  have h16 : d < 16 := by omega
  interval_cases d <;> simp [digit?, Nat.digitChar] <;> omega

/-- Says that no digit is in front of the text. -/
def NoDigit (base : Nat) (s : List Char) : Prop := ∀ c ∈ s.head?, digit? base c = none

/-- At the end of a text there is no digit. -/
theorem noDigit_nil (base : Nat) : NoDigit base [] := by
  rintro c ⟨⟩

/-- Says that the characters of a text are digits with the given values. -/
def Reads (base : Nat) (t : List Char) (ds : List Nat) : Prop := t.map (digit? base) = ds.map some

/-- The digits of a text are read one character at a time. -/
theorem reads_cons_iff {base : Nat} {c : Char} {t : List Char} {ds : List Nat} :
    Reads base (c :: t) ds ↔
      ∃ d ds', ds = d :: ds' ∧ digit? base c = some d ∧ Reads base t ds' := by
  cases ds <;> simp [Reads]

/-- There are as many digits as characters. -/
theorem Reads.length_eq {base : Nat} {t : List Char} {ds : List Nat} (h : Reads base t ds) :
    ds.length = t.length := by
  simpa using (congrArg List.length h).symm

/-- The characters of a text are the digits that it is read as. -/
theorem Reads.isSome {base : Nat} {t : List Char} {ds : List Nat} (h : Reads base t ds) {c : Char}
    (hc : c ∈ t) : (digit? base c).isSome := by
  obtain ⟨d, -, hd⟩ := List.mem_map.1 (h ▸ List.mem_map_of_mem (f := digit? base) hc)
  rw [← hd]
  rfl

/-- The number that digits spell is less than the number of texts with as many digits.

**Proof sketch.** Induction from the end of the digits: the last one is below the base, so it does
not make up for the one that the others lack to their capacity. -/
theorem value_lt_capacity {base : Nat} {ds : List Nat} (h : ∀ d ∈ ds, d < base) :
    value base ds < capacity base ds.length := by
  induction ds using List.reverseRecOn with
  | nil => exact Nat.one_pos
  | append_singleton ds d ih =>
    have hd : d < base := h d (by simp)
    have hlt := ih fun d hd => h d (by simp [hd])
    rw [value_append_singleton, List.length_append, List.length_singleton, capacity]
    calc base * value base ds + d < base * (value base ds + 1) := by rw [Nat.mul_succ]; omega
      _ ≤ base * capacity base ds.length := Nat.mul_le_mul_left base hlt

/-- Digits that are read are below the base. -/
theorem Reads.lt_base {base : Nat} {t : List Char} {ds : List Nat} (h : Reads base t ds) :
    ∀ d ∈ ds, d < base := by
  intro d hd
  obtain ⟨c, -, hc⟩ := List.mem_map.1 (h ▸ List.mem_map_of_mem (f := some) hd)
  unfold digit? at hc
  obtain ⟨hlt, heq⟩ := Option.ite_none_right_eq_some.1 hc
  exact Option.some.inj heq ▸ hlt

/-- A text that consists of digits is read as their values. -/
theorem exists_reads {base : Nat} {t : List Char} (h : ∀ c ∈ t, (digit? base c).isSome) :
    ∃ ds, Reads base t ds := by
  induction t with
  | nil => exact ⟨[], rfl⟩
  | cons c t ih =>
    obtain ⟨d, hd⟩ := Option.isSome_iff_exists.1 (h c List.mem_cons_self)
    obtain ⟨ds, hds⟩ := ih fun c hc => h c (List.mem_cons_of_mem _ hc)
    exact ⟨d :: ds, reads_cons_iff.2 ⟨d, ds, rfl, hd, hds⟩⟩

/-- A number is written in digits that spell it. -/
theorem exists_reads_toDigits {base : Nat} (h1 : 1 < base) (hb : base ≤ 16) (n : Nat) :
    ∃ ds, Spells base n ds ∧ Reads base (Nat.toDigits base n) ds := by
  obtain ⟨ds, hds, e⟩ := exists_spells_toDigits h1 n
  refine ⟨ds, hds, ?_⟩
  rw [Reads, e, List.map_map]
  exact List.map_congr_left fun d hd => digit?_digitChar hb (hds.lt_base d hd)

/-- Exactly the digits in front of a text are taken from it.

**Proof sketch.** Induction on the digits in front.  Behind them the scan stops, at the end of the
text or at what is no digit. -/
theorem Reads.span {base : Nat} {t rest : List Char} {ds : List Nat} (h : Reads base t ds)
    (hr : NoDigit base rest) : span base (t ++ rest) = (ds, rest) := by
  induction t generalizing ds with
  | nil =>
    obtain rfl : ds = [] := List.map_eq_nil_iff.1 h.symm
    cases rest with
    | nil => rfl
    | cons c s =>
      have hc : digit? base c = none := hr c rfl
      simp [Digits.span, hc]
  | cons c t ih =>
    obtain ⟨d, ds, rfl, hc, ht⟩ := reads_cons_iff.1 h
    simp only [List.cons_append, Digits.span, hc, ih ht]

/-- What is taken from the front of a text are all the digits there.

**Proof sketch.** Induction on the text: a digit is taken and the scan goes on, and anything else
stops it. -/
theorem exists_reads_span (base : Nat) (s : List Char) :
    ∃ t, s = t ++ (span base s).2 ∧ Reads base t (span base s).1 ∧
      NoDigit base (span base s).2 := by
  induction s with
  | nil => exact ⟨[], rfl, rfl, noDigit_nil base⟩
  | cons c s ih =>
    rw [span]
    cases hc : digit? base c with
    | none => exact ⟨[], rfl, rfl, by rintro _ ⟨⟩; exact hc⟩
    | some d =>
      obtain ⟨t, hs, ht, hr⟩ := ih
      exact ⟨c :: t, congrArg (c :: ·) hs, reads_cons_iff.2 ⟨d, _, rfl, hc, ht⟩, hr⟩

/-! ### Whole texts -/

/-- A text spells a number if it consists of one or more digits.

**Proof sketch.** What the scan takes are digits (`exists_reads_span`), and the reader demands that
there is one and that nothing is left.  Conversely, a text of digits is taken to its end
(`Reads.span`). -/
theorem read?_eq_some_iff {base : Nat} {s : List Char} {n : Nat} :
    read? base s = some n ↔ ∃ ds, Reads base s ds ∧ ds ≠ [] ∧ value base ds = n := by
  constructor
  · intro h
    rw [read?] at h
    split at h
    · next d ds heq =>
      -- Nothing is left after the digits, so they are the whole text.
      obtain ⟨t, hs, ht, -⟩ := exists_reads_span base s
      rw [heq, List.append_nil] at hs
      rw [heq] at ht
      exact ⟨d :: ds, hs ▸ ht, by simp, Option.some.inj h⟩
    · contradiction
  · rintro ⟨ds, hds, hne, rfl⟩
    have hspan := hds.span (noDigit_nil base)
    obtain ⟨d, ds, rfl⟩ := List.exists_cons_of_ne_nil hne
    rw [List.append_nil] at hspan
    rw [read?, hspan]

/-- A text spells a number in decimal if it consists of one or more digits, perhaps with a plus sign
in front.

**Proof sketch.** A plus sign is no digit.  Hence a text that begins with one is read without it,
and any other text as it is; either way by `read?_eq_some_iff`. -/
theorem unsigned?_eq_some_iff {s : List Char} {n : Nat} :
    unsigned? s = some n ↔
      ∃ t ds, (s = t ∨ s = '+' :: t) ∧ Reads 10 t ds ∧ ds ≠ [] ∧ value 10 ds = n := by
  have hplus {t : List Char} {ds : List Nat} : ¬ Reads 10 ('+' :: t) ds := by
    rw [reads_cons_iff]
    rintro ⟨d, ds', -, hd, -⟩
    contradiction
  unfold unsigned?
  split
  · next r =>
    rw [read?_eq_some_iff]
    constructor
    · rintro ⟨ds, hds⟩
      exact ⟨r, ds, .inr rfl, hds⟩
    · rintro ⟨t, ds, rfl | heq, hds⟩
      · -- The sign cannot be one of the digits.
        exact absurd hds.1 hplus
      · exact ⟨ds, (List.cons.inj heq).2 ▸ hds⟩
  · next hs =>
    rw [read?_eq_some_iff]
    constructor
    · rintro ⟨ds, hds⟩
      exact ⟨s, ds, .inl rfl, hds⟩
    · rintro ⟨t, ds, rfl | rfl, hds⟩
      · exact ⟨ds, hds⟩
      · exact absurd rfl (hs t)

/-- A number is read back from its decimal digits. -/
theorem unsigned?_toDigits (n : Nat) : unsigned? (Nat.toDigits 10 n) = some n := by
  obtain ⟨ds, hds, hreads⟩ := exists_reads_toDigits (show 1 < 10 by decide) (by decide) n
  exact unsigned?_eq_some_iff.2 ⟨_, ds, .inl rfl, hreads, hds.ne_nil, hds.value_eq⟩

/-- The decimal digits are those characters that are called digits. -/
theorem isSome_digit?_ten (c : Char) : (digit? 10 c).isSome = c.isDigit := by
  have hle (a b : Char) : a ≤ b ↔ a.toNat ≤ b.toNat := Iff.rfl
  have h0 : '0'.toNat = 48 := rfl
  have h9 : '9'.toNat = 57 := rfl
  have hdigit : c.isDigit = true ↔ '0' ≤ c ∧ c ≤ '9' := by simp [Char.isDigit, Char.le_def]
  rw [Bool.eq_iff_iff, hdigit, digit?]
  simp only [hle, h0, h9]
  split_ifs <;> simp <;> omega

/-- A digit is a digit in every greater base. -/
theorem digit?_of_le {base base' : Nat} (h : base ≤ base') {c : Char} {d : Nat}
    (hd : digit? base c = some d) : digit? base' c = some d := by
  simp only [digit?] at hd ⊢
  split_ifs at hd ⊢ <;> simp only [Option.some.injEq] at hd ⊢ <;> omega

/-- Digits are read alike in every greater base. -/
theorem Reads.of_le {base base' : Nat} (h : base ≤ base') {t : List Char} {ds : List Nat}
    (ht : Reads base t ds) : Reads base' t ds := by
  induction t generalizing ds with
  | nil => exact ht
  | cons c t ih =>
    obtain ⟨d, ds, rfl, hc, ht⟩ := reads_cons_iff.1 ht
    exact reads_cons_iff.2 ⟨d, ds, rfl, digit?_of_le h hc, ih ht⟩

end Digits

end ActorLocation
