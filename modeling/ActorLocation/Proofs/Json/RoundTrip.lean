import ActorLocation.Json.Parser
import ActorLocation.Json.Printer
import ActorLocation.Proofs.Digits
import ActorLocation.Proofs.Json.Quoted
/-!
# JSON values that are written are read back

The library writes texts, natural numbers, arrays and records.  The compact text form of such a
value is read as that value, and the reader stops right behind it.

## Main definitions

* `ActorLocation.Json.Written` — the values that are written.
* `Json.Delimited` — a text that cannot continue the value in front of it.
* `Json.IsRead` — a value is read from the front of each text that begins with its text form.

## Main results

* `Json.Written.isRead` — every value that is written is read.
* `Json.ofOctets?_toOctets` — the text form of a value that is written denotes that value.
-/

namespace ActorLocation

namespace Json

/-- The values that are written. -/
inductive Written : Json → Prop where
  /-- A text. -/
  | text (t : String) : Written (text t)
  /-- A natural number. -/
  | nat (n : Nat) : Written (nat n)
  /-- An array of such values. -/
  | array {items : List Json} (h : ∀ j ∈ items, Written j) : Written (array items)
  /-- A record of such values. -/
  | record {fields : List (String × Json)} (h : ∀ f ∈ fields, Written f.2) :
    Written (record fields)

/-- A word is written as a natural number. -/
theorem Written.word (w : UInt64) : Written (Json.word w) := .nat _

/-- Says that a text cannot continue a value that stands in front of it: it is empty, or begins
with punctuation. -/
def Delimited (s : Octets) : Prop :=
  ∀ b ∈ s.head?, b = Ascii.comma ∨ b = Ascii.closeBracket ∨ b = Ascii.closeBrace

/-! ### Numerals -/

/-- The octet of a decimal digit is a digit, and its character is the digit again. -/
theorem isDigit_digitChar {d : Nat} (hd : d < 10) :
    Ascii.isDigit d.digitChar.toUInt8 = true ∧
      Ascii.toChar d.digitChar.toUInt8 = d.digitChar := by
  have key : ∀ d : Fin 10, Ascii.isDigit d.val.digitChar.toUInt8 = true ∧
      Ascii.toChar d.val.digitChar.toUInt8 = d.val.digitChar := by decide
  exact key ⟨d, hd⟩

/-- Punctuation is no digit. -/
theorem Delimited.readDigits {s : Octets} (hs : Delimited s) : Numeral.readDigits s = ([], s) := by
  cases s with
  | nil => rfl
  | cons b s =>
    have hb : Ascii.isDigit b = false := by
      rcases hs b rfl with rfl | rfl | rfl <;> rfl
    simp [Numeral.readDigits, hb]

/-- Exactly the digits that were written are read.

**Proof sketch.** Induction on the digits: each is read from its octet (`isDigit_digitChar`), and
the delimited text behind them has none in front. -/
theorem readDigits_ofChars {ds : List Nat} (hds : ∀ d ∈ ds, d < 10) {rest : Octets}
    (hr : Delimited rest) :
    Numeral.readDigits (Ascii.ofChars (ds.map Nat.digitChar) ++ rest) =
      (ds.map Nat.digitChar, rest) := by
  induction ds with
  | nil => exact hr.readDigits
  | cons d ds ih =>
    obtain ⟨h₁, h₂⟩ := isDigit_digitChar (hds d List.mem_cons_self)
    have ih := ih fun d hd => hds d (List.mem_cons_of_mem _ hd)
    simp only [Numeral.readDigits, Prod.mk.injEq] at ih
    simp only [Numeral.readDigits, Ascii.ofChars, List.map_cons, List.cons_append,
      List.takeWhile_cons, List.dropWhile_cons, h₁, if_true, h₂, Prod.mk.injEq, List.cons.injEq,
      true_and]
    exact ih

/-- Punctuation begins no fraction. -/
theorem Delimited.readFraction? {s : Octets} (hs : Delimited s) :
    Numeral.readFraction? s = some ([], s) := by
  cases s with
  | nil => rfl
  | cons b s => rcases hs b rfl with rfl | rfl | rfl <;> rfl

/-- Punctuation begins no exponent. -/
theorem Delimited.readExponent? {s : Octets} (hs : Delimited s) :
    Numeral.readExponent? s = some (none, s) := by
  cases s with
  | nil => rfl
  | cons b s => rcases hs b rfl with rfl | rfl | rfl <;> rfl

/-- The whole digits of a numeral are read, since it has no leading zero.

**Proof sketch.** The digits are read in full (`readDigits_ofChars`), and the reader refuses two
things: that there is none, and that a zero comes before others.  A numeral has neither fault
(`Digits.exists_spells_toDigits`). -/
theorem readWhole?_toDigits (n : Nat) {rest : Octets} (hr : Delimited rest) :
    Numeral.readWhole? (Ascii.ofChars (Nat.toDigits 10 n) ++ rest) =
      some (Nat.toDigits 10 n, rest) := by
  obtain ⟨ds, hds, e⟩ := Digits.exists_spells_toDigits (show 1 < 10 by decide) n
  rw [Numeral.readWhole?, e, readDigits_ofChars hds.lt_base hr]
  obtain ⟨d, ds, rfl⟩ := List.exists_cons_of_ne_nil hds.ne_nil
  split
  · next h => simp at h
  · next h =>
    simp only [List.map_cons, Prod.mk.injEq, List.cons.injEq, Nat.digitChar_eq_zero] at h
    obtain ⟨⟨rfl, h⟩, -⟩ := h
    have := hds.head_zero rfl
    simp only [List.cons.injEq, true_and] at this
    simp [this] at h
  · next h => simp only [Prod.mk.injEq] at h; rw [h.1, h.2]

/-- A numeral begins with a digit. -/
theorem toOctets_ofNat (n : Nat) :
    ∃ d < 10, ∃ s, (Numeral.ofNat n).toOctets = d.digitChar.toUInt8 :: s := by
  obtain ⟨ds, hds, e⟩ := Digits.exists_spells_toDigits (show 1 < 10 by decide) n
  obtain ⟨d, ds, rfl⟩ := List.exists_cons_of_ne_nil hds.ne_nil
  refine ⟨d, hds.lt_base d List.mem_cons_self, Ascii.ofChars (ds.map Nat.digitChar), ?_⟩
  simp [Numeral.toOctets, Numeral.ofNat, e, Ascii.ofChars]

/-- The numeral of a natural number is read back. -/
theorem read?_ofNat (n : Nat) {rest : Octets} (hr : Delimited rest) :
    Numeral.read? ((Numeral.ofNat n).toOctets ++ rest) = some (Numeral.ofNat n, rest) := by
  have hform : (Numeral.ofNat n).toOctets = Ascii.ofChars (Nat.toDigits 10 n) := by
    simp [Numeral.toOctets, Numeral.ofNat]
  obtain ⟨d, hd, s, hs⟩ := toOctets_ofNat n
  have hunsigned : Numeral.read? ((Numeral.ofNat n).toOctets ++ rest) =
      Numeral.readUnsigned? false ((Numeral.ofNat n).toOctets ++ rest) := by
    rw [hs]
    interval_cases d <;> rfl
  rw [hunsigned, hform, Numeral.readUnsigned?, readWhole?_toDigits n hr]
  simp only [Option.bind_eq_bind, Option.bind_some, hr.readFraction?, hr.readExponent?]
  rfl

/-! ### The first octet of a value -/

/-- Says that an octet can be the first of a value that is written. -/
def Opens (b : UInt8) : Prop :=
  b = Ascii.quote ∨ b = Ascii.openBracket ∨ b = Ascii.openBrace ∨
    ∃ d < 10, b = Char.toUInt8 (Nat.digitChar d)

/-- A value begins neither with a blank nor with a closing bracket. -/
theorem Opens.not_blank {b : UInt8} (hb : Opens b) :
    Ascii.isBlank b = false ∧ b ≠ Ascii.closeBracket := by
  rcases hb with rfl | rfl | rfl | ⟨d, hd, rfl⟩
  · decide
  · decide
  · decide
  · interval_cases d <;> decide

/-- The text form of a value that is written begins as a value can begin.

**Proof sketch.** By cases on the value: a quotation mark, a digit, a bracket or a brace is in
front. -/
theorem Written.toOctets_eq_cons {j : Json} (hj : Written j) :
    ∃ b s, toOctets j = b :: s ∧ Opens b := by
  cases hj with
  | text t => exact ⟨_, _, by rw [Json.text, toOctets, quotedOctets, Quoted.encode]; rfl, .inl rfl⟩
  | nat n =>
    obtain ⟨d, hd, s, h⟩ := toOctets_ofNat n
    exact ⟨_, s, by rw [Json.nat, toOctets, h], .inr (.inr (.inr ⟨d, hd, rfl⟩))⟩
  | array _ => exact ⟨_, _, by rw [toOctets], .inr (.inl rfl)⟩
  | record _ => exact ⟨_, _, by rw [Json.record, toOctets], .inr (.inr (.inl rfl))⟩

/-- Where no blank is in front, none is skipped. -/
theorem skipBlanks_cons {b : UInt8} (hb : Ascii.isBlank b = false) (s : Octets) :
    skipBlanks (b :: s) = b :: s := by
  rw [skipBlanks, List.dropWhile_cons, hb, if_neg (by simp)]

/-- What begins with a quotation mark is read as a text. -/
theorem readValue?_quote (depth : Nat) (s : Octets) :
    readValue? (depth + 1) (Ascii.quote :: s) =
      (Quoted.read? s).map fun (t, rest) => (.string t, rest) := by
  rw [readValue?.eq_def]
  rfl

/-- What begins with a digit is read as a number. -/
theorem readValue?_digit (depth : Nat) {d : Nat} (hd : d < 10) (s : Octets) :
    readValue? (depth + 1) (d.digitChar.toUInt8 :: s) =
      (Numeral.read? (d.digitChar.toUInt8 :: s)).map fun (n, rest) => (.number n, rest) := by
  rw [readValue?.eq_def]
  interval_cases d <;> rfl

/-- What begins with an opening bracket and a value is read as an array of items. -/
theorem readValue?_array (depth : Nat) {b : UInt8} (hb : Opens b) (s : Octets) :
    readValue? (depth + 1) (Ascii.openBracket :: b :: s) =
      (readItems? depth (b :: s)).map fun (js, rest) => (.array js, rest) := by
  rw [readValue?.eq_2, skipBlanks_cons (by decide)]
  split
  · next t h =>
    rw [← (List.cons.inj h).2, skipBlanks_cons hb.not_blank.1]
    split
    · next h => exact absurd (List.cons.inj h).1 hb.not_blank.2
    · rfl
  · next h => exact absurd (List.cons.inj h).1 (by decide)
  · next h _ => exact absurd rfl (h _)

/-- What begins with an opening brace and a quotation mark is read as an object with members. -/
theorem readValue?_object (depth : Nat) (s : Octets) :
    readValue? (depth + 1) (Ascii.openBrace :: Ascii.quote :: s) =
      (readMembers? depth (Ascii.quote :: s)).map fun (ms, rest) => (.object ms, rest) := by
  rw [readValue?.eq_def]
  rfl

/-! ### Values -/

/-- Says that a value is read from the front of each text that begins with its text form and goes
on with a delimited text.  Twice the length of the text form bounds the depth of the calls. -/
def IsRead (j : Json) : Prop :=
  ∀ depth rest, 2 * (toOctets j).length ≤ depth → Delimited rest →
    readValue? depth (toOctets j ++ rest) = some (j, rest)

/-- What begins with punctuation cannot continue a value. -/
theorem delimited_cons {b : UInt8}
    (hb : b = Ascii.comma ∨ b = Ascii.closeBracket ∨ b = Ascii.closeBrace) (s : Octets) :
    Delimited (b :: s) := by
  rintro c ⟨⟩
  exact hb

/-- The text form of items begins with that of the first one. -/
theorem itemsOctets_cons (j : Json) (js : List Json) :
    ∃ s, itemsOctets (j :: js) = toOctets j ++ s := by
  cases js <;> exact ⟨_, by simp only [itemsOctets]; rfl⟩

/-- The text form of members begins with the quotation mark of the first name. -/
theorem membersOctets_cons (name : String) (j : Json) (ms : List (Option String × Json)) :
    ∃ s, membersOctets ((some name, j) :: ms) = Ascii.quote :: s := by
  cases ms <;> exact ⟨_, by simp only [membersOctets, quotedOctets, Quoted.encode]; rfl⟩

/-- The items of an array are read if each of them is.

**Proof sketch.** Induction on the items.  Behind an item stands the closing bracket or a comma,
neither of which continues the item. -/
theorem readItems?_itemsOctets {js : List Json} (hne : js ≠ []) (hjs : ∀ j ∈ js, IsRead j)
    {depth : Nat} (hd : 2 * (itemsOctets js).length < depth) (rest : Octets) :
    readItems? depth (itemsOctets js ++ rest) = some (js, rest) := by
  induction js generalizing depth with
  | nil => exact absurd rfl hne
  | cons j js ih =>
    obtain ⟨depth, rfl⟩ : ∃ d, depth = d + 1 := ⟨depth - 1, by omega⟩
    have hj := hjs j List.mem_cons_self
    cases js with
    -- The last item has the closing bracket behind it.
    | nil =>
      simp only [itemsOctets, List.length_append, List.length_singleton] at hd
      rw [itemsOctets, List.append_assoc, List.singleton_append, readItems?.eq_def]
      dsimp only
      rw [hj depth _ (by omega) (delimited_cons (by decide) rest)]
      rfl
    | cons j' js =>
      have hjs' : ∀ j ∈ j' :: js, IsRead j := fun j h => hjs j (List.mem_cons_of_mem _ h)
      rw [itemsOctets.eq_3 _ _ (by simp)] at hd ⊢
      simp only [List.length_append, List.length_cons] at hd
      rw [List.append_assoc, List.cons_append, readItems?.eq_def]
      dsimp only
      rw [hj depth _ (by omega) (delimited_cons (by decide) _)]
      change (readItems? depth (itemsOctets (j' :: js) ++ rest)).map _ = _
      rw [ih (by simp) hjs' (by omega)]
      rfl

/-- A member is read up to the punctuation behind its value, which says whether it is the last.

**Proof sketch.** The name is read back (`Quoted.read?_encode`), the colon follows, and the value is
read up to the punctuation, which cannot continue it.  Then the reader looks at the punctuation. -/
theorem readMembers?_member {name : String} {j : Json} (hj : IsRead j) {depth : Nat} {b : UInt8}
    (hb : b = Ascii.comma ∨ b = Ascii.closeBracket ∨ b = Ascii.closeBrace)
    (hd : 2 * (toOctets j).length ≤ depth) (s : Octets) :
    readMembers? (depth + 1)
        (Quoted.encode name ++ Ascii.colon :: (toOctets j ++ b :: s)) =
      if b = Ascii.comma then
        (readMembers? depth s).map fun r => ((some name, j) :: r.1, r.2)
      else if b = Ascii.closeBrace then some ([(some name, j)], s) else none := by
  obtain ⟨q, hq, hread⟩ := Quoted.read?_encode name (Ascii.colon :: (toOctets j ++ b :: s))
  have hblank : Ascii.isBlank b = false := by rcases hb with rfl | rfl | rfl <;> rfl
  rw [hq, readMembers?.eq_2, skipBlanks_cons (by decide)]
  split
  · next t h =>
    rw [← (List.cons.inj h).2, hread]
    dsimp only
    rw [skipBlanks_cons (by decide)]
    split
    · next t h =>
      rw [← (List.cons.inj h).2, hj depth _ hd (delimited_cons hb s)]
      dsimp only
      rw [skipBlanks_cons hblank]
      rcases hb with rfl | rfl | rfl <;> rfl
    · next h => exact absurd rfl (h _)
  · next h => exact absurd rfl (h _)

/-- The members of an object are read if each of their values is.

**Proof sketch.** Induction on the fields, as for the items of an array (`readItems?_itemsOctets`);
the step is `readMembers?_member`, with a brace behind the last member and a comma behind the
others. -/
theorem readMembers?_membersOctets {fields : List (String × Json)} (hne : fields ≠ [])
    (hf : ∀ f ∈ fields, IsRead f.2) {depth : Nat}
    (hd : 2 * (membersOctets (fields.map fun f => (some f.1, f.2))).length < depth)
    (rest : Octets) :
    readMembers? depth (membersOctets (fields.map fun f => (some f.1, f.2)) ++ rest) =
      some (fields.map fun f => (some f.1, f.2), rest) := by
  induction fields generalizing depth with
  | nil => exact absurd rfl hne
  | cons f fields ih =>
    obtain ⟨depth, rfl⟩ : ∃ d, depth = d + 1 := ⟨depth - 1, by omega⟩
    obtain ⟨name, j⟩ := f
    have hj : IsRead j := hf _ List.mem_cons_self
    cases fields with
    -- The last member has the closing brace behind it.
    | nil =>
      simp only [List.map_cons, List.map_nil, membersOctets, quotedOctets, List.length_append,
        List.length_cons, List.length_nil] at hd
      simp only [List.map_cons, List.map_nil, membersOctets, quotedOctets, List.append_assoc,
        List.cons_append, List.nil_append]
      rw [readMembers?_member hj (by decide) (by omega)]
      rfl
    -- Behind the other members stands a comma.
    | cons f' fields =>
      have hf' : ∀ f ∈ f' :: fields, IsRead f.2 := fun f h => hf f (List.mem_cons_of_mem _ h)
      have ih (h : _ < depth) := ih (by simp) hf' h
      simp only [List.map_cons, membersOctets, quotedOctets, List.length_append,
        List.length_cons] at hd ih
      simp only [List.map_cons, membersOctets, quotedOctets, List.append_assoc, List.cons_append]
      rw [readMembers?_member hj (by decide) (by omega)]
      change (readMembers? depth _).map _ = _
      rw [ih (by omega)]
      rfl

/-- Every value that is written is read.

**Proof sketch.** Induction on the value, by the first octet of its text form: a quotation mark, a
digit, a bracket or a brace.  An array or object spends two calls on its bracket, which is an octet
of its own. -/
theorem Written.isRead {j : Json} (hj : Written j) : IsRead j := by
  induction hj with
  | text t =>
    intro depth rest hd _
    rw [Json.text, toOctets, quotedOctets] at hd ⊢
    obtain ⟨s, hs, hread⟩ := Quoted.read?_encode t rest
    obtain ⟨depth, rfl⟩ : ∃ d, depth = d + 1 :=
      ⟨depth - 1, by simp [Quoted.encode] at hd; omega⟩
    rw [hs, readValue?_quote, hread]
    rfl
  | nat n =>
    intro depth rest hd hr
    rw [Json.nat, toOctets] at hd ⊢
    have hread := read?_ofNat n hr
    obtain ⟨d, hd10, s, hs⟩ := toOctets_ofNat n
    rw [hs] at hd hread ⊢
    obtain ⟨depth, rfl⟩ : ∃ d, depth = d + 1 := ⟨depth - 1, by simp at hd; omega⟩
    rw [List.cons_append] at hread ⊢
    rw [readValue?_digit depth hd10, hread]
    rfl
  | @array items h ih =>
    intro depth rest hd _
    rw [toOctets] at hd ⊢
    rw [List.length_cons] at hd
    obtain ⟨depth, rfl⟩ : ∃ d, depth = d + 1 := ⟨depth - 1, by omega⟩
    cases items with
    | nil => rw [itemsOctets, readValue?.eq_def]; rfl
    | cons j js =>
      have hread := readItems?_itemsOctets (by simp) ih
        (show 2 * (itemsOctets (j :: js)).length < depth by omega) rest
      obtain ⟨t, ht⟩ := itemsOctets_cons j js
      -- An item begins as a value can begin, so the bracket is not closed at once.
      obtain ⟨b, s, hs, hb⟩ := (h j List.mem_cons_self).toOctets_eq_cons
      rw [ht, hs] at hread ⊢
      rw [List.cons_append, List.cons_append, List.cons_append, readValue?_array depth hb]
      rw [List.cons_append, List.cons_append] at hread
      rw [hread]
      rfl
  | @record fields h ih =>
    intro depth rest hd _
    rw [record_eq, toOctets] at hd ⊢
    rw [List.length_cons] at hd
    obtain ⟨depth, rfl⟩ : ∃ d, depth = d + 1 := ⟨depth - 1, by omega⟩
    cases fields with
    | nil => rw [List.map_nil, membersOctets, readValue?.eq_def]; rfl
    | cons f fields =>
      have hread := readMembers?_membersOctets (by simp) ih (show 2 * _ < depth by omega) rest
      obtain ⟨s, hs⟩ := membersOctets_cons f.1 f.2 (fields.map fun f => (some f.1, f.2))
      rw [List.map_cons, hs, List.cons_append] at hread
      rw [List.map_cons, hs, List.cons_append, List.cons_append, readValue?_object, hread]
      rfl

/-- The text form of a value that is written denotes that value.

**Proof sketch.** This is `Written.isRead` with nothing behind the value, at the depth with which
the reader starts. -/
theorem ofOctets?_toOctets {j : Json} (hj : Written j) : ofOctets? (toOctets j) = some j := by
  have h := hj.isRead (2 * (toOctets j).length + 2) [] (by omega) (by rintro _ ⟨⟩)
  rw [List.append_nil] at h
  rw [ofOctets?, h]
  rfl

end Json

end ActorLocation
