import ActorLocation.Placement.RandomWords
/-!
# Sampling by rejection

An index is drawn with machine words of 32 bits and products of 64 bits.  A word is accepted if the
low half of its product with the number of candidates lies in a zone, and then the high half is the
index.  Zeros are accepted, so the end of the script ends the drawing.

## Main definitions

* `ActorLocation.RandomWords.word`, `RandomWords.after` — the words to come, and what is left of a
  source.
* `RandomWords.zone`, `RandomWords.Accepts`, `RandomWords.choice` — which words are accepted, and
  what the accepted ones stand for.
* `RandomWords.AcceptsFirst`, `RandomWords.indexAt` — which word of a source decides, and the index
  that it stands for.

## Main results

* `ActorLocation.RandomWords.exists_index_eq` — the first word that is accepted decides.
* `ActorLocation.RandomWords.choice_lt` — an index is in range.
-/

namespace ActorLocation

namespace RandomWords

/-! ### Words -/

/-- The word that comes after `k` others. -/
def word (r : RandomWords) (k : Nat) : UInt32 := r.script.getD k 0

/-- What is left of a source when `k` words have been taken. -/
def after (r : RandomWords) (k : Nat) : RandomWords := ⟨r.script.drop k, r.taken + k⟩

/-- A source from which nothing was taken is as it was. -/
@[simp] theorem after_zero (r : RandomWords) : r.after 0 = r := rfl

/-! ### Products -/

/-- The product of a word with the number of candidates. -/
def product (n w : UInt32) : UInt64 := w.toUInt64 * n.toUInt64

/-- The greatest low half that is accepted: one less than `n` with its leading zeros shifted out. -/
def zone (n : UInt32) : UInt32 := (n <<< (31 - n.log2)) - 1

/-- Says that the low half of the product is in the zone. -/
def Accepts (n w : UInt32) : Prop := (product n w).toUInt32 ≤ zone n

/-- The high half of the product. -/
def choice (n w : UInt32) : UInt32 := (product n w >>> 32).toUInt32

/-- Says that the word after `k` others is the first one that is accepted. -/
def AcceptsFirst (r : RandomWords) (n : UInt32) (k : Nat) : Prop :=
  Accepts n (r.word k) ∧ ∀ j < k, ¬ Accepts n (r.word j)

/-- The index that the word after `k` others stands for. -/
def indexAt (r : RandomWords) (n : UInt32) (k : Nat) : Nat := (choice n (r.word k)).toNat

/-- The product of two words of 32 bits fits into 64 bits. -/
theorem toNat_product (n w : UInt32) : (product n w).toNat = w.toNat * n.toNat := by
  have hlt : w.toNat * n.toNat < UInt64.size :=
    Nat.mul_lt_mul_of_lt_of_lt w.toNat_lt n.toNat_lt
  rw [product, UInt64.toNat_mul, UInt32.toNat_toUInt64, UInt32.toNat_toUInt64]
  exact Nat.mod_eq_of_lt hlt

/-- The high half of the product is its quotient by `2 ^ 32`, which fits into 32 bits. -/
theorem toNat_choice (n w : UInt32) : (choice n w).toNat = w.toNat * n.toNat / UInt32.size := by
  have hlt := (product n w).toNat_lt
  have hshift : (product n w >>> 32).toNat = w.toNat * n.toNat / UInt32.size := by
    rw [UInt64.toNat_shiftRight, toNat_product, Nat.shiftRight_eq_div_pow]
    rfl
  rw [toNat_product] at hlt
  rw [choice, UInt64.toNat_toUInt32, hshift]
  exact Nat.mod_eq_of_lt (Nat.div_lt_of_lt_mul hlt)

/-- An index is in range. -/
theorem choice_lt {n : UInt32} (hn : 0 < n) (w : UInt32) : choice n w < n := by
  rw [UInt32.lt_iff_toNat_lt, toNat_choice]
  exact Nat.div_lt_of_lt_mul (Nat.mul_lt_mul_of_pos_right w.toNat_lt (UInt32.lt_iff_toNat_lt.1 hn))

/-! ### The zone -/

/-- With the leading zeros of `n`, nothing else is shifted out. -/
theorem acceptance_lt {n : Nat} (hn : n < UInt32.size) : acceptance n < UInt32.size := by
  by_cases hzero : n = 0
  · subst hzero
    decide
  · have hlog : n.log2 < 32 := (Nat.log2_lt hzero).2 hn
    have hlt := Nat.mul_lt_mul_of_pos_right (Nat.lt_log2_self (n := n))
      (Nat.two_pow_pos (31 - n.log2))
    rwa [← Nat.pow_add, show n.log2 + 1 + (31 - n.log2) = 32 by omega, ← Nat.shiftLeft_eq] at hlt

/-- The bound of the zone is at least the number of candidates, as shifting does not make it
smaller. -/
theorem le_acceptance (n : Nat) : n ≤ acceptance n := by
  rw [acceptance, Nat.shiftLeft_eq]
  exact Nat.le_mul_of_pos_right n (Nat.two_pow_pos _)

variable {n : UInt32} (hn : 0 < n)
include hn

/-- The zone ends one below the bound that the model compares with.  Neither the shift nor the
subtraction wraps around, since `n` is positive. -/
theorem toNat_zone : (zone n).toNat = acceptance n.toNat - 1 := by
  have hpos : 0 < n.toNat := UInt32.lt_iff_toNat_lt.1 hn
  have hlog : n.toNat.log2 < 32 := (Nat.log2_lt (Nat.ne_of_gt hpos)).2 n.toNat_lt
  have hzeros : (31 - n.log2).toNat = 31 - n.toNat.log2 :=
    UInt32.toNat_sub_of_le _ _ (UInt32.le_iff_toNat_le.2 (Nat.le_of_lt_succ hlog))
  have hshift : (n <<< (31 - n.log2)).toNat = acceptance n.toNat := by
    rw [UInt32.toNat_shiftLeft, hzeros, Nat.mod_eq_of_lt (a := 31 - _) (by omega)]
    exact Nat.mod_eq_of_lt (acceptance_lt n.toNat_lt)
  rw [zone, UInt32.toNat_sub_of_le, hshift]
  · rfl
  · rw [UInt32.le_iff_toNat_le, hshift]
    exact Nat.le_trans hpos (le_acceptance _)

/-- A word is accepted exactly if the remainder of its product by `2 ^ 32` is below the bound, which
is what the model asks. -/
theorem accepts_iff {w : UInt32} :
    Accepts n w ↔ w.toNat * n.toNat % UInt32.size < acceptance n.toNat := by
  have hpos : 0 < acceptance n.toNat :=
    Nat.lt_of_lt_of_le (UInt32.lt_iff_toNat_lt.1 hn) (le_acceptance _)
  rw [Accepts, UInt32.le_iff_toNat_le, UInt64.toNat_toUInt32, toNat_product, toNat_zone hn]
  exact Nat.le_sub_one_iff_lt hpos

/-- A zero is accepted. -/
theorem accepts_zero : Accepts n 0 := by
  rw [accepts_iff hn, UInt32.toNat_zero, Nat.zero_mul, Nat.zero_mod]
  exact Nat.lt_of_lt_of_le (UInt32.lt_iff_toNat_lt.1 hn) (le_acceptance _)

/-! ### Drawing -/

/-- An index is drawn from the first word that is accepted, which is at the end of the script at the
latest, and no further word is taken.

**Proof sketch.** By induction on the script.  At its end a zero is taken, which is accepted and
stands for the index zero.  If the word at its head is accepted, it decides and nothing else is
taken.  If it is rejected, the rest of the script decides by the induction hypothesis, with all
counts one greater. -/
theorem exists_index_eq (r : RandomWords) :
    ∃ k ≤ r.script.length, r.AcceptsFirst n k ∧
      r.index n.toNat = (r.indexAt n k, r.after (k + 1)) := by
  obtain ⟨script, taken⟩ := r
  induction script generalizing taken with
  | nil =>
    refine ⟨0, Nat.le_refl 0, ⟨accepts_zero hn, fun j hj => absurd hj (Nat.not_lt_zero j)⟩, ?_⟩
    rw [indexAt, word, List.getD_nil, toNat_choice, UInt32.toNat_zero, Nat.zero_mul, Nat.zero_div]
    rfl
  | cons w ws ih =>
    by_cases haccepted : Accepts n w
    · refine ⟨0, Nat.zero_le _, ⟨haccepted, fun j hj => absurd hj (Nat.not_lt_zero j)⟩, ?_⟩
      rw [index, draw, if_pos ((accepts_iff hn).1 haccepted), indexAt, word, List.getD_cons_zero,
        toNat_choice]
      rfl
    · -- The head is rejected: the word that decides is one further on than in the rest.
      obtain ⟨k, hk, ⟨hfirst, hrejected⟩, heq⟩ := ih (taken + 1)
      refine ⟨k + 1, Nat.succ_le_succ hk, ⟨hfirst, ?_⟩, ?_⟩
      · rintro (_ | j) hj
        · exact haccepted
        · exact hrejected j (Nat.lt_of_succ_lt_succ hj)
      · rw [index, draw, if_neg fun h => haccepted ((accepts_iff hn).2 h)]
        refine heq.trans ?_
        rw [after, after, List.drop_succ_cons, Nat.add_assoc, Nat.add_comm 1]
        rfl

end RandomWords

end ActorLocation
