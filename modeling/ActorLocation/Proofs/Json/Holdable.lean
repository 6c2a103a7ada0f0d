import ActorLocation.Proofs.Json.RoundTrip
/-!
# Values that can be held in memory

A numeral whose digits fit a word is in the range of doubles, and a record spends one of the arrays
and objects that may be open.

## Main results

* `ActorLocation.Json.Numeral.isFinite_ofNat` — numbers that fit a word are in the range of doubles.
* `ActorLocation.Json.isHoldable_record` — a record can be held if its fields can, with less room.
-/

namespace ActorLocation

namespace Json

namespace Numeral

/-- Further digits do not make a number smaller. -/
theorem le_ofDigitChars (m : Nat) (ds : List Char) : m ≤ Nat.ofDigitChars 10 ds m := by
  induction ds generalizing m with
  | nil => exact Nat.le_refl m
  | cons c ds ih =>
    have hnext := ih (10 * m + (c.toNat - '0'.toNat))
    rw [Nat.ofDigitChars, List.foldl_cons]
    exact Nat.le_trans (by omega) hnext

/-- All digits are collected if their value fits the word.

**Proof sketch.** Induction on the digits.  What has been collected so far is at most the value of
all of them, so it fits as well, and no digit is left over. -/
theorem collectWhole_eq {m : Nat} {ds : List Char}
    (h : Nat.ofDigitChars 10 ds m < UInt64.size) :
    collectWhole m ds = (Nat.ofDigitChars 10 ds m, 0) := by
  induction ds generalizing m with
  | nil => rfl
  | cons c ds ih =>
    have hnext : 10 * m + (c.toNat - '0'.toNat) < UInt64.size :=
      Nat.lt_of_le_of_lt (le_ofDigitChars _ ds) h
    rw [collectWhole, if_pos hnext, ih h]
    rfl

/-- A number that fits a word is in the range of doubles. -/
theorem isFinite_ofNat {n : Nat} (h : n < UInt64.size) : (ofNat n).isFinite = true := by
  have hdigits : Nat.ofDigitChars 10 (Nat.toDigits 10 n) 0 = n := Nat.ofDigitChars_ten_toDigits
  have hcollect : collectWhole 0 (Nat.toDigits 10 n) = (n, 0) := by
    rw [collectWhole_eq (hdigits.symm ▸ h), hdigits]
  simp [isFinite, isInteger, ofNat, hcollect]

end Numeral

/-- A text can be held in memory wherever it stands. -/
@[simp] theorem isHoldable_text (room : Nat) (t : String) : isHoldable room (text t) = true := by
  rw [text, isHoldable]
  rfl

/-- A number that fits a word can be held in memory wherever it stands. -/
theorem isHoldable_nat (room : Nat) {n : Nat} (h : n < UInt64.size) :
    isHoldable room (nat n) = true := by
  rw [nat, isHoldable]
  exact Numeral.isFinite_ofNat h

/-- A word can be held in memory wherever it stands. -/
@[simp] theorem isHoldable_word (room : Nat) (w : UInt64) : isHoldable room (word w) = true :=
  isHoldable_nat room w.toNat_lt

/-- A record can be held in memory if each of its fields can, one object being open. -/
@[simp] theorem isHoldable_record (room : Nat) (fields : List (String × Json)) :
    isHoldable (room + 1) (record fields) = fields.all fun f => isHoldable room f.2 := by
  have hmembers : membersHoldable room (fields.map fun f => (some f.1, f.2)) =
      fields.all fun f => isHoldable room f.2 := by
    induction fields with
    | nil => rw [List.map_nil, membersHoldable, List.all_nil]
    | cons f fields ih => rw [List.map_cons, membersHoldable, ih, List.all_cons]; rfl
  rw [record_eq, isHoldable, Nat.add_sub_cancel, hmembers]
  simp

end Json

end ActorLocation
