/-!
# Splitting texts

A text is split at an occurrence of a separator into the part before it and the part after it.

## Main definitions

* `ActorLocation.splitFirst?`, `ActorLocation.splitLast?` — split at the first, or the last,
  occurrence of a separator.

## Main results

* `ActorLocation.splitFirst?_eq_some_iff`, `ActorLocation.splitLast?_singleton_eq_some_iff` — where
  a text is split at a character.
* `ActorLocation.splitLast?_append` — where a text is split at a longer separator.
-/

namespace ActorLocation

/-- Splits a text at the first occurrence of a character. -/
def splitFirst? (c : Char) : List Char → Option (List Char × List Char)
  | [] => none
  | x :: s => if x = c then some ([], s) else (splitFirst? c s).map fun p => (x :: p.1, p.2)

/-- Splits a text at the last occurrence of a separator. -/
def splitLast? (sep : List Char) : List Char → Option (List Char × List Char)
  | [] => none
  | x :: s =>
    match splitLast? sep s with
    | some (l, r) => some (x :: l, r)
    | none => if sep.isPrefixOf (x :: s) then some ([], (x :: s).drop sep.length) else none

/-- A text is split at the first occurrence of a character: what stands before it does not contain
the character, and the three parts make up the text.

**Proof sketch.** Induction on the text.  If it begins with the character, the part before it is
empty, and it cannot begin with anything else.  If it does not, the part before begins with the same
character as the text, and the rest is the induction hypothesis. -/
theorem splitFirst?_eq_some_iff {c : Char} {s l r : List Char} :
    splitFirst? c s = some (l, r) ↔ s = l ++ c :: r ∧ c ∉ l := by
  induction s generalizing l with
  | nil => simp [splitFirst?]
  | cons x s ih =>
    rw [splitFirst?]
    cases l with
    | nil => by_cases hx : x = c <;> simp [hx]
    | cons y l =>
      by_cases hx : x = c
      · simp only [hx, if_true, Option.some.injEq, Prod.mk.injEq, reduceCtorEq, false_and,
          List.cons_append, List.cons.injEq, List.mem_cons, not_or, false_iff]
        exact fun ⟨⟨hy, _⟩, hne, _⟩ => hne hy
      · simp only [if_neg hx, Option.map_eq_some_iff, Prod.exists, Prod.mk.injEq, List.cons.injEq,
          List.cons_append, List.mem_cons, not_or]
        constructor
        · rintro ⟨l', r', h, ⟨rfl, rfl⟩, rfl⟩
          obtain ⟨hs, hl⟩ := ih.1 h
          exact ⟨⟨rfl, hs⟩, Ne.symm hx, hl⟩
        · rintro ⟨⟨rfl, hs⟩, -, hl⟩
          exact ⟨l, r, ih.2 ⟨hs, hl⟩, ⟨rfl, rfl⟩, rfl⟩

/-- There is nothing to split if the first character of the separator does not occur. -/
theorem splitLast?_eq_none {c : Char} {sep s : List Char} (h : c ∉ s) :
    splitLast? (c :: sep) s = none := by
  induction s with
  | nil => rfl
  | cons x s ih =>
    obtain ⟨hx, hs⟩ := not_or.1 (mt List.mem_cons.2 h)
    simp [splitLast?, ih hs, hx]

/-- A text is split at a separator behind whose beginning that character does not occur again. -/
theorem splitLast?_append {c : Char} {sep r : List Char} (hsep : c ∉ sep) (hr : c ∉ r)
    (l : List Char) : splitLast? (c :: sep) (l ++ c :: sep ++ r) = some (l, r) := by
  induction l with
  | nil =>
    have hnone : splitLast? (c :: sep) (sep ++ r) = none :=
      splitLast?_eq_none fun h => (List.mem_append.1 h).elim hsep hr
    have hsplit : (c :: sep).isPrefixOf (c :: (sep ++ r)) = true := by simp
    simp only [List.nil_append, List.cons_append, splitLast?, hnone, hsplit, if_true]
    simp
  | cons x l ih => simp only [List.cons_append, splitLast?, ih]

/-- A text is split at the last occurrence of a character.

**Proof sketch.** From right to left this is `splitLast?_append` for the empty rest of a separator.
From left to right the character occurs, by `splitLast?_eq_none`; then the text can be cut at its
last occurrence, which is the first one from the end, and that cut is the answer. -/
theorem splitLast?_singleton_eq_some_iff {c : Char} {s l r : List Char} :
    splitLast? [c] s = some (l, r) ↔ s = l ++ c :: r ∧ c ∉ r := by
  have hsplit {l r : List Char} (hr : c ∉ r) : splitLast? [c] (l ++ c :: r) = some (l, r) := by
    simpa using splitLast?_append (show c ∉ [] from List.not_mem_nil) hr l
  constructor
  · intro h
    by_cases hc : c ∈ s
    · obtain ⟨r', l', hs, hr'⟩ := List.eq_append_cons_of_mem (List.mem_reverse.2 hc)
      -- The first occurrence from the end is the last one.
      obtain rfl : s = l'.reverse ++ c :: r'.reverse := by simpa using congrArg List.reverse hs
      have hr : c ∉ r'.reverse := mt List.mem_reverse.1 hr'
      rw [hsplit hr] at h
      obtain ⟨rfl, rfl⟩ := Prod.mk.inj (Option.some.inj h)
      exact ⟨rfl, hr⟩
    · rw [splitLast?_eq_none hc] at h
      contradiction
  · rintro ⟨rfl, hr⟩
    exact hsplit hr

end ActorLocation
