/-!
# Random choices

A source of random words of 32 bits, scripted: it yields the words of a list, and zeros from then
on.  An index is drawn from it by multiplying a word with the number of candidates and rejecting
the words that would favour some of them.

## Main definitions

* `ActorLocation.RandomWords` — the source, which counts the words taken.
* `RandomWords.index` — an index below a given number of candidates.
* `RandomWords.choose?` — an element of a list.
-/

namespace ActorLocation

/-- A source of random words. -/
structure RandomWords where
  /-- The words still to come, before the zeros. -/
  script : List UInt32
  /-- The number of words taken. -/
  taken : Nat := 0
deriving DecidableEq, Repr, Inhabited

namespace RandomWords

/-- The number of low halves that are accepted: the greatest multiple of `n` by a power of two
that is below `2 ^ 32`. -/
def acceptance (n : Nat) : Nat := n <<< (31 - n.log2)

/-- Draws from the words of a script until one is accepted: the low half of its product with `n`
has to be in the zone of acceptance, and the high half is the index.  A zero is always accepted. -/
def draw (n : Nat) : List UInt32 → (taken : Nat) → Nat × RandomWords
  | [], taken => (0, ⟨[], taken + 1⟩)
  | w :: ws, taken =>
    if w.toNat * n % UInt32.size < acceptance n then (w.toNat * n / UInt32.size, ⟨ws, taken + 1⟩)
    else draw n ws (taken + 1)

/-- An index below `n`, for a positive `n` below `2 ^ 32`. -/
def index (n : Nat) (r : RandomWords) : Nat × RandomWords := draw n r.script r.taken

/-- An element of a list, drawn with equal chances; no word is taken for the empty list. -/
def choose? {α : Type} (l : List α) (r : RandomWords) : Option α × RandomWords :=
  if l.isEmpty then (none, r) else (l[(r.index l.length).1]?, (r.index l.length).2)

end RandomWords

end ActorLocation
