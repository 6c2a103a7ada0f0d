/-!
# Sorted lists

Insertion sort by a Boolean order.  It is stable, and it recurses on the list alone, so that sorted
lists of concrete elements evaluate.

## Main definitions

* `ActorLocation.insertSorted`, `ActorLocation.sortBy` — ordered insertion, and the sort.

## Main results

* `ActorLocation.sortBy_perm`, `ActorLocation.mem_sortBy` — sorting only rearranges.
* `ActorLocation.pairwise_sortBy` — the result is in order.
-/

namespace ActorLocation

variable {α : Type}

/-- Inserts `a` in front of the first element that it precedes. -/
def insertSorted (le : α → α → Bool) (a : α) : List α → List α
  | [] => [a]
  | b :: l => if le a b then a :: b :: l else b :: insertSorted le a l

/-- The elements of a list in ascending order. -/
def sortBy (le : α → α → Bool) : List α → List α
  | [] => []
  | a :: l => insertSorted le a (sortBy le l)

/-- Insertion adds one element and loses none. -/
theorem insertSorted_perm (le : α → α → Bool) (a : α) (l : List α) :
    (insertSorted le a l).Perm (a :: l) := by
  induction l with
  | nil => exact .refl _
  | cons b l ih =>
    simp only [insertSorted]
    split
    · exact .refl _
    · exact (ih.cons b).trans (.swap a b l)

/-- Sorting rearranges a list. -/
theorem sortBy_perm (le : α → α → Bool) (l : List α) : (sortBy le l).Perm l := by
  induction l with
  | nil => exact .refl _
  | cons a l ih => exact (insertSorted_perm le a _).trans (ih.cons a)

/-- A list and its sorted form have the same elements. -/
@[simp] theorem mem_sortBy {le : α → α → Bool} {a : α} {l : List α} : a ∈ sortBy le l ↔ a ∈ l :=
  (sortBy_perm le l).mem_iff

/-- Insertion keeps an ordered list in order.

**Proof sketch.** Induction on the list.  If `a` precedes the head `b`, it precedes the tail by
transitivity.  Otherwise `b` precedes `a`, since the order is total, and the elements of the tail
with `a` inserted are `a` and those of the tail, all of which `b` precedes. -/
private theorem pairwise_insertSorted {le : α → α → Bool}
    (trans : ∀ a b c, le a b = true → le b c = true → le a c = true)
    (total : ∀ a b, le a b = true ∨ le b a = true) (a : α) {l : List α}
    (h : l.Pairwise (le · · = true)) : (insertSorted le a l).Pairwise (le · · = true) := by
  induction l with
  | nil => simp [insertSorted]
  | cons b l ih =>
    obtain ⟨hb, hl⟩ := List.pairwise_cons.1 h
    simp only [insertSorted]
    split
    · next hab =>
      refine List.pairwise_cons.2 ⟨fun c hc => ?_, h⟩
      rcases List.mem_cons.1 hc with rfl | hc
      · exact hab
      · exact trans _ _ _ hab (hb c hc)
    · next hab =>
      -- The head stays, and precedes whatever is inserted behind it.
      have hba : le b a = true := (total a b).resolve_left hab
      refine List.pairwise_cons.2 ⟨fun c hc => ?_, ih hl⟩
      rcases List.mem_cons.1 ((insertSorted_perm le a l).mem_iff.1 hc) with rfl | hc
      · exact hba
      · exact hb c hc

/-- For a total preorder, the sorted list is in ascending order. -/
theorem pairwise_sortBy {le : α → α → Bool}
    (trans : ∀ a b c, le a b = true → le b c = true → le a c = true)
    (total : ∀ a b, le a b = true ∨ le b a = true) (l : List α) :
    (sortBy le l).Pairwise (le · · = true) := by
  induction l with
  | nil => exact .nil
  | cons a l ih => exact pairwise_insertSorted trans total a ih

end ActorLocation
