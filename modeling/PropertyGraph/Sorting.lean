/-! Sorting by insertion. An element goes in front of the first one that it may stand
before, so elements that may stand either way keep their order. -/
namespace PropertyGraph

variable {α : Type}

/-- Put an element in front of the first one that it may stand before. -/
def insertBy (le : α → α → Bool) (x : α) : List α → List α
  | [] => [x]
  | y :: ys => if le x y then x :: y :: ys else y :: insertBy le x ys

def sortBy (le : α → α → Bool) (xs : List α) : List α := xs.foldr (insertBy le) []

theorem insertBy_perm (le : α → α → Bool) (x : α) (xs : List α) :
    (insertBy le x xs).Perm (x :: xs) := by
  induction xs with
  | nil => exact .refl _
  | cons y ys ih =>
    rw [insertBy]
    split
    · exact .refl _
    · exact (ih.cons y).trans (.swap x y ys)

theorem sortBy_perm (le : α → α → Bool) (xs : List α) : (sortBy le xs).Perm xs := by
  induction xs with
  | nil => exact .refl _
  | cons x xs ih => exact (insertBy_perm le x _).trans (ih.cons x)

theorem mem_sortBy {le : α → α → Bool} {xs : List α} {x : α} : x ∈ sortBy le xs ↔ x ∈ xs :=
  (sortBy_perm le xs).mem_iff

theorem pairwise_insertBy {le : α → α → Bool} (trans : ∀ a b c, le a b → le b c → le a c)
    (total : ∀ a b, le a b ∨ le b a) (x : α) {xs : List α} (sorted : xs.Pairwise (le · ·)) :
    (insertBy le x xs).Pairwise (le · ·) := by
  induction xs with
  | nil => simp [insertBy]
  | cons y ys ih =>
    rw [insertBy]
    obtain ⟨first, rest⟩ := List.pairwise_cons.1 sorted
    split
    · rename_i before
      refine List.pairwise_cons.2 ⟨fun z member => ?_, sorted⟩
      rcases List.mem_cons.1 member with rfl | inside
      · exact before
      · exact trans x y z before (first z inside)
    · rename_i after
      refine List.pairwise_cons.2 ⟨fun z member => ?_, ih rest⟩
      rcases List.mem_cons.1 ((insertBy_perm le x ys).mem_iff.1 member) with rfl | inside
      · exact (total z y).resolve_left after
      · exact first z inside

theorem pairwise_sortBy {le : α → α → Bool} (trans : ∀ a b c, le a b → le b c → le a c)
    (total : ∀ a b, le a b ∨ le b a) (xs : List α) : (sortBy le xs).Pairwise (le · ·) := by
  induction xs with
  | nil => exact .nil
  | cons x xs ih => exact pairwise_insertBy trans total x ih

end PropertyGraph
