import Mathlib
import PropertyGraph.Text.Case

/-! Lower-casing keeps lengths apart: how long the lower-case form of a text is follows from
its characters one by one, and no character is lost. -/
namespace PropertyGraph.Text

lemma lowerForm_ne_nil (c : Char) : lowerForm c ≠ [] := by
  have expansions : (lowerExpansions.all fun entry => !entry.2.isEmpty) = true := by
    decide
  unfold lowerForm caseForm
  split
  · rename_i codes found
    obtain ⟨before, behind, split, -⟩ := List.lookup_eq_some_iff.1 found
    have listed : (c.toNat, codes) ∈ lowerExpansions := by simp [split]
    have nonEmpty := List.all_eq_true.1 expansions _ listed
    simpa using nonEmpty
  · split <;> simp

lemma length_lowerAfter (passed cs : List Char) :
    (lowerAfter passed cs).length = (cs.map fun c => (lowerForm c).length).sum := by
  have sigma : (lowerForm 'Σ').length = 1 := by decide
  induction cs generalizing passed with
  | nil => rfl
  | cons c rest ih =>
    rw [lowerAfter, List.length_append, ih, List.map_cons, List.sum_cons]
    split
    · rename_i final
      have same : c = 'Σ' := by
        simp only [Bool.and_eq_true, decide_eq_true_eq] at final
        exact final.1.1
      rw [same, sigma]
      rfl
    · rfl

lemma length_lower (s : String) :
    (lower s).length = (s.toList.map fun c => (lowerForm c).length).sum := by
  simp [lower, length_lowerAfter]

/-- Lengths of lower-case forms add up, though the forms themselves may depend on what stands
around. -/
theorem length_lower_append (s t : String) :
    (lower (s ++ t)).length = (lower s).length + (lower t).length := by
  simp [length_lower]

theorem lower_ne_empty {s : String} (hs : s ≠ "") : lower s ≠ "" := by
  intro empty
  have length : (s.toList.map fun c => (lowerForm c).length).sum = 0 := by
    rw [← length_lower, empty]
    rfl
  cases chars : s.toList with
  | nil => exact hs (by simpa using chars)
  | cons c rest =>
    have some : 0 < (lowerForm c).length := List.length_pos_iff.2 (lowerForm_ne_nil c)
    rw [chars, List.map_cons, List.sum_cons] at length
    omega

end PropertyGraph.Text
