import Mathlib
import PropertyGraph.Text.Basic

/-! The order of texts by their 16-bit units. Texts of the same units are the same, for no
character is written with a unit that is one half of another, so sorting leaves distinct texts in
strictly ascending order, which their members alone determine. -/
namespace PropertyGraph.Text

section Units

variable {c d : Char} {xs ys : List Nat}

/-- A character is outside the range of the units that are written in pairs. -/
lemma unpaired (c : Char) : c.toNat < 0xD800 ∨ (0xDFFF < c.toNat ∧ c.toNat < 0x110000) := c.valid

lemma charUnits_ne_nil (c : Char) : charUnits c ≠ [] := by
  unfold charUnits
  split_ifs <;> simp

lemma charUnits_append_inj (same : charUnits c ++ xs = charUnits d ++ ys) : c = d ∧ xs = ys := by
  have first := unpaired c
  have second := unpaired d
  unfold charUnits at same
  split_ifs at same with small small' small'
  · obtain ⟨unit, rest⟩ := List.cons.inj same
    exact ⟨Char.toNat_inj.1 unit, rest⟩
  · have unit : c.toNat = 0xD800 + (d.toNat - 0x10000) / 0x400 := (List.cons.inj same).1
    omega
  · have unit : 0xD800 + (c.toNat - 0x10000) / 0x400 = d.toNat := (List.cons.inj same).1
    omega
  · simp only [List.cons_append, List.nil_append, List.cons.injEq] at same
    obtain ⟨high, low, rest⟩ := same
    exact ⟨Char.toNat_inj.1 (by omega), rest⟩

lemma units_injective : Function.Injective units := by
  have flat : ∀ cs ds : List Char, cs.flatMap charUnits = ds.flatMap charUnits → cs = ds := by
    intro cs
    induction cs with
    | nil =>
      intro ds same
      cases ds with
      | nil => rfl
      | cons d ds => simp [charUnits_ne_nil] at same
    | cons c cs ih =>
      intro ds same
      cases ds with
      | nil => simp [charUnits_ne_nil] at same
      | cons d ds =>
        obtain ⟨rfl, rest⟩ := charUnits_append_inj same
        rw [ih ds rest]
  exact fun s t same => String.toList_inj.1 (flat _ _ same)

end Units

section Sorting

variable {s t : String} {texts others : List String}

lemma unitsLe_iff : unitsLe s t = true ↔ units s ≤ units t := by
  rw [unitsLe, Bool.not_eq_true', Bool.eq_false_iff, ne_eq, List.lex_eq_true_iff_lt, not_lt]

lemma pairwise_sortByUnits (texts : List String) :
    (sortByUnits texts).Pairwise fun s t => units s ≤ units t := by
  refine (pairwise_sortBy (fun r s t => ?_) (fun s t => ?_) texts).imp unitsLe_iff.1
  · simpa only [unitsLe_iff] using le_trans
  · simpa only [unitsLe_iff] using le_total (units s) (units t)

/-- Distinct texts come out in strictly ascending order. -/
theorem ascending_sortByUnits (distinct : texts.Nodup) :
    (sortByUnits texts).Pairwise fun s t => units s < units t := by
  have apart : (sortByUnits texts).Nodup := (sortBy_perm _ texts).nodup_iff.2 distinct
  exact ((pairwise_sortByUnits texts).and apart).imp fun ⟨before, different⟩ =>
    lt_of_le_of_ne before fun same => different (units_injective same)

/-- The order in which the texts are given does not matter. -/
theorem sortByUnits_congr (permuted : texts.Perm others) :
    sortByUnits texts = sortByUnits others := by
  have both : (sortByUnits texts).Perm (sortByUnits others) :=
    (sortBy_perm _ texts).trans (permuted.trans (sortBy_perm _ others).symm)
  exact both.eq_of_pairwise
    (fun s t _ _ before after => units_injective (le_antisymm before after))
    (pairwise_sortByUnits texts) (pairwise_sortByUnits others)

end Sorting
end PropertyGraph.Text
