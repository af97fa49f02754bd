import PropertyGraph.Proofs.Shape
import PropertyGraph.Input

/-! Places in the grid are numbers whenever the spacing is finite, for every index. As long
as indices are exact in binary, the exact count of columns is the rounded one. -/
namespace PropertyGraph

namespace Binary64

lemma ofRank_ne_nan (negative : Bool) (rank : Nat) : ofRank negative rank ≠ .nan := by
  unfold ofRank
  split <;> simp

lemma ofUnits_ne_nan (negative : Bool) (num den : Nat) : ofUnits negative num den ≠ .nan :=
  ofRank_ne_nan _ _

lemma ofNat_ne_nan (n : Nat) : ofNat n ≠ .nan := ofUnits_ne_nan _ _ _

lemma remNat_ne_nan (n : Nat) {x : Binary64} (hx : x.isPositive = true) : remNat n x ≠ .nan := by
  cases x with
  | nan => simp [isPositive] at hx
  | infinite negative => exact ofNat_ne_nan n
  | finite rank bounded =>
    have positive : 0 < rank := by simpa [isPositive] using hx
    have nonzero : rank ≠ 0 := by omega
    simpa [remNat, nonzero] using ofUnits_ne_nan _ _ _

lemma div_ne_nan {x y : Binary64} (hx : x ≠ .nan) (hy : y.isFinite = true)
    (positive : y.isPositive = true) : x / y ≠ .nan := by
  change div x y ≠ .nan
  cases y with
  | nan => simp [isFinite] at hy
  | infinite negative => simp [isFinite] at hy
  | finite b hb =>
    have nonzero : b ≠ 0 := by
      have : 0 < b := by simpa [isPositive] using positive
      omega
    cases x with
    | nan => exact absurd rfl hx
    | infinite negative => simp [div]
    | finite a ha => simpa [div, nonzero] using ofUnits_ne_nan _ _ _

lemma floor_ne_nan {x : Binary64} (hx : x ≠ .nan) : x.floor ≠ .nan := by
  cases x with
  | nan => exact absurd rfl hx
  | infinite negative => simp [floor]
  | finite r hr =>
    simp only [floor]
    split <;> exact ofUnits_ne_nan _ _ _

lemma zero_eq : (0 : Binary64) = .finite 0 (by decide) := by decide +kernel

lemma mul_ne_nan {x y : Binary64} (finite : x.isFinite = true) (positive : x.isPositive = true)
    (hy : y ≠ .nan) : x * y ≠ .nan := by
  change mul x y ≠ .nan
  cases x with
  | nan => simp [isFinite] at finite
  | infinite negative => simp [isFinite] at finite
  | finite a ha =>
    have nonzero : a ≠ 0 := by
      have : 0 < a := by simpa [isPositive] using positive
      omega
    cases y with
    | nan => exact absurd rfl hy
    | finite b hb => exact ofUnits_ne_nan _ _ _
    | infinite negative => simp [mul, zero_eq, nonzero]

/-- The exponent is kept apart so that nothing computes the power. -/
lemma exists_one_eq_pow : ∃ e, e = 1074 ∧ ∀ n, n * one = n * 2 ^ e := by
  obtain ⟨e, he⟩ : ∃ e, e = 1074 := ⟨_, rfl⟩
  refine ⟨e, he, fun n => ?_⟩
  unfold one
  rw [← he]
  rfl

lemma rankLimit_eq : rankLimit = 2047 * 2 ^ 52 := rfl

lemma units_eq (rank : Nat) : units rank =
    if rank < 2 ^ 52 then rank else (2 ^ 52 + rank % 2 ^ 52) * 2 ^ (rank / 2 ^ 52 - 1) := rfl

lemma nearestRank_eq (num den : Nat) : nearestRank num den =
    ((num / den).log2 - 52) * 2 ^ 52 + divideNearest num (den * 2 ^ ((num / den).log2 - 52)) := rfl

lemma filled_bounds {n : Nat} (positive : n ≠ 0) (hn : n < 2 ^ 53) :
    n.log2 < 53 ∧ 2 ^ 52 ≤ n * 2 ^ (52 - n.log2) ∧ n * 2 ^ (52 - n.log2) < 2 ^ 53 := by
  have small : n.log2 < 53 := (Nat.log2_lt positive).2 hn
  have low : 2 ^ n.log2 * 2 ^ (52 - n.log2) = 2 ^ 52 := by
    rw [← pow_add, show n.log2 + (52 - n.log2) = 52 by omega]
  have high : 2 ^ (n.log2 + 1) * 2 ^ (52 - n.log2) = 2 ^ 53 := by
    rw [← pow_add, show n.log2 + 1 + (52 - n.log2) = 53 by omega]
  refine ⟨small, ?_, ?_⟩
  · rw [← low]
    exact Nat.mul_le_mul_right _ (Nat.log2_self_le positive)
  · rw [← high]
    exact Nat.mul_lt_mul_of_pos_right Nat.lt_log2_self (by positivity)

/-- Of a whole number below `2 ^ 53` no digit is dropped. -/
lemma nearestRank_whole {n e : Nat} (he : 52 ≤ e) (positive : n ≠ 0) (hn : n < 2 ^ 53) :
    nearestRank (n * 2 ^ e) 1 =
      (n.log2 + (e - 52)) * 2 ^ 52 + n * 2 ^ (52 - n.log2) := by
  obtain ⟨small, -, -⟩ := filled_bounds positive hn
  have digits : (n * 2 ^ e).log2 = n.log2 + e := by
    rw [Nat.log2_eq_iff (by simp [positive])]
    constructor
    · rw [pow_add]
      exact Nat.mul_le_mul_right _ (Nat.log2_self_le positive)
    · rw [show n.log2 + e + 1 = n.log2 + 1 + e by omega, pow_add _ _ e]
      exact Nat.mul_lt_mul_of_pos_right Nat.lt_log2_self (by positivity)
  have split : n * 2 ^ e = n * 2 ^ (52 - n.log2) * 2 ^ (n.log2 + (e - 52)) := by
    rw [mul_assoc, ← pow_add, show 52 - n.log2 + (n.log2 + (e - 52)) = e by omega]
  have whole : divideNearest (n * 2 ^ e) (2 ^ (n.log2 + (e - 52))) = n * 2 ^ (52 - n.log2) := by
    rw [split, divideNearest, Nat.mul_mod_left, Nat.mul_div_left _ (by positivity)]
    simp
  have dropped : n.log2 + e - 52 = n.log2 + (e - 52) := by omega
  simp only [nearestRank_eq, Nat.div_one, digits, dropped, one_mul, whole]

lemma ofRank_of_lt {rank : Nat} (h : rank < rankLimit) :
    ofRank false rank = .finite rank (by simpa using h) := by
  simp [ofRank, h, signedRank]

lemma units_of_rank (steps extra : Nat) (he : extra < 2 ^ 52) :
    units ((steps + 1) * 2 ^ 52 + extra) = (2 ^ 52 + extra) * 2 ^ steps := by
  have large : ¬ (steps + 1) * 2 ^ 52 + extra < 2 ^ 52 := by omega
  have rest : ((steps + 1) * 2 ^ 52 + extra) % 2 ^ 52 = extra := by omega
  have quotient : ((steps + 1) * 2 ^ 52 + extra) / 2 ^ 52 - 1 = steps := by omega
  rw [units_eq, if_neg large, rest, quotient]

/-- Whole numbers below `2 ^ 53` are exact. -/
lemma ofNat_eq_finite {n : Nat} (hn : n < 2 ^ 53) :
    ∃ rank bounded, ofNat n = .finite rank bounded ∧ 0 ≤ rank ∧ magnitude rank = n * one := by
  rcases eq_or_ne n 0 with rfl | positive
  · exact ⟨0, by decide, by decide +kernel, le_refl _, by decide +kernel⟩
  · obtain ⟨e, he, hone⟩ := exists_one_eq_pow
    obtain ⟨small, low, high⟩ := filled_bounds positive hn
    obtain ⟨extra, hextra⟩ : ∃ extra, n * 2 ^ (52 - n.log2) = 2 ^ 52 + extra :=
      ⟨_, (Nat.add_sub_cancel' low).symm⟩
    obtain ⟨rank, hrank⟩ : ∃ rank, nearestRank (n * one) 1 = rank := ⟨_, rfl⟩
    have place : rank = (n.log2 + (e - 52) + 1) * 2 ^ 52 + extra := by
      rw [← hrank, hone, nearestRank_whole (by omega) positive hn, hextra]
      ring
    have made : ofNat n = ofRank false rank := by rw [ofNat, ofRatio, ofUnits, hrank]
    have fits : 52 - n.log2 + (n.log2 + (e - 52)) = e := by
      clear hone
      omega
    have bounded : rank < rankLimit := by
      clear hone
      rw [place, rankLimit_eq]
      omega
    have exact : units rank = n * one := by
      rw [place, units_of_rank _ _ (by clear hone; omega), ← hextra, mul_assoc, ← pow_add, fits,
        hone]
    exact ⟨rank, by simpa using bounded, made.trans (ofRank_of_lt bounded),
      Int.natCast_nonneg _, by rw [magnitude, Int.natAbs_natCast, exact]⟩

lemma remNat_eq_rem {n : Nat} (hn : n < 2 ^ 53) {x : Binary64} :
    remNat n x = ofNat n % x := by
  obtain ⟨rank, bounded, same, positive, exact⟩ := ofNat_eq_finite hn
  rw [same]
  change _ = rem _ _
  cases x with
  | nan => rfl
  | infinite negative => simp [remNat, rem, same]
  | finite b hb =>
    have sign : decide (rank < 0) = false := by simpa using positive
    simp only [remNat, rem, exact, sign]

end Binary64

namespace Grid

theorem place_eq_cell {index : Nat} (hi : index < 2 ^ 53) (grid : Grid) :
    grid.place index = grid.cell (.ofNat index) := by
  rw [place, Binary64.remNat_eq_rem hi]
  rfl

/-- What a grid needs to have a place for every index. -/
structure Regular (grid : Grid) : Prop where
  columnsFinite : grid.columns.isFinite = true
  columnsPositive : grid.columns.isPositive = true
  spacingPositive : grid.spacing.isPositive = true

theorem Regular.place_isNumber {grid : Grid} (regular : grid.Regular)
    (finite : grid.spacing.isFinite = true) (index : Nat) :
    (grid.place index).x.isNaN = false ∧ (grid.place index).y.isNaN = false := by
  have column := Binary64.remNat_ne_nan index regular.columnsPositive
  have row := Binary64.floor_ne_nan (Binary64.div_ne_nan (Binary64.ofNat_ne_nan index)
    regular.columnsFinite regular.columnsPositive)
  exact ⟨decide_eq_false (Binary64.mul_ne_nan finite regular.spacingPositive column),
    decide_eq_false (Binary64.mul_ne_nan finite regular.spacingPositive row)⟩

lemma exists_of_number {path : List String} {value : Option Json} {rule : NumberRule}
    {default : Json}
    (clean : (Shape.check path value (.withDefault (.number rule) default)).issues = []) :
    ∃ x : Binary64, rule.faults x = [] ∧
      (Shape.check path value (.withDefault (.number rule) default)).value = some (.number x) := by
  simp only [Shape.check] at clean ⊢
  cases given : value.getD default with
  | number x =>
    by_cases hx : x.isNaN = true
    · simp [given, hx, Outcome.mismatch, Outcome.refuse] at clean
    · have none : rule.faults x = [] := by
        simpa [given, hx, Outcome.report] using clean
      exact ⟨x, none, by simp [hx, Outcome.report]⟩
  | _ => simp [given, Outcome.mismatch, Outcome.refuse] at clean

lemma isPositive_of_faults {x : Binary64} (h : NumberRule.positive.faults x = []) :
    x.isPositive = true := by
  by_contra other
  simp [NumberRule.faults, other] at h

lemma isInteger_of_faults {x : Binary64} (h : NumberRule.positiveInteger.faults x = []) :
    x.isInteger = true ∧ x.isPositive = true := by
  constructor
  · by_contra other
    simp [NumberRule.faults, other] at h
  · by_contra other
    simp [NumberRule.faults, other] at h

lemma isFinite_of_isInteger {x : Binary64} (h : x.isInteger = true) : x.isFinite = true := by
  cases x with
  | finite rank bounded => rfl
  | _ => simp [Binary64.isInteger] at h

lemma regular_ofJson {value result : Json} (h : shape.Yields value result) :
    (ofJson result).Regular := by
  have columns := Shape.member_rebuilt h (by decide) List.mem_cons_self
  have spacing := Shape.member_rebuilt h (by decide)
    (List.mem_cons_of_mem _ List.mem_cons_self)
  obtain ⟨x, hx, columnsMade⟩ := exists_of_number columns.1
  obtain ⟨y, hy, spacingMade⟩ := exists_of_number spacing.1
  have made : ofJson result = ⟨x, y⟩ := by
    simp [ofJson, columns.2, columnsMade, spacing.2, spacingMade, Json.number?]
  obtain ⟨whole, positive⟩ := isInteger_of_faults hx
  rw [made]
  exact ⟨isFinite_of_isInteger whole, positive, isPositive_of_faults hy⟩

end Grid

theorem Settings.regular_of_resolve {asked : Option Json} {settings : Settings}
    (resolved : resolve asked = .ok settings) : settings.grid.Regular := by
  unfold resolve at resolved
  split at resolved
  · rename_i json parsed
    cases resolved
    have layout := Shape.member_rebuilt (Shape.yields_of_parse parsed) (by decide)
      (List.mem_cons_of_mem _ <| List.mem_cons_of_mem _ <| List.mem_cons_of_mem _ <|
        List.mem_cons_self)
    simp only [Shape.check] at layout
    have rebuilt := Shape.yields_rebuild layout.1
    rw [rebuilt _] at layout
    have made : (ofJson json).grid = Grid.ofJson (Grid.shape.rebuild
        (((asked.getD (.object [])).get? "layout").getD (.object []))) := by
      simp [ofJson, layout.2, Outcome.accept]
    rw [made]
    exact Grid.regular_ofJson rebuilt
  · cases resolved

end PropertyGraph
