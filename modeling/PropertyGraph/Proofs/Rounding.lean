import PropertyGraph.Binary64.Decimal
import PropertyGraph.Proofs.Layout

/-! Rounding of ratios and decimals. What a ratio is rounded to depends on its value only, a
magnitude that is exact keeps its rank, and a decimal is rounded as the ratio it stands for,
however large or small its exponent. So the decimal that is written for a number is read as
that number. -/
namespace PropertyGraph

namespace Binary64

section Scaling

variable {k num den : Nat}

lemma divideNearest_mul (positive : 0 < k) (num den : Nat) :
    divideNearest (k * num) (k * den) = divideNearest num den := by
  have rest : 2 * (k * num % (k * den)) = k * (2 * (num % den)) := by
    rw [Nat.mul_mod_mul_left, Nat.mul_left_comm]
  have quotient : k * num / (k * den) = num / den := Nat.mul_div_mul_left num den positive
  simp only [divideNearest, rest, quotient, Nat.mul_lt_mul_left positive]

lemma nearestRank_mul (positive : 0 < k) (num den : Nat) :
    nearestRank (k * num) (k * den) = nearestRank num den := by
  rw [nearestRank_eq, nearestRank_eq, Nat.mul_div_mul_left num den positive, mul_assoc k,
    divideNearest_mul positive]

lemma ofRatio_mul (positive : 0 < k) (negative : Bool) (num den : Nat) :
    ofRatio negative (k * num) (k * den) = ofRatio negative num den := by
  rw [ofRatio, ofRatio, ofUnits, ofUnits, mul_assoc, nearestRank_mul positive]

/-- Equal ratios are rounded alike. -/
theorem ofRatio_congr {num' den' : Nat} (positive : 0 < den) (positive' : 0 < den')
    (same : num * den' = num' * den) (negative : Bool) :
    ofRatio negative num den = ofRatio negative num' den' := by
  rw [← ofRatio_mul positive', ← ofRatio_mul positive negative num', mul_comm den' num, same,
    mul_comm num' den, mul_comm den' den]

end Scaling

section Ranks

variable {num den : Nat}

/-- A magnitude that a number has is rounded to the rank of that number. -/
theorem nearestRank_units (rank : Nat) : nearestRank (units rank) 1 = rank := by
  rw [nearestRank_eq, Nat.div_one, one_mul]
  by_cases small : rank < 2 ^ 52
  · have exact : units rank = rank := by rw [units_eq, if_pos small]
    have digits : rank.log2 - 52 = 0 := by
      rcases eq_or_ne rank 0 with rfl | positive
      · rfl
      · have := (Nat.log2_lt positive).2 small
        omega
    rw [exact, digits, divideNearest]
    simp [Nat.mod_one]
  · obtain ⟨steps, extra, he, rfl⟩ : ∃ steps extra, extra < 2 ^ 52 ∧
        rank = (steps + 1) * 2 ^ 52 + extra :=
      ⟨rank / 2 ^ 52 - 1, rank % 2 ^ 52, Nat.mod_lt _ (by positivity), by omega⟩
    have digits : ((2 ^ 52 + extra) * 2 ^ steps).log2 = 52 + steps := by
      rw [Nat.log2_eq_iff (by positivity)]
      constructor
      · rw [pow_add]
        exact Nat.mul_le_mul_right _ (Nat.le_add_right _ _)
      · rw [show 52 + steps + 1 = 53 + steps by omega, pow_add]
        exact Nat.mul_lt_mul_of_pos_right (by omega) (by positivity)
    have whole : divideNearest ((2 ^ 52 + extra) * 2 ^ steps) (2 ^ steps) = 2 ^ 52 + extra := by
      rw [divideNearest, Nat.mul_mod_left, Nat.mul_div_left _ (by positivity)]
      simp
    rw [units_of_rank steps extra he, digits, Nat.add_sub_cancel_left, whole]
    ring

lemma nearestRank_of_small (small : 2 * num < den) : nearestRank num den = 0 := by
  have less : num < den := by omega
  have rest : num % den = num := Nat.mod_eq_of_lt less
  rw [nearestRank_eq, Nat.div_eq_of_lt less]
  simp [divideNearest, rest, small, Nat.div_eq_of_lt less]

lemma le_nearestRank {size : Nat} (long : 52 ≤ size) (large : 2 ^ size ≤ num / den) :
    (size - 51) * 2 ^ 52 ≤ nearestRank num den := by
  have nonzero : num / den ≠ 0 := fun none => by simp [none] at large
  have digits : size ≤ (num / den).log2 := (Nat.le_log2 nonzero).2 large
  obtain ⟨dropped, hd⟩ : ∃ dropped, (num / den).log2 = 52 + dropped :=
    ⟨(num / den).log2 - 52, by omega⟩
  have kept : 2 ^ 52 ≤ divideNearest num (den * 2 ^ dropped) := by
    have full : 2 ^ 52 * 2 ^ dropped ≤ num / den := by
      rw [← pow_add, ← hd]
      exact Nat.log2_self_le nonzero
    have quotient : 2 ^ 52 ≤ num / (den * 2 ^ dropped) := by
      rw [← Nat.div_div_eq_div_mul]
      exact (Nat.le_div_iff_mul_le (by positivity)).2 full
    refine quotient.trans ?_
    rw [divideNearest]
    split_ifs <;> omega
  have steps : (size - 51) * 2 ^ 52 ≤ (dropped + 1) * 2 ^ 52 :=
    Nat.mul_le_mul_right _ (by omega)
  rw [nearestRank_eq, hd, Nat.add_sub_cancel_left]
  omega

lemma ofRank_zero (negative : Bool) : ofRank negative 0 = 0 := by
  rw [zero_eq]
  cases negative <;> rfl

lemma ofRank_of_ge {rank : Nat} (h : rankLimit ≤ rank) (negative : Bool) :
    ofRank negative rank = .infinite negative := by
  rw [ofRank, dif_neg (by omega)]

lemma ofRank_natAbs {rank : Int} (bounded : rank.natAbs < rankLimit) :
    ofRank (decide (rank < 0)) rank.natAbs = .finite rank bounded := by
  have sign : signedRank (decide (rank < 0)) rank.natAbs = rank := by
    by_cases below : rank < 0
    · rw [decide_eq_true below, signedRank, if_pos rfl]
      omega
    · rw [decide_eq_false below, signedRank, if_neg (by decide)]
      omega
  simp only [ofRank, dif_pos bounded, sign]

lemma eq_of_ofRank_eq {rank other : Nat} (bounded : rank < rankLimit)
    (same : ofRank false other = ofRank false rank) : other = rank := by
  rw [ofRank_of_lt bounded] at same
  by_cases h : other < rankLimit
  · rw [ofRank_of_lt h] at same
    simpa using same
  · rw [ofRank_of_ge (by omega)] at same
    cases same

end Ranks
end Binary64

namespace Decimal
open Binary64

lemma pow_eight_le (n : Nat) : 2 ^ (3 * n) ≤ 10 ^ n := by
  rw [pow_mul]
  exact Nat.pow_le_pow_left (by decide) n

lemma ofRatio_of_large {mantissa n : Nat} (some : mantissa ≠ 0) (large : 400 < n)
    (negative : Bool) : ofRatio negative (mantissa * 10 ^ n) 1 = .infinite negative := by
  obtain ⟨e, he, hone⟩ := exists_one_eq_pow
  have size : 2 ^ (3 * n + e) ≤ mantissa * 10 ^ n * 2 ^ e / 1 := by
    rw [Nat.div_one, pow_add]
    exact Nat.mul_le_mul_right _
      ((pow_eight_le n).trans (Nat.le_mul_of_pos_left _ (Nat.pos_of_ne_zero some)))
  have rank := le_nearestRank (by clear hone; omega) size
  have steps : 2047 * 2 ^ 52 ≤ (3 * n + e - 51) * 2 ^ 52 :=
    Nat.mul_le_mul_right _ (by clear hone size rank; omega)
  rw [ofRatio, ofUnits, hone]
  exact ofRank_of_ge (rankLimit_eq ▸ steps.trans rank) negative

lemma ofRatio_of_small {mantissa n : Nat} (small : 400 + mantissa.log2 < n) (negative : Bool) :
    ofRatio negative mantissa (10 ^ n) = 0 := by
  obtain ⟨e, he, hone⟩ := exists_one_eq_pow
  have bound : 2 * (mantissa * 2 ^ e) < 10 ^ n := by
    refine lt_of_lt_of_le ?_ (pow_eight_le n)
    have fits : 1 + (mantissa.log2 + 1 + e) ≤ 3 * n := by
      clear hone
      omega
    refine lt_of_lt_of_le ?_ (Nat.pow_le_pow_right (by decide) fits)
    rw [pow_add, pow_add, pow_one]
    exact Nat.mul_lt_mul_of_pos_left
      (Nat.mul_lt_mul_of_pos_right Nat.lt_log2_self (by positivity)) (by decide)
  rw [ofRatio, ofUnits, hone, nearestRank_of_small bound, ofRank_zero]

theorem round_eq_ofRatio (negative : Bool) (d : Decimal) : d.round negative =
    ofRatio negative (d.mantissa * 10 ^ d.exponent.toNat) (10 ^ (-d.exponent).toNat) := by
  obtain ⟨mantissa, exponent⟩ := d
  have power (n : Nat) : Nat.pow 10 n = 10 ^ n := rfl
  simp only [round, power]
  split_ifs with none large positive small
  · rw [none, zero_mul, ofRatio, ofUnits, zero_mul, nearestRank_of_small (by positivity),
      ofRank_zero]
  · rw [show (-exponent).toNat = 0 by omega, pow_zero, ofRatio_of_large none (by omega)]
  · rw [show (-exponent).toNat = 0 by omega, pow_zero]
  · rw [show exponent.toNat = 0 by omega, pow_zero, mul_one, ofRatio_of_small small]
  · rw [show exponent.toNat = 0 by omega, pow_zero, mul_one]

theorem round_shift (negative : Bool) (mantissa zeros : Nat) (exponent : Int) :
    round negative ⟨mantissa * 10 ^ zeros, exponent⟩ =
      round negative ⟨mantissa, exponent + zeros⟩ := by
  rw [round_eq_ofRatio, round_eq_ofRatio]
  refine ofRatio_congr (by positivity) (by positivity) ?_ negative
  have powers : zeros + exponent.toNat + (-(exponent + zeros)).toNat =
      (exponent + zeros).toNat + (-exponent).toNat := by omega
  calc mantissa * 10 ^ zeros * 10 ^ exponent.toNat * 10 ^ (-(exponent + zeros)).toNat
      = mantissa * 10 ^ (zeros + exponent.toNat + (-(exponent + zeros)).toNat) := by
        rw [pow_add, pow_add]
        ring
    _ = mantissa * 10 ^ (exponent + zeros).toNat * 10 ^ (-exponent).toNat := by
        rw [powers, pow_add]
        ring

section Reading

variable {rank : Nat} {d : Decimal}

theorem round_of_readsAs (bounded : rank < rankLimit) (reads : readsAs rank d = true)
    (negative : Bool) : d.round negative = ofRank negative rank := by
  have positive : d.round false = ofRank false rank := by simpa [readsAs] using reads
  rw [round_eq_ofRatio, ofRatio, ofUnits] at positive ⊢
  rw [eq_of_ofRank_eq bounded positive]

lemma exists_exact_eq : ∃ e : Nat, (∀ n, n * one = n * 2 ^ e) ∧
    ∀ rank, exact rank = ⟨units rank * Nat.pow 5 e, -e⟩ := by
  obtain ⟨e, he, hone⟩ := exists_one_eq_pow
  refine ⟨e, hone, fun rank => ?_⟩
  have exponent : -(e : Int) = -1074 := by rw [he, Nat.cast_ofNat]
  unfold exact
  rw [exponent, ← he]

lemma readsAs_exact (rank : Nat) : readsAs rank (exact rank) = true := by
  obtain ⟨e, hone, power⟩ := exists_exact_eq
  have ratio : units rank * Nat.pow 5 e * 2 ^ e = 10 ^ e * units rank := by
    rw [mul_assoc, show Nat.pow 5 e = 5 ^ e by rfl, ← mul_pow, mul_comm, show 5 * 2 = 10 by rfl]
  have scaled : nearestRank (10 ^ e * units rank) (10 ^ e * 1) = rank := by
    rw [nearestRank_mul (by positivity), nearestRank_units]
  have read : (exact rank).round false = ofRank false rank := by
    rw [round_eq_ofRatio, power, ofRatio, ofUnits, hone]
    simp only [Int.toNat_neg_natCast, neg_neg, Int.toNat_natCast, pow_zero, mul_one]
    rw [ratio, ← mul_one (10 ^ e), mul_assoc, one_mul, scaled]
  simpa [readsAs] using read

/-- The decimal of fewest digits reads as its number. -/
theorem readsAs_shortest (rank : Nat) : readsAs rank (shortest rank) = true := by
  rw [shortest]
  cases found : (List.range 17).findSome? fun i => ofDigits? rank (i + 1) with
  | none => exact readsAs_exact rank
  | some d =>
    obtain ⟨i, -, chosen⟩ := List.exists_of_findSome?_eq_some found
    exact readsAs_of_ofDigits? chosen

lemma mantissa_shortest (bounded : rank < rankLimit) (some : rank ≠ 0) :
    (shortest rank).mantissa ≠ 0 := by
  intro none
  have zero : (shortest rank).round false = 0 := by simp [round, none]
  have read := round_of_readsAs bounded (readsAs_shortest rank) false
  rw [zero, ← ofRank_zero false] at read
  exact some (eq_of_ofRank_eq bounded read).symm

end Reading
end Decimal
end PropertyGraph
