import PropertyGraph.Json.Reader
import PropertyGraph.Proofs.Rounding

/-! The text of a number is read back as that number, whichever of its layouts it has. What is
read need not be the decimal that was written: digits and exponent may be shared out in another
way, but both are rounded to one number. -/
namespace PropertyGraph

namespace Json.Reader

/-- What may stand behind a number that ends there. -/
def EndsNumber (rest : List Char) : Prop :=
  ∀ c ∈ rest.head?, c.isDigit = false ∧ c ≠ '.' ∧ c ≠ 'e' ∧ c ≠ 'E'

section Parts

variable {ds rest : List Char}

lemma digits_append (all : ∀ c ∈ ds, c.isDigit = true)
    (stop : ∀ c ∈ rest.head?, c.isDigit = false) : digits (ds ++ rest) = (ds, rest) := by
  rw [digits, List.takeWhile_append_of_pos all, List.dropWhile_append_of_pos all]
  cases rest with
  | nil => simp
  | cons c cs => simp [stop c rfl]

lemma wholePart?_append (all : ∀ c ∈ ds, c.isDigit = true) (given : ds ≠ [])
    (plain : ds.head? = some '0' → ds = ['0']) (stop : ∀ c ∈ rest.head?, c.isDigit = false) :
    wholePart? (ds ++ rest) = some (ds, rest) := by
  rw [wholePart?, digits_append all stop]
  split
  · rename_i h
    cases h
    exact absurd rfl given
  · rename_i h
    cases h
    simp at plain
  · rename_i h
    cases h
    rfl

lemma fraction?_of_head (stop : rest.head? ≠ some '.') : fraction? rest = some ([], rest) := by
  unfold fraction?
  split
  · simp at stop
  · rfl

lemma fraction?_append (all : ∀ c ∈ ds, c.isDigit = true) (given : ds ≠ [])
    (stop : ∀ c ∈ rest.head?, c.isDigit = false) :
    fraction? ('.' :: (ds ++ rest)) = some (ds, rest) := by
  rw [fraction?, digits_append all stop]
  split
  · rename_i h
    cases h
    exact absurd rfl given
  · rename_i h
    cases h
    rfl

lemma exponent?_of_head (stop : ∀ c ∈ rest.head?, c ≠ 'e' ∧ c ≠ 'E') :
    exponent? rest = some (0, rest) := by
  cases rest with
  | nil => rfl
  | cons c cs => simp [exponent?, stop c rfl]

lemma digitsValue_toDigits (n : Nat) : digitsValue (Nat.toDigits 10 n) = n :=
  Nat.ofDigitChars_ten_toDigits

lemma digitsValue_append_zeros (ds : List Char) (zeros : Nat) :
    digitsValue (ds ++ List.replicate zeros '0') = digitsValue ds * 10 ^ zeros := by
  change Nat.ofDigitChars 10 _ 0 = Nat.ofDigitChars 10 ds 0 * _
  rw [Nat.ofDigitChars_append, Nat.ofDigitChars_replicate_zero, mul_comm]

lemma digitsValue_zeros_append (zeros : Nat) (ds : List Char) :
    digitsValue (List.replicate zeros '0' ++ ds) = digitsValue ds := by
  change Nat.ofDigitChars 10 _ 0 = Nat.ofDigitChars 10 ds 0
  rw [Nat.ofDigitChars_append, Nat.ofDigitChars_replicate_zero, mul_zero]

lemma isDigit_toDigits {n : Nat} : ∀ c ∈ Nat.toDigits 10 n, c.isDigit = true :=
  fun _ inside => Nat.isDigit_of_mem_toDigits (by decide) (by decide) inside

lemma exponent?_signedChars (n : Int) (stop : ∀ c ∈ rest.head?, c.isDigit = false) :
    exponent? ('e' :: (Decimal.signedChars n ++ rest)) = some (n, rest) := by
  have read := digits_append (isDigit_toDigits (n := n.natAbs)) stop
  have value := digitsValue_toDigits n.natAbs
  obtain ⟨c, cs, hc⟩ := List.exists_cons_of_ne_nil (Nat.toDigits_ne_nil (n := n.natAbs) (b := 10))
  rw [hc, List.cons_append] at read
  rw [hc] at value
  by_cases negative : n < 0
  · simp [exponent?, Decimal.signedChars, negative, hc, value, read, abs_of_neg negative]
  · simp [exponent?, Decimal.signedChars, negative, hc, value, read,
      abs_of_nonneg (not_lt.1 negative)]

lemma decimal?_append {whole fraction tail : List Char} {power : Int}
    (all : ∀ c ∈ whole ++ fraction, c.isDigit = true) (given : whole ≠ [])
    (plain : whole.head? = some '0' → whole = ['0'])
    (stop : ∀ c ∈ tail.head?, c.isDigit = false ∧ c ≠ '.')
    (read : exponent? tail = some (power, rest)) :
    decimal? (whole ++ ((if fraction = [] then [] else '.' :: fraction) ++ tail)) =
      some (⟨digitsValue (whole ++ fraction), power - fraction.length⟩, rest) := by
  have digit : ∀ c ∈ tail.head?, c.isDigit = false := fun c first => (stop c first).1
  have wholeAll : ∀ c ∈ whole, c.isDigit = true := fun c h => all c (List.mem_append_left _ h)
  have fractionAll : ∀ c ∈ fraction, c.isDigit = true :=
    fun c h => all c (List.mem_append_right _ h)
  by_cases none : fraction = []
  · subst none
    have point : tail.head? ≠ some '.' := fun h => (stop '.' h).2 rfl
    simp [decimal?, wholePart?_append wholeAll given plain digit, fraction?_of_head point, read]
  · rw [if_neg none, List.cons_append, decimal?,
      wholePart?_append wholeAll given plain (by simp)]
    simp [fraction?_append fractionAll none digit, read]

lemma exists_digit_of_decimal? {cs : List Char} {answer : Decimal × List Char}
    (read : decimal? cs = some answer) : ∃ c rest, cs = c :: rest ∧ c.isDigit = true := by
  cases cs with
  | nil => simp [decimal?, wholePart?, digits] at read
  | cons c rest =>
    refine ⟨c, rest, rfl, ?_⟩
    by_contra other
    simp [decimal?, wholePart?, digits, other] at read

end Parts
end Json.Reader

namespace Decimal
open Json.Reader

lemma head_toDigits_ne {n : Nat} (some : n ≠ 0) : (Nat.toDigits 10 n).head? ≠ Option.some '0' := by
  induction n using Nat.strong_induction_on with
  | _ n ih =>
    rw [Nat.toDigits_eq_if (by decide)]
    split_ifs with small
    · interval_cases n <;> first | exact absurd rfl some | decide
    · rw [List.head?_append_of_ne_nil _ Nat.toDigits_ne_nil]
      exact ih (n / 10) (by omega) (by omega)

lemma exists_significant {d : Decimal} (some : d.mantissa ≠ 0) :
    ∃ ds zeros, d.significant = (ds, (ds.length + zeros : Nat) + d.exponent) ∧ ds ≠ [] ∧
      (∀ c ∈ ds, c.isDigit = true) ∧ ds.head? ≠ Option.some '0' ∧
      digitsValue ds * 10 ^ zeros = d.mantissa := by
  obtain ⟨written, hw⟩ : ∃ written, Nat.toDigits 10 d.mantissa = written := ⟨_, rfl⟩
  obtain ⟨ds, hds⟩ : ∃ ds, (written.reverse.dropWhile (· == '0')).reverse = ds := ⟨_, rfl⟩
  obtain ⟨zeros, hz⟩ : ∃ zeros, written.reverse.takeWhile (· == '0') = List.replicate zeros '0' :=
    ⟨_, List.eq_replicate_iff.2 ⟨rfl, fun c inside => by simpa using List.mem_takeWhile_imp inside⟩⟩
  have split : Nat.toDigits 10 d.mantissa = ds ++ List.replicate zeros '0' := by
    have both := congrArg List.reverse
      (List.takeWhile_append_dropWhile (p := (· == '0')) (l := written.reverse))
    rw [hz, List.reverse_append, List.reverse_reverse, List.reverse_replicate, hds] at both
    exact hw.trans both.symm
  have value : digitsValue ds * 10 ^ zeros = d.mantissa := by
    rw [← digitsValue_append_zeros, ← split, digitsValue_toDigits]
  have nonempty : ds ≠ [] := by
    rintro rfl
    exact some (by rw [← value]; simp [digitsValue])
  refine ⟨ds, zeros, ?_, nonempty, fun c inside => ?_, ?_, value⟩
  · rw [significant, hw, hds, ← hw, split]
    simp
  · exact isDigit_toDigits c (split ▸ List.mem_append_left _ inside)
  · have head := head_toDigits_ne some
    rwa [split, List.head?_append_of_ne_nil _ nonempty] at head

/-- Digits shared out between a whole part, a fraction and a power of ten are read as a decimal
that is worth what they are worth together. -/
lemma exists_decimal?_parts {whole fraction tail rest : List Char} {power : Int}
    (all : ∀ c ∈ whole ++ fraction, c.isDigit = true) (given : whole ≠ [])
    (plain : whole.head? = some '0' → whole = ['0'])
    (stop : ∀ c ∈ tail.head?, c.isDigit = false ∧ c ≠ '.')
    (read : exponent? tail = some (power, rest)) {d : Decimal} {digits zeros extra : Nat}
    (written : digits * 10 ^ zeros = d.mantissa)
    (value : digitsValue (whole ++ fraction) = digits * 10 ^ extra)
    (left : power - fraction.length + extra = d.exponent + zeros) :
    ∃ back, decimal? (whole ++ ((if fraction = [] then [] else '.' :: fraction) ++ tail)) =
      some (back, rest) ∧ ∀ negative, back.round negative = d.round negative := by
  refine ⟨_, decimal?_append all given plain stop read, fun negative => ?_⟩
  rw [value, round_shift, left, ← round_shift, written]

/-- The text of a decimal is read as one of the same worth, whichever layout it has. -/
theorem exists_decimal?_toChars {d : Decimal} (some : d.mantissa ≠ 0) {rest : List Char}
    (ends : EndsNumber rest) :
    ∃ back, decimal? (d.toChars ++ rest) = Option.some (back, rest) ∧
      ∀ negative, back.round negative = d.round negative := by
  obtain ⟨ds, zeros, hds, nonempty, all, plain, written⟩ := exists_significant some
  have stop : ∀ c ∈ rest.head?, c.isDigit = false ∧ c ≠ '.' :=
    fun c first => ⟨(ends c first).1, (ends c first).2.1⟩
  have power := exponent?_of_head fun c first => (ends c first).2.2
  have long : 0 < ds.length := List.length_pos_iff.2 nonempty
  have zerosAll (n : Nat) : ∀ c ∈ List.replicate n '0', c.isDigit = true :=
    fun c inside => by rw [List.eq_of_mem_replicate inside]; rfl
  have firstPlain (n : Nat) : (ds.take n).head? = Option.some '0' → ds.take n = ['0'] := by
    cases n <;> simp [List.head?_take, plain]
  have parts (n : Nat) : ∀ c ∈ ds.take n ++ ds.drop n, c.isDigit = true := by
    rwa [List.take_append_drop]
  have joined (n : Nat) : digitsValue (ds.take n ++ ds.drop n) = digitsValue ds * 10 ^ 0 := by
    rw [List.take_append_drop, pow_zero, mul_one]
  obtain ⟨point, hpoint⟩ : ∃ point, ((ds.length + zeros : Nat) : Int) + d.exponent = point :=
    ⟨_, rfl⟩
  rw [hpoint] at hds
  simp only [toChars, hds]
  by_cases whole : ds.length ≤ point ∧ point ≤ 21
  · have value : digitsValue ((ds ++ List.replicate (point.toNat - ds.length) '0') ++ []) =
        digitsValue ds * 10 ^ (point.toNat - ds.length) := by
      rw [List.append_nil, digitsValue_append_zeros]
    have read := exists_decimal?_parts
      (by rw [List.append_nil]; exact List.forall_mem_append.2 ⟨all, zerosAll _⟩)
      (by simp [nonempty]) (by simp [List.head?_append_of_ne_nil _ nonempty, plain]) stop power
      written value (by simp; omega)
    simpa [whole] using read
  · rw [if_neg whole]
    by_cases pointed : 0 < point ∧ point ≤ 21
    · have read := exists_decimal?_parts (parts point.toNat) (by simp [nonempty]; omega)
        (firstPlain _) stop power written (joined _) (by rw [List.length_drop]; omega)
      have behind : ds.drop point.toNat ≠ [] := by simp; omega
      simpa [pointed, behind] using read
    · rw [if_neg pointed]
      by_cases small : -6 < point ∧ point ≤ 0
      · have value : digitsValue (['0'] ++ (List.replicate (-point).toNat '0' ++ ds)) =
            digitsValue ds * 10 ^ 0 := by
          rw [pow_zero, mul_one]
          exact digitsValue_zeros_append ((-point).toNat + 1) ds
        have read := exists_decimal?_parts
          (List.forall_mem_append.2 ⟨zerosAll 1, List.forall_mem_append.2 ⟨zerosAll _, all⟩⟩)
          (by simp) (fun _ => rfl) stop power written value (by simp; omega)
        simpa [small, nonempty] using read
      · rw [if_neg small]
        have sign : ∀ c ∈ ('e' :: (signedChars (point - 1) ++ rest)).head?,
            c.isDigit = false ∧ c ≠ '.' := by simp
        have read := exists_decimal?_parts (parts 1) (by simp [nonempty]) (firstPlain 1) sign
          (exponent?_signedChars (point - 1) fun c first => (ends c first).1) written (joined 1)
          (by simp; omega)
        have single : ds.drop 1 = [] ↔ ds.length = 1 := by
          rw [List.drop_eq_nil_iff]
          omega
        simp only [single] at read
        simpa using read

end Decimal

namespace Json.Reader
open Binary64

/-- The text of a positive number begins with a digit and is read back, and behind a minus
sign it is read as the negative of the number. -/
lemma exists_number?_shortest {rank : Nat} (bounded : rank < rankLimit) (some : rank ≠ 0)
    {rest : List Char} (ends : EndsNumber rest) :
    (∃ c cs, (Decimal.shortest rank).toChars ++ rest = c :: cs ∧ c.isDigit = true) ∧
      ∀ negative, (decimal? ((Decimal.shortest rank).toChars ++ rest)).map
        (fun answer => (answer.1.round negative, answer.2)) =
          Option.some (ofRank negative rank, rest) := by
  obtain ⟨back, read, worth⟩ :=
    Decimal.exists_decimal?_toChars (Decimal.mantissa_shortest bounded some) ends
  refine ⟨exists_digit_of_decimal? read, fun negative => ?_⟩
  rw [read, Option.map_some, worth,
    Decimal.round_of_readsAs bounded (Decimal.readsAs_shortest rank)]

/-- The text of a finite number is read back as that number, and tells by its first character
that it is a number. -/
theorem number?_toChars {x : Binary64} (finite : x.isFinite = true) {rest : List Char}
    (ends : EndsNumber rest) :
    number? (x.toChars ++ rest) = some (x, rest) ∧
      ∃ c cs, x.toChars ++ rest = c :: cs ∧ (c = '-' ∨ c.isDigit = true) := by
  cases x with
  | nan => simp [isFinite] at finite
  | infinite negative => simp [isFinite] at finite
  | finite r bounded =>
    rcases eq_or_ne r 0 with rfl | nonzero
    · have stop : ∀ c ∈ rest.head?, c.isDigit = false ∧ c ≠ '.' :=
        fun c first => ⟨(ends c first).1, (ends c first).2.1⟩
      have digit : ∀ c ∈ ['0'] ++ [], c.isDigit = true := List.forall_mem_singleton.2 (by decide)
      have read : decimal? ('0' :: rest) = some (⟨0, 0⟩, rest) :=
        decimal?_append digit (by simp) (fun _ => rfl) stop
          (exponent?_of_head fun c first => (ends c first).2.2)
      have number : number? ('0' :: rest) = some (.finite 0 bounded, rest) := by
        rw [← zero_eq]
        simp [number?, read, Decimal.round]
      exact ⟨number, '0', rest, rfl, Or.inr (by decide)⟩
    · obtain ⟨⟨c, cs, text, digit⟩, read⟩ :=
        exists_number?_shortest bounded (Int.natAbs_ne_zero.2 nonzero) ends
      have back := ofRank_natAbs bounded
      by_cases below : r < 0
      · rw [decide_eq_true below] at back
        have signed : toChars (.finite r bounded) ++ rest =
            '-' :: ((Decimal.shortest r.natAbs).toChars ++ rest) := by
          simp [toChars, nonzero, below]
        rw [signed]
        exact ⟨back ▸ read true, _, _, rfl, Or.inl rfl⟩
      · rw [decide_eq_false below] at back
        have plain : toChars (.finite r bounded) = (Decimal.shortest r.natAbs).toChars := by
          simp [toChars, nonzero, below]
        have positive : number? (c :: cs) = (decimal? (c :: cs)).map
            fun answer => (answer.1.round false, answer.2) := by
          unfold number?
          split
          · rename_i h
            cases h
            cases digit
          · rfl
        rw [plain, text]
        exact ⟨by rw [positive, ← text, read false, back], c, cs, rfl, Or.inr digit⟩

end Json.Reader
end PropertyGraph
