import PropertyGraph.Binary64.Basic

/-! Decimal numerals of binary numbers. A numeral is read to the nearest number, and a
number is written with the fewest digits that read back to it, of those the nearest.
Writing tests every candidate by reading it, so a candidate that is chosen reads back
without any analysis of error intervals. -/
namespace PropertyGraph

/-- The decimal `mantissa · 10 ^ exponent`. -/
structure Decimal where
  mantissa : Nat
  exponent : Int
  deriving DecidableEq, Repr

namespace Decimal

/-- The number nearest to a decimal. Exponents out of all range are decided by size, so
the powers of ten computed stay small. -/
def round (negative : Bool) (d : Decimal) : Binary64 :=
  if d.mantissa = 0 then 0
  else if 400 < d.exponent then .infinite negative
  else if 0 ≤ d.exponent then
    Binary64.ofRatio negative (d.mantissa * Nat.pow 10 d.exponent.toNat) 1
  else if 400 + d.mantissa.log2 < (-d.exponent).toNat then 0
  else Binary64.ofRatio negative d.mantissa (Nat.pow 10 (-d.exponent).toNat)

def digitCount (n : Nat) : Nat := (Nat.toDigits 10 n).length

/-- The `n` for which the magnitude lies from `10 ^ (n - 1)` up to `10 ^ n`. -/
def pointOf (units : Nat) : Int :=
  if Binary64.one ≤ units then digitCount (units / Binary64.one)
  else 1 - (digitCount (Binary64.one / units) : Int)

def readsAs (rank : Nat) (d : Decimal) : Bool := d.round false = Binary64.ofRank false rank

/-- Of two neighbours the nearer one that is accepted, else the other one if it is. -/
def pick? (accepts : Decimal → Bool) (lowNearer : Bool) (low high : Decimal) : Option Decimal :=
  if accepts low && (lowNearer || !accepts high) then some low
  else if accepts high then some high
  else none

theorem accepts_of_pick? {accepts : Decimal → Bool} {lowNearer : Bool} {low high d : Decimal}
    (picked : pick? accepts lowNearer low high = some d) : accepts d = true := by
  unfold pick? at picked
  split at picked
  · rename_i hit
    cases picked
    exact (Bool.and_eq_true_iff.1 hit).1
  · split at picked
    · rename_i hit
      cases picked
      exact hit
    · cases picked

/-- The nearest decimal of so many digits that reads back to the rank, if one does; a tie
goes to the even one. -/
def ofDigits? (rank digits : Nat) : Option Decimal :=
  let units := Binary64.units rank
  let exponent := pointOf units - digits
  let num := if exponent < 0 then units * Nat.pow 10 (-exponent).toNat else units
  let den := if exponent < 0 then Binary64.one else Binary64.one * Nat.pow 10 exponent.toNat
  let lowNearer := 2 * (num % den) < den || 2 * (num % den) = den && num / den % 2 = 0
  pick? (readsAs rank) lowNearer ⟨num / den, exponent⟩ ⟨num / den + 1, exponent⟩

theorem readsAs_of_ofDigits? {rank digits : Nat} {d : Decimal}
    (chosen : ofDigits? rank digits = some d) : readsAs rank d = true :=
  accepts_of_pick? chosen

/-- Every digit of a magnitude: a unit is `5 ^ 1074` steps of the last decimal place. -/
def exact (rank : Nat) : Decimal := ⟨Binary64.units rank * Nat.pow 5 1074, -1074⟩

/-- The decimal of fewest digits that reads back to the rank. -/
def shortest (rank : Nat) : Decimal :=
  ((List.range 17).findSome? fun i => ofDigits? rank (i + 1)).getD (exact rank)

/-- The decimal digits without the zeros at their end, and how many digits there are
before the point. -/
def significant (d : Decimal) : List Char × Int :=
  let digits := Nat.toDigits 10 d.mantissa
  ((digits.reverse.dropWhile (· == '0')).reverse, digits.length + d.exponent)

def signedChars (n : Int) : List Char :=
  (if n < 0 then '-' else '+') :: Nat.toDigits 10 n.natAbs

/-- Positional from a millionth up to twenty-one digits, and with an exponent beyond. -/
def toChars (d : Decimal) : List Char :=
  let (digits, point) := d.significant
  if digits.length ≤ point ∧ point ≤ 21 then
    digits ++ List.replicate (point.toNat - digits.length) '0'
  else if 0 < point ∧ point ≤ 21 then
    digits.take point.toNat ++ '.' :: digits.drop point.toNat
  else if -6 < point ∧ point ≤ 0 then
    '0' :: '.' :: List.replicate (-point).toNat '0' ++ digits
  else
    digits.take 1 ++ (if digits.length = 1 then [] else '.' :: digits.drop 1) ++
      'e' :: signedChars (point - 1)

end Decimal

namespace Binary64

/-- The shortest text of a number; zero has no sign. -/
def toChars : Binary64 → List Char
  | .nan => "NaN".toList
  | .infinite negative => (if negative then "-Infinity" else "Infinity").toList
  | .finite r _ =>
    if r = 0 then ['0']
    else if r < 0 then '-' :: (Decimal.shortest r.natAbs).toChars
    else (Decimal.shortest r.natAbs).toChars

def toText (x : Binary64) : String := String.ofList x.toChars

instance : ToString Binary64 := ⟨toText⟩

end Binary64
end PropertyGraph
