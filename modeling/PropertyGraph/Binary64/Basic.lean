/-! Binary floating-point numbers of 64 bits, held by rank in their order.
The rank of a number counts the representable magnitudes below it, so consecutive
numbers have consecutive ranks and rounding is one integer division. Every result of
an operation is the exact result rounded to the nearest number, a tie to the even rank.
There is one zero: no answer of this library tells two zeros apart. -/
namespace PropertyGraph

/-- Ranks from here on have no finite number; the first of them is infinity. -/
abbrev Binary64.rankLimit : Nat := 2047 * Nat.pow 2 52

/-- A 64-bit binary floating-point number; a negative rank is a negative number. -/
inductive Binary64
  | nan
  | infinite (negative : Bool)
  | finite (rank : Int) (bounded : rank.natAbs < Binary64.rankLimit)
  deriving DecidableEq, Repr

namespace Binary64

/-- The magnitude of a rank, in units of the least positive number. -/
def units (rank : Nat) : Nat :=
  let implicit := Nat.pow 2 52
  if rank < implicit then rank
  else (implicit + rank % implicit) * Nat.pow 2 (rank / implicit - 1)

def one : Nat := Nat.pow 2 1074

/-- The quotient rounded to the nearest integer, a half to the even one. -/
def divideNearest (num den : Nat) : Nat :=
  if 2 * (num % den) < den then num / den
  else if den < 2 * (num % den) then num / den + 1
  else num / den + num / den % 2

/-- The rank nearest to `num / den` units. Fifty-three binary digits are kept; a carry
out of the kept digits moves to the next rank of itself. -/
def nearestRank (num den : Nat) : Nat :=
  let dropped := (num / den).log2 - 52
  dropped * Nat.pow 2 52 + divideNearest num (den * Nat.pow 2 dropped)

def signedRank (negative : Bool) (rank : Nat) : Int :=
  if negative then -(rank : Int) else rank

theorem natAbs_signedRank (negative : Bool) (rank : Nat) :
    (signedRank negative rank).natAbs = rank := by
  cases negative <;> simp [signedRank]

/-- The number of a rank; a rank past the last finite one is infinity. -/
def ofRank (negative : Bool) (rank : Nat) : Binary64 :=
  if h : rank < rankLimit then
    .finite (signedRank negative rank) (by rw [natAbs_signedRank]; exact h)
  else .infinite negative

def ofUnits (negative : Bool) (num den : Nat) : Binary64 :=
  ofRank negative (nearestRank num den)

def ofRatio (negative : Bool) (num den : Nat) : Binary64 :=
  ofUnits negative (num * one) den

instance : OfNat Binary64 n := ⟨ofRatio false n 1⟩

def ofNat (n : Nat) : Binary64 := ofRatio false n 1

abbrev magnitude (rank : Int) : Nat := units rank.natAbs

def isFinite : Binary64 → Bool
  | .finite _ _ => true
  | _ => false

def isNaN (x : Binary64) : Bool := x = .nan

/-- Whether the number is finite and has no fractional part. -/
def isInteger : Binary64 → Bool
  | .finite r _ => magnitude r % one = 0
  | _ => false

def isPositive : Binary64 → Bool
  | .nan => false
  | .infinite negative => !negative
  | .finite r _ => 0 < r

def isNegative : Binary64 → Bool
  | .nan => false
  | .infinite negative => negative
  | .finite r _ => r < 0

/-- A product of zero and an infinity is not a number. -/
def mul : Binary64 → Binary64 → Binary64
  | .finite a _, .finite b _ =>
    ofUnits (decide (a < 0) ^^ decide (b < 0)) (magnitude a * magnitude b) one
  | .nan, _ => .nan
  | _, .nan => .nan
  | x, y =>
    if x = 0 ∨ y = 0 then .nan else .infinite (x.isNegative ^^ y.isNegative)

/-- Division by zero gives an infinity with the sign of the dividend. -/
def div : Binary64 → Binary64 → Binary64
  | .finite a _, .finite b _ =>
    if b = 0 then if a = 0 then .nan else .infinite (a < 0)
    else ofUnits (decide (a < 0) ^^ decide (b < 0)) (magnitude a * one) (magnitude b)
  | .infinite negative, .finite b _ => .infinite (negative ^^ decide (b < 0))
  | .finite _ _, .infinite _ => 0
  | _, _ => .nan

/-- The remainder of the quotient cut toward zero, with the sign of the dividend. -/
def rem : Binary64 → Binary64 → Binary64
  | .finite a _, .finite b _ =>
    if b = 0 then .nan else ofUnits (a < 0) (magnitude a % magnitude b) 1
  | x@(.finite _ _), .infinite _ => x
  | _, _ => .nan

/-- The remainder of a whole number, which is taken before anything is rounded. -/
def remNat (n : Nat) : Binary64 → Binary64
  | .finite b _ => if b = 0 then .nan else ofUnits false (n * one % magnitude b) 1
  | .infinite _ => ofNat n
  | .nan => .nan

def floor : Binary64 → Binary64
  | .finite r _ =>
    let whole := magnitude r / one
    if r < 0 then ofRatio true (if magnitude r % one = 0 then whole else whole + 1) 1
    else ofRatio false whole 1
  | x => x

instance : Mul Binary64 := ⟨mul⟩
instance : Div Binary64 := ⟨div⟩
instance : Mod Binary64 := ⟨rem⟩

end Binary64
end PropertyGraph
