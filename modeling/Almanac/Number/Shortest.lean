import Almanac.Number.Binary64

/-!
# The shortest decimal of a number

Of the decimals with the fewest digits that read back as a number, the one nearest
to it. For one digit, two digits and so on to seventeen, the number's two neighbours
on that decimal grid are tried, the nearer one first.

* `shortest_readsBack`: **the decimal found on a grid reads back.**
-/

namespace Almanac.Binary64

/-- A decimal `coefficient * 10 ^ exponent`. -/
structure Decimal where
  coefficient : Nat
  exponent : Int
deriving DecidableEq

/-- The decimal rounds to the magnitude of that rank. -/
def Decimal.readsBack (d : Decimal) (rank : Nat) : Bool :=
  nearestRank (d.coefficient * tenTo d.exponent.toNat) (tenTo (-d.exponent).toNat) == rank

/-- The place of the first digit of `num / den`: the power of ten just above it. -/
def leadingPlace (num den : Nat) : Int :=
  let guess : Int := (digitCount num : Int) - digitCount den
  if num * tenTo (-guess).toNat < den * tenTo guess.toNat then guess else guess + 1

/-- The two neighbours of `num / den` among the multiples of `10 ^ exponent`, the nearer
one first; of two equally near, the even one. -/
def neighbours (num den : Nat) (exponent : Int) : List Decimal :=
  let a := num * tenTo (-exponent).toNat
  let b := den * tenTo exponent.toNat
  let low : Decimal := ⟨a / b, exponent⟩
  let high : Decimal := ⟨a / b + 1, exponent⟩
  if 2 * (a % b) < b ∨ 2 * (a % b) = b ∧ a / b % 2 = 0 then [low, high] else [high, low]

/-- The neighbours on the grids of one to seventeen digits. -/
def candidates (rank : Nat) : List Decimal :=
  let (num, den) := ratio rank
  (List.range 17).flatMap fun i => neighbours num den (leadingPlace num den - (i + 1 : Nat))

/-- The exact decimal of a magnitude. -/
def exactDecimal (rank : Nat) : Decimal := ⟨scaled rank * Nat.pow 5 1074, -1074⟩

/-- The shortest decimal that reads back as the magnitude of that rank. -/
def shortest (rank : Nat) : Decimal :=
  ((candidates rank).find? (·.readsBack rank)).getD (exactDecimal rank)

/-- **A decimal found on a grid reads back.** -/
theorem shortest_readsBack {rank : Nat} {d : Decimal}
    (h : (candidates rank).find? (·.readsBack rank) = some d) :
    shortest rank = d ∧ d.readsBack rank = true := by
  exact ⟨by simp [shortest, h], List.find?_some (p := fun d => Decimal.readsBack d rank) h⟩

end Almanac.Binary64
