import Almanac.Text.Basic

/-!
# Binary64 numbers

The double-precision numbers, exactly. The finite magnitudes are counted in
ascending order: rank 0 is zero, rank 1 the least subnormal, and so on, so that each
number has one representation and rounding is a choice of rank. A magnitude is a
whole number of units of `2 ^ -1074`, so that all arithmetic here is on `Nat`.

* `roundHalfEven_mul`: **rounding depends on the ratio alone**, not on its terms.
* `nearestRank_mul`: so does the choice of rank.
-/

namespace Almanac

/-- `2` to the power `n`. -/
def twoTo (n : Nat) : Nat := Nat.pow 2 n

/-- `10` to the power `n`. -/
def tenTo (n : Nat) : Nat := Nat.pow 10 n

theorem twoTo_add (m n : Nat) : twoTo (m + n) = twoTo m * twoTo n := Nat.pow_add 2 m n

theorem twoTo_pos (n : Nat) : 0 < twoTo n := Nat.pow_pos (by decide)

theorem twoTo_le {m n : Nat} (h : m ≤ n) : twoTo m ≤ twoTo n := Nat.pow_le_pow_right (by decide) h

theorem tenTo_add (m n : Nat) : tenTo (m + n) = tenTo m * tenTo n := Nat.pow_add 10 m n

theorem tenTo_zero : tenTo 0 = 1 := rfl

theorem tenTo_pos (n : Nat) : 0 < tenTo n := Nat.pow_pos (by decide)

theorem tenTo_le {m n : Nat} (h : m ≤ n) : tenTo m ≤ tenTo n := Nat.pow_le_pow_right (by decide) h

theorem tenTo_succ (n : Nat) : tenTo (n + 1) = 10 * tenTo n := Nat.pow_succ'

theorem tenTo_eq (n : Nat) : tenTo n = Nat.pow 5 n * twoTo n := Nat.mul_pow 5 2 n

theorem lt_tenTo {n k : Nat} (h : n < k) : n < tenTo k :=
  Nat.lt_trans h (Nat.lt_pow_self (by decide))

/-- How many units of `2 ^ -1074` make one. -/
def unitsPerOne : Nat := twoTo 1074

/-- How many finite magnitudes there are. -/
def rankCount : Nat := 0x7FF0000000000000

/-- A double-precision number. What is no number carries a payload, which tells it from
others of its kind. -/
inductive Binary64 where
  | nan (payload : Nat)
  | infinite (negative : Bool)
  | finite (negative : Bool) (rank : Fin rankCount)
deriving DecidableEq

namespace Binary64

/-- Zero of either sign. -/
def zero (negative : Bool) : Binary64 := .finite negative ⟨0, by decide⟩

/-- The magnitude of a rank, in units of `2 ^ -1074`. -/
def scaled (rank : Nat) : Nat :=
  if rank < twoTo 53 then rank
  else (rank % twoTo 52 + twoTo 52) * twoTo (rank / twoTo 52 - 1)

/-- The whole number nearest to `num / den`; a half goes to the even neighbour. -/
def roundHalfEven (num den : Nat) : Nat :=
  let floor := num / den
  let rest := num % den
  if 2 * rest < den then floor
  else if den < 2 * rest then floor + 1
  else floor + floor % 2

/-- The rank of the magnitude nearest to `num / den`; a half goes to the even rank.
A magnitude too great for any rank gives `rankCount` or more. -/
def nearestRank (num den : Nat) : Nat :=
  let units := num * unitsPerOne
  let floor := units / den
  if floor < twoTo 53 then roundHalfEven units den
  else
    let shift := floor.log2 - 52
    shift * twoTo 52 + roundHalfEven units (den * twoTo shift)

/-- The number nearest to `num / den`. -/
def ofRatio (negative : Bool) (num den : Nat) : Binary64 :=
  if h : nearestRank num den < rankCount then .finite negative ⟨nearestRank num den, h⟩
  else .infinite negative

/-- How many decimal digits `n` has. -/
def digitCount (n : Nat) : Nat := (Nat.toDigits 10 n).length

/-- The number nearest to `coefficient * 10 ^ exponent`. Decimals beyond the range on
either side are settled by the place of their first digit. -/
def ofDecimal (negative : Bool) (coefficient : Nat) (exponent : Int) : Binary64 :=
  let place := (digitCount coefficient : Int) + exponent
  if coefficient = 0 ∨ place < -330 then zero negative
  else if 310 < place then .infinite negative
  else ofRatio negative (coefficient * tenTo exponent.toNat) (tenTo (-exponent).toNat)

/-- The exact ratio of a finite magnitude. -/
def ratio (rank : Nat) : Nat × Nat := (scaled rank, unitsPerOne)

/-- **Rounding depends on the ratio alone.** -/
theorem roundHalfEven_mul {k : Nat} (hk : 0 < k) (num den : Nat) :
    roundHalfEven (num * k) (den * k) = roundHalfEven num den := by
  have h1 : num * k / (den * k) = num / den := Nat.mul_div_mul_right _ _ hk
  have h2 : num * k % (den * k) = num % den * k := Nat.mul_mod_mul_right _ _ _
  have h3 : 2 * (num % den * k) = 2 * (num % den) * k := by rw [Nat.mul_assoc]
  simp only [roundHalfEven, h1, h2, h3, Nat.mul_lt_mul_right hk]

/-- The nearest rank depends on the ratio alone. -/
theorem nearestRank_mul {k : Nat} (hk : 0 < k) (num den : Nat) :
    nearestRank (num * k) (den * k) = nearestRank num den := by
  have h1 : num * k * unitsPerOne = num * unitsPerOne * k := Nat.mul_right_comm _ _ _
  have h2 : ∀ s, den * k * twoTo s = den * twoTo s * k := fun s => Nat.mul_right_comm _ _ _
  simp only [nearestRank, h1, h2, Nat.mul_div_mul_right _ _ hk, roundHalfEven_mul hk]

end Binary64

end Almanac
