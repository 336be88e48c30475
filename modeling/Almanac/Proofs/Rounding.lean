import Almanac.Number.Shortest

/-!
# Decimals of magnitudes

A decimal is rounded by its value and not by the way it is written: zeros behind its coefficient that
its exponent makes up for change nothing. The shortest decimal of a magnitude rounds to its rank, and
lies between the places beyond which decimals are not looked at; so it is read as the number that it
was written for.

* `nearestRank_scaled`: **a magnitude rounds to its own rank**.
* `readsBack_shortest`: so does its shortest decimal.
* `ofDecimal_shift`: **a decimal is read by its value**.
* `ofDecimal_of_readsBack`: a decimal that rounds to a magnitude is read as it.
-/

namespace Almanac

theorem le_log2_of_twoTo_le {k n : Nat} (h : twoTo k ≤ n) : k ≤ n.log2 :=
  (Nat.le_log2 (by have := twoTo_pos k; omega)).2 h

theorem log2_eq {k n : Nat} (h : twoTo k ≤ n) (h' : n < twoTo (k + 1)) : n.log2 = k := by
  have hne : n ≠ 0 := by have := twoTo_pos k; omega
  have hlt := (Nat.log2_lt hne).2 h'
  have hle := le_log2_of_twoTo_le h
  omega

namespace Binary64

variable {rank num den k c : Nat} {e : Int} {d : Decimal}

/-! ## Magnitudes -/

/-- A whole number is nearest to itself. -/
theorem roundHalfEven_whole (hk : 0 < k) (n : Nat) : roundHalfEven (n * k) k = n := by
  have hone : roundHalfEven (n * k) (1 * k) = roundHalfEven n 1 := roundHalfEven_mul hk n 1
  rw [Nat.one_mul] at hone
  rw [hone]
  simp [roundHalfEven, Nat.mod_one]

/-- A magnitude with all its digits is a row of them, shifted. -/
theorem scaled_of_le (h : twoTo 53 ≤ rank) : ∃ digits shift, scaled rank = digits * twoTo shift ∧
    rank = shift * twoTo 52 + digits ∧ 0 < shift ∧ twoTo 52 ≤ digits ∧ digits < twoTo 53 := by
  have htwo : twoTo 53 = twoTo 52 * 2 := twoTo_add 52 1
  have hrest : rank % twoTo 52 < twoTo 52 := Nat.mod_lt _ (twoTo_pos 52)
  have hparts : twoTo 52 * (rank / twoTo 52) + rank % twoTo 52 = rank := Nat.div_add_mod _ _
  have hquotient : 2 ≤ rank / twoTo 52 := by
    rw [Nat.le_div_iff_mul_le (twoTo_pos 52), Nat.mul_comm, ← htwo]
    exact h
  obtain ⟨shift, hshift⟩ : ∃ shift, rank / twoTo 52 = shift + 1 := ⟨rank / twoTo 52 - 1, by omega⟩
  rw [hshift] at hparts
  refine ⟨rank % twoTo 52 + twoTo 52, shift, ?_, ?_, by omega, by omega, by omega⟩
  · rw [scaled, if_neg (Nat.not_lt.2 h), hshift, Nat.add_sub_cancel]
  · rw [Nat.mul_add, Nat.mul_one, Nat.mul_comm (twoTo 52) shift] at hparts
    omega

/-- **A magnitude rounds to its own rank.** -/
theorem nearestRank_scaled (rank : Nat) : nearestRank (scaled rank) unitsPerOne = rank := by
  have hunits : 0 < unitsPerOne := twoTo_pos 1074
  have hfloor : scaled rank * unitsPerOne / unitsPerOne = scaled rank := Nat.mul_div_left _ hunits
  simp only [nearestRank, hfloor]
  by_cases hsmall : rank < twoTo 53
  · -- the least magnitudes are counted by the unit
    have hscaled : scaled rank = rank := if_pos hsmall
    rw [hscaled, if_pos hsmall, roundHalfEven_whole hunits]
  · obtain ⟨digits, shift, hscaled, hrank, hpos, hlow, hhigh⟩ := scaled_of_le (Nat.le_of_not_lt hsmall)
    have hlower : twoTo (52 + shift) ≤ digits * twoTo shift := by
      rw [twoTo_add]
      exact Nat.mul_le_mul_right _ hlow
    have hupper : digits * twoTo shift < twoTo (52 + shift + 1) := by
      rw [Nat.add_right_comm, twoTo_add]
      exact Nat.mul_lt_mul_of_pos_right hhigh (twoTo_pos shift)
    have hlarge : twoTo 53 ≤ digits * twoTo shift := Nat.le_trans (twoTo_le (by omega)) hlower
    -- the place of the first digit gives the shift back, and nothing is left to round
    have hlog : (digits * twoTo shift).log2 - 52 = shift := by
      rw [log2_eq hlower hupper, Nat.add_sub_cancel_left]
    have hround : roundHalfEven (digits * twoTo shift * unitsPerOne) (unitsPerOne * twoTo shift) =
        digits := by
      rw [Nat.mul_assoc, Nat.mul_comm (twoTo shift)]
      exact roundHalfEven_whole (Nat.mul_pos hunits (twoTo_pos shift)) digits
    rw [hscaled, if_neg (Nat.not_lt.2 hlarge), hlog, hround]
    exact hrank.symm

/-- What is less than half of the least magnitude rounds to zero. -/
theorem nearestRank_of_small (h : 2 * (num * unitsPerOne) < den) : nearestRank num den = 0 := by
  have hfloor : num * unitsPerOne / den = 0 := Nat.div_eq_of_lt (by omega)
  have hrest : num * unitsPerOne % den = num * unitsPerOne := Nat.mod_eq_of_lt (by omega)
  have hround : roundHalfEven (num * unitsPerOne) den = 0 := by
    simp only [roundHalfEven, hfloor, hrest, if_pos h]
  simp only [nearestRank, hfloor, hround, if_pos (twoTo_pos 53)]

/-- What is far beyond the greatest magnitude rounds beyond all ranks. -/
theorem rankCount_le_nearestRank (hden : 0 < den) (h : tenTo 310 * den ≤ num) :
    rankCount ≤ nearestRank num den := by
  have hfloor : tenTo 310 * unitsPerOne ≤ num * unitsPerOne / den := by
    rw [Nat.le_div_iff_mul_le hden, Nat.mul_right_comm]
    exact Nat.mul_le_mul_right _ h
  have hpower : twoTo 2103 ≤ tenTo 310 * unitsPerOne := by decide +kernel
  have hlarge : twoTo 2103 ≤ num * unitsPerOne / den := Nat.le_trans hpower hfloor
  have hshift : 2051 ≤ (num * unitsPerOne / den).log2 - 52 := by
    have := le_log2_of_twoTo_le hlarge
    omega
  have hcount : rankCount ≤ 2051 * twoTo 52 := by decide
  have hnot : ¬ num * unitsPerOne / den < twoTo 53 :=
    Nat.not_lt.2 (Nat.le_trans (twoTo_le (by decide)) hlarge)
  simp only [nearestRank, if_neg hnot]
  have := Nat.mul_le_mul_right (twoTo 52) hshift
  omega

/-! ## The shortest decimal -/

/-- A magnitude in units of which there are a power of two to one is a decimal with as many places. -/
theorem readsBack_scaled {n : Nat} {e : Int} (rank : Nat) (hunits : unitsPerOne = twoTo n)
    (he : e = -n) : Decimal.readsBack ⟨scaled rank * Nat.pow 5 n, e⟩ rank = true := by
  have hexponent : e.toNat = 0 ∧ (-e).toNat = n := by omega
  have hden : tenTo n = unitsPerOne * Nat.pow 5 n := by rw [tenTo_eq, Nat.mul_comm, hunits]
  have hone : tenTo 0 = 1 := rfl
  have hpos : 0 < Nat.pow 5 n := Nat.pow_pos (by decide)
  rw [Decimal.readsBack, beq_iff_eq]
  dsimp only
  rw [hexponent.1, hexponent.2, hone, Nat.mul_one, hden, nearestRank_mul hpos, nearestRank_scaled]

/-- The exact decimal of a magnitude rounds to its rank. -/
theorem readsBack_exactDecimal (rank : Nat) : (exactDecimal rank).readsBack rank = true := by
  -- the number of places is named, so that nobody works the power out
  obtain ⟨n, hn⟩ : ∃ n, n = 1074 := ⟨_, rfl⟩
  have hexact : exactDecimal rank = ⟨scaled rank * Nat.pow 5 n, -1074⟩ := by rw [exactDecimal, ← hn]
  have hunits : unitsPerOne = twoTo n := by rw [hn, unitsPerOne]
  rw [hexact]
  exact readsBack_scaled rank hunits (by omega)

/-- **The shortest decimal of a magnitude rounds to its rank.** -/
theorem readsBack_shortest (rank : Nat) : (shortest rank).readsBack rank = true := by
  cases h : (candidates rank).find? (·.readsBack rank) with
  | some d =>
    obtain ⟨hd, hback⟩ := shortest_readsBack h
    rw [hd]
    exact hback
  | none =>
    rw [shortest, h]
    exact readsBack_exactDecimal rank

/-! ## Reading decimals -/

theorem digitCount_of_lt (h : c < 10) : digitCount c = 1 := by
  rw [digitCount, Nat.toDigits_eq_if (by decide), if_pos h]
  rfl

theorem digitCount_of_le (h : 10 ≤ c) : digitCount c = digitCount (c / 10) + 1 := by
  rw [digitCount, Nat.toDigits_eq_if (by decide), if_neg (Nat.not_lt.2 h), List.length_append]
  rfl

theorem digitCount_pos (c : Nat) : 0 < digitCount c := by
  by_cases h : c < 10
  · rw [digitCount_of_lt h]
    exact Nat.one_pos
  · rw [digitCount_of_le (Nat.le_of_not_lt h)]
    exact Nat.succ_pos _

theorem lt_tenTo_digitCount (c : Nat) : c < tenTo (digitCount c) := by
  induction c using Nat.strongRecOn with
  | ind c ih =>
    by_cases h : c < 10
    · rw [digitCount_of_lt h]
      exact h
    · rw [digitCount_of_le (Nat.le_of_not_lt h), tenTo_succ]
      have := ih (c / 10) (by omega)
      omega

theorem tenTo_le_of_digitCount (hc : 0 < c) (h : k < digitCount c) : tenTo k ≤ c := by
  induction c using Nat.strongRecOn generalizing k with
  | ind c ih =>
    by_cases hsmall : c < 10
    · rw [digitCount_of_lt hsmall] at h
      have hzero : k = 0 := by omega
      rw [hzero]
      exact hc
    · rw [digitCount_of_le (Nat.le_of_not_lt hsmall)] at h
      cases k with
      | zero => exact hc
      | succ k =>
        have := ih (c / 10) (by omega) (by omega) (Nat.lt_of_succ_lt_succ h)
        rw [tenTo_succ]
        omega

/-- Zeros behind a number are digits of it. -/
theorem digitCount_mul_tenTo (hc : 0 < c) (k : Nat) : digitCount (c * tenTo k) = digitCount c + k := by
  induction k with
  | zero => exact congrArg digitCount (Nat.mul_one c)
  | succ k ih =>
    have hstep : c * tenTo (k + 1) = 10 * (c * tenTo k) := by rw [tenTo_succ, Nat.mul_left_comm]
    have hpos : 0 < c * tenTo k := Nat.mul_pos hc (tenTo_pos k)
    have htenth : 10 * (c * tenTo k) / 10 = c * tenTo k := by omega
    rw [hstep, digitCount_of_le (by omega), htenth, ih, Nat.add_assoc]

theorem ofRatio_mul (negative : Bool) (hk : 0 < k) (num den : Nat) :
    ofRatio negative (num * k) (den * k) = ofRatio negative num den := by
  simp only [ofRatio, nearestRank_mul hk]

/-- **A decimal is read by its value**: its exponent can make up for zeros behind its coefficient. -/
theorem ofDecimal_shift (negative : Bool) (hc : 0 < c) (k : Nat) (e : Int) :
    ofDecimal negative (c * tenTo k) (e - k) = ofDecimal negative c e := by
  have hcoefficient : (c * tenTo k = 0) = False := eq_false (Nat.ne_of_gt (Nat.mul_pos hc (tenTo_pos k)))
  have hzero : (c = 0) = False := eq_false (Nat.ne_of_gt hc)
  have hplace : ((digitCount (c * tenTo k) : Nat) : Int) + (e - k) = digitCount c + e := by
    rw [digitCount_mul_tenTo hc]
    omega
  have hratio : ofRatio negative (c * tenTo k * tenTo (e - k).toNat) (tenTo (-(e - k)).toNat) =
      ofRatio negative (c * tenTo e.toNat) (tenTo (-e).toNat) := by
    -- what of the zeros the exponent does not take up stands in the denominator
    obtain ⟨m, hm⟩ : ∃ m : Nat, k + (e - k).toNat = e.toNat + m ∧ (-(e - k)).toNat = (-e).toNat + m :=
      ⟨k + (e - k).toNat - e.toNat, by omega, by omega⟩
    rw [Nat.mul_assoc, ← tenTo_add, hm.1, hm.2, tenTo_add, tenTo_add, ← Nat.mul_assoc,
      ofRatio_mul negative (tenTo_pos m)]
  simp only [ofDecimal, hplace, hcoefficient, hzero, hratio]

/-- A decimal whose first digit stands far behind the point is less than half of the least
magnitude. -/
theorem small_of_place (h : (digitCount c : Int) + e < -330) :
    2 * (c * tenTo e.toNat * unitsPerOne) < tenTo (-e).toNat := by
  have hexponent : e.toNat = 0 ∧ digitCount c + 331 ≤ (-e).toNat := by omega
  have hone : tenTo 0 = 1 := rfl
  have hpower : 2 * unitsPerOne ≤ tenTo 331 := by decide +kernel
  rw [hexponent.1, hone, Nat.mul_one, Nat.mul_left_comm]
  calc c * (2 * unitsPerOne)
      ≤ c * tenTo 331 := Nat.mul_le_mul_left _ hpower
    _ < tenTo (digitCount c) * tenTo 331 :=
        Nat.mul_lt_mul_of_pos_right (lt_tenTo_digitCount c) (tenTo_pos _)
    _ = tenTo (digitCount c + 331) := (tenTo_add _ _).symm
    _ ≤ tenTo (-e).toNat := tenTo_le hexponent.2

/-- A decimal whose first digit stands far before the point is beyond the greatest magnitude. -/
theorem great_of_place (hc : 0 < c) (h : 310 < (digitCount c : Int) + e) :
    tenTo 310 * tenTo (-e).toNat ≤ c * tenTo e.toNat := by
  have hcount := digitCount_pos c
  have hlead : tenTo (digitCount c - 1) ≤ c := tenTo_le_of_digitCount hc (by omega)
  calc tenTo 310 * tenTo (-e).toNat
      = tenTo (310 + (-e).toNat) := (tenTo_add _ _).symm
    _ ≤ tenTo (digitCount c - 1 + e.toNat) := tenTo_le (by omega)
    _ = tenTo (digitCount c - 1) * tenTo e.toNat := tenTo_add _ _
    _ ≤ c * tenTo e.toNat := Nat.mul_le_mul_right _ hlead

/-- A decimal that rounds to a magnitude is read as it, whatever its sign. -/
theorem ofDecimal_of_readsBack (negative : Bool) (hback : d.readsBack rank = true) (hpos : 0 < rank)
    (hrank : rank < rankCount) :
    0 < d.coefficient ∧
      ofDecimal negative d.coefficient d.exponent = .finite negative ⟨rank, hrank⟩ := by
  have hnearest : nearestRank (d.coefficient * tenTo d.exponent.toNat) (tenTo (-d.exponent).toNat) =
      rank := beq_iff_eq.1 hback
  have hcoefficient : 0 < d.coefficient := by
    refine Nat.pos_of_ne_zero fun hzero => ?_
    rw [hzero, Nat.zero_mul, nearestRank_of_small (by
      rw [Nat.zero_mul]
      exact tenTo_pos _)] at hnearest
    omega
  -- beyond these places decimals round to zero or beyond all ranks, and this one does neither
  have hlow : ¬ ((digitCount d.coefficient : Int) + d.exponent < -330) := by
    intro hlt
    rw [nearestRank_of_small (small_of_place hlt)] at hnearest
    omega
  have hhigh : ¬ (310 < (digitCount d.coefficient : Int) + d.exponent) := by
    intro hlt
    have := rankCount_le_nearestRank (tenTo_pos _) (great_of_place hcoefficient hlt)
    omega
  refine ⟨hcoefficient, ?_⟩
  have hzero : ¬ d.coefficient = 0 := Nat.ne_of_gt hcoefficient
  have hfits : nearestRank (d.coefficient * tenTo d.exponent.toNat) (tenTo (-d.exponent).toNat) <
      rankCount := hnearest ▸ hrank
  simp only [ofDecimal, hzero, hlow, hhigh, or_self, if_false, ofRatio, dif_pos hfits]
  simp only [hnearest]

end Binary64

end Almanac
