import Almanac.Number.Shortest
import Almanac.Text.Digit

/-!
# Numerals

How numbers are written and read as text.

An integer is its decimal digits, with a minus sign if it is negative. A double is
its shortest decimal: positional when the first digit stands between the fourth place
after the point and the sixteenth before it, and with an exponent otherwise.

* `digitsValue_ofNat`: **a written natural number reads back**, so that different numbers are
  written differently (`ofNat_injective`).
-/

namespace Almanac

/-- The greatest number of digits of an integer that is read or shown. -/
def maxIntegerDigits : Nat := 4300

namespace Text

/-- A natural number in decimal. -/
def ofNat (n : Nat) : Text := Nat.toDigits 10 n

/-- An integer in decimal. -/
def ofInt : Int → Text
  | .ofNat n => ofNat n
  | .negSucc n => '-' :: ofNat (n + 1)

/-- Where the decimal point of a double goes. -/
structure DecimalLayout where
  /-- The least power of ten of the first digit that is written positionally. -/
  least : Int
  /-- The greatest such power. -/
  greatest : Int
  /-- The least number of digits of an exponent. -/
  exponentWidth : Nat

/-- **The layout of doubles:** positional from `0.0001` up to sixteen digits before
the point, and exponents of two digits or more. -/
def doubleLayout : DecimalLayout := ⟨-4, 15, 2⟩

/-- A decimal point after `point` of the digits; zeros fill the places between the
digits and the point, and a digit stands on either side of it. -/
def positional (digits : Text) (point : Int) : Text :=
  if point ≤ 0 then '0' :: '.' :: (List.replicate (-point).toNat '0' ++ digits)
  else
    let whole := point.toNat
    if digits.length ≤ whole then
      digits ++ List.replicate (whole - digits.length) '0' ++ ['.', '0']
    else digits.take whole ++ '.' :: digits.drop whole

/-- One digit before the point (which is left out if no other digit follows), and the
power of ten of that digit. -/
def scientific (layout : DecimalLayout) (digits : Text) (power : Int) : Text :=
  let fraction := if digits.length ≤ 1 then [] else '.' :: digits.drop 1
  let size := ofNat power.natAbs
  digits.take 1 ++ fraction ++ 'e' :: (if power < 0 then '-' else '+') ::
    (List.replicate (layout.exponentWidth - size.length) '0' ++ size)

/-- The digits of a decimal without the zeros at their end. -/
def significant (coefficient : Nat) : Text := trimEnd (· == '0') (ofNat coefficient)

/-- A decimal in a layout. -/
def ofDecimal (layout : DecimalLayout) (d : Binary64.Decimal) : Text :=
  let digits := significant d.coefficient
  let point := (Binary64.digitCount d.coefficient : Int) + d.exponent
  if layout.least ≤ point - 1 ∧ point - 1 ≤ layout.greatest then positional digits point
  else scientific layout digits (point - 1)

/-- A double as text. -/
def ofDouble : Binary64 → Text
  | .nan _ => ['n', 'a', 'n']
  | .infinite negative => (if negative then ['-'] else []) ++ ['i', 'n', 'f']
  | .finite negative rank =>
    (if negative then ['-'] else []) ++
      if rank.val = 0 then ['0', '.', '0']
      else ofDecimal doubleLayout (Binary64.shortest rank.val)

/-- A sign, if there is one, and the rest. -/
def signed : Text → Bool × Text
  | '-' :: t => (true, t)
  | '+' :: t => (false, t)
  | t => (false, t)

/-- An optional sign and one or more decimal digits: whether it is negative, and the digits. -/
def integer? (t : Text) : Option (Bool × Text) :=
  let (negative, digits) := signed t
  if digits ≠ [] ∧ digits.all isDecimalDigit then some (negative, digits) else none

/-- The integer that sign and digits stand for. -/
def integerValue (negative : Bool) (digits : Text) : Int :=
  if negative then -(digitsValue digits : Int) else digitsValue digits

/-- The exponent part of a decimal, which may be missing: its value. -/
def exponent? : Text → Option Int
  | [] => some 0
  | c :: t => if c = 'e' ∨ c = 'E' then (integer? t).map fun p => integerValue p.1 p.2 else none

/-- A decimal as it is written: sign, digits before and after the point, exponent. -/
structure DecimalNumeral where
  negative : Bool
  whole : Text
  fraction : Text
  pointed : Bool
  exponent : Int

/-- An optional sign; digits with at most one point among or beside them; an optional
exponent. -/
def decimal? (t : Text) : Option DecimalNumeral :=
  let (negative, body) := signed t
  let whole := body.takeWhile isDecimalDigit
  let (pointed, afterPoint) := match body.dropWhile isDecimalDigit with
    | '.' :: r => (true, r)
    | r => (false, r)
  let fraction := if pointed then afterPoint.takeWhile isDecimalDigit else []
  let tail := if pointed then afterPoint.dropWhile isDecimalDigit else afterPoint
  if whole = [] ∧ fraction = [] then none
  else (exponent? tail).map fun e => ⟨negative, whole, fraction, pointed, e⟩

/-- The double nearest to a decimal. -/
def DecimalNumeral.value (d : DecimalNumeral) : Binary64 :=
  Binary64.ofDecimal d.negative (digitsValue (d.whole ++ d.fraction))
    (d.exponent - d.fraction.length)

/-- The double that a text written by `ofDouble` stands for. -/
def toDouble? (t : Text) : Option Binary64 :=
  let (negative, body) := signed t
  if body = ['n', 'a', 'n'] then some (.nan 0)
  else if body = ['i', 'n', 'f'] then some (.infinite negative)
  else (decimal? t).map DecimalNumeral.value

theorem digitsValue_append (s t : Text) :
    digitsValue (s ++ t) = t.foldl (fun n c => 10 * n + (digit? c).getD 0) (digitsValue s) := by
  simp [digitsValue]

theorem digitsValue_concat_digitChar (s : Text) {d : Nat} (h : d < 10) :
    digitsValue (s ++ [Nat.digitChar d]) = 10 * digitsValue s + d := by
  simp [digitsValue_append, digit?_digitChar h]

/-- Digits stand for less than the power of ten that has one digit more. -/
theorem digitsValue_lt (t : Text) : digitsValue t < tenTo t.length := by
  -- for any value in front of the digits, since the fold goes on from there
  have hfrom : ∀ n, t.foldl (fun n c => 10 * n + (digit? c).getD 0) n < (n + 1) * tenTo t.length := by
    induction t with
    | nil => intro n; rw [List.foldl_nil, List.length_nil, tenTo_zero]; omega
    | cons c t ih =>
      intro n
      have hdigit : (digit? c).getD 0 < 10 := by
        cases h : digit? c with
        | none => decide
        | some d => exact digit?_lt_ten h
      have hle : 10 * n + (digit? c).getD 0 + 1 ≤ (n + 1) * 10 := by omega
      rw [List.foldl_cons, List.length_cons, tenTo_succ, ← Nat.mul_assoc]
      exact Nat.lt_of_lt_of_le (ih _) (Nat.mul_le_mul_right _ hle)
  simpa [digitsValue] using hfrom 0

/-- **A written natural number reads back.** -/
theorem digitsValue_ofNat (n : Nat) : digitsValue (ofNat n) = n := by
  induction n using Nat.strongRecOn with
  | ind n ih =>
    rw [ofNat, Nat.toDigits_eq_if (by decide)]
    split
    · rename_i h
      simpa [digitsValue] using digitsValue_concat_digitChar [] h
    · rename_i h
      -- the last digit is split off, the others are read by induction
      have := ih (n / 10) (by omega)
      rw [ofNat] at this
      rw [digitsValue_concat_digitChar _ (Nat.mod_lt _ (by decide)), this]
      omega

/-- **Different numbers are written differently**, since a written number reads back. -/
theorem ofNat_injective : Function.Injective ofNat :=
  Function.LeftInverse.injective digitsValue_ofNat

theorem isDecimalDigit_of_mem_ofNat {n : Nat} {c : Char} (h : c ∈ ofNat n) :
    isDecimalDigit c = true := by
  have hd := Nat.isDigit_of_mem_toDigits (by decide) (by decide) h
  simp only [Char.isDigit, Bool.and_eq_true, decide_eq_true_eq, ge_iff_le,
    UInt32.le_iff_toNat_le] at hd
  have hc : c = Char.ofNat c.toNat := (Char.ofNat_toNat c).symm
  have hv : c.val.toNat = c.toNat := rfl
  rw [hv] at hd
  have hlo : 48 ≤ c.toNat := hd.1
  have hhi : c.toNat < 58 := by have := hd.2; simp at this; omega
  -- ten characters are left, and each is checked
  generalize c.toNat = k at hc hlo hhi
  subst hc
  have key : ∀ k < 58, 48 ≤ k → isDecimalDigit (Char.ofNat k) = true := by decide
  exact key k hhi hlo

/-- A number that is followed by no digit ends there. -/
theorem eq_of_ofNat_append {m n : Nat} {c : Char} {s t : Text} (hc : isDecimalDigit c = false)
    (h : ofNat m ++ c :: s = ofNat n ++ c :: t) : m = n ∧ s = t := by
  have hnot : ∀ k, c ∉ ofNat k := by
    intro k hk
    rw [isDecimalDigit_of_mem_ofNat hk] at hc
    cases hc
  obtain ⟨hdigits, hrest⟩ := eq_of_append_cons h (hnot m) (hnot n)
  exact ⟨ofNat_injective hdigits, hrest⟩

theorem ofNat_ne_nil (n : Nat) : ofNat n ≠ [] := Nat.toDigits_ne_nil

theorem signed_ofNat (n : Nat) : signed (ofNat n) = (false, ofNat n) := by
  cases h : ofNat n with
  | nil => exact absurd h (ofNat_ne_nil n)
  | cons c r =>
    have hc := isDecimalDigit_of_mem_ofNat (n := n) (c := c) (by simp [h])
    have h1 : c ≠ '-' := by rintro rfl; revert hc; decide
    have h2 : c ≠ '+' := by rintro rfl; revert hc; decide
    unfold signed
    split <;> simp_all

end Text

end Almanac
