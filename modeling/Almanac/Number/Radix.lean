import Almanac.Fault.Basic
import Almanac.Number.Numeral
import Almanac.Text.Blank

/-!
# Integers in a base

Integers in base 2, 8, 10 and 16. Blanks around one do not count, a sign may precede
it, and but for base 10 so may the base's mark. Only an integer in base 10 can have
too many digits.

* `value_ten`: **in base 10 the digits stand for what they stand for anyway.**
-/

namespace Almanac

/-- The bases in which integers are written. -/
inductive Radix where
  | two
  | eight
  | ten
  | sixteen
deriving DecidableEq

namespace Radix

/-- The base itself. -/
def base : Radix → Nat
  | two => 2
  | eight => 8
  | ten => 10
  | sixteen => 16

/-- The letter that marks the base behind a zero. -/
def mark? : Radix → Option Char
  | two => some 'b'
  | eight => some 'o'
  | ten => none
  | sixteen => some 'x'

/-- The value of a digit: a decimal digit of any script, or a letter of ASCII. -/
def digitValue? (c : Char) : Option Nat :=
  match Text.digit? c with
  | some d => some d
  | none =>
    if 'a' ≤ c ∧ c ≤ 'f' then some (c.toNat - 87)
    else if 'A' ≤ c ∧ c ≤ 'F' then some (c.toNat - 55)
    else none

/-- A digit of the base. -/
def isDigit (radix : Radix) (c : Char) : Bool := (digitValue? c).any fun d => d < radix.base

/-- The number that digits of the base stand for. -/
def value (radix : Radix) (digits : Text) : Nat :=
  digits.foldl (fun n c => radix.base * n + (digitValue? c).getD 0) 0

/-- The natural number of digits of the base. -/
def ofDigits (radix : Radix) (t : Text) : Except ExternalFault Nat :=
  if t = [] ∨ t.all radix.isDigit = false ∨ (radix = ten ∧ maxIntegerDigits < t.length) then
    .error .unreadableNumeral
  else .ok (radix.value t)

/-- The text without the base's mark in front. -/
def withoutMark (radix : Radix) (t : Text) : Text :=
  match t with
  | '0' :: c :: r => if radix.mark? = some c.toLower then r else t
  | _ => t

/-- The integer of a text: blanks at its ends, a sign and the base's mark may surround
the digits. -/
def integer (radix : Radix) (t : Text) : Except ExternalFault Int :=
  let (negative, body) := Text.signed (Text.stripNumeral t)
  (radix.ofDigits (radix.withoutMark body)).map fun n => if negative then -(n : Int) else n

/-- **In base 10 the digits stand for what they stand for anyway.** -/
theorem value_ten {t : Text} (h : t.all Text.isDecimalDigit = true) :
    ten.value t = Text.digitsValue t := by
  suffices ∀ n, t.foldl (fun n c => ten.base * n + (digitValue? c).getD 0) n =
      t.foldl (fun n c => 10 * n + (Text.digit? c).getD 0) n from this 0
  induction t with
  | nil => simp
  | cons c r ih =>
    simp only [List.all_cons, Bool.and_eq_true, Text.isDecimalDigit, Option.isSome_iff_exists] at h
    obtain ⟨⟨d, hd⟩, hr⟩ := h
    intro n
    simp [base, digitValue?, hd, ← ih hr]

end Radix

end Almanac
