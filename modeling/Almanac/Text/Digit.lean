import Almanac.Text.Basic

/-!
# Decimal digits

The decimal digits of every script: blocks of ten consecutive code points that
stand for 0 to 9.

* `digit?_lt_ten`: a digit's value is below ten.
* `digit?_digitChar`: the ASCII digits stand for themselves.
-/

namespace Almanac.Text

/-- The zeros of the digit blocks beyond ASCII, in ascending order. -/
def digitZeros : List Nat :=
  [0x660, 0x6F0, 0x7C0, 0x966, 0x9E6, 0xA66, 0xAE6, 0xB66, 0xBE6, 0xC66, 0xCE6, 0xD66,
   0xDE6, 0xE50, 0xED0, 0xF20, 0x1040, 0x1090, 0x17E0, 0x1810, 0x1946, 0x19D0, 0x1A80, 0x1A90,
   0x1B50, 0x1BB0, 0x1C40, 0x1C50, 0xA620, 0xA8D0, 0xA900, 0xA9D0, 0xA9F0, 0xAA50, 0xABF0, 0xFF10,
   0x104A0, 0x10D30, 0x11066, 0x110F0, 0x11136, 0x111D0, 0x112F0, 0x11450, 0x114D0, 0x11650,
   0x116C0, 0x11730, 0x118E0, 0x11950, 0x11C50, 0x11D50, 0x11DA0, 0x16A60, 0x16AC0, 0x16B50,
   0x1D7CE, 0x1D7D8, 0x1D7E2, 0x1D7EC, 0x1D7F6, 0x1E140, 0x1E2F0, 0x1E950, 0x1FBF0]

/-- The value of a decimal digit. -/
def digit? (c : Char) : Option Nat :=
  if c.toNat < 128 then if c.isDigit then some (c.toNat - 48) else none
  else digitZeros.findSome? fun z => if z ≤ c.toNat ∧ c.toNat < z + 10 then some (c.toNat - z) else none

/-- A decimal digit of any script. -/
def isDecimalDigit (c : Char) : Bool := (digit? c).isSome

/-- The number that a row of digits stands for; a character that is no digit counts as zero. -/
def digitsValue (t : Text) : Nat := t.foldl (fun n c => 10 * n + (digit? c).getD 0) 0

/-- A digit's value is below ten. -/
theorem digit?_lt_ten {c : Char} {d : Nat} (h : digit? c = some d) : d < 10 := by
  unfold digit? at h
  split at h
  · split at h
    · rename_i hd
      simp only [Char.isDigit, Bool.and_eq_true, decide_eq_true_eq, ge_iff_le,
        UInt32.le_iff_toNat_le] at hd
      have hv : c.val.toNat = c.toNat := rfl
      have h57 : c.toNat ≤ 57 := by have := hd.2; rw [hv] at this; simpa using this
      simp only [Option.some.injEq] at h
      omega
    · simp at h
  · -- beyond ASCII the value is the distance from the block's zero
    obtain ⟨z, -, hz⟩ := List.exists_of_findSome?_eq_some h
    split at hz
    · simp only [Option.some.injEq] at hz; omega
    · simp at hz

/-- **The ASCII digits stand for themselves.** -/
theorem digit?_digitChar {d : Nat} (h : d < 10) : digit? (Nat.digitChar d) = some d := by
  have key : ∀ d < 10, digit? (Nat.digitChar d) = some d := by decide
  exact key d h

end Almanac.Text
