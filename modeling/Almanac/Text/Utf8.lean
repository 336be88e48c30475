import Almanac.Text.Basic

/-!
# Characters in bytes

A character is one to four bytes. The first says how many follow it; these hold six bits
each, and the range of the second one is narrower where the code would be one that there
is not, or one that fewer bytes can hold. Halves of codes, which no character has, are
refused only at their third byte. Bytes come in blocks, and a character may begin in one
block and end in the next.
-/

namespace Almanac.Text.Utf8

/-- A character of which some bytes have been read: their bits, how many bytes are missing,
and the range of the next one. -/
structure Begun where
  code : Nat
  missing : Nat
  least : Nat
  greatest : Nat
deriving DecidableEq

/-- No byte of the next character has been read. -/
def Begun.none : Begun := ⟨0, 0, 0, 0⟩

/-- What a first byte begins. -/
def begin? (byte : Nat) : Option Begun :=
  if byte < 0x80 then some ⟨byte, 0, 0, 0⟩
  else if byte < 0xC2 then Option.none
  else if byte < 0xE0 then some ⟨byte - 0xC0, 1, 0x80, 0xBF⟩
  else if byte < 0xF0 then
    some ⟨byte - 0xE0, 2, if byte = 0xE0 then 0xA0 else 0x80, 0xBF⟩
  else if byte < 0xF5 then
    some ⟨byte - 0xF0, 3, if byte = 0xF0 then 0x90 else 0x80, if byte = 0xF4 then 0x8F else 0xBF⟩
  else Option.none

/-- The first bits of a character of three bytes are those of half a code. -/
def isHalf (code : Nat) : Bool := 0x360 ≤ code && code < 0x380

/-- One byte further. -/
def Begun.next? (begun : Begun) (byte : Nat) : Option Begun :=
  if begun.missing = 0 then begin? byte
  else if begun.least ≤ byte ∧ byte ≤ begun.greatest then
    let code := begun.code * 64 + byte % 64
    some ⟨code, begun.missing - 1, 0x80, if begun.missing = 2 ∧ isHalf code then 0 else 0xBF⟩
  else Option.none

/-- The characters of a block of bytes, and the one that is not complete at its end. -/
def decodeBlock (begun : Begun) : List UInt8 → Option (Text × Begun)
  | [] => some ([], begun)
  | byte :: rest =>
    match begun.next? byte.toNat with
    | some next =>
      if next.missing = 0 then
        (decodeBlock .none rest).map fun p => (Char.ofNat next.code :: p.1, p.2)
      else decodeBlock next rest
    | Option.none => Option.none

end Almanac.Text.Utf8
