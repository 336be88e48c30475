import Almanac.Text.Basic

/-!
# Bytes in base 64

Bytes as text, three of them in four signs of six bits each; where bytes are missing at
the end, padding stands for the signs that would be zero. Reading passes over what is no
sign.
-/

namespace Almanac.Text.Base64

/-- The signs of the numbers from 0 to 63. -/
def signs : Text := "ABCDEFGHIJKLMNOPQRSTUVWXYZabcdefghijklmnopqrstuvwxyz0123456789+/".toList

/-- The sign of six bits. -/
def sign (n : Nat) : Char := signs.getD n 'A'

/-- The six bits of a sign. -/
def bits? (c : Char) : Option Nat := signs.findIdx? (· == c)

/-- Bytes as signs, with padding behind an incomplete group. -/
def encode : List UInt8 → Text
  | a :: b :: c :: rest =>
    sign (a.toNat / 4) :: sign (a.toNat % 4 * 16 + b.toNat / 16) ::
      sign (b.toNat % 16 * 4 + c.toNat / 64) :: sign (c.toNat % 64) :: encode rest
  | [a, b] =>
    [sign (a.toNat / 4), sign (a.toNat % 4 * 16 + b.toNat / 16), sign (b.toNat % 16 * 4), '=']
  | [a] => [sign (a.toNat / 4), sign (a.toNat % 4 * 16), '=', '=']
  | [] => []

/-- The bytes from inside a group of signs on: how many of its signs have been read, their
bits that belong to the next byte, and how much padding has been met. Padding that
completes a group ends the bytes; a group must not be left incomplete. -/
def decodeFrom (position rest padding : Nat) : Text → Option (List UInt8)
  | [] => if position = 0 then some [] else none
  | c :: t =>
    if c = '=' then
      if position < 2 then decodeFrom position rest padding t
      else if 4 ≤ position + padding + 1 then some []
      else decodeFrom position rest (padding + 1) t
    else
      match bits? c with
      | none => decodeFrom position rest padding t
      | some d =>
        match position with
        | 0 => decodeFrom 1 d 0 t
        | 1 => (decodeFrom 2 (d % 16) 0 t).map ((rest * 4 + d / 16).toUInt8 :: ·)
        | 2 => (decodeFrom 3 (d % 4) 0 t).map ((rest * 16 + d / 4).toUInt8 :: ·)
        | _ => (decodeFrom 0 0 0 t).map ((rest * 64 + d).toUInt8 :: ·)

/-- The bytes of a text. -/
def decode (t : Text) : Option (List UInt8) := decodeFrom 0 0 0 t

/-- The text with a line's end behind every `width` characters that others follow, the
first of them behind `left`. -/
def wrapped (width left : Nat) : Text → Text
  | [] => []
  | c :: t =>
    if left = 0 then '\n' :: c :: wrapped width (width - 1) t else c :: wrapped width (left - 1) t

/-- The longest line of signs. -/
def lineWidth : Nat := 76

/-- Bytes as lines of signs. -/
def encodedLines (bytes : List UInt8) : List Text :=
  pieces '\n' (wrapped lineWidth lineWidth (encode bytes))

/-! ## Reading back -/

end Almanac.Text.Base64
