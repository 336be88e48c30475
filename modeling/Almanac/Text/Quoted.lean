import Almanac.Text.Printable

/-!
# Quoted text

How a text is shown inside a list or a mapping: between single quotes, or between
double quotes when it holds a single quote and no double one. The quote in use,
the backslash and everything unprintable are escaped.
-/

namespace Almanac.Text

/-- The lowest `width` hexadecimal digits of `n`. -/
def hexDigits : Nat → Nat → Text
  | 0, _ => []
  | width + 1, n => hexDigits width (n / 16) ++ [Nat.digitChar (n % 16)]

/-- One character between quotes `q`. -/
def escaped (q c : Char) : Text :=
  if c = q ∨ c = '\\' then ['\\', c]
  else if c = '\t' then ['\\', 't']
  else if c = '\n' then ['\\', 'n']
  else if c = '\r' then ['\\', 'r']
  else if isPrintable c then [c]
  else if c.toNat < 0x100 then '\\' :: 'x' :: hexDigits 2 c.toNat
  else if c.toNat < 0x10000 then '\\' :: 'u' :: hexDigits 4 c.toNat
  else '\\' :: 'U' :: hexDigits 8 c.toNat

/-- The quote a text is shown between. -/
def quoteFor (t : Text) : Char :=
  if t.contains '\'' && !t.contains '"' then '"' else '\''

/-- The text between quotes. -/
def quoted (t : Text) : Text :=
  quoteFor t :: (t.flatMap (escaped (quoteFor t)) ++ [quoteFor t])

/-- One byte between quotes `q`. -/
def escapedByte (q : Char) (b : UInt8) : Text :=
  if b < 0x80 then escaped q (Char.ofNat b.toNat) else '\\' :: 'x' :: hexDigits 2 b.toNat

/-- Bytes as they are shown: those of ASCII as their characters, between quotes. -/
def quotedBytes (bytes : List UInt8) : Text :=
  let q := quoteFor (bytes.map fun b => Char.ofNat b.toNat)
  'b' :: q :: (bytes.flatMap (escapedByte q) ++ [q])

end Almanac.Text
