import Almanac.Text.Basic

/-!
# The characters of documents

Which characters a document may hold, which of them end a line, and what a line's end
is read as.

* `normaliseBreaks_of_no_return`: **a text without carriage returns is left as it is.**
-/

namespace Almanac.Yaml

/-- Characters that end a line of a document. -/
def isBreak (c : Char) : Bool :=
  c == '\n' || c == '\u0085' || c == '\u2028' || c == '\u2029'

/-- Characters that stand between the words of a line. -/
def isBlank (c : Char) : Bool := c == ' ' || c == '\t'

/-- Characters that a document may hold. -/
def isAllowed (c : Char) : Bool :=
  c == '\t' || c == '\n' || c == '\r' || c == '\u0085' ||
    Text.inRanges [(0x20, 0x7E), (0xA0, 0xD7FF), (0xE000, 0xFFFD), (0x10000, 0x10FFFF)] c

/-- The mark of a byte order. It has no width, and at the very start no meaning either. -/
def orderMark : Char := '\ufeff'

/-- What the end of a line is read as: only the two separators of Unicode stay what
they are. -/
def breakRead (c : Char) : Char := if c = '\u0085' then '\n' else c

/-- The value of a hexadecimal digit. -/
def hexDigit? (c : Char) : Option Nat :=
  if c.isDigit then some (c.toNat - 48)
  else if 'a' ≤ c ∧ c ≤ 'f' then some (c.toNat - 87)
  else if 'A' ≤ c ∧ c ≤ 'F' then some (c.toNat - 55)
  else none

/-- Nothing follows on this line. -/
def endsLine (t : Text) : Bool := t.head?.all isBreak

/-- No word goes on here. -/
def endsWord (t : Text) : Bool := t.head?.all fun c => isBlank c || isBreak c

/-- The mark that starts a document. -/
def startMark : Text := ['-', '-', '-']

/-- The mark that ends a document. -/
def endMark : Text := ['.', '.', '.']

/-- The text starts with that mark, and with no longer word. -/
def startsWithMark (mark t : Text) : Bool := t.take 3 == mark && endsWord (t.drop 3)

/-- A document starts or ends here, if this is the start of a line. -/
def isBoundary (t : Text) : Bool := startsWithMark startMark t || startsWithMark endMark t

/-- Every way to end a line with a carriage return becomes a line feed. -/
def normaliseBreaks : Text → Text
  | [] => []
  | '\r' :: '\n' :: r => '\n' :: normaliseBreaks r
  | c :: r => (if c = '\r' then '\n' else c) :: normaliseBreaks r

/-- The text without spaces in front. -/
def skipSpaces (t : Text) : Text := t.dropWhile fun c => c == ' '

/-- The text from the end of its first line on. -/
def skipLine (t : Text) : Text := t.dropWhile fun c => !isBreak c

/-- What follows a line on which there is nothing more than a comment. -/
def skipComment? (t : Text) : Option Text :=
  let t := skipSpaces t
  let t := if t.head? = some '#' then skipLine t else t
  if endsLine t then some (t.drop 1) else none

/-- **A text without carriage returns is left as it is.** -/
theorem normaliseBreaks_of_no_return {t : Text} (h : '\r' ∉ t) : normaliseBreaks t = t := by
  fun_induction normaliseBreaks t with
  | case1 => rfl
  | case2 r ih => simp at h
  | case3 c r _ ih =>
    simp only [List.mem_cons, not_or] at h
    simp [ih h.2, Ne.symm h.1]

end Almanac.Yaml
