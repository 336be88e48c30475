import Almanac.Text.Basic

/-!
# Blanks

The white space that separates words: the controls from tab to carriage return,
the four information separators, and every space, line and paragraph separator.
The zero-width characters are not among them.

* `strip_eq_nil_iff`: a text strips to nothing exactly when it is all blank.
-/

namespace Almanac.Text

/-- The blank characters, as ranges of code points in ascending order. -/
def blankRanges : List (Nat × Nat) :=
  [(0x9, 0xD), (0x1C, 0x20), (0x85, 0x85), (0xA0, 0xA0), (0x1680, 0x1680), (0x2000, 0x200A),
   (0x2028, 0x2029), (0x202F, 0x202F), (0x205F, 0x205F), (0x3000, 0x3000)]

/-- White space, Unicode wide. -/
def isBlank (c : Char) : Bool := inRanges blankRanges c

/-- The text without the blanks at its two ends. -/
def strip (t : Text) : Text := trimBy isBlank t

/-- What may stand around a numeral: the blanks without the information separators. -/
def isNumeralBlank (c : Char) : Bool := isBlank c && !inRanges [(0x1C, 0x1F)] c

/-- The text of a numeral without what may stand around it. -/
def stripNumeral (t : Text) : Text := trimBy isNumeralBlank t

/-- The first run of characters that are not blank. -/
def firstWord (t : Text) : Text := (t.dropWhile isBlank).takeWhile fun c => !isBlank c

/-- What follows the first word and the blanks after it. -/
def afterFirstWord (t : Text) : Text :=
  ((t.dropWhile isBlank).dropWhile fun c => !isBlank c).dropWhile isBlank

theorem dropWhile_isBlank_eq_nil_iff {t : Text} :
    t.dropWhile isBlank = [] ↔ ∀ c ∈ t, isBlank c = true := by
  induction t with
  | nil => simp
  | cons c r ih => by_cases h : isBlank c = true <;> simp [h, ih]

theorem firstWord_eq_nil_iff {t : Text} : firstWord t = [] ↔ ∀ c ∈ t, isBlank c = true := by
  rw [← dropWhile_isBlank_eq_nil_iff, firstWord]
  cases h : t.dropWhile isBlank with
  | nil => simp
  | cons c r =>
    have : isBlank c = false := by
      have := List.head?_dropWhile_not isBlank t
      simpa [h] using this
    simp [this]

/-- **Only blanks strip to nothing.** -/
theorem strip_eq_nil_iff {t : Text} : strip t = [] ↔ ∀ c ∈ t, isBlank c = true := by
  rw [← dropWhile_isBlank_eq_nil_iff, strip, trimBy, trimEnd]
  cases h : t.dropWhile isBlank with
  | nil => simp
  | cons c r =>
    have hc : isBlank c = false := by
      have := List.head?_dropWhile_not isBlank t
      simpa [h] using this
    -- the first character that is left keeps the other end from being dropped whole
    simp only [List.reverse_eq_nil_iff, dropWhile_isBlank_eq_nil_iff, reduceCtorEq, iff_false]
    intro hall
    have := hall c (by simp)
    simp [hc] at this

end Almanac.Text
