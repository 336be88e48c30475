import Almanac.Statement.Select
import Almanac.Statement.Insert
import Almanac.Text.Uppercase

/-!
# Reading statements

The first word of a text, in upper case, says what kind of statement it is.

* `read_eq_of_insert`: **insertions are read alike in both modes.**
-/

namespace Almanac.Statement

open Text

/-- The upper case of the first word. -/
def leadingWord (text : Text) : Text := upper (firstWord text)

/-- Reads a statement's text. -/
def read (mode : Mode) (text : Text) : Except Fault Statement :=
  let body := strip text
  let word := leadingWord body
  if word = selectWord then readSelect mode body
  else if word = insertWord then readInsert body
  else if word = [] then .error (.query .emptyStatement)
  else .error (.query (.unsupported word))

/-- A byte that stands for a blank. -/
def isBlankByte (b : UInt8) : Bool := b == 32 || (9 ≤ b && b ≤ 13)

/-- The upper case of a byte that stands for a letter. -/
def upperByte (b : UInt8) : UInt8 := if 97 ≤ b && b ≤ 122 then b - 32 else b

/-- The upper case of the first word of bytes. -/
def leadingBytes (bytes : List UInt8) : List UInt8 :=
  ((bytes.dropWhile isBlankByte).takeWhile fun b => !isBlankByte b).map upperByte

/-- Reads bytes, of which no word says what kind of statement they are. -/
def readBytes (bytes : List UInt8) : Except Fault Statement :=
  let word := leadingBytes bytes
  if word.isEmpty then .error (.query .emptyStatement)
  else .error (.query (.unsupported (quotedBytes word)))

/-- Reads what may be no text at all: everything that is not true counts as empty. -/
def readValue (mode : Mode) : Value → Except Fault Statement
  | .text t => read mode t
  | .bytes b => readBytes b
  | v => if v.isTrue then .error (.external .wrongShape) else read mode []

/-- **Insertions are read alike in both modes.** -/
theorem read_eq_of_insert {text : Text} (h : leadingWord (strip text) ≠ selectWord)
    (m m' : Mode) : read m text = read m' text := by
  simp [read, h]

end Almanac.Statement
