import Almanac.Fault.Basic
import Almanac.Yaml.Gap

/-!
# Quoted scalars

Scalars between quotes. Every reader takes the text from behind the opening quote on,
with the gap that was passed over last, and gives the scalar and what follows it.

* `readSingle_doubled`: **between single quotes only the quote itself is written twice.**
-/

namespace Almanac.Yaml

/-- A document that is not well formed. -/
def malformed {α : Type} : Except ExternalFault α := .error .badDocument

/-- A document that ends inside a scalar. -/
def unfinished {α : Type} : Except ExternalFault α := .error .unfinishedDocument

/-- The rest of a scalar between single quotes. -/
def readSingle (gap : Gap) : Text → Except ExternalFault (Text × Text)
  | [] => unfinished
  | '\'' :: '\'' :: r => do
    let (t, rest) ← readSingle .none r
    return (gap.text ++ '\'' :: t, rest)
  | c :: r =>
    if c = '\'' then .ok (gap.text, r)
    else if isBlank c then readSingle (gap.afterBlank c) r
    else if isBreak c then
      if isBoundary r then malformed else readSingle (gap.afterBreak c) r
    else do
      let (t, rest) ← readSingle .none r
      return (gap.text ++ c :: t, rest)

/-- A code that is written in hexadecimal. -/
def readCode (digits : Text) : Except ExternalFault Nat :=
  match digits.mapM hexDigit? with
  | none => malformed
  | some ds =>
    let code := ds.foldl (fun n d => 16 * n + d) 0
    if code ≤ 0x10FFFF then .ok code
    else if code < 0x80000000 then .error .noSuchCharacter
    else .error .codeTooGreat

/-- What stands for a code that no character has. -/
def replacement : Char := '\uFFFD'

/-- The character of a code. -/
def charOf (code : Nat) : Char := if h : code.isValidChar then Char.ofNatAux code h else replacement

/-- The code of which these are the upper and the lower half. -/
def wholeCode? (upper lower : Nat) : Option Nat :=
  if upper / 0x400 = 0x36 ∧ lower / 0x400 = 0x37 then
    some (0x10000 + upper % 0x400 * 0x400 + lower % 0x400)
  else none

/-- The text of codes, in which two halves in a row are one character. -/
def textOfCodes : List Nat → Text
  | [] => []
  | [code] => [charOf code]
  | upper :: lower :: rest =>
    match wholeCode? upper lower with
    | some code => charOf code :: textOfCodes rest
    | none => charOf upper :: textOfCodes (lower :: rest)

/-- The characters that stand for others behind a backslash. -/
def escapes : List (Char × Char) :=
  [('0', '\x00'), ('a', '\x07'), ('b', '\x08'), ('t', '\t'), ('\t', '\t'), ('n', '\n'),
   ('v', '\x0b'), ('f', '\x0c'), ('r', '\r'), ('e', '\x1b'), (' ', ' '), ('"', '"'),
   ('/', '/'), ('\\', '\\'), ('N', '\u0085'), ('_', '\u00a0'), ('L', '\u2028'), ('P', '\u2029')]

/-- The codes of what a gap stands for. -/
def Gap.codes (g : Gap) : List Nat := g.text.map Char.toNat

/-- The codes of the rest of a scalar between double quotes. A backslash at the end of a
line joins it to the next one. -/
def readCodes (gap : Gap) : Text → Except ExternalFault (List Nat × Text)
  | [] => unfinished
  | '\\' :: 'x' :: a :: b :: r => do
    let code ← readCode [a, b]
    let (t, rest) ← readCodes .none r
    return (gap.codes ++ code :: t, rest)
  | '\\' :: 'u' :: a :: b :: c :: d :: r => do
    let code ← readCode [a, b, c, d]
    let (t, rest) ← readCodes .none r
    return (gap.codes ++ code :: t, rest)
  | '\\' :: 'U' :: a :: b :: c :: d :: e :: f :: g :: h :: r => do
    let code ← readCode [a, b, c, d, e, f, g, h]
    let (t, rest) ← readCodes .none r
    return (gap.codes ++ code :: t, rest)
  | '\\' :: c :: r =>
    if isBreak c then
      if isBoundary r then malformed
      else do
        let (t, rest) ← readCodes (.lines [] [] 0) r
        return (gap.codes ++ t, rest)
    else
      match escapes.lookup c with
      | none => malformed
      | some d => do
        let (t, rest) ← readCodes .none r
        return (gap.codes ++ d.toNat :: t, rest)
  | c :: r =>
    if c = '"' then .ok (gap.codes, r)
    else if isBlank c then readCodes (gap.afterBlank c) r
    else if isBreak c then
      if isBoundary r then malformed else readCodes (gap.afterBreak c) r
    else do
      let (t, rest) ← readCodes .none r
      return (gap.codes ++ c.toNat :: t, rest)

/-- The rest of a scalar between double quotes. -/
def readDouble (t : Text) : Except ExternalFault (Text × Text) :=
  (readCodes .none t).map fun p => (textOfCodes p.1, p.2)

/-- A text as it stands between single quotes. -/
def doubled (t : Text) : Text := t.flatMap fun c => if c = '\'' then ['\'', '\''] else [c]

/-- A quote that is followed by no other ends the scalar. -/
theorem readSingle_quote (gap : Gap) {rest : Text} (h : rest.head? ≠ some '\'') :
    readSingle gap ('\'' :: rest) = .ok (gap.text, rest) := by
  cases rest with
  | nil => simp [readSingle]
  | cons c r =>
    have hc : c ≠ '\'' := by simpa using h
    rw [readSingle]
    · simp
    · intro r' _ hr
      exact hc (List.cons.inj hr).1

/-- A character that is neither a quote nor a line's end stands for itself. -/
theorem readSingle_cons {c : Char} {r t rest : Text} (hq : c ≠ '\'') (hc : isBreak c = false)
    (h : ∀ b, readSingle (.blanks b) r = .ok (b ++ t, rest)) (b : Text) :
    readSingle (.blanks b) (c :: r) = .ok (b ++ c :: t, rest) := by
  have hnone : readSingle .none r = .ok (t, rest) := h []
  rw [readSingle]
  · by_cases hb : isBlank c = true
    · simp [hq, hb, Gap.afterBlank, h]
    · simp [hq, hb, hc, hnone, bind, Except.bind, pure, Except.pure, Gap.text]
  · intro r' hr
    exact absurd hr hq

/-- **Between single quotes only the quote itself is written twice.** -/
theorem readSingle_doubled {t rest : Text} (ht : ∀ c ∈ t, isBreak c = false)
    (h : rest.head? ≠ some '\'') (b : Text) :
    readSingle (.blanks b) (doubled t ++ '\'' :: rest) = .ok (b ++ t, rest) := by
  induction t generalizing b with
  | nil => simpa [doubled, Gap.text] using readSingle_quote (.blanks b) h
  | cons c t ih =>
    have ih := ih fun d hd => ht d (by simp [hd])
    have hd : doubled (c :: t) = (if c = '\'' then ['\'', '\''] else [c]) ++ doubled t := rfl
    rw [hd]
    by_cases hq : c = '\''
    · subst hq
      have hnone : readSingle .none (doubled t ++ '\'' :: rest) = .ok (t, rest) := ih []
      simp [readSingle, hnone, bind, Except.bind, pure, Except.pure, Gap.text]
    · simpa [hq] using readSingle_cons hq (ht c (by simp)) ih b

end Almanac.Yaml
