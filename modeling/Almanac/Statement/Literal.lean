import Almanac.Fault.Basic

/-!
# Literals

What a value in the text of an insertion stands for: text between two equal quotes,
`null`, `true` and `false` in any case, an integer, a decimal with a point, and
otherwise the text itself.

* `readLiteral_eq_error`: **only an integer of too many digits is refused.**
-/

namespace Almanac.Statement

/-- A character that quotes text. -/
def isQuote (c : Char) : Bool := c == '\'' || c == '"'

/-- What stands between two equal quotes. -/
def quotedBody? : Text → Option Text
  | [] => none
  | q :: rest => if isQuote q ∧ rest.getLast? = some q then some rest.dropLast else none

/-- The integer that a text is, unless it has too many digits. -/
def integerOf (negative : Bool) (digits : Text) : Except Fault Value :=
  if maxIntegerDigits < digits.length then .error (.external .unreadableNumeral)
  else .ok (.int (Text.integerValue negative digits))

/-- The value that a literal stands for. -/
def readLiteral (raw : Text) : Except Fault Value :=
  match quotedBody? raw with
  | some body => .ok (.text body)
  | none =>
    let word := raw.map Char.toLower
    if word = "null".toList then .ok .null
    else if word = "true".toList then .ok (.bool true)
    else if word = "false".toList then .ok (.bool false)
    else
      let numeral := Text.withoutFinalBreak raw
      match Text.integer? numeral with
      | some (negative, digits) => integerOf negative digits
      | none =>
        match Text.decimal? numeral with
        | some d => if d.pointed then .ok (.double d.value) else .ok (.text raw)
        | none => .ok (.text raw)

/-- **Only an integer of too many digits is refused.** -/
theorem readLiteral_eq_error {raw : Text} {fault : Fault} (h : readLiteral raw = .error fault) :
    fault = .external .unreadableNumeral ∧
      ∃ p, Text.integer? (Text.withoutFinalBreak raw) = some p ∧ maxIntegerDigits < p.2.length := by
  unfold readLiteral at h
  split at h
  · simp at h
  · simp only at h
    split at h; · simp at h
    split at h; · simp at h
    split at h; · simp at h
    split at h
    · rename_i negative digits hi
      simp only [integerOf] at h
      split at h
      · rename_i hlen
        simp only [Except.error.injEq] at h
        exact ⟨h.symm, _, hi, hlen⟩
      · simp at h
    · split at h
      · split at h <;> simp at h
      · simp at h

end Almanac.Statement
