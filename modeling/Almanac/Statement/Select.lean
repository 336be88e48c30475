import Almanac.Statement.Literal
import Almanac.Statement.Basic
import Almanac.Text.Blank
import Almanac.Text.Keyword

/-!
# Statements that ask for rows

`SELECT fields FROM table WHERE column = value`, read by cutting the text: at the
first whole-word `FROM`, at the first whole-word `WHERE` anywhere in the text, and at
the first `=` after that. All that follows the `=` is the filter's value.

* `readFilter_strict`: **strict reading is naive reading and one test of the value.**
-/

namespace Almanac.Statement

open Text

def fromWord : Text := ['F', 'R', 'O', 'M']

def whereWord : Text := ['W', 'H', 'E', 'R', 'E']

/-- A filter's value: without blanks, and then without quotes, at its two ends. -/
def cleanValue (raw : Text) : Text := trimBy isQuote (strip raw)

/-- A value that a strict reader refuses. -/
def isIllegalValue (value : Text) : Bool := value.any fun c => c == ';' || isQuote c

/-- Column and value of the condition that a text states. -/
def readFilter (mode : Mode) (text : Text) : Except Fault (Text × Text) :=
  match cut? '=' (strip text) with
  | none => .error (.malformed .noEquals)
  | some (left, right) =>
    let column := strip left
    if column = [] then .error (.malformed .noFilterColumn)
    else
      let value := cleanValue right
      if mode = .strict ∧ isIllegalValue value then .error (.malformed .illegalFilterValue)
      else .ok (column, value)

/-- The comma-separated fields after the first word. -/
def readFields (head : Text) : Except Fault (List Text) :=
  let fields := (pieces ',' (afterFirstWord (strip head))).map strip
  if fields.contains [] then .error (.malformed .blankField) else .ok fields

/-- The filter of a statement, if it has one. -/
def readWhere (mode : Mode) (text : Text) : Except Fault (Option Filter) :=
  match cutAtWord? whereWord text with
  | none => .ok none
  | some (_, condition) =>
    (readFilter mode condition).map fun p => some ⟨p.1, some p.2⟩

/-- A statement that asks for rows. -/
def readSelect (mode : Mode) (text : Text) : Except Fault Statement :=
  match cutAtWord? fromWord text with
  | none => .error (.malformed .noSource)
  | some (head, tail) =>
    let table := firstWord tail
    if table = [] then .error (.malformed .noSourceTable)
    else do
      let fields ← readFields head
      let filter ← readWhere mode text
      return .select table fields filter

/-- **Strict reading is naive reading and one test of the value.** -/
theorem readFilter_strict (text : Text) :
    readFilter .strict text =
      (readFilter .naive text).bind fun p =>
        if isIllegalValue p.2 then .error (.malformed .illegalFilterValue) else .ok p := by
  unfold readFilter
  cases cut? '=' (strip text) with
  | none => rfl
  | some p =>
    by_cases hc : strip p.1 = []
    · simp [hc, Except.bind]
    · by_cases h : isIllegalValue (cleanValue p.2) = true <;> simp [hc, h, Except.bind]

end Almanac.Statement
