import Almanac.Statement.Literal
import Almanac.Statement.Basic
import Almanac.Text.Blank
import Almanac.Text.Keyword

/-!
# Statements that add a row

`INSERT INTO table (columns) VALUES (values)`, read by cutting the text: the table
follows the first `INTO` that stands at the start of a word and has blanks after it;
then the first whole-word `VALUES` separates the column list, which ends at the first
closing parenthesis, from the value list, which ends at the last one.

* `length_readValues`: **there is one value per literal.**
-/

namespace Almanac.Statement

open Text

def intoWord : Text := ['I', 'N', 'T', 'O']

def valuesWord : Text := ['V', 'A', 'L', 'U', 'E', 'S']

/-- A character of a table's name after `INTO`. -/
def isTargetChar (c : Char) : Bool := !isBlank c && c != '('

/-- `INTO`, blanks and a table's name: the name and what follows it. -/
def target : Probe (Text × Text) := fun before t =>
  if endsWord before then
    (afterKeyword? intoWord t).bind fun rest =>
      let named := rest.dropWhile isBlank
      let name := named.takeWhile isTargetChar
      if named.length = rest.length ∨ name = [] then none
      else some (name, named.dropWhile isTargetChar)
  else none

/-- The text between the first `(` and the first `)` after it. -/
def columnList? (text : Text) : Option Text :=
  (cut? '(' text).bind fun p => (cut? ')' p.2).map (·.1)

/-- The text between the first `(` and the last `)`. -/
def valueList? (text : Text) : Option Text :=
  (cut? '(' text).bind fun p => (cutLast? ')' p.2).map (·.1)

/-- The values of literals, in order. -/
def readValues : List Text → Except Fault (List Value)
  | [] => .ok []
  | raw :: rest => do
    let value ← readLiteral raw
    let values ← readValues rest
    return value :: values

/-- The comma-separated items of a list. -/
def items (list : Text) : List Text := (pieces ',' list).map strip

/-- A statement that adds a row. -/
def readInsert (text : Text) : Except Fault Statement :=
  match firstAt target none text with
  | none => .error (.malformed .noTarget)
  | some (_, table, afterTable) =>
    match cutAtWord? valuesWord afterTable with
    | none => .error (.malformed .noValues)
    | some (columnPart, valuePart) =>
      match columnList? columnPart, valueList? valuePart with
      | none, _ => .error (.malformed .noColumnList)
      | some _, none => .error (.malformed .noValueList)
      | some columnText, some valueText =>
        let columns := items columnText
        let literals := items valueText
        if columns.contains [] then .error (.malformed .blankColumn)
        else if ¬ columns.Nodup then .error (.malformed .repeatedColumn)
        else if columns.length ≠ literals.length then
          .error (.malformed (.countMismatch columns.length literals.length))
        else do
          let values ← readValues literals
          return .insert table columns values

/-- **There is one value per literal.** -/
theorem length_readValues {literals : List Text} {values : List Value}
    (h : readValues literals = .ok values) : values.length = literals.length := by
  induction literals generalizing values with
  | nil => simp only [readValues, Except.ok.injEq] at h; simp [← h]
  | cons raw rest ih =>
    simp only [readValues, bind, Except.bind, pure, Except.pure] at h
    split at h
    · simp at h
    · split at h
      · simp at h
      · rename_i _ vs hvs
        simp only [Except.ok.injEq] at h
        simp [← h, ih hvs]

end Almanac.Statement
