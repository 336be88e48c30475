import Almanac.Fault.Basic
import Almanac.Record

/-!
# Statements

A statement asks for rows of a table or adds one row to it. How strictly filter
values are read is a matter of the mode.

* `insertValues`: **values are paired with columns by position**; what has no partner
  is dropped, and of a repeated column the last value counts.
-/

namespace Almanac

/-- How filter values are read: `strict` refuses values that keep a terminator or a quote. -/
inductive Mode where
  | naive
  | strict
deriving DecidableEq

/-- The condition that a column's value has a given text. -/
structure Filter where
  column : Text
  value : Option Text
deriving DecidableEq

/-- A statement that can be carried out, or one of a kind that cannot. -/
inductive Statement where
  | select (table : Text) (fields : List Text) (filter : Option Filter)
  | insert (table : Text) (columns : List Text) (values : List Value)
  | other (kind : Text)
deriving DecidableEq

/-- The name of the mode. -/
def Mode.name : Mode → Text
  | naive => "naive".toList
  | strict => "strict".toList

/-- The mode of that name. -/
def Mode.ofName? (name : Text) : Option Mode :=
  if name = Mode.naive.name then some .naive
  else if name = Mode.strict.name then some .strict
  else none

/-- The first word of a statement that asks for rows. -/
def selectWord : Text := ['S', 'E', 'L', 'E', 'C', 'T']

/-- The first word of a statement that adds a row. -/
def insertWord : Text := ['I', 'N', 'S', 'E', 'R', 'T']

/-- The select list that stands for all columns. -/
def allFields : Text := ['*']

namespace Statement

/-- The word that says what a statement does. -/
def kind : Statement → Text
  | select .. => selectWord
  | insert .. => insertWord
  | other kind => kind

/-- The row that columns and values make when they are paired by position. -/
def insertValues (columns : List Text) (values : List Value) : Record :=
  Record.ofPairs (columns.zip values)

/-- The statement of a kind, from all that statements of either kind are made of. -/
def ofParts (kind table : Text) (fields : List Text) (filter : Option Filter)
    (columns : List Text) (values : List Value) : Statement :=
  if kind = selectWord then select table fields filter
  else if kind = insertWord then insert table columns values
  else other kind

end Statement

end Almanac
