import Almanac.Record

/-!
# Tables

A table has columns and rows, and numbers its rows. The first column is `id`, which
the table itself fills; the others are filled by who adds a row.

* `nextRow_names`: **a row has the table's columns**, each once.
* `push_ok`: adding a row keeps a table well formed.
-/

namespace Almanac

/-- The column that holds the numbers of the rows. -/
def idColumn : Text := ['i', 'd']

/-- A table: its rows in the order in which they were added, and the next row's number. -/
structure Table where
  name : Value
  columns : List Text
  rows : List Record
  nextId : Nat
deriving DecidableEq

namespace Table

/-- A table without rows. `id` comes first, wherever it stood among the columns. -/
def fresh (name : Value) (columns : List Text) : Table :=
  ⟨name, idColumn :: columns.filter fun c => c ≠ idColumn, [], 1⟩

/-- The first of the names that no row may be given: `id`, or one that is no column. -/
def refused? (t : Table) (names : List Text) : Option Text :=
  names.find? fun c => c == idColumn || !t.columns.contains c

/-- The row that the values make: numbered, and nothing where no value is given. -/
def nextRow (t : Table) (values : Record) : Record :=
  t.columns.eraseDups.map fun c => (c, if c = idColumn then .int t.nextId else values.get c)

/-- The table with one more row. -/
def push (t : Table) (values : Record) : Table :=
  { t with rows := t.rows ++ [t.nextRow values], nextId := t.nextId + 1 }

/-- **What holds of every table:** `id` is the first column and no other, the rows are
numbered from 1 without gaps, and each row has the table's columns. -/
structure Ok (t : Table) : Prop where
  columns : ∃ rest, t.columns = idColumn :: rest ∧ idColumn ∉ rest
  nextId : t.nextId = t.rows.length + 1
  names : ∀ r ∈ t.rows, Record.names r = t.columns.eraseDups
  ids : ∀ i (h : i < t.rows.length), (t.rows.get ⟨i, h⟩).get? idColumn = some (.int (i + 1 : Nat))

variable {t : Table} {values : Record}

theorem fresh_ok (name : Value) (columns : List Text) : (fresh name columns).Ok where
  columns := ⟨_, rfl, by simp⟩
  nextId := rfl
  names := by simp [fresh]
  ids := by simp [fresh]

/-- **A row has the table's columns.** -/
theorem nextRow_names : Record.names (t.nextRow values) = t.columns.eraseDups := by
  simp [nextRow, Record.names, Function.comp_def]

/-- A new row's number is the table's next one. -/
theorem nextRow_id {rest : List Text} (h : t.columns = idColumn :: rest) :
    (t.nextRow values).get? idColumn = some (.int t.nextId) := by
  simp [nextRow, h, List.eraseDups_cons, Record.get?]

/-- Adding a row keeps a table well formed. -/
theorem push_ok (h : t.Ok) : (t.push values).Ok where
  columns := h.columns
  nextId := by simp [push, h.nextId]
  names := by
    intro r hr
    simp only [push, List.mem_append, List.mem_singleton] at hr
    rcases hr with hr | rfl
    · exact h.names r hr
    · exact nextRow_names
  ids := by
    intro i hi
    obtain ⟨rest, hc, -⟩ := h.columns
    simp only [push, List.length_append, List.length_singleton] at hi
    -- the row is an old one, or the new one at the end
    by_cases hlt : i < t.rows.length
    · simpa [push, List.getElem_append_left hlt] using h.ids i hlt
    · have : i = t.rows.length := by omega
      subst this
      have : (t.nextRow values).get? idColumn = some (.int t.nextId) := nextRow_id hc
      simp [push, this, h.nextId]

end Table

end Almanac
