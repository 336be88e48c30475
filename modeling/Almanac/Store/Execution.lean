import Almanac.Store.Basic
import Almanac.Statement.Basic

/-!
# Carrying out statements

A statement that asks for rows filters a table's rows by the text of one column and
then keeps the wanted fields. A statement that adds a row adds one. Nothing else
touches the store.

* `filterRows_eq`: **a filter goes over the rows up to the first that it cannot compare**, since
  the value in its column cannot be shown.
* `execute_select`: asking for rows leaves the store as it is.
* `execute_insert`: adding a row gives that row alone.
-/

namespace Almanac

/-- The row's value in the filter's column has the filter's text, if that value can be shown. -/
def Filter.passes (f : Filter) (row : Record) : Except Fault Bool :=
  (row.get f.column).compared.map (· == f.value)

/-- The rows that pass, or all of them if there is no filter. -/
def filterRows (filter : Option Filter) (rows : List Record) : Except Fault (List Record) :=
  match filter with
  | none => .ok rows
  | some f => rows.filterM f.passes

/-- The row's value in the filter's column has the filter's text, where that value can be shown. -/
def Filter.holds (f : Filter) (row : Record) : Bool := (row.get f.column).asText == f.value

/-- The values in a column of the rows can all be shown. -/
def Comparable (column : Text) (rows : List Record) : Prop :=
  ∀ row ∈ rows, (row.get column).Showable

/-- Why the rows cannot be compared by a column: the first value there that cannot be shown. -/
def incomparable? (column : Text) (rows : List Record) : Option ExternalFault :=
  rows.findSome? fun row => (row.get column).unshowable?

/-- Why the rows cannot be filtered. Without a filter nothing is compared. -/
def unfilterable? (filter : Option Filter) (rows : List Record) : Option ExternalFault :=
  filter.bind fun f => incomparable? f.column rows

/-- The rows that pass, where all can be compared. -/
def passing (filter : Option Filter) (rows : List Record) : List Record :=
  rows.filter fun row => filter.all (·.holds row)

/-- The rows with the wanted fields only. -/
def selectFields (fields : List Text) (rows : List Record) : List Record :=
  if fields.contains allFields then rows else rows.map (·.restrict fields)

theorem incomparable?_eq_none_iff {column : Text} {rows : List Record} :
    incomparable? column rows = none ↔ Comparable column rows :=
  List.findSome?_eq_none_iff

theorem unfilterable?_some (f : Filter) (rows : List Record) :
    unfilterable? (some f) rows = incomparable? f.column rows := rfl

/-- The value of an added row is compared last. -/
theorem incomparable?_concat (column : Text) (rows : List Record) (row : Record) :
    incomparable? column (rows ++ [row]) =
      (incomparable? column rows).or (row.get column).unshowable? := by
  rw [incomparable?, List.findSome?_append, List.findSome?_singleton, incomparable?]

theorem Filter.passes_of_showable {f : Filter} {row : Record} (h : (row.get f.column).Showable) :
    f.passes row = .ok (f.holds row) := by
  rw [passes, Value.compared, Value.withShown_of_showable _ (by simpa using h)]
  rfl

theorem Filter.passes_of_unshowable {f : Filter} {row : Record} {k : ExternalFault}
    (h : (row.get f.column).unshowable? = some k) : f.passes row = .error (.external k) := by
  rw [passes, Value.compared, Value.withShown_singleton_of_some _ h]
  rfl

/-- The rows that were kept before come first. -/
theorem filterAuxM_passes (f : Filter) (rows kept : List Record) :
    List.filterAuxM f.passes rows kept = match incomparable? f.column rows with
      | none => .ok ((rows.filter f.holds).reverse ++ kept)
      | some k => .error (.external k) := by
  induction rows generalizing kept with
  | nil => rfl
  | cons row rows ih =>
    rw [List.filterAuxM, incomparable?, List.findSome?_cons]
    cases h : (row.get f.column).unshowable? with
    | some k =>
      -- the rows behind it are not looked at, and those that were kept do not count
      rw [f.passes_of_unshowable h]
      rfl
    | none =>
      rw [f.passes_of_showable h]
      cases hrow : f.holds row <;> simp [ih, incomparable?, hrow, bind, Except.bind]

/-- **A filter goes over the rows up to the first that it cannot compare**, and if there is none it
keeps those whose value has its text. -/
theorem filterRows_eq (filter : Option Filter) (rows : List Record) :
    filterRows filter rows = match unfilterable? filter rows with
      | none => .ok (passing filter rows)
      | some k => .error (.external k) := by
  cases filter with
  | none =>
    have hall : passing none rows = rows := List.filter_eq_self.2 fun _ _ => rfl
    rw [unfilterable?, Option.bind_none, hall, filterRows]
  | some f =>
    rw [filterRows, List.filterM, filterAuxM_passes, unfilterable?, Option.bind_some]
    cases incomparable? f.column rows with
    | none => simp [passing, bind, Except.bind, pure, Except.pure]
    | some k => rfl

theorem filterRows_of_filterable {filter : Option Filter} {rows : List Record}
    (h : unfilterable? filter rows = none) : filterRows filter rows = .ok (passing filter rows) := by
  rw [filterRows_eq, h]

theorem filterRows_of_unfilterable {filter : Option Filter} {rows : List Record} {k : ExternalFault}
    (h : unfilterable? filter rows = some k) : filterRows filter rows = .error (.external k) := by
  rw [filterRows_eq, h]

theorem filterRows_eq_ok {filter : Option Filter} {rows found : List Record}
    (h : filterRows filter rows = .ok found) :
    unfilterable? filter rows = none ∧ found = passing filter rows := by
  cases hk : unfilterable? filter rows with
  | some k => rw [filterRows_of_unfilterable hk] at h; cases h
  | none =>
    rw [filterRows_of_filterable hk] at h
    cases h
    exact ⟨rfl, rfl⟩

namespace Store

/-- Carries out a statement: the rows it answers, and the store after it. -/
def execute (s : Store) : Statement → Except Fault (List Record × Store)
  | .select table fields filter => do
    let rows ← s.rows (.text table)
    let found ← filterRows filter rows
    return (selectFields fields found, s)
  | .insert table columns values => do
    let (row, s') ← s.append (.text table) (Statement.insertValues columns values)
    return ([row], s')
  | .other kind => .error (.query (.unsupported kind))

variable {s s' : Store} {table : Text} {rows : List Record}

/-- **Asking for rows leaves the store as it is.** -/
theorem execute_select {fields : List Text} {filter : Option Filter}
    (h : s.execute (.select table fields filter) = .ok (rows, s')) :
    s' = s ∧ ∃ all, s.rows (.text table) = .ok all ∧ unfilterable? filter all = none ∧
      rows = selectFields fields (passing filter all) := by
  obtain ⟨all, hall, h⟩ := bind_eq_ok_iff.1 h
  obtain ⟨found, hfound, h⟩ := bind_eq_ok_iff.1 h
  obtain ⟨hfilterable, rfl⟩ := filterRows_eq_ok hfound
  cases h
  exact ⟨rfl, all, hall, hfilterable, rfl⟩

/-- Adding a row gives that row alone. -/
theorem execute_insert {columns : List Text} {values : List Value}
    (h : s.execute (.insert table columns values) = .ok (rows, s')) :
    ∃ row, rows = [row] ∧
      s.append (.text table) (Statement.insertValues columns values) = .ok (row, s') := by
  obtain ⟨⟨row, _⟩, hrow, h⟩ := bind_eq_ok_iff.1 h
  cases h
  exact ⟨row, rfl, hrow⟩

end Store

end Almanac
