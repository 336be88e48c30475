import Almanac.Store.Table
import Almanac.Fault.Shown

/-!
# The store

The tables, in the order in which they were created. Tables are found by the key of
their name. An operation that fails gives a fault and no store, so that nothing is
changed by it.

* `create_eq_ok_iff`: **a table is created exactly if its name is free.**
* `append_eq_ok`: a row is added to one table, and the others stay as they are.
-/

namespace Almanac

/-- The tables, in the order of their creation. -/
structure Store where
  tables : List Table
deriving DecidableEq

/-- How many rows each table has. -/
structure Statistics where
  counts : List (Value × Nat)
deriving DecidableEq

namespace Statistics

def totalTables (s : Statistics) : Nat := s.counts.length

def totalRows (s : Statistics) : Nat := s.counts.foldl (fun n c => n + c.2) 0

end Statistics

namespace Store

/-- The store without tables. -/
def empty : Store := ⟨[]⟩

def names (s : Store) : List Value := s.tables.map (·.name)

/-- The table whose name has the key. -/
def find? (s : Store) (key : Value.Key) : Option Table :=
  s.tables.find? fun t => t.name.key? = some key

/-- A name's key; a name without one cannot be looked up. -/
def keyOf (name : Value) : Except Fault Value.Key :=
  match name.key? with
  | some key => .ok key
  | none => .error (.external .unusableName)

/-- Whether there is a table of that name. -/
def has (s : Store) (name : Value) : Except Fault Bool := do
  let key ← keyOf name
  return (s.find? key).isSome

/-- The table of that name. -/
def table (s : Store) (name : Value) : Except Fault Table := do
  let key ← keyOf name
  match s.find? key with
  | some t => .ok t
  | none => .error (Fault.raised (.query (.unknownTable name)))

/-- Creates a table; `id` becomes its first column. -/
def create (s : Store) (name : Value) (columns : List Text) : Except Fault (Table × Store) := do
  let key ← keyOf name
  match s.find? key with
  | some _ => .error (.duplicateTable name)
  | none =>
    let t := Table.fresh name columns
    .ok (t, ⟨s.tables ++ [t]⟩)

/-- Changes the tables whose name has the key. -/
def modify (s : Store) (key : Value.Key) (change : Table → Table) : Store :=
  ⟨s.tables.map fun t => if t.name.key? = some key then change t else t⟩

/-- Adds a row to a table. -/
def append (s : Store) (name : Value) (values : Record) : Except Fault (Record × Store) := do
  let key ← keyOf name
  match s.find? key with
  | none => .error (Fault.raised (.query (.unknownTable name)))
  | some t =>
    match t.refused? values.names with
    | some column => .error (Fault.raised (.query (.schemaMismatch name column)))
    | none => .ok (t.nextRow values, s.modify key (·.push values))

/-- The columns of a table. -/
def columns (s : Store) (name : Value) : Except Fault (List Text) :=
  (s.table name).map (·.columns)

/-- The rows of a table, in the order in which they were added. -/
def rows (s : Store) (name : Value) : Except Fault (List Record) :=
  (s.table name).map (·.rows)

/-- The number of rows of a table. -/
def count (s : Store) (name : Value) : Except Fault Nat :=
  (s.table name).map (·.rows.length)

def statistics (s : Store) : Statistics := ⟨s.tables.map fun t => (t.name, t.rows.length)⟩

variable {s : Store} {t : Text} {columns : List Text} {values : Record}

@[simp] theorem keyOf_text : keyOf (.text t) = .ok (.text t) := rfl

/-- **A table is created exactly if its name is free.** -/
theorem create_eq_ok_iff {p : Table × Store} :
    s.create (.text t) columns = .ok p ↔
      s.find? (.text t) = none ∧
        p = (Table.fresh (.text t) columns, ⟨s.tables ++ [Table.fresh (.text t) columns]⟩) := by
  simp only [create, keyOf_text, bind, Except.bind]
  cases h : s.find? (.text t) with
  | some u => simp
  | none => simp [eq_comm]

/-- A row is added to one table, and the others stay as they are. -/
theorem append_eq_ok {name : Value} {row : Record} {s' : Store}
    (h : s.append name values = .ok (row, s')) :
    ∃ key t, keyOf name = .ok key ∧ s.find? key = some t ∧ t.refused? values.names = none ∧
      row = t.nextRow values ∧ s' = s.modify key (·.push values) := by
  obtain ⟨key, hkey, h⟩ := bind_eq_ok_iff.1 h
  cases ht : s.find? key with
  | none => rw [ht] at h; cases h
  | some t =>
    cases hr : t.refused? values.names with
    | some column => simp only [ht, hr, reduceCtorEq] at h
    | none =>
      simp only [ht, hr, Except.ok.injEq, Prod.mk.injEq] at h
      exact ⟨key, t, hkey, ht, hr, h.1.symm, h.2.symm⟩

end Store

end Almanac
