import Almanac.Session
import Mathlib.Data.List.Nodup

/-!
# Finding and changing tables

What a change of one table does to the others, and what an added row holds.

* `find?_modify`: **a change is seen where it was made**, and nowhere else
  (`table_modify_of_ne`).
* `find?_text_eq_none_iff`: a text names no table exactly if it is none of the names.
* `execute_select_of_filterable`: asking for rows goes over the rows of one table.
* `append_text`: a row is added exactly if the table is there and takes the columns.
* `Table.get?_nextRow`: **a new row holds what it was given**, and nothing elsewhere.
* `Record.get?_putAll_of_last`: what is written last under a name is what stands there.
-/

namespace Almanac

namespace Store

variable {s : Store} {t : Table} {key key' : Value.Key} {name : Value} {change : Table → Table}

theorem mem_of_find? (h : s.find? key = some t) : t ∈ s.tables ∧ t.name.key? = some key :=
  ⟨List.mem_of_find?_eq_some h, by simpa using List.find?_some h⟩

theorem find?_eq_none_iff : s.find? key = none ↔ ∀ t ∈ s.tables, t.name.key? ≠ some key := by
  simp [find?]

/-- **A change is seen where it was made.** -/
theorem find?_modify (hname : ∀ t, (change t).name = t.name) :
    (s.modify key change).find? key' =
      (s.find? key').map fun t => if t.name.key? = some key then change t else t := by
  have hsame : ∀ t : Table, (if t.name.key? = some key then change t else t).name = t.name := by
    intro t; split
    · exact hname t
    · rfl
  simp only [find?, modify, List.find?_map, Function.comp_def, hsame]

theorem find?_modify_self (hname : ∀ t, (change t).name = t.name) (h : s.find? key = some t) :
    (s.modify key change).find? key = some (change t) := by
  rw [find?_modify hname, h, Option.map_some, if_pos (mem_of_find? h).2]

theorem find?_modify_of_ne (hname : ∀ t, (change t).name = t.name) (h : key' ≠ key) :
    (s.modify key change).find? key' = s.find? key' := by
  rw [find?_modify hname]
  cases hf : s.find? key' with
  | none => rfl
  | some t =>
    have hkey := (mem_of_find? hf).2
    rw [Option.map_some, if_neg (by rw [hkey]; simpa using h)]

theorem names_modify (hname : ∀ t, (change t).name = t.name) :
    (s.modify key change).names = s.names := by
  simp only [names, modify, List.map_map]
  apply List.map_congr_left
  intro t _
  simp only [Function.comp]
  split
  · exact hname t
  · rfl

theorem table_eq_ok_iff :
    s.table name = .ok t ↔ ∃ key, name.key? = some key ∧ s.find? key = some t := by
  cases hk : name.key? with
  | none => simp [table, keyOf, hk, bind, Except.bind]
  | some key =>
    cases hf : s.find? key with
    | none => simp [table, keyOf, hk, hf, bind, Except.bind]
    | some u => simp [table, keyOf, hk, hf, bind, Except.bind]

theorem table_text_eq_ok_iff {n : Text} :
    s.table (.text n) = .ok t ↔ s.find? (.text n) = some t := by
  rw [table_eq_ok_iff]; simp

theorem rows_of_table (h : s.table name = .ok t) : s.rows name = .ok t.rows := by
  rw [rows, h]; rfl

/-- Only a text has the key of a text. -/
theorem key?_eq_text_iff {n : Text} : name.key? = some (.text n) ↔ name = .text n := by
  cases name with
  | double x => cases h : Value.wholeDouble? x <;> simp [Value.key?, h]
  | _ => simp [Value.key?]

/-- A text names no table exactly if it is none of the names. -/
theorem find?_text_eq_none_iff {n : Text} : s.find? (.text n) = none ↔ Value.text n ∉ s.names := by
  simp [find?_eq_none_iff, key?_eq_text_iff, names]

theorem table_of_mem_names {n : Text} (h : Value.text n ∈ s.names) :
    ∃ t, s.table (.text n) = .ok t := by
  cases hf : s.find? (.text n) with
  | none => exact absurd h (find?_text_eq_none_iff.1 hf)
  | some t => exact ⟨t, table_text_eq_ok_iff.2 hf⟩

theorem table_of_not_mem_names {n : Text} (h : Value.text n ∉ s.names) :
    s.table (.text n) = .error (.query (.unknownTable (.text n))) := by
  simp only [table, keyOf_text, bind, Except.bind, find?_text_eq_none_iff.2 h,
    Fault.raised_unknownTable]

/-- A change of one table is not seen under another name. -/
theorem table_modify_of_ne (hname : ∀ t, (change t).name = t.name) (h : name.key? ≠ some key) :
    (s.modify key change).table name = s.table name := by
  cases hk : name.key? with
  | none => simp [table, keyOf, hk, bind, Except.bind]
  | some key' =>
    have hne : key' ≠ key := by rintro rfl; exact h hk
    simp only [table, keyOf, hk, bind, Except.bind, find?_modify_of_ne hname hne]

/-- A row is added if the table is there and takes the columns. -/
theorem append_text {n : Text} {values : Record} (h : s.table (.text n) = .ok t)
    (hrefused : t.refused? values.names = none) :
    s.append (.text n) values = .ok (t.nextRow values, s.modify (.text n) (·.push values)) := by
  have hf := table_text_eq_ok_iff.1 h
  simp only [append, keyOf_text, bind, Except.bind, hf, hrefused]

theorem append_text_of_not_mem {n : Text} (h : Value.text n ∉ s.names) (values : Record) :
    s.append (.text n) values = .error (.query (.unknownTable (.text n))) := by
  have hf := find?_text_eq_none_iff.2 h
  simp only [append, keyOf_text, bind, Except.bind, hf, Fault.raised_unknownTable]

theorem append_text_of_refused {n c : Text} {values : Record} (h : s.table (.text n) = .ok t)
    (hrefused : t.refused? values.names = some c) :
    s.append (.text n) values = .error (.query (.schemaMismatch (.text n) c)) := by
  have hf := table_text_eq_ok_iff.1 h
  simp only [append, keyOf_text, bind, Except.bind, hf, hrefused, Fault.raised_schemaMismatch]

/-! ## Asking a table for rows -/

variable {table : Text} {filter : Option Filter}

theorem execute_select_of_filterable (ht : s.table (.text table) = .ok t)
    (h : unfilterable? filter t.rows = none) (fields : List Text) :
    s.execute (.select table fields filter) =
      .ok (selectFields fields (passing filter t.rows), s) := by
  simp only [execute, rows_of_table ht, filterRows_of_filterable h, bind, Except.bind, pure,
    Except.pure]

/-- Where a value cannot be shown that the filter has to compare, nothing is answered. -/
theorem execute_select_of_unfilterable {k : ExternalFault} (ht : s.table (.text table) = .ok t)
    (h : unfilterable? filter t.rows = some k) (fields : List Text) :
    s.execute (.select table fields filter) = .error (.external k) := by
  simp only [execute, rows_of_table ht, filterRows_of_unfilterable h, bind, Except.bind]

theorem execute_select_of_not_mem (h : Value.text table ∉ s.names) (fields : List Text)
    (filter : Option Filter) : s.execute (.select table fields filter) =
      .error (.query (.unknownTable (.text table))) := by
  simp only [execute, rows, table_of_not_mem_names h, Except.map, bind, Except.bind]

/-! ## Statements as steps -/

variable {mode : Mode} {statement : Value}

/-- A statement's rows are the answer of the step that carries it out. -/
theorem step_execute_ok {rows : List Record} {s' : Store}
    (h : s.query mode statement = .ok (rows, s')) :
    s.step mode (.execute statement) = ⟨.ok (.rows rows), s', []⟩ := by
  rw [step, h]; rfl

theorem step_execute_error {f : Fault} (h : s.query mode statement = .error f) :
    s.step mode (.execute statement) = ⟨.error f, s, []⟩ := by
  rw [step, h]; rfl

variable {st : Statement}

/-- What is read is carried out. -/
theorem query_of_read (h : Statement.readValue mode statement = .ok st) :
    s.query mode statement = s.execute st := by
  rw [query, h]; rfl

theorem query_text {text : Text} (h : Statement.read mode text = .ok st) :
    s.query mode (.text text) = s.execute st := query_of_read h

/-- A statement that need not be read is carried out as soon as it can be. -/
theorem step_executeParsed_ok {rows : List Record} {s' : Store} (h : s.execute st = .ok (rows, s')) :
    s.step mode (.executeParsed st) = ⟨.ok (.rows rows), s', [.executorReady]⟩ := by
  rw [step, Outcome.note_of_nothing rfl]
  simp only [Outcome.andThen, Outcome.silent, h, List.append_nil]

theorem step_executeParsed_error {f : Fault} (h : s.execute st = .error f) :
    s.step mode (.executeParsed st) = ⟨.error f, s, [.executorReady]⟩ := by
  rw [step, Outcome.note_of_nothing rfl]
  simp only [Outcome.andThen, Outcome.silent, h, List.append_nil]

end Store

/-! ## Rows -/

variable {t : Table} {values : Record} {columns : List Text} {given : List Value} {c : Text}

@[simp] theorem Table.push_name : (t.push values).name = t.name := rfl

theorem Table.refused?_eq_none_iff {names : List Text} :
    t.refused? names = none ↔ ∀ c ∈ names, c ≠ idColumn ∧ c ∈ t.columns := by
  simp [Table.refused?]

theorem Record.lookup_map (c : Text) (f : Text → Value) (names : List Text) :
    (names.map fun c => (c, f c)).lookup c = if c ∈ names then some (f c) else none := by
  induction names with
  | nil => simp
  | cons n ns ih =>
    by_cases h : c = n
    · subst h; simp
    · have : (c == n) = false := by simpa using h
      simp [List.lookup_cons, this, ih, h]

/-- **A new row holds what it was given**, its number, and nothing in the other columns. -/
theorem Table.get?_nextRow :
    Record.get? (t.nextRow values) c =
      if c ∈ t.columns then some (if c = idColumn then .int t.nextId else values.get c) else none := by
  have h := Record.lookup_map c (fun c => if c = idColumn then .int t.nextId else values.get c)
    t.columns.eraseDups
  rw [Record.get?, Table.nextRow, h]
  simp only [List.mem_eraseDups]

namespace Record

variable {r : Record} {pairs : List (Text × Value)} {v : Value}

theorem put_of_not_mem (h : c ∉ r.names) : r.put c v = r ++ [(c, v)] := by
  induction r with
  | nil => rfl
  | cons p r ih =>
    obtain ⟨n, w⟩ := p
    simp only [names, List.map_cons, List.mem_cons, not_or] at h ih
    simp [put, Ne.symm h.1, ih h.2]

theorem putAll_of_nodup (h : (r.names ++ names pairs).Nodup) : r.putAll pairs = r ++ pairs := by
  induction pairs generalizing r with
  | nil => simp [putAll]
  | cons p ps ih =>
    obtain ⟨n, w⟩ := p
    have hn : n ∉ r.names := by
      intro hmem
      exact (List.nodup_append.1 h).2.2 n hmem n (by simp [names]) rfl
    have hrest : (names (r ++ [(n, w)]) ++ names ps).Nodup := by simpa [names] using h
    have := ih hrest
    unfold putAll at this ⊢
    rw [List.foldl_cons, put_of_not_mem hn, this]; simp

/-- Pairs without a repeated name are the record. -/
theorem ofPairs_of_nodup (h : (names pairs).Nodup) : ofPairs pairs = pairs := by
  have : putAll [] pairs = pairs := putAll_of_nodup (by simpa [names] using h)
  simpa [ofPairs] using this

/-- Writing the pairs brings their names behind those that are there, so that the first name of
some kind is the same as if none were repeated. -/
theorem find?_names_putAll (p : Text → Bool) :
    (r.putAll pairs).names.find? p = (r.names ++ names pairs).find? p := by
  induction pairs generalizing r with
  | nil => simp [putAll, names]
  | cons q pairs ih =>
    obtain ⟨n, w⟩ := q
    have hput : (r.put n w).names.find? p = (r.names ++ [n]).find? p := by
      rw [names_put]
      split
      · rename_i hmem
        -- a name that stands further up is of the kind there already
        cases hfind : r.names.find? p with
        | some m => rw [List.find?_append, hfind]; rfl
        | none =>
          have hn : p n = false := by simpa using List.find?_eq_none.1 hfind n hmem
          rw [List.find?_append, hfind, List.find?_singleton, hn]; rfl
      · rfl
    have hsplit : names ((n, w) :: pairs) = [n] ++ names pairs := rfl
    rw [hsplit, ← List.append_assoc, List.find?_append, ← hput, ← List.find?_append]
    exact ih

/-- What is written last under a name is what stands there. -/
theorem get?_putAll_of_last {before after : List (Text × Value)} (h : c ∉ names after) :
    (r.putAll (before ++ (c, v) :: after)).get? c = some v := by
  have hsplit : r.putAll (before ++ (c, v) :: after) = ((r.putAll before).put c v).putAll after := by
    simp [putAll]
  rw [hsplit, get?_putAll_of_not_mem h, get?_put, if_pos rfl]

theorem get_of_not_mem (h : c ∉ r.names) : r.get c = .null := by
  have : r.get? c = none := by
    rw [get?, List.lookup_eq_none_iff]
    intro p hp
    have : c ≠ p.1 := by
      rintro rfl
      exact h (List.mem_map.2 ⟨p, hp, rfl⟩)
    simpa using this
  rw [get, this]; rfl

end Record

/-- Columns and values of equal number, without a repeated column, are paired as they stand. -/
theorem Statement.insertValues_of_nodup (hlen : columns.length = given.length) (h : columns.Nodup) :
    Statement.insertValues columns given = columns.zip given ∧
      Record.names (columns.zip given) = columns := by
  have hnames : Record.names (columns.zip given) = columns :=
    List.map_fst_zip (Nat.le_of_eq hlen)
  exact ⟨Record.ofPairs_of_nodup (by rw [hnames]; exact h), hnames⟩

end Almanac
