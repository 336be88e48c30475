import Almanac.Proofs.Insertion
import Almanac.Proofs.Reading

/-!
# The effect of a statement

A statement's first word decides what it can do. Asking for rows does nothing to the store,
whatever stands behind the word; an insertion adds the row that it answers at the end of one
table. Nothing that is written in a text makes a second statement of it.

* `Store.modify_eq_split`: a change under a key is a change of one table.
* `Store.execute_insert_gains`: **an insertion adds one row to one table.**
* `statement_effect`: **one statement, at most one row.**
-/

namespace Almanac

open Text Statement

/-- The table with perhaps more rows, behind those that it has. -/
structure Table.Extends (t t' : Table) : Prop where
  name : t'.name = t.name
  columns : t'.columns = t.columns
  rows : t.rows <+: t'.rows

theorem Table.Extends.trans {t u w : Table} (h : t.Extends u) (h' : u.Extends w) : t.Extends w :=
  ⟨h'.name.trans h.name, h'.columns.trans h.columns, h.rows.trans h'.rows⟩

namespace Store

/-- **One table has gained the row**, at its end, and a number with it. The tables before it
and behind it are as they were. -/
def Gains (s : Store) (row : Record) (s' : Store) : Prop :=
  ∃ before t after, s.tables = before ++ t :: after ∧
    s'.tables = before ++ { t with rows := t.rows ++ [row], nextId := t.nextId + 1 } :: after

/-- The same tables in the same order, each with the rows that it has and perhaps more. -/
def Keeps (s s' : Store) : Prop := List.Forall₂ Table.Extends s.tables s'.tables

variable {s s' s'' : Store} {t : Table} {key : Value.Key} {name : Value}
  {values row : Record} {rows : List Record}

/-! ## One table -/

/-- **A change under a key is a change of one table**, since no two have one key. -/
theorem modify_eq_split (hs : s.Ok) (h : s.find? key = some t) (change : Table → Table) :
    ∃ before after, s.tables = before ++ t :: after ∧
      (s.modify key change).tables = before ++ change t :: after := by
  obtain ⟨hkey, before, after, hsplit, hbefore⟩ := List.find?_eq_some_iff_append.1 h
  have hkey : t.name.key? = some key := by simpa using hkey
  have hfirst : find? ⟨before⟩ key = none :=
    find?_eq_none_iff.2 fun u hu => by simpa using hbefore u hu
  have hrest : find? ⟨after⟩ key = none := by
    refine find?_eq_none_iff.2 fun u hu hukey => ?_
    -- a later table with the key would be a second one
    have hdistinct := hs.distinct
    rw [hsplit, List.map_append, List.map_cons] at hdistinct
    have htail := (List.nodup_cons.1 (List.nodup_append.1 hdistinct).2.1).1
    exact htail (List.mem_map.2 ⟨u, hu, hukey.trans hkey.symm⟩)
  have hs' : s = ⟨before ++ t :: after⟩ := congrArg Store.mk hsplit
  exact ⟨before, after, hsplit, by rw [hs', modify_at hkey hfirst hrest]⟩

theorem append_gains (hs : s.Ok) (h : s.append name values = .ok (row, s')) : s.Gains row s' := by
  obtain ⟨key, t, -, hfind, -, rfl, rfl⟩ := append_eq_ok h
  obtain ⟨before, after, hsplit, hmodify⟩ := modify_eq_split hs hfind (·.push values)
  exact ⟨before, t, after, hsplit, hmodify⟩

/-- **An insertion adds one row to one table**, and answers it. -/
theorem execute_insert_gains {table : Text} {columns : List Text} {given : List Value} (hs : s.Ok)
    (h : s.execute (.insert table columns given) = .ok (rows, s')) :
    ∃ row, rows = [row] ∧ s.Gains row s' := by
  obtain ⟨row, hrows, happend⟩ := execute_insert h
  exact ⟨row, hrows, append_gains hs happend⟩

/-! ## What is kept -/

theorem Keeps.refl (s : Store) : s.Keeps s :=
  List.forall₂_same.2 fun _ _ => ⟨rfl, rfl, List.prefix_rfl⟩

theorem Keeps.trans (h : s.Keeps s') (h' : s'.Keeps s'') : s.Keeps s'' := by
  obtain ⟨ts⟩ := s
  obtain ⟨ts'⟩ := s'
  obtain ⟨ts''⟩ := s''
  unfold Keeps at h h' ⊢
  dsimp only at h h' ⊢
  induction h generalizing ts'' with
  | nil => exact h'
  | cons hext _ ih =>
    obtain - | ⟨hext', hrest'⟩ := h'
    exact .cons (hext.trans hext') (ih _ hrest')

/-- What keeps the tables keeps their names, and makes no new one. -/
theorem Keeps.names (h : s.Keeps s') : s'.names = s.names := by
  have hnames : List.Forall₂ (· = ·) s.names s'.names :=
    List.forall₂_map_left_iff.2 (List.forall₂_map_right_iff.2 (h.imp fun _ _ hext => hext.name.symm))
  rw [List.forall₂_eq_eq_eq] at hnames
  exact hnames.symm

theorem modify_push_keeps (s : Store) (key : Value.Key) (values : Record) :
    s.Keeps (s.modify key (·.push values)) := by
  refine List.forall₂_map_right_iff.2 (List.forall₂_same.2 fun t _ => ?_)
  split
  · exact ⟨rfl, rfl, List.prefix_append _ _⟩
  · exact ⟨rfl, rfl, List.prefix_rfl⟩

theorem execute_keeps {st : Statement} (h : s.execute st = .ok (rows, s')) : s.Keeps s' := by
  cases st with
  | select table fields filter =>
    obtain ⟨rfl, -⟩ := execute_select h
    exact .refl _
  | insert table columns given =>
    obtain ⟨row, -, happend⟩ := execute_insert h
    obtain ⟨key, t, -, -, -, -, rfl⟩ := append_eq_ok happend
    exact modify_push_keeps s key _
  | other kind => cases h

/-- A statement keeps the tables, whatever comes of it. -/
theorem step_execute_keeps (s : Store) (mode : Mode) (statement : Value) :
    s.Keeps (s.step mode (.execute statement)).state := by
  cases hquery : s.query mode statement with
  | error f => rw [step_execute_error hquery]; exact .refl s
  | ok p =>
    obtain ⟨st, -, hst⟩ := query_eq_ok hquery
    rw [step_execute_ok hquery]; exact execute_keeps hst

end Store

/-! ## Any text -/

variable {s : Store}

/-- **One statement, at most one row.** A text that is answered has one of two first words.
If it asks for rows the store is as it was, whatever else stands in the text. If it is an
insertion, one table has gained one row, which is the answer, and everything else in the
store is as it was. A text that fails leaves the store as it was; and no text creates,
removes or renames a table. -/
theorem statement_effect (hs : s.Reachable) (mode : Mode) (text : Text) :
    (∀ answer, (s.step mode (.execute (.text text))).result = .ok answer →
      (leadingWord text = selectWord ∧ (∃ rows, answer = .rows rows) ∧
          (s.step mode (.execute (.text text))).state = s) ∨
        (leadingWord text = insertWord ∧ ∃ row, answer = .rows [row] ∧
          s.Gains row (s.step mode (.execute (.text text))).state)) ∧
      (∀ f, (s.step mode (.execute (.text text))).result = .error f →
        (s.step mode (.execute (.text text))).state = s) ∧
      (s.step mode (.execute (.text text))).state.names = s.names := by
  refine ⟨fun answer hanswer => ?_, fun f hf => Store.step_of_error rfl hf,
    (Store.step_execute_keeps s mode (.text text)).names⟩
  cases hquery : s.query mode (.text text) with
  | error f => rw [Store.step_execute_error hquery] at hanswer; cases hanswer
  | ok p =>
    obtain ⟨rows, s'⟩ := p
    rw [Store.step_execute_ok hquery] at hanswer ⊢
    cases hanswer
    obtain ⟨st, hread, hst⟩ := Store.query_eq_ok hquery
    rcases read_eq_ok hread with ⟨hword, table, fields, filter, rfl⟩ |
      ⟨hword, table, columns, values, rfl⟩
    · exact .inl ⟨hword, ⟨rows, rfl⟩, (Store.execute_select hst).1⟩
    · obtain ⟨row, rfl, hgains⟩ := Store.execute_insert_gains hs.ok hst
      exact .inr ⟨hword, row, rfl, hgains⟩

/-- A text with two statements in it does what the first one says, and an insertion whose value
holds a terminator adds one row. -/
theorem statement_effect_sample :
    (Store.after Store.sampleRun).Reachable ∧
      ((Store.after Store.sampleRun).step .naive (.execute (.text
          "Select * from notes ; INSERT INTO notes (mark) VALUES (5)".toList))).result =
        .ok (.rows Store.sampleTable.rows) ∧
      ((Store.after Store.sampleRun).step .naive (.execute (.text
          "Select * from notes ; INSERT INTO notes (mark) VALUES (5)".toList))).state =
        Store.after Store.sampleRun ∧
      ∃ row, ((Store.after Store.sampleRun).step .strict (.execute (.text
            "insert into notes(text) values ('; DROP TABLE notes')".toList))).result =
          .ok (.rows [row]) ∧
        (Store.after Store.sampleRun).Gains row ((Store.after Store.sampleRun).step .strict
          (.execute (.text "insert into notes(text) values ('; DROP TABLE notes')".toList))).state := by
  have hreach : (Store.after Store.sampleRun).Reachable := ⟨Store.sampleRun, rfl⟩
  have hselect : ((Store.after Store.sampleRun).step .naive (.execute (.text
      "Select * from notes ; INSERT INTO notes (mark) VALUES (5)".toList))).result =
        .ok (.rows Store.sampleTable.rows) := rfl
  have hinsert : ((Store.after Store.sampleRun).step .strict (.execute (.text
      "insert into notes(text) values ('; DROP TABLE notes')".toList))).result =
        .ok (.rows [[(idColumn, .int 3), ("text".toList, .text "; DROP TABLE notes".toList),
          ("mark".toList, .null)]]) := rfl
  refine ⟨hreach, hselect, ?_, ?_⟩
  · rcases (statement_effect hreach .naive _).1 _ hselect with ⟨-, -, hstate⟩ | ⟨hword, -⟩
    · exact hstate
    · exact absurd hword (by decide)
  · rcases (statement_effect hreach .strict _).1 _ hinsert with ⟨hword, -⟩ | ⟨-, row, hrow, hgains⟩
    · exact absurd hword (by decide)
    · exact ⟨row, hinsert.trans (by rw [hrow]), hgains⟩

end Almanac
