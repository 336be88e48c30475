import Almanac.Proofs.ReadInsert
import Almanac.Proofs.Numbering

/-!
# Adding a row by a statement

`INSERT INTO table (columns) VALUES (literals)`, in any of the forms in which it may be
written.

* `Table.filled_nextRow`: a new row has its number, what it was given, and nothing elsewhere.
* `Store.grown_modify`: one table has one more row, and the others are as they were.
* `insert_stored`: **an insertion stores exactly what it says**, in either mode.
-/

namespace Almanac

open Text Statement

/-- **What the row holds** that the table makes of values for some of its columns. -/
structure Table.Filled (tbl : Table) (columns : List Text) (values : List Value)
    (row : Record) : Prop where
  names : row.names = tbl.columns.eraseDups
  number : row.get? idColumn = some (.int (tbl.rows.length + 1 : Nat))
  given : ∀ p ∈ columns.zip values, row.get? p.1 = some p.2
  others : ∀ c ∈ tbl.columns, c ≠ idColumn → c ∉ columns → row.get? c = some .null

/-- **The store with one more row** at the end of the table of that name, and nothing else
changed. -/
structure Store.Grown (s : Store) (t : Text) (tbl : Table) (row : Record) (s' : Store) : Prop where
  table : s'.table (.text t) =
    .ok { tbl with rows := tbl.rows ++ [row], nextId := tbl.nextId + 1 }
  names : s'.names = s.names
  others : ∀ name, name.key? ≠ some (.text t) → s'.table name = s.table name

variable {s : Store} {tbl : Table} {t text : Text} {columns : List Text} {values : List Value}

/-- **A new row holds what it was given**, under the columns it was given for. -/
theorem Table.filled_nextRow (h : tbl.Ok) (hcolumns : ∀ c ∈ columns, c ∈ tbl.columns ∧ c ≠ idColumn)
    (hnodup : columns.Nodup) (hlen : columns.length = values.length) :
    tbl.Filled columns values (tbl.nextRow (columns.zip values)) where
  names := Table.nextRow_names
  number := by
    obtain ⟨rest, hid, -⟩ := h.columns
    rw [Table.nextRow_id hid, h.nextId]
  given := by
    rintro ⟨c, v⟩ hp
    obtain ⟨hmem, hne⟩ := hcolumns c (List.of_mem_zip hp).1
    have hnames : Record.names (columns.zip values) = columns := (insertValues_of_nodup hlen hnodup).2
    have hget : Record.get? (columns.zip values) c = some v :=
      Record.get?_of_mem (by rw [hnames]; exact hnodup) hp
    rw [Table.get?_nextRow, if_pos hmem, if_neg hne, Record.get, hget]; rfl
  others := by
    intro c hmem hne hc
    have hnames : Record.names (columns.zip values) = columns := (insertValues_of_nodup hlen hnodup).2
    rw [Table.get?_nextRow, if_pos hmem, if_neg hne, Record.get_of_not_mem (by rw [hnames]; exact hc)]

/-- **Pushing a row changes nothing else.** -/
theorem Store.grown_modify (ht : s.table (.text t) = .ok tbl) (given : Record) :
    s.Grown t tbl (tbl.nextRow given) (s.modify (.text t) (·.push given)) where
  table := Store.table_text_eq_ok_iff.2
    (Store.find?_modify_self (fun _ => rfl) (Store.table_text_eq_ok_iff.1 ht))
  names := Store.names_modify fun _ => rfl
  others := fun _ hname => Store.table_modify_of_ne (fun _ => rfl) hname

/-- What an insertion answers, and the store after it. -/
theorem query_insertText (ht : s.table (.text t) = .ok tbl) (hname : TargetName t)
    (hcolumns : ∀ c ∈ columns, (c ∈ tbl.columns ∧ c ≠ idColumn) ∧ ListedColumn c)
    (hnodup : columns.Nodup) (hlen : columns.length = values.length)
    (htext : InsertText t columns values text) (mode : Mode) :
    s.query mode (.text text) = .ok ([tbl.nextRow (columns.zip values)],
      s.modify (.text t) (·.push (columns.zip values))) := by
  have hread : readValue mode (.text text) = .ok (.insert t columns values) :=
    read_insertText htext hname (fun c hc => (hcolumns c hc).2) hnodup hlen mode
  obtain ⟨hvalues, hnames⟩ := insertValues_of_nodup hlen hnodup
  have hrefused : tbl.refused? (Record.names (columns.zip values)) = none := by
    rw [hnames, Table.refused?_eq_none_iff]
    intro c hc
    exact ⟨(hcolumns c hc).1.2, (hcolumns c hc).1.1⟩
  rw [Store.query, hread]
  simp only [bind, Except.bind, Store.execute, hvalues, Store.append_text ht hrefused, pure,
    Except.pure]

/-- **An insertion stores exactly what it says**, however it is written. It answers the one
row that the table makes of the values: the next number, the `i`-th value under the `i`-th
column, and nothing in the columns that it does not list. That row becomes the last row of
the table, and nothing else in the store changes. -/
theorem insert_stored (hs : s.Reachable) (ht : s.table (.text t) = .ok tbl) (hname : TargetName t)
    (hcolumns : ∀ c ∈ columns, (c ∈ tbl.columns ∧ c ≠ idColumn) ∧ ListedColumn c)
    (hnodup : columns.Nodup) (hlen : columns.length = values.length)
    (htext : InsertText t columns values text) (mode : Mode) :
    ∃ row s', s.step mode (.execute (.text text)) = ⟨.ok (.rows [row]), s', []⟩ ∧
      tbl.Filled columns values row ∧ s.Grown t tbl row s' := by
  have hquery := query_insertText ht hname hcolumns hnodup hlen htext mode
  exact ⟨_, _, Store.step_execute_ok hquery,
    Table.filled_nextRow (hs.table_ok ht) (fun c hc => (hcolumns c hc).1) hnodup hlen,
    Store.grown_modify ht _⟩

/-- An insertion whose text holds a quote, a parenthesis and the word between the lists. -/
def sampleInsertion : Text := "Insert\tINTO  notes( mark ,text)vAlUeS (-12, \"'); VALUES ('\" )".toList

theorem sampleInsertion_insertText :
    InsertText "notes".toList ["mark".toList, "text".toList]
      [.int (-12), .text "'); VALUES ('".toList] sampleInsertion := by
  have hvalue : integerValue true "12".toList = -12 := by decide
  rw [← hvalue]
  have hlist : ListText ["mark".toList, "text".toList] " mark ,text".toList :=
    .cons gap_space.2 gap_space.2 (.one blanks_nil blanks_nil)
  have hliterals : ListText ["-12".toList, "\"'); VALUES ('\"".toList]
      "-12, \"'); VALUES ('\" ".toList := .cons blanks_nil blanks_nil (.one gap_space.2 gap_space.2)
  have hnumber : Spelling (.int (integerValue true "12".toList)) "-12".toList :=
    .int .minus (by decide) (List.all_iff_forall_prop.1 (by decide)) (by decide)
  have htext : Spelling (.text "'); VALUES ('".toList) "\"'); VALUES ('\"".toList :=
    .text (by decide) (by decide)
  have hinsert : AnyCase insertWord "Insert".toList := by unfold AnyCase; decide
  have hvalues : AnyCase valuesWord "vAlUeS".toList := by unfold AnyCase; decide
  have hgap : Gap "\t".toList := ⟨by decide, List.all_iff_forall_prop.1 (by decide)⟩
  have hgap' : Gap "  ".toList := ⟨by decide, List.all_iff_forall_prop.1 (by decide)⟩
  have hparts : sampleInsertion = "Insert".toList ++ "\t".toList ++ intoWord ++ "  ".toList ++
      "notes".toList ++ [] ++ '(' :: (" mark ,text".toList ++ ')' :: ([] ++ "vAlUeS".toList ++ [' '] ++
        '(' :: ("-12, \"'); VALUES ('\" ".toList ++ [')']))) := rfl
  rw [hparts]
  exact .mk hinsert hgap (anyCase_self intoWord) hgap' blanks_nil hlist blanks_nil hvalues gap_space.2
    (.cons hnumber (.cons htext .nil)) hliterals

theorem targetName_notes : TargetName "notes".toList :=
  ⟨by decide, List.all_iff_forall_prop.1 (by decide), by decide⟩

theorem listedColumn_text : ListedColumn "text".toList :=
  ⟨by decide, by decide, by decide, by decide, cutAtWord?_eq_none_iff.1 (by decide)⟩

theorem listedColumn_mark : ListedColumn "mark".toList :=
  ⟨by decide, by decide, by decide, by decide, cutAtWord?_eq_none_iff.1 (by decide)⟩

/-- The row that it adds to the notes of the sample run. -/
theorem insert_stored_sample :
    (Store.after Store.sampleRun).Reachable ∧
      (Store.after Store.sampleRun).table (.text "notes".toList) = .ok Store.sampleTable ∧
      InsertText "notes".toList ["mark".toList, "text".toList]
        [.int (-12), .text "'); VALUES ('".toList] sampleInsertion ∧
      ∃ row s', (Store.after Store.sampleRun).step .strict (.execute (.text sampleInsertion)) =
          ⟨.ok (.rows [row]), s', []⟩ ∧
        row.names = [idColumn, "text".toList, "mark".toList] ∧ row.get? idColumn = some (.int 3) ∧
        row.get? "mark".toList = some (.int (-12)) ∧
        row.get? "text".toList = some (.text "'); VALUES ('".toList) ∧
        s'.rows (.text "notes".toList) = .ok (Store.sampleTable.rows ++ [row]) := by
  have hreach : (Store.after Store.sampleRun).Reachable := ⟨Store.sampleRun, rfl⟩
  have hcolumns : ∀ c ∈ ["mark".toList, "text".toList],
      (c ∈ Store.sampleTable.columns ∧ c ≠ idColumn) ∧ ListedColumn c := by
    intro c hc
    rcases List.mem_cons.1 hc with rfl | hc
    · exact ⟨by decide, listedColumn_mark⟩
    · rw [List.mem_singleton.1 hc]; exact ⟨by decide, listedColumn_text⟩
  obtain ⟨row, s', hstep, hfilled, hgrown⟩ := insert_stored hreach Store.table_sampleRun
    targetName_notes hcolumns (by decide) rfl sampleInsertion_insertText .strict
  have hnames : Store.sampleTable.columns.eraseDups = [idColumn, "text".toList, "mark".toList] := by
    decide
  refine ⟨hreach, Store.table_sampleRun, sampleInsertion_insertText, row, s', hstep, ?_,
    hfilled.number, hfilled.given ("mark".toList, _) List.mem_cons_self,
    hfilled.given ("text".toList, _) (List.mem_cons_of_mem _ List.mem_cons_self),
    Store.rows_of_table hgrown.table⟩
  rw [hfilled.names, hnames]

end Almanac
