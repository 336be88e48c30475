import Almanac.Proofs.WellFormed

/-!
# Carrying out any statement

A statement need not come from a text. Its lists may then be of any length and hold any
names, with repetitions, and a session carries it out all the same.

* `Store.select_answered`: **what a selection answers, whatever its fields are.** Which rows
  come back is a matter of the question alone.
* `Table.refused?_insertValues_eq_some_iff`: the column that an insertion is refused for is the
  first one with a value that no row takes.
* `Store.insert_answered`: **what an insertion answers, whatever its lists are.**
-/

namespace Almanac

open Statement

variable {s : Store} {tbl : Table} {table c : Text} {fields columns : List Text}
  {values : List Value} {v : Value} {row : Record}

/-! ## Selections -/

/-- **The question is true of the row**: the row has a value in the column, with the text that is
asked for. If nothing is asked, it is true of every row. -/
def Passes (question : Option (Text × Text)) (row : Record) : Prop :=
  ∀ column text, question = some (column, text) →
    ∃ v, row.get? column = some v ∧ v ≠ .null ∧ v.asText = some text

/-- **What is shown of a row.** It is shown as it is if all fields are asked for, be it among
others. Otherwise each field is shown once, where it is first asked for, and one that the row
does not have is shown as nothing. -/
inductive ShownAs (fields : List Text) (row : Record) : Record → Prop
  | whole (hall : allFields ∈ fields) : ShownAs fields row row
  | part {entry : Record} (hall : allFields ∉ fields) (hnames : entry.names = fields.eraseDups)
      (hvalues : ∀ f ∈ fields, entry.get? f = some ((row.get? f).getD .null)) :
      ShownAs fields row entry

theorem passes_some_iff {column text : Text} :
    Passes (some (column, text)) row ↔ (row.get column).asText = some text := by
  constructor
  · intro h
    obtain ⟨v, hget, -, htext⟩ := h column text rfl
    rw [Record.get, hget]
    exact htext
  · intro htext column' text' hquestion
    cases hquestion
    cases hget : row.get? column with
    | none => rw [Record.get, hget] at htext; cases htext
    | some v =>
      rw [Record.get, hget] at htext
      -- what has a text is not nothing
      refine ⟨v, rfl, ?_, htext⟩
      rintro rfl
      cases htext

/-- A question is put by its filter. -/
theorem passes_iff_all {question : Option (Text × Text)} :
    Passes question row ↔ (filterOf question).all (·.holds row) = true := by
  cases question with
  | none => simp [Passes, filterOf]
  | some p => simpa [filterOf, Filter.holds] using passes_some_iff

instance (question : Option (Text × Text)) : DecidablePred (Passes question) := fun _ =>
  decidable_of_iff _ passes_iff_all.symm

theorem passing_filterOf (question : Option (Text × Text)) (rows : List Record) :
    passing (filterOf question) rows = rows.filter fun r => Passes question r := by
  refine List.filter_congr fun r _ => ?_
  rw [Bool.eq_iff_iff, decide_eq_true_iff, passes_iff_all]

theorem unfilterable?_filterOf {question : Option (Text × Text)} {rows : List Record}
    (h : ∀ column text, question = some (column, text) → Comparable column rows) :
    unfilterable? (filterOf question) rows = none := by
  cases question with
  | none => rfl
  | some p =>
    exact incomparable?_eq_none_iff.2 (h p.1 p.2 rfl)

/-- Each row is shown, in its place. -/
theorem shownAs_selectFields (fields : List Text) (rows : List Record) :
    List.Forall₂ (ShownAs fields) rows (selectFields fields rows) := by
  unfold selectFields
  split
  · rename_i hall
    exact List.forall₂_same.2 fun r _ => .whole (by simpa using hall)
  · rename_i hall
    refine List.forall₂_map_right_iff.2 (List.forall₂_same.2 fun r _ => ?_)
    refine .part (by simpa using hall) (Record.names_restrict fields) fun f hf => ?_
    rw [Record.get?, Record.restrict, Record.lookup_map, if_pos (List.mem_eraseDups.2 hf)]
    rfl

namespace Store

/-- **What a selection answers.** It is refused exactly if there is no table of the name. It
answers an entry for each row that the question is true of, in the order of the table; the
question may be about any column, and the fields do not matter for which rows these are. To tell
whether it is true of a row, the row's value is shown, and so the selection fails if the column
that is asked about holds a value that cannot be; the first such value tells how. The store stays as
it is. -/
theorem select_answered (s : Store) (mode : Mode) (table : Text)
    (question : Option (Text × Text)) :
    (Value.text table ∉ s.names → ∀ fields columns values,
      s.step mode (.executeParsed
          (ofParts selectWord table fields (filterOf question) columns values)) =
        ⟨.error (.query (.unknownTable (.text table))), s, [.executorReady]⟩) ∧
    (Value.text table ∈ s.names → ∃ tbl, s.table (.text table) = .ok tbl ∧
      ((∀ column text, question = some (column, text) → Comparable column tbl.rows) →
        ∀ fields columns values, ∃ entries,
          s.step mode (.executeParsed
              (ofParts selectWord table fields (filterOf question) columns values)) =
            ⟨.ok (.rows entries), s, [.executorReady]⟩ ∧
          List.Forall₂ (ShownAs fields) (tbl.rows.filter fun r => Passes question r) entries) ∧
      ∀ column text k, question = some (column, text) → incomparable? column tbl.rows = some k →
        ∀ fields columns values,
          s.step mode (.executeParsed
              (ofParts selectWord table fields (filterOf question) columns values)) =
            ⟨.error (.external k), s, [.executorReady]⟩) := by
  refine ⟨fun h fields columns values => ?_, fun h => ?_⟩
  · exact step_executeParsed_error (execute_select_of_not_mem h fields _)
  · obtain ⟨tbl, ht⟩ := table_of_mem_names h
    refine ⟨tbl, ht, fun hcompare fields columns values => ⟨_, ?_, shownAs_selectFields fields _⟩,
      fun column text k hquestion hk fields columns values => ?_⟩
    · rw [← passing_filterOf]
      exact step_executeParsed_ok
        (execute_select_of_filterable ht (unfilterable?_filterOf hcompare) fields)
    · subst hquestion
      have hunfilterable : unfilterable? (filterOf (some (column, text))) tbl.rows = some k := hk
      exact step_executeParsed_error (execute_select_of_unfilterable ht hunfilterable fields)

/-- The note without a text is asked for by its mark, and shown under three fields, of which the
table has one. -/
theorem select_answered_sample :
    (Value.text "notes".toList ∈ (after sampleRun).names ∧
      ∃ entry, (after sampleRun).step .strict (.executeParsed
          (ofParts selectWord "notes".toList ["text".toList, "day".toList, "text".toList]
            (filterOf (some ("mark".toList, "true".toList))) [] [.null])) =
        ⟨.ok (.rows [entry]), after sampleRun, [.executorReady]⟩ ∧
        entry.names = ["text".toList, "day".toList] ∧
        entry.get? "text".toList = some .null ∧ entry.get? "day".toList = some .null) ∧
    Value.text "days".toList ∉ (after sampleRun).names ∧
      (after sampleRun).step .strict (.executeParsed
          (ofParts selectWord "days".toList [allFields] (filterOf none) [] [])) =
        ⟨.error (.query (.unknownTable (.text "days".toList))), after sampleRun,
          [.executorReady]⟩ := by
  have hmem : Value.text "notes".toList ∈ (after sampleRun).names := by decide
  have hnot : Value.text "days".toList ∉ (after sampleRun).names := by decide
  obtain ⟨tbl, ht, hanswer, -⟩ := (select_answered (after sampleRun) .strict "notes".toList
    (some ("mark".toList, "true".toList))).2 hmem
  obtain rfl : sampleTable = tbl := Except.ok.inj (table_sampleRun.symm.trans ht)
  have hcompare : ∀ column text, some ("mark".toList, "true".toList) = some (column, text) →
      Comparable column sampleTable.rows := by
    rintro column text ⟨⟩
    exact incomparable?_eq_none_iff.1 rfl
  obtain ⟨entries, hstep, hshown⟩ :=
    hanswer hcompare ["text".toList, "day".toList, "text".toList] [] [.null]
  have hfilter : (sampleTable.rows.filter fun r =>
      Passes (some ("mark".toList, "true".toList)) r) =
        [[(idColumn, .int 2), ("text".toList, .null), ("mark".toList, .bool true)]] := by
    decide
  rw [hfilter] at hshown
  obtain ⟨entry, rest, hentry, hrest, rfl⟩ := List.forall₂_cons_left_iff.1 hshown
  rw [List.forall₂_nil_left_iff.1 hrest] at hstep
  refine ⟨⟨hmem, entry, hstep, ?_⟩, hnot, (select_answered _ .strict _ none).1 hnot _ _ _⟩
  cases hentry with
  | whole hall => exact absurd hall (by decide)
  | part _ hnames hvalues =>
    exact ⟨hnames.trans (by decide), hvalues _ (by decide), hvalues _ (by decide)⟩

/-- **Not every selection from a table is answered**: a note has a mark with one digit too many to
be shown, and notes are asked for by their mark. -/
theorem select_not_answered :
    ¬ ∀ (s : Store) (table : Text) (fields : List Text) (question : Option (Text × Text)),
      s.Reachable → Value.text table ∈ s.names →
      ∃ entries, (s.step .naive (.executeParsed
        (ofParts selectWord table fields (filterOf question) [] []))).result =
          .ok (.rows entries) := by
  intro h
  have hmem : Value.text "notes".toList ∈ (after (sampleRun ++ [overlongNote])).names := by
    by_contra hnot
    have htable := table_overlongNote
    rw [table_of_not_mem_names hnot] at htable
    cases htable
  obtain ⟨entries, hentries⟩ := h _ _ [idColumn] (some ("mark".toList, "x".toList)) ⟨_, rfl⟩ hmem
  have hfilter : unfilterable? (filterOf (some ("mark".toList, "x".toList))) overlongTable.rows =
      some .unshowable := by
    rw [filterOf, Option.map_some, unfilterable?_some, incomparable?_overlongTable]
  have hselect := execute_select_of_unfilterable table_overlongNote hfilter [idColumn]
  rw [ofParts, if_pos rfl, step_executeParsed_error hselect] at hentries
  cases hentries

end Store

/-! ## Insertions -/

/-- **The column and the value stand at the same place** of their lists. -/
def PairedAt (columns : List Text) (values : List Value) (i : Nat) (c : Text) (v : Value) : Prop :=
  columns[i]? = some c ∧ values[i]? = some v

/-- The value is the one at the last place where the column has a value at all. -/
def PairedLast (columns : List Text) (values : List Value) (c : Text) (v : Value) : Prop :=
  ∃ i, PairedAt columns values i c v ∧ ∀ j, i < j → ∀ w, ¬ PairedAt columns values j c w

namespace Table

/-- No row of the table is given a value for the column: the table numbers its rows itself, or
has no such column. -/
def Refuses (t : Table) (c : Text) : Prop := c = idColumn ∨ c ∉ t.columns

/-- **The column is the first that the table refuses**, of those that have a value. -/
def RefusesFirst (t : Table) (columns : List Text) (values : List Value) (c : Text) : Prop :=
  t.Refuses c ∧ ∃ i v, PairedAt columns values i c v ∧
    ∀ j, j < i → ∀ d w, PairedAt columns values j d w → ¬ t.Refuses d

/-- **What a row holds** that the table makes of columns and values in pairs: its number, under
each other column the last value that it has, and nothing where it has none. -/
structure Paired (t : Table) (columns : List Text) (values : List Value) (row : Record) :
    Prop where
  names : row.names = t.columns.eraseDups
  number : row.get? idColumn = some (.int t.nextId)
  given : ∀ c v, PairedLast columns values c v → c ∈ t.columns → c ≠ idColumn →
    row.get? c = some v
  others : ∀ c ∈ t.columns, c ≠ idColumn → (∀ i v, ¬ PairedAt columns values i c v) →
    row.get? c = some .null

end Table

/-! ### Columns and values in pairs -/

theorem pairedAt_iff {i : Nat} :
    PairedAt columns values i c v ↔ (columns.zip values)[i]? = some (c, v) :=
  (List.getElem?_zip_eq_some (z := (c, v))).symm

theorem getElem?_names_zip {i : Nat} :
    (Record.names (columns.zip values))[i]? = some c ↔ ∃ v, PairedAt columns values i c v := by
  rw [Record.names, List.getElem?_map, Option.map_eq_some_iff]
  constructor
  · rintro ⟨⟨c', v⟩, hget, rfl⟩
    exact ⟨v, pairedAt_iff.2 hget⟩
  · rintro ⟨v, hpaired⟩
    exact ⟨(c, v), pairedAt_iff.1 hpaired, rfl⟩

theorem get?_insertValues_of_last (h : PairedLast columns values c v) :
    (insertValues columns values).get? c = some v := by
  obtain ⟨i, hi, hlast⟩ := h
  obtain ⟨hlt, hget⟩ := List.getElem?_eq_some_iff.1 (pairedAt_iff.1 hi)
  have hsplit : columns.zip values =
      (columns.zip values).take i ++ (c, v) :: (columns.zip values).drop (i + 1) := by
    rw [← hget, ← List.drop_eq_getElem_cons hlt, List.take_append_drop]
  -- what is written behind the pair is written under other names
  have hafter : c ∉ Record.names ((columns.zip values).drop (i + 1)) := by
    intro hmem
    obtain ⟨⟨c', w⟩, hpair, rfl⟩ := List.mem_map.1 hmem
    obtain ⟨j, hj⟩ := List.mem_iff_getElem?.1 hpair
    rw [List.getElem?_drop] at hj
    exact hlast (i + 1 + j) (by omega) w (pairedAt_iff.2 hj)
  rw [insertValues, Record.ofPairs, hsplit]
  exact Record.get?_putAll_of_last hafter

theorem get_insertValues_of_not_paired (h : ∀ i v, ¬ PairedAt columns values i c v) :
    (insertValues columns values).get c = .null := by
  have hnone : c ∉ Record.names (columns.zip values) := by
    intro hmem
    obtain ⟨i, hi⟩ := List.mem_iff_getElem?.1 hmem
    obtain ⟨v, hpaired⟩ := getElem?_names_zip.1 hi
    exact h i v hpaired
  rw [insertValues, Record.ofPairs, Record.get, Record.get?_putAll_of_not_mem hnone]
  rfl

/-- **An insertion is refused for the first column that its table refuses**, wherever that
column is repeated. -/
theorem Table.refused?_insertValues_eq_some_iff :
    tbl.refused? (insertValues columns values).names = some c ↔
      tbl.RefusesFirst columns values c := by
  have hrefuses : ∀ d, (d == idColumn || !tbl.columns.contains d) = true ↔ tbl.Refuses d := by
    simp [Table.Refuses]
  have htakes : ∀ d, (!(d == idColumn || !tbl.columns.contains d)) = true ↔ ¬ tbl.Refuses d := by
    intro d
    rw [Bool.not_eq_true', ← Bool.not_eq_true, hrefuses]
  -- a repeated column stands in the record where it is paired first, and so the search goes
  -- over the pairs themselves
  rw [Table.refused?, insertValues, Record.ofPairs, Record.find?_names_putAll]
  have hnames : Record.names [] ++ Record.names (columns.zip values) =
      Record.names (columns.zip values) := rfl
  rw [hnames, List.find?_eq_some_iff_getElem, hrefuses, RefusesFirst]
  refine and_congr_right fun _ => exists_congr fun i => ?_
  constructor
  · rintro ⟨hi, hget, hbefore⟩
    obtain ⟨v, hpaired⟩ := getElem?_names_zip.1 (List.getElem?_eq_some_iff.2 ⟨hi, hget⟩)
    refine ⟨v, hpaired, fun j hj d w hd hrefused => ?_⟩
    obtain ⟨_, rfl⟩ := List.getElem?_eq_some_iff.1 (getElem?_names_zip.2 ⟨w, hd⟩)
    exact (htakes _).1 (hbefore j hj) hrefused
  · rintro ⟨v, hpaired, hbefore⟩
    obtain ⟨hi, hget⟩ := List.getElem?_eq_some_iff.1 (getElem?_names_zip.2 ⟨v, hpaired⟩)
    refine ⟨hi, hget, fun j hj => ?_⟩
    have hlt : j < (Record.names (columns.zip values)).length := hj.trans hi
    obtain ⟨w, hd⟩ := getElem?_names_zip.1 (List.getElem?_eq_getElem hlt)
    exact (htakes _).2 (hbefore j hj _ w hd)

/-- **A new row holds the last value of each column.** -/
theorem Table.paired_nextRow (h : tbl.Ok) (columns : List Text) (values : List Value) :
    tbl.Paired columns values (tbl.nextRow (insertValues columns values)) where
  names := Table.nextRow_names
  number := by
    obtain ⟨rest, hid, -⟩ := h.columns
    exact Table.nextRow_id hid
  given := by
    intro c v hlast hmem hne
    rw [Table.get?_nextRow, if_pos hmem, if_neg hne, Record.get, get?_insertValues_of_last hlast]
    rfl
  others := by
    intro c hmem hne hnot
    rw [Table.get?_nextRow, if_pos hmem, if_neg hne, get_insertValues_of_not_paired hnot]

namespace Store

theorem execute_insert_of_append {given : Record} {s' : Store}
    (h : s.append (.text table) (insertValues columns values) = .ok (given, s')) :
    s.execute (.insert table columns values) = .ok ([given], s') := by
  simp only [execute, h, bind, Except.bind, pure, Except.pure]

theorem execute_insert_of_error {f : Fault}
    (h : s.append (.text table) (insertValues columns values) = .error f) :
    s.execute (.insert table columns values) = .error f := by
  simp only [execute, h, bind, Except.bind]

/-- **What an insertion answers.** It is refused if there is no table of the name, and otherwise
for the first column that has a value and that the table refuses. If there is none, it answers
one row, which becomes the last row of the table: its number is the table's next one, and under
each other column it holds the last value that the lists pair with it. Nothing else in the store
changes, and nothing at all if it is refused. -/
theorem insert_answered (hs : s.Reachable) (mode : Mode) (table : Text) (fields : List Text)
    (filter : Option Filter) (columns : List Text) (values : List Value) :
    (Value.text table ∉ s.names →
      s.step mode (.executeParsed (ofParts insertWord table fields filter columns values)) =
        ⟨.error (.query (.unknownTable (.text table))), s, [.executorReady]⟩) ∧
    (Value.text table ∈ s.names → ∃ tbl, s.table (.text table) = .ok tbl ∧
      (∀ c, tbl.RefusesFirst columns values c →
        s.step mode (.executeParsed (ofParts insertWord table fields filter columns values)) =
          ⟨.error (.query (.schemaMismatch (.text table) c)), s, [.executorReady]⟩) ∧
      ((∀ c, ¬ tbl.RefusesFirst columns values c) → ∃ row s',
        s.step mode (.executeParsed (ofParts insertWord table fields filter columns values)) =
          ⟨.ok (.rows [row]), s', [.executorReady]⟩ ∧
        tbl.Paired columns values row ∧ s.Grown table tbl row s')) := by
  have hinsert : ofParts insertWord table fields filter columns values =
      .insert table columns values := rfl
  rw [hinsert]
  refine ⟨fun h => ?_, fun h => ?_⟩
  · have happend := append_text_of_not_mem h (insertValues columns values)
    exact step_executeParsed_error (execute_insert_of_error happend)
  · obtain ⟨tbl, ht⟩ := table_of_mem_names h
    refine ⟨tbl, ht, fun c hc => ?_, fun hnone => ?_⟩
    · have happend := append_text_of_refused ht (Table.refused?_insertValues_eq_some_iff.2 hc)
      exact step_executeParsed_error (execute_insert_of_error happend)
    · have hrefused : tbl.refused? (insertValues columns values).names = none := by
        refine Option.eq_none_iff_forall_ne_some.2 fun c hc => ?_
        exact hnone c (Table.refused?_insertValues_eq_some_iff.1 hc)
      have happend := append_text ht hrefused
      exact ⟨_, _, step_executeParsed_ok (execute_insert_of_append happend),
        Table.paired_nextRow (hs.table_ok ht) columns values, grown_modify ht _⟩

/-- Three insertions: into no table, with a number of its own behind a column that the table does
not have, and with a mark given twice beside a column that nothing is given for. -/
theorem insert_answered_sample :
    (after sampleRun).Reachable ∧
      (Value.text "days".toList ∉ (after sampleRun).names ∧
        (after sampleRun).step .naive
            (.executeParsed (ofParts insertWord "days".toList [] none [] [])) =
          ⟨.error (.query (.unknownTable (.text "days".toList))), after sampleRun,
            [.executorReady]⟩) ∧
      (sampleTable.RefusesFirst ["text".toList, "day".toList, idColumn] [.null, .null, .int 3]
          "day".toList ∧
        (after sampleRun).step .naive (.executeParsed (ofParts insertWord "notes".toList [] none
            ["text".toList, "day".toList, idColumn] [.null, .null, .int 3])) =
          ⟨.error (.query (.schemaMismatch (.text "notes".toList) "day".toList)),
            after sampleRun, [.executorReady]⟩) ∧
      (∀ c, ¬ sampleTable.RefusesFirst ["mark".toList, "mark".toList, "day".toList]
          [.int 1, .bool false] c) ∧
      ∃ row s', (after sampleRun).step .naive (.executeParsed (ofParts insertWord "notes".toList []
            none ["mark".toList, "mark".toList, "day".toList] [.int 1, .bool false])) =
          ⟨.ok (.rows [row]), s', [.executorReady]⟩ ∧
        row.get? idColumn = some (.int 3) ∧ row.get? "mark".toList = some (.bool false) ∧
        row.get? "text".toList = some .null ∧
        s'.rows (.text "notes".toList) = .ok (sampleTable.rows ++ [row]) := by
  have hreach : (after sampleRun).Reachable := ⟨sampleRun, rfl⟩
  have hmem : Value.text "notes".toList ∈ (after sampleRun).names := by decide
  have hnot : Value.text "days".toList ∉ (after sampleRun).names := by decide
  have hday : sampleTable.RefusesFirst ["text".toList, "day".toList, idColumn]
      [.null, .null, .int 3] "day".toList :=
    Table.refused?_insertValues_eq_some_iff.1 (by decide)
  have hnone : ∀ c, ¬ sampleTable.RefusesFirst ["mark".toList, "mark".toList, "day".toList]
      [.int 1, .bool false] c := by
    intro c hc
    have hrefused : sampleTable.refused? (insertValues
        ["mark".toList, "mark".toList, "day".toList] [.int 1, .bool false]).names = none := by decide
    rw [Table.refused?_insertValues_eq_some_iff.2 hc] at hrefused
    cases hrefused
  obtain ⟨tbl, ht, hrefuse, -⟩ := (insert_answered hreach .naive "notes".toList [] none
    ["text".toList, "day".toList, idColumn] [.null, .null, .int 3]).2 hmem
  obtain rfl : sampleTable = tbl := Except.ok.inj (table_sampleRun.symm.trans ht)
  obtain ⟨tbl, ht', -, hadd⟩ := (insert_answered hreach .naive "notes".toList [] none
    ["mark".toList, "mark".toList, "day".toList] [.int 1, .bool false]).2 hmem
  obtain rfl : sampleTable = tbl := Except.ok.inj (table_sampleRun.symm.trans ht')
  obtain ⟨row, s', hstep, hrow, hgrown⟩ := hadd hnone
  have hlast : PairedLast ["mark".toList, "mark".toList, "day".toList] [.int 1, .bool false]
      "mark".toList (.bool false) := by
    refine ⟨1, ⟨rfl, rfl⟩, fun j hj w hw => ?_⟩
    have hlt : j < 2 := (List.getElem?_eq_some_iff.1 hw.2).1
    omega
  have htext : ∀ i v, ¬ PairedAt ["mark".toList, "mark".toList, "day".toList]
      [.int 1, .bool false] i "text".toList v := by
    rintro i v ⟨hcolumn, -⟩
    exact absurd (List.mem_of_getElem? hcolumn) (by decide)
  exact ⟨hreach, ⟨hnot, (insert_answered hreach .naive _ [] none [] []).1 hnot⟩,
    ⟨hday, hrefuse _ hday⟩, hnone, row, s', hstep, hrow.number,
    hrow.given _ _ hlast (by decide) (by decide), hrow.others _ (by decide) (by decide) htext,
    rows_of_table hgrown.table⟩

end Store

end Almanac
