import Almanac.Proofs.Reading
import Almanac.Proofs.Recall

/-!
# What a statement that is read is made of

Whoever carries out a statement asks nothing of it: values without a column are dropped, a column
that is named twice keeps its last value, and a filter without a value looks for what has no text.
None of this can come about by reading. The names of a statement that is read are not empty and have
nothing around them, a filter has both of its parts, and there is one value for each column.

* `WellFormed`: what holds of a statement of either kind.
* `listItem_of_mem_items`: an item of a list, if none of them is empty, is a name.
* `wellFormed_of_read`: **whatever is read is well formed**, in either mode.
-/

namespace Almanac.Statement

open Text

/-- A name from a list: not empty, without blanks around it, and without a comma. -/
structure ListItem (name : Text) : Prop where
  ne_nil : name ≠ []
  trimmed : strip name = name
  no_comma : ',' ∉ name

/-- The filter that asks for a text in a column. -/
def filterOf (question : Option (Text × Text)) : Option Filter :=
  question.map fun p => ⟨p.1, some p.2⟩

/-- **What can be relied on in a statement.** One that asks for rows has a table, fields and perhaps
a filter, with a column and a value; one that adds a row has a table, and columns with a value each,
which are paired as they stand. Neither has a part of the other, and there is no third kind. -/
inductive WellFormed : Statement → Prop
  | select {table : Text} {fields : List Text} {question : Option (Text × Text)}
      (htable : table ≠ []) (hblank : ∀ c ∈ table, isBlank c = false) (hne : fields ≠ [])
      (hfields : ∀ f ∈ fields, ListItem f)
      (hfilter : ∀ p, question = some p → FilterColumn p.1 ∧ ¬ QuoteAtEdge p.2) :
      WellFormed (.select table fields (filterOf question))
  | insert {table : Text} {columns : List Text} {values : List Value} (htable : TargetName table)
      (hne : columns ≠ []) (hcolumns : ∀ c ∈ columns, ListItem c ∧ ')' ∉ c)
      (hdistinct : columns.Nodup) (hlen : values.length = columns.length)
      (hnames : (insertValues columns values).names = columns)
      (hvalues : ∀ (i : Nat) (c : Text) (v : Value), columns[i]? = some c → values[i]? = some v →
        (insertValues columns values).get? c = some v) :
      WellFormed (.insert table columns values)

variable {mode : Mode} {text table list : Text} {st : Statement} {columns : List Text}
  {values : List Value}

/-! ## Names -/

theorem listItem_of_mem_items (hblank : [] ∉ items list) :
    ∀ name ∈ items list, ListItem name := fun _ hname =>
  ⟨fun hnil => hblank (hnil ▸ hname), strip_of_mem_items hname, (not_mem_of_mem_items hname).1⟩

/-- A table's name behind `INTO` is one wherever it is found. -/
theorem targetName_of_firstAt {before rest : Text}
    (h : firstAt target none text = some (before, table, rest)) : TargetName table := by
  obtain ⟨_, -, hhere, -⟩ := firstAt_eq_some h
  obtain ⟨-, _, _, -, -, -, hne, hchars, -⟩ := target_eq_some_iff.1 hhere
  refine ⟨hne, fun c hc => isBlank_of_isTargetChar (hchars c hc), fun hopen => ?_⟩
  have hchar := hchars _ hopen
  revert hchar; decide

/-! ## Either kind -/

/-- A filter that is read has a column and a value without quotes at its edges. -/
theorem filter_of_readWhere {filter : Option Filter} (h : readWhere mode text = .ok filter) :
    ∃ question, filter = filterOf question ∧
      ∀ p, question = some p → FilterColumn p.1 ∧ ¬ QuoteAtEdge p.2 := by
  cases filter with
  | none => exact ⟨none, rfl, nofun⟩
  | some f =>
    obtain ⟨-, _, left, right, -, hequals, hleft, rfl⟩ := readWhere_eq_ok h
    obtain ⟨-, hno⟩ := cut?_eq_some_iff.1 hequals
    refine ⟨some (strip left, cleanValue right), rfl, fun p hp => ?_⟩
    cases hp
    exact ⟨⟨hleft, strip_strip left, fun hmem => hno (mem_of_mem_trimBy hmem)⟩,
      trimBy_isQuote_eq_self_iff.1 (trimBy_trimBy isQuote _)⟩

theorem readSelect_wellFormed (h : readSelect mode text = .ok st) : st.WellFormed := by
  obtain ⟨head, tail, fields, filter, -, htable, hfields, hwhere, rfl⟩ := readSelect_eq_ok h
  obtain ⟨list, rfl, hblank⟩ := readFields_eq_ok hfields
  obtain ⟨question, rfl, hfilter⟩ := filter_of_readWhere hwhere
  exact .select htable (fun c hc => isBlank_of_mem_firstWord hc) (items_ne_nil list)
    (listItem_of_mem_items hblank) hfilter

/-- Columns and values of equal number are paired place by place if no column is repeated. -/
theorem get?_insertValues (hlen : columns.length = values.length) (hdistinct : columns.Nodup)
    {i : Nat} {c : Text} {v : Value} (hc : columns[i]? = some c) (hv : values[i]? = some v) :
    (insertValues columns values).get? c = some v := by
  obtain ⟨hpaired, hnames⟩ := insertValues_of_nodup hlen hdistinct
  rw [hpaired]
  refine Record.get?_of_mem (by rw [hnames]; exact hdistinct) ?_
  exact List.mem_of_getElem? (List.getElem?_zip_eq_some.2 ⟨hc, hv⟩)

theorem readInsert_wellFormed (h : readInsert text = .ok st) : st.WellFormed := by
  obtain ⟨table, columns, literals, values, hparts, hread, rfl⟩ := readInsert_eq_ok h
  have hvalues : values.length = literals.length := length_readValues hread
  obtain ⟨htarget, -, hcolumnList, -, rfl, rfl, hblank, hdistinct, hcount⟩ := hparts
  obtain ⟨-, -, -, -, hclose⟩ := columnList?_eq_some_iff.1 hcolumnList
  have hlen := hcount.trans hvalues.symm
  obtain ⟨hpaired, hnames⟩ := insertValues_of_nodup hlen hdistinct
  refine .insert (targetName_of_firstAt htarget) (items_ne_nil _) (fun c hc => ⟨?_, ?_⟩) hdistinct
    hlen.symm (by rw [hpaired, hnames]) fun i c v => get?_insertValues hlen hdistinct
  · exact listItem_of_mem_items hblank c hc
  · exact fun hmem => hclose ((not_mem_of_mem_items hc).2 _ hmem)

/-- **Whatever is read is well formed**, in either mode, however the text is written. -/
theorem wellFormed_of_read (h : read mode text = .ok st) : st.WellFormed := by
  rcases read_eq_ok h with ⟨hselect, -⟩ | ⟨hinsert, -⟩
  · rw [read_of_select hselect] at h
    exact readSelect_wellFormed h
  · rw [read_of_insert hinsert] at h
    exact readInsert_wellFormed h

/-- Quotes inside a value stay, and a literal between quotes keeps the parenthesis in it. -/
theorem wellFormed_of_read_sample :
    read .naive "Select mark,* from notes where text = 'it's".toList =
        .ok (.select "notes".toList ["mark".toList, allFields]
          (some ⟨"text".toList, some "it's".toList⟩)) ∧
      WellFormed (.select "notes".toList ["mark".toList, allFields]
        (some ⟨"text".toList, some "it's".toList⟩)) ∧
      read .strict "insert into notes( text,mark )values('a)', 4)".toList =
        .ok (.insert "notes".toList ["text".toList, "mark".toList] [.text "a)".toList, .int 4]) ∧
      WellFormed (.insert "notes".toList ["text".toList, "mark".toList]
        [.text "a)".toList, .int 4]) := by
  have hselect : read .naive "Select mark,* from notes where text = 'it's".toList =
      .ok (.select "notes".toList ["mark".toList, allFields]
        (some ⟨"text".toList, some "it's".toList⟩)) := by
    decide
  have hinsert : read .strict "insert into notes( text,mark )values('a)', 4)".toList =
      .ok (.insert "notes".toList ["text".toList, "mark".toList] [.text "a)".toList, .int 4]) := by
    decide
  exact ⟨hselect, wellFormed_of_read hselect, hinsert, wellFormed_of_read hinsert⟩

end Almanac.Statement
