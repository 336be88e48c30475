import Almanac.Proofs.ReadSelect
import Almanac.Proofs.Numbering

/-!
# Looking rows up by a text

`SELECT * FROM table WHERE column = value`: the value is compared and never read as
part of the statement.

* `query_lookupText`: the rows whose text in the column is the cleaned value.
* `lookup_opaque`: **whatever stands between the quotes, it is only compared.** In strict
  mode it may be refused, for what it holds after the quotes at its ends are gone.
* `lookup_not_answered`: what it is compared with may not be there to compare.
-/

namespace Almanac

open Text Statement

/-- `SELECT * FROM table WHERE column = value`. -/
def lookupText (table column value : Text) : Text :=
  "SELECT * FROM ".toList ++ table ++ " WHERE ".toList ++ column ++ " = ".toList ++ value

/-- A text between two quotes `q`. -/
def enclosed (q : Char) (x : Text) : Text := q :: (x ++ [q])

/-- The rows whose value in the column has the text. -/
def Table.matching (t : Table) (column value : Text) : List Record :=
  t.rows.filter fun r => (r.get column).asText = some value

variable {s : Store} {tbl : Table} {t c x : Text} {q : Char} {mode : Mode}

theorem fieldName_all : FieldName allFields :=
  ⟨by decide, by decide, by decide, cutAtWord?_eq_none_iff.1 (by decide),
    cutAtWord?_eq_none_iff.1 (by decide)⟩

theorem lookupText_filterText (t c value : Text) :
    FilterText [allFields] t c (' ' :: value) (lookupText t c value) := by
  have hlist : ListText [allFields] ([] ++ allFields ++ []) := .one blanks_nil blanks_nil
  have h : FilterText [allFields] t c (' ' :: value) _ := .mk (anyCase_self selectWord) gap_space hlist
    gap_space (anyCase_self fromWord) gap_space gap_space (anyCase_self whereWord) gap_space gap_space.2
  have h1 : "SELECT * FROM ".toList = selectWord ++ [' '] ++ allFields ++ [' '] ++ fromWord ++ [' '] :=
    rfl
  have h2 : " WHERE ".toList = [' '] ++ whereWord ++ [' '] := rfl
  have h3 : " = ".toList = [' ', '=', ' '] := rfl
  have heq : lookupText t c value = selectWord ++ [' '] ++ ([] ++ allFields ++ []) ++ [' '] ++
      fromWord ++ [' '] ++ t ++ [' '] ++ whereWord ++ [' '] ++ c ++ [' '] ++ '=' :: (' ' :: value) := by
    unfold lookupText
    rw [h1, h2, h3]
    simp only [List.append_assoc, List.nil_append, List.append_nil, List.cons_append]
  rw [heq]; exact h

theorem cleanValue_space (value : Text) : cleanValue (' ' :: value) = cleanValue value := by
  simpa using cleanValue_pad gap_space.2 blanks_nil value

/-- The quotes around a text go with those at its ends. -/
theorem cleanValue_enclosed (hq : isQuote q = true) :
    cleanValue (enclosed q x) = trimBy isQuote x := by
  have hpad : trimBy isQuote ([q] ++ x ++ [q]) = trimBy isQuote x := by
    apply trimBy_pad <;> simpa using hq
  rw [cleanValue, enclosed, strip_quoted hq]
  simpa using hpad

theorem passing_all (t : Table) (column value : Text) :
    selectFields [allFields] (passing (some ⟨column, some value⟩) t.rows) = t.matching column value := by
  have hfilter : passing (some ⟨column, some value⟩) t.rows = t.matching column value := by
    refine List.filter_congr fun r _ => ?_
    simp [Filter.holds, Bool.beq_eq_decide_eq]
  rw [selectFields, if_pos (by decide), hfilter]

/-- What a look-up answers: the rows whose text in the column is the cleaned value. It fails if a
value in the column cannot be shown. -/
theorem query_lookupText (ht : s.table (.text t) = .ok tbl) (hname : SourceName t)
    (hc : FilterColumn c) (mode : Mode) (value : Text) :
    s.query mode (.text (lookupText t c value)) =
      if mode = .strict ∧ isIllegalValue (cleanValue value) then
        .error (.malformed .illegalFilterValue)
      else match incomparable? c tbl.rows with
        | none => .ok (tbl.matching c (cleanValue value), s)
        | some k => .error (.external k) := by
  have hread := read_filterText (lookupText_filterText t c value)
    (fun f hf => by rw [List.mem_singleton.1 hf]; exact fieldName_all) hname hc mode
  rw [cleanValue_space] at hread
  rw [Store.query, readValue, hread]
  split
  · rfl
  · -- what was read is carried out, over the values in the column
    have hfilter := unfilterable?_some ⟨c, some (cleanValue value)⟩ tbl.rows
    cases hk : incomparable? c tbl.rows with
    | none =>
      have hselect := Store.execute_select_of_filterable ht (hfilter.trans hk) [allFields]
      rw [passing_all] at hselect
      exact hselect
    | some k => exact Store.execute_select_of_unfilterable ht (hfilter.trans hk) [allFields]

/-- **A look-up only compares what stands between the quotes**, whatever it is: keywords,
quotes, terminators, line breaks. In naive mode it answers the rows of the table, in order, whose
value in the column has as its text what is left when the quotes at both ends are gone. What it
compares with has to be shown, and so it fails if the column holds a value that cannot be; the first
such value tells how. In strict mode it does the same, unless a terminator or a quote is left, which
it refuses. The store stays as it is. -/
theorem lookup_opaque (ht : s.table (.text t) = .ok tbl) (hname : SourceName t)
    (hc : FilterColumn c) (x : Text) :
    (Comparable c tbl.rows →
      s.step .naive (.execute (.text (lookupText t c (enclosed '\'' x)))) =
        ⟨.ok (.rows (tbl.matching c (trimBy isQuote x))), s, []⟩) ∧
      (∀ k, incomparable? c tbl.rows = some k →
        s.step .naive (.execute (.text (lookupText t c (enclosed '\'' x)))) =
          ⟨.error (.external k), s, []⟩) ∧
      ((∃ k ∈ trimBy isQuote x, k = ';' ∨ k = '\'' ∨ k = '"') →
        s.step .strict (.execute (.text (lookupText t c (enclosed '\'' x)))) =
          ⟨.error (.malformed .illegalFilterValue), s, []⟩) ∧
      ((¬ ∃ k ∈ trimBy isQuote x, k = ';' ∨ k = '\'' ∨ k = '"') →
        s.step .strict (.execute (.text (lookupText t c (enclosed '\'' x)))) =
          s.step .naive (.execute (.text (lookupText t c (enclosed '\'' x))))) := by
  have hquery := fun mode => query_lookupText ht hname hc mode (enclosed '\'' x)
  simp only [cleanValue_enclosed (x := x) (q := '\'') (by decide)] at hquery
  have hillegal : isIllegalValue (trimBy isQuote x) = true ↔
      ∃ k ∈ trimBy isQuote x, k = ';' ∨ k = '\'' ∨ k = '"' := by
    simp [isIllegalValue, isQuote]
  have hnaive := hquery .naive
  have hstrict := hquery .strict
  rw [if_neg (by simp)] at hnaive
  refine ⟨fun h => ?_, fun k hk => ?_, fun h => ?_, fun h => ?_⟩
  · rw [incomparable?_eq_none_iff.2 h] at hnaive
    exact Store.step_execute_ok hnaive
  · rw [hk] at hnaive
    exact Store.step_execute_error hnaive
  · rw [if_pos ⟨rfl, hillegal.2 h⟩] at hstrict
    exact Store.step_execute_error hstrict
  · rw [if_neg fun hn => h (hillegal.1 hn.2), ← hnaive] at hstrict
    rw [Store.step, Store.step, hstrict]

theorem sourceName_notes : SourceName "notes".toList :=
  ⟨by decide, List.all_iff_forall_prop.1 (by decide), cutAtWord?_eq_none_iff.1 (by decide)⟩

/-- The text that ends one statement and starts another one finds the note that holds it. -/
theorem lookup_opaque_sample :
    (Store.after Store.sampleRun).table (.text "notes".toList) = .ok Store.sampleTable ∧
      SourceName "notes".toList ∧ FilterColumn "text".toList ∧
      (Store.after Store.sampleRun).step .naive
          (.execute (.text (lookupText "notes".toList "text".toList (enclosed '\'' "a'; DROP".toList)))) =
        ⟨.ok (.rows [[(idColumn, .int 1), ("text".toList, .text "a'; DROP".toList),
          ("mark".toList, .null)]]), Store.after Store.sampleRun, []⟩ ∧
      (Store.after Store.sampleRun).step .strict
          (.execute (.text (lookupText "notes".toList "text".toList (enclosed '\'' "a'; DROP".toList)))) =
        ⟨.error (.malformed .illegalFilterValue), Store.after Store.sampleRun, []⟩ := by
  have hcolumn : FilterColumn "text".toList := ⟨by decide, by decide, by decide⟩
  obtain ⟨hanswered, -, hstrict, -⟩ :=
    lookup_opaque Store.table_sampleRun sourceName_notes hcolumn "a'; DROP".toList
  have hnaive := hanswered (incomparable?_eq_none_iff.1 rfl)
  have hrows : Store.sampleTable.matching "text".toList (trimBy isQuote "a'; DROP".toList) =
      [[(idColumn, .int 1), ("text".toList, .text "a'; DROP".toList), ("mark".toList, .null)]] := by
    decide
  rw [hrows] at hnaive
  have hrefused : ∃ k ∈ trimBy isQuote "a'; DROP".toList, k = ';' ∨ k = '\'' ∨ k = '"' :=
    ⟨';', by decide, .inl rfl⟩
  exact ⟨Store.table_sampleRun, sourceName_notes, hcolumn, hnaive, hstrict hrefused⟩

theorem filterColumn_mark : FilterColumn "mark".toList := ⟨by decide, by decide, by decide⟩

/-- **Not every look-up is answered**, whatever it asks for: a note has a mark with one digit too
many to be shown. -/
theorem lookup_not_answered :
    ¬ ∀ (s : Store) (tbl : Table) (t c x : Text), s.Reachable → s.table (.text t) = .ok tbl →
      SourceName t → FilterColumn c →
      ∃ rows, (s.step .naive (.execute (.text (lookupText t c (enclosed '\'' x))))).result =
        .ok (.rows rows) := by
  intro h
  obtain ⟨rows, hrows⟩ := h _ _ _ _ "x".toList ⟨_, rfl⟩ Store.table_overlongNote sourceName_notes
    filterColumn_mark
  have hquery := query_lookupText Store.table_overlongNote sourceName_notes filterColumn_mark .naive
    (enclosed '\'' "x".toList)
  rw [if_neg (by simp), Store.incomparable?_overlongTable] at hquery
  rw [Store.step_execute_error hquery] at hrows
  cases hrows

end Almanac
