import Almanac.Proofs.Insertion
import Almanac.Proofs.Lookup

/-!
# Looking up what was added

The two statements treat quotes differently. An insertion takes one pair of equal quotes
off a literal, and a look-up takes all quotes of either kind off both ends of its value.
They agree on a text exactly if no quote stands at its edges.

* `insertionText_insertText`: the one-column insertion is an insertion.
* `lookup_of_inserted`: what an insertion and the look-up of its own literal come to.
* `insertion_recalled`: **an added text is found again exactly if its edges are not quotes.**
-/

namespace Almanac

open Text Statement

/-- `INSERT INTO table (column) VALUES (literal)`. -/
def insertionText (table column literal : Text) : Text :=
  "INSERT INTO ".toList ++ table ++ " (".toList ++ column ++ ") VALUES (".toList ++ literal ++
    ")".toList

/-- The text begins or ends with a quote. -/
def QuoteAtEdge (x : Text) : Prop :=
  (∃ k, x.head? = some k ∧ isQuote k = true) ∨ ∃ k, x.getLast? = some k ∧ isQuote k = true

variable {s s' : Store} {tbl : Table} {t c x literal : Text} {q : Char} {v : Value} {row : Record}

theorem insertionText_eq (t c literal : Text) :
    insertionText t c literal = insertWord ++ [' '] ++ intoWord ++ [' '] ++ t ++ [' '] ++
      '(' :: (([] ++ c ++ []) ++ ')' :: ([' '] ++ valuesWord ++ [' '] ++
        '(' :: (([] ++ literal ++ []) ++ [')']))) := by
  have h1 : "INSERT INTO ".toList = insertWord ++ [' '] ++ intoWord ++ [' '] := rfl
  have h2 : " (".toList = [' ', '('] := rfl
  have h3 : ") VALUES (".toList = [')', ' '] ++ valuesWord ++ [' ', '('] := rfl
  have h4 : ")".toList = [')'] := rfl
  unfold insertionText
  rw [h1, h2, h3, h4]
  simp only [List.append_assoc, List.nil_append, List.append_nil, List.cons_append]

theorem insertionText_insertText (hspelling : Spelling v literal) :
    InsertText t [c] [v] (insertionText t c literal) := by
  rw [insertionText_eq]
  exact .mk (anyCase_self insertWord) gap_space (anyCase_self intoWord) gap_space gap_space.2
    (.one blanks_nil blanks_nil) gap_space.2 (anyCase_self valuesWord) gap_space.2
    (.cons hspelling .nil) (.one blanks_nil blanks_nil)

/-- The insertion has its parts whatever the literal stands for. -/
theorem insertParts_insertionText (htable : TargetName t) (hc : ListedColumn c)
    (hliteral : strip literal = literal ∧ ',' ∉ literal) :
    leadingWord (insertionText t c literal) = insertWord ∧
      InsertParts (strip (insertionText t c literal)) t [c] [literal] :=
  insertParts_written (anyCase_self insertWord) gap_space (anyCase_self intoWord) gap_space
    gap_space.2 (.one blanks_nil blanks_nil) gap_space.2 (anyCase_self valuesWord) gap_space.2
    (.one blanks_nil blanks_nil) htable (by simpa using hc) (by simp) (by simpa using hliteral) rfl
    (insertionText_eq t c literal)

/-- Trimming quotes off a text changes it exactly if there is one at an edge. -/
theorem trimBy_isQuote_eq_self_iff : trimBy isQuote x = x ↔ ¬ QuoteAtEdge x := by
  rw [trimBy_eq_self_iff, QuoteAtEdge]
  simp only [not_or, not_exists, not_and, Bool.not_eq_true]

/-- A look-up in the store with one more row goes over that row last. -/
theorem matching_grown (value : Text) :
    Table.matching { tbl with rows := tbl.rows ++ [row], nextId := tbl.nextId + 1 } c value =
      tbl.matching c value ++ if (row.get c).asText = some value then [row] else [] := by
  unfold Table.matching
  rw [List.filter_append, List.filter_singleton]
  by_cases h : (row.get c).asText = some value <;> simp [h]

/-- A literal stands for what can be shown. -/
theorem Statement.Spelling.showable (h : Spelling v literal) : v.Showable := by
  cases h with
  | @int negative sign digits hsign hne hdigits hlen =>
    have hlt : digitsValue digits < tenTo maxIntegerDigits :=
      Nat.lt_of_lt_of_le (digitsValue_lt digits) (tenTo_le hlen)
    rw [Value.showable_int_iff, integerValue]
    split
    · rwa [Int.natAbs_neg, Int.natAbs_natCast]
    · rwa [Int.natAbs_natCast]
  | _ => rfl

/-- What is looked up by a literal's own text right after the literal was added: the new row
comes last if its value has that text when the text is cleaned, and else not at all. What was in the
column before has to be shown for that, and the new value can be. -/
theorem lookup_of_inserted (hs : s.Reachable) (ht : s.table (.text t) = .ok tbl) (hname : TargetName t)
    (hwhere : ¬ HasWord whereWord t) (hmem : c ∈ tbl.columns) (hid : c ≠ idColumn)
    (hc : ListedColumn c) (hequals : '=' ∉ c) (hspelling : Spelling v literal) (mode : Mode) :
    ∃ row s',
      s.step mode (.execute (.text (insertionText t c literal))) = ⟨.ok (.rows [row]), s', []⟩ ∧
      s'.rows (.text t) = .ok (tbl.rows ++ [row]) ∧
      (Comparable c tbl.rows → ∃ rows,
        s'.step .naive (.execute (.text (lookupText t c literal))) = ⟨.ok (.rows rows), s', []⟩ ∧
        (v.asText = some (cleanValue literal) → rows.getLast? = some row) ∧
        (v.asText ≠ some (cleanValue literal) → row ∉ rows)) ∧
      ∀ k, incomparable? c tbl.rows = some k →
        s'.step .naive (.execute (.text (lookupText t c literal))) = ⟨.error (.external k), s', []⟩ := by
  have hcolumns : ∀ c' ∈ [c], (c' ∈ tbl.columns ∧ c' ≠ idColumn) ∧ ListedColumn c' := by
    intro c' hc'
    rw [List.mem_singleton.1 hc']
    exact ⟨⟨hmem, hid⟩, hc⟩
  have hinsert := query_insertText ht hname hcolumns (by simp) rfl
    (insertionText_insertText hspelling) mode
  set row := tbl.nextRow ([c].zip [v])
  set s' := s.modify (.text t) (·.push ([c].zip [v]))
  have hgrown : s.Grown t tbl row s' := Store.grown_modify ht _
  have hfilled : tbl.Filled [c] [v] row :=
    Table.filled_nextRow (hs.table_ok ht) (fun c' hc' => (hcolumns c' hc').1) (by simp) rfl
  have hvalue : row.get c = v := by
    rw [Record.get, hfilled.given (c, v) (by simp)]; rfl
  have hlookup := query_lookupText hgrown.table ⟨hname.ne_nil, hname.no_blank, hwhere⟩
    ⟨hc.ne_nil, hc.trimmed, hequals⟩ .naive literal
  -- so only what was in the column before can keep the rows from being compared
  have hnew : v.unshowable? = none := hspelling.showable
  rw [if_neg (by simp), matching_grown, hvalue, incomparable?_concat, hvalue, hnew, Option.or_none]
    at hlookup
  refine ⟨row, s', Store.step_execute_ok hinsert, Store.rows_of_table hgrown.table,
    fun hcomparable => ?_, fun k hk => ?_⟩
  · rw [incomparable?_eq_none_iff.2 hcomparable] at hlookup
    refine ⟨_, Store.step_execute_ok hlookup, fun heq => ?_, fun hne hfound => ?_⟩
    · rw [if_pos heq, List.getLast?_concat]
    · -- what is found has the text, and the new row does not
      rw [if_neg hne, List.append_nil] at hfound
      have htext := (List.mem_filter.1 hfound).2
      rw [decide_eq_true_eq, hvalue] at htext
      exact hne htext
  · rw [hk] at hlookup
    exact Store.step_execute_error hlookup

/-- **An added text is found again exactly if its edges are not quotes.** The insertion
answers the new row. A look-up of the same quoted text then answers rows of which the new
one is the last if the text neither begins nor ends with a quote, and does not answer the new
row if it does. It fails if the column held a value before that cannot be shown. -/
theorem insertion_recalled (hs : s.Reachable) (ht : s.table (.text t) = .ok tbl) (hname : TargetName t)
    (hwhere : ¬ HasWord whereWord t) (hmem : c ∈ tbl.columns) (hid : c ≠ idColumn)
    (hc : ListedColumn c) (hequals : '=' ∉ c) (hq : isQuote q = true) (hx : ',' ∉ x) (mode : Mode) :
    ∃ row s',
      s.step mode (.execute (.text (insertionText t c (enclosed q x)))) =
        ⟨.ok (.rows [row]), s', []⟩ ∧
      s'.rows (.text t) = .ok (tbl.rows ++ [row]) ∧
      (Comparable c tbl.rows → ∃ rows,
        s'.step .naive (.execute (.text (lookupText t c (enclosed q x)))) =
          ⟨.ok (.rows rows), s', []⟩ ∧
        (¬ QuoteAtEdge x → rows.getLast? = some row) ∧ (QuoteAtEdge x → row ∉ rows)) ∧
      ∀ k, incomparable? c tbl.rows = some k →
        s'.step .naive (.execute (.text (lookupText t c (enclosed q x)))) =
          ⟨.error (.external k), s', []⟩ := by
  have hspelling : Spelling (.text x) (enclosed q x) := .text hq hx
  obtain ⟨row, s', hinsert, hrows, hanswered, hfails⟩ :=
    lookup_of_inserted hs ht hname hwhere hmem hid hc hequals hspelling mode
  refine ⟨row, s', hinsert, hrows, fun hcomparable => ?_, hfails⟩
  obtain ⟨rows, hlookup, hfound, hmissed⟩ := hanswered hcomparable
  rw [cleanValue_enclosed hq, Value.asText_text] at hfound hmissed
  refine ⟨rows, hlookup, fun hedge => hfound ?_, fun hedge => hmissed fun heq => ?_⟩
  · rw [trimBy_isQuote_eq_self_iff.2 hedge]
  · exact trimBy_isQuote_eq_self_iff.1 (Option.some.inj heq).symm hedge

/-- A text with a quote inside is found again, and one with a quote at its end is not. -/
theorem insertion_recalled_sample :
    (Store.after Store.sampleRun).Reachable ∧
      (Store.after Store.sampleRun).table (.text "notes".toList) = .ok Store.sampleTable ∧
      (∃ row s' rows,
        (Store.after Store.sampleRun).step .naive (.execute (.text
          (insertionText "notes".toList "text".toList (enclosed '"' "it's".toList)))) =
            ⟨.ok (.rows [row]), s', []⟩ ∧
        s'.step .naive (.execute (.text
          (lookupText "notes".toList "text".toList (enclosed '"' "it's".toList)))) =
            ⟨.ok (.rows rows), s', []⟩ ∧ rows.getLast? = some row) ∧
      ∃ row s' rows,
        (Store.after Store.sampleRun).step .strict (.execute (.text
          (insertionText "notes".toList "text".toList (enclosed '"' "its'".toList)))) =
            ⟨.ok (.rows [row]), s', []⟩ ∧
        s'.step .naive (.execute (.text
          (lookupText "notes".toList "text".toList (enclosed '"' "its'".toList)))) =
            ⟨.ok (.rows rows), s', []⟩ ∧ row ∉ rows := by
  have hreach : (Store.after Store.sampleRun).Reachable := ⟨Store.sampleRun, rfl⟩
  have hwhere : ¬ HasWord whereWord "notes".toList := cutAtWord?_eq_none_iff.1 (by decide)
  have hinside : ¬ QuoteAtEdge "it's".toList := trimBy_isQuote_eq_self_iff.1 (by decide)
  have hend : QuoteAtEdge "its'".toList := .inr ⟨'\'', by decide, by decide⟩
  have htexts : Comparable "text".toList Store.sampleTable.rows := incomparable?_eq_none_iff.1 rfl
  obtain ⟨r, a, hadd, -, hanswered, -⟩ := insertion_recalled hreach Store.table_sampleRun
    targetName_notes hwhere (by decide) (by decide) listedColumn_text (by decide) (q := '"')
    (x := "it's".toList) (by decide) (by decide) .naive
  obtain ⟨rs, hfind, hlast, -⟩ := hanswered htexts
  obtain ⟨r', a', hadd', -, hanswered', -⟩ := insertion_recalled hreach Store.table_sampleRun
    targetName_notes hwhere (by decide) (by decide) listedColumn_text (by decide) (q := '"')
    (x := "its'".toList) (by decide) (by decide) .strict
  obtain ⟨rs', hfind', -, hnone⟩ := hanswered' htexts
  exact ⟨hreach, Store.table_sampleRun, ⟨r, a, rs, hadd, hfind, hlast hinside⟩,
    r', a', rs', hadd', hfind', hnone hend⟩

/-- **An added text is not always found again**: a mark that was there before has one digit too many
to be shown. -/
theorem insertion_not_recalled :
    ¬ ∀ (s : Store) (tbl : Table) (t c x : Text) (q : Char), s.Reachable →
      s.table (.text t) = .ok tbl → TargetName t → ¬ HasWord whereWord t → c ∈ tbl.columns →
      c ≠ idColumn → ListedColumn c → '=' ∉ c → isQuote q = true → ',' ∉ x → ¬ QuoteAtEdge x →
      ∃ row s' rows,
        s.step .naive (.execute (.text (insertionText t c (enclosed q x)))) =
          ⟨.ok (.rows [row]), s', []⟩ ∧
        s'.step .naive (.execute (.text (lookupText t c (enclosed q x)))) =
          ⟨.ok (.rows rows), s', []⟩ ∧ rows.getLast? = some row := by
  intro h
  have hwhere : ¬ HasWord whereWord "notes".toList := cutAtWord?_eq_none_iff.1 (by decide)
  have hedge : ¬ QuoteAtEdge "x".toList := trimBy_isQuote_eq_self_iff.1 (by decide)
  have hspelling : Spelling (.text "x".toList) (enclosed '"' "x".toList) :=
    .text (by decide) (by decide)
  obtain ⟨row, s', rows, hinsert, hlookup, -⟩ := h _ _ _ _ "x".toList '"' ⟨_, rfl⟩
    Store.table_overlongNote targetName_notes hwhere (by decide) (by decide) listedColumn_mark
    (by decide) (by decide) (by decide) hedge
  obtain ⟨row', s'', hinsert', -, -, hfails⟩ := lookup_of_inserted ⟨_, rfl⟩ Store.table_overlongNote
    targetName_notes hwhere (by decide) (by decide) listedColumn_mark (by decide) hspelling .naive
  obtain rfl : s' = s'' := congrArg Outcome.state (hinsert.symm.trans hinsert')
  rw [hfails _ Store.incomparable?_overlongTable] at hlookup
  cases hlookup

end Almanac
