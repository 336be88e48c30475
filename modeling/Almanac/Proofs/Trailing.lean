import Almanac.Proofs.Reading

/-!
# Text behind a statement

The reader cuts a text at its first `FROM`, its first `WHERE` and the first `=` after that,
and looks no further. So what is appended to a statement with a filter ends up in the
filter's value, whatever it is: another condition, a comment, a second statement.

The name of the table has to be kept apart from it. It ends at a blank, and `WHERE` needs
none in front of it: in `SELECT * FROM a-WHERE-b=c` the name goes on through the condition,
and grows with what is appended.

* `readWhere_append`: more text behind a filter changes its value only.
* `TableApart.firstWord_append`: a name that a blank ends stays as it is.
* `trailing_text_kept`: **trailing text goes into the filter's value and nowhere else.**
-/

namespace Almanac.Statement

open Text

/-- A blank ends the table's name, which follows the first `FROM`. -/
def TableApart (table text : Text) : Prop :=
  ∃ head gap c rest, cutAtWord? fromWord text = some (head, gap ++ table ++ c :: rest) ∧
    Blanks gap ∧ isBlank c = true

variable {text table column head tail condition left right : Text} {fields : List Text}
  {value : Option Text} {filter : Filter}

/-! ## The condition -/

/-- A cut at a separator stays where it is. -/
theorem cut?_append {sep : Char} (h : cut? sep text = some (left, right)) (u : Text) :
    cut? sep (text ++ u) = some (left, right ++ u) := by
  obtain ⟨rfl, hleft⟩ := cut?_eq_some_iff.1 h
  exact cut?_eq_some_iff.2 ⟨by simp, hleft⟩

/-- **More text behind a filter changes its value only.** -/
theorem readWhere_append {before : Text}
    (hcut : cutAtWord? whereWord text = some (before, condition))
    (hequals : cut? '=' condition = some (left, right)) (hleft : strip left ≠ []) (u : Text) :
    readWhere .naive (text ++ u) = .ok (some ⟨strip left, some (cleanValue (right ++ u))⟩) := by
  have hne : condition ≠ [] := by
    rintro rfl
    cases hequals
  rw [readWhere, cutAtWord?_append hcut hne u]
  simp only [readFilter_of_cut (cut?_append hequals u), hleft, if_false, reduceCtorEq, false_and]
  rfl

/-! ## The words in front of it -/

/-- A name that a blank ends is read as that name whatever follows the blank. -/
theorem TableApart.firstWord_append (h : TableApart table text)
    (hcut : cutAtWord? fromWord text = some (head, tail)) (hname : firstWord tail = table)
    (hne : table ≠ []) (u : Text) : firstWord (tail ++ u) = table := by
  obtain ⟨head', gap, c, rest, hcut', hgap, hc⟩ := h
  rw [hcut] at hcut'
  cases hcut'
  obtain ⟨d, hd⟩ := List.exists_mem_of_ne_nil table hne
  have hword : isBlank d = false := isBlank_of_mem_firstWord (by rw [hname]; exact hd)
  have hmem : ∃ d ∈ gap ++ table, isBlank d = false := ⟨d, by simp [hd], hword⟩
  rw [firstWord_append_cons hc hmem] at hname
  rw [List.append_assoc, List.cons_append, firstWord_append_cons hc hmem, hname]

/-- A statement with a table's name in it has its first word before the blank that ends it. -/
theorem TableApart.leadingWord_append (h : TableApart table text)
    (hname : ∃ d ∈ table, isBlank d = false) (u : Text) :
    leadingWord (text ++ u) = leadingWord text := by
  obtain ⟨head, gap, c, rest, hcut, -, hc⟩ := h
  obtain ⟨word, htext, -⟩ := firstAt_wholeWord_split hcut
  obtain ⟨d, hd, hblank⟩ := hname
  have hsplit : text = (head ++ word ++ gap ++ table) ++ c :: rest := by simp [htext]
  have hmem : ∃ d ∈ head ++ word ++ gap ++ table, isBlank d = false := ⟨d, by simp [hd], hblank⟩
  rw [leadingWord, leadingWord, hsplit, List.append_assoc _ (c :: rest), List.cons_append,
    firstWord_append_cons hc hmem, firstWord_append_cons hc hmem]

/-! ## The statement -/

/-- **Trailing text goes into the filter's value and nowhere else.** A statement with a filter
whose table's name ends at a blank is read with any text behind it as well, as a statement of
the same table, fields and column. Its value is what follows the first `=` behind the `WHERE`
that the statement itself was cut at, without the blanks, and then the quotes, at its ends.

It is enough that a blank ends the name, wherever the `WHERE` stands. -/
theorem trailing_text_kept
    (h : read .naive text = .ok (.select table fields (some ⟨column, value⟩)))
    (hapart : TableApart table text) (u : Text) :
    ∃ before condition left right,
      cutAtWord? whereWord text = some (before, condition) ∧
      cutAtWord? whereWord (text ++ u) = some (before, condition ++ u) ∧
      cut? '=' (condition ++ u) = some (left, right) ∧
      read .naive (text ++ u) =
        .ok (.select table fields (some ⟨column, some (trimBy isQuote (strip right))⟩)) := by
  have hselect : leadingWord text = selectWord := by
    rcases read_eq_ok h with ⟨hselect, -⟩ | ⟨-, _, _, _, hst⟩
    · exact hselect
    · cases hst
  rw [read_of_select hselect, readSelect_strip] at h
  obtain ⟨head, tail, fields', filter, hfrom, hname, hfields, hfilter, hst⟩ := readSelect_eq_ok h
  cases hst
  obtain ⟨before, condition, left, right, hwhere, hequals, hleft, hparts⟩ := readWhere_eq_ok hfilter
  cases hparts
  -- a cut has something behind it, so it stays where it is
  have hcondition : condition ≠ [] := by rintro rfl; cases hequals
  have htail : tail ≠ [] := by rintro rfl; exact hname rfl
  obtain ⟨d, hd⟩ := List.exists_mem_of_ne_nil _ hname
  have hleading : leadingWord (text ++ u) = selectWord := by
    rw [hapart.leadingWord_append ⟨d, hd, isBlank_of_mem_firstWord hd⟩, hselect]
  have hsame : firstWord (tail ++ u) = firstWord tail := hapart.firstWord_append hfrom rfl hname u
  have hread := readSelect_of_parts (cutAtWord?_append hfrom htail u) (by rwa [hsame]) hfields
    (readWhere_append hwhere hequals hleft u)
  refine ⟨before, condition, left, right ++ u, hwhere, cutAtWord?_append hwhere hcondition u,
    cut?_append hequals u, ?_⟩
  rw [read_of_select hleading, readSelect_strip, hread, hsame]
  rfl

/-- A second statement behind the first one becomes a part of its value. -/
theorem trailing_text_kept_sample :
    read .naive "SELECT a FROM t WHERE b = 'c'".toList =
        .ok (.select ['t'] [['a']] (some ⟨['b'], some ['c']⟩)) ∧
      TableApart ['t'] "SELECT a FROM t WHERE b = 'c'".toList ∧
      ∃ before condition left right,
        cutAtWord? whereWord "SELECT a FROM t WHERE b = 'c'".toList = some (before, condition) ∧
        cutAtWord? whereWord ("SELECT a FROM t WHERE b = 'c'".toList ++ "; DROP TABLE t".toList) =
          some (before, condition ++ "; DROP TABLE t".toList) ∧
        cut? '=' (condition ++ "; DROP TABLE t".toList) = some (left, right) ∧
        read .naive ("SELECT a FROM t WHERE b = 'c'".toList ++ "; DROP TABLE t".toList) =
          .ok (.select ['t'] [['a']] (some ⟨['b'], some (trimBy isQuote (strip right))⟩)) := by
  have hread : read .naive "SELECT a FROM t WHERE b = 'c'".toList =
      .ok (.select ['t'] [['a']] (some ⟨['b'], some ['c']⟩)) := rfl
  have hapart : TableApart ['t'] "SELECT a FROM t WHERE b = 'c'".toList :=
    ⟨"SELECT a ".toList, [' '], ' ', "WHERE b = 'c'".toList, rfl, gap_space.2, by decide⟩
  exact ⟨hread, hapart, trailing_text_kept hread hapart "; DROP TABLE t".toList⟩

/-- Without a blank behind it the name of the table goes on through the condition. -/
example : read .naive "SELECT * FROM a-WHERE-b=c".toList =
      .ok (.select "a-WHERE-b=c".toList [['*']] (some ⟨"-b".toList, some ['c']⟩)) ∧
    read .naive ("SELECT * FROM a-WHERE-b=c".toList ++ ['d']) =
      .ok (.select "a-WHERE-b=cd".toList [['*']] (some ⟨"-b".toList, some ['c', 'd']⟩)) :=
  ⟨rfl, rfl⟩

end Almanac.Statement
