import Almanac.Proofs.Faults

/-!
# The grammar of statements that add a row

Which texts are read as such, and what is wrong with each of the others. The parts of a text
are said here without a reader, each by the first place where it stands.

* `Targeted`, `Parted`, `Listed`: the table, the two sides of `VALUES`, the pieces of both lists.
* `InsertFlaw`: the eight things that can be wrong.
* `insert_grammar`: **a text is read exactly if it has no flaw, and otherwise has the fault of
  its first one.**
* `insertion_counts_pieces`: there are as many pieces of values as columns, but a piece of values
  can be blank (`missing_value_accepted`).
-/

namespace Almanac.Statement

open Text

/-! ## Parts of a text -/

/-- `INTO` stands at the start of a word behind `before`. Behind it come blanks and then a table's
name, which is the longest run of characters that are neither blank nor an opening parenthesis. -/
def TargetBetween (text before : Text) (found : Text × Text) : Prop :=
  ∃ into gap, text = before ++ into ++ gap ++ found.1 ++ found.2 ∧
    List.Forall₂ (fun k c => spells k c = true) intoWord into ∧ endsWord before.getLast? = true ∧
    Gap gap ∧ found.1 ≠ [] ∧ (∀ c ∈ found.1, isTargetChar c = true) ∧
    ∀ c, found.2.head? = some c → isTargetChar c = false

/-- The table behind the first such `INTO`, and what follows its name. -/
def Targeted (text table rest : Text) : Prop :=
  ∃ before, FirstPlace (TargetBetween text) before (table, rest)

/-- What stands on both sides of the first `VALUES` behind the table. -/
def Parted (text table columnPart valuePart : Text) : Prop :=
  ∃ rest, Targeted text table rest ∧ FirstPlace (WordBetween valuesWord rest) columnPart valuePart

/-- The pieces between the commas of the two lists. -/
def Listed (text table : Text) (names literals : List Text) : Prop :=
  ∃ columnPart valuePart columnList valueList, Parted text table columnPart valuePart ∧
    EnclosedFirst columnPart columnList ∧ EnclosedLast valuePart valueList ∧
    names = pieces ',' columnList ∧ literals = pieces ',' valueList

/-- **What can be wrong with an insertion**, numbered in the order in which it counts. -/
inductive InsertFlaw (text : Text) : Nat → Fault → Prop
  | noTarget (hinto : ∀ before found, ¬ TargetBetween text before found) :
      InsertFlaw text 1 (.malformed .noTarget)
  | noValues {table rest : Text} (htable : Targeted text table rest)
      (hvalues : ¬ HasWord valuesWord rest) : InsertFlaw text 2 (.malformed .noValues)
  | noColumnList {table columnPart valuePart : Text}
      (hparts : Parted text table columnPart valuePart) (hlist : Unclosed columnPart) :
      InsertFlaw text 3 (.malformed .noColumnList)
  | noValueList {table columnPart valuePart : Text}
      (hparts : Parted text table columnPart valuePart) (hlist : Unclosed valuePart) :
      InsertFlaw text 4 (.malformed .noValueList)
  | blankColumn {table piece : Text} {names literals : List Text}
      (hlists : Listed text table names literals) (hpiece : piece ∈ names) (hblank : Blanks piece) :
      InsertFlaw text 5 (.malformed .blankColumn)
  | repeatedColumn {table : Text} {names literals : List Text}
      (hlists : Listed text table names literals) (hnames : ¬ (names.map strip).Nodup) :
      InsertFlaw text 6 (.malformed .repeatedColumn)
  | countMismatch {table : Text} {names literals : List Text}
      (hlists : Listed text table names literals) (hlen : names.length ≠ literals.length) :
      InsertFlaw text 7 (.malformed (.countMismatch names.length literals.length))
  | overlongInteger {table piece : Text} {names literals : List Text}
      (hlists : Listed text table names literals) (hpiece : piece ∈ literals)
      (hlong : OverlongInteger (strip piece)) : InsertFlaw text 8 (.external .unreadableNumeral)

variable {mode : Mode} {text table table' rest rest' columnPart valuePart columnPart' valuePart' : Text}
  {names literals names' literals' columns : List Text}

/-! ## Each part is one text only -/

theorem targetBetween_iff {before : Text} {found : Text × Text} :
    TargetBetween text before found ↔
      ∃ t, text = before ++ t ∧ target (lastOr none before) t = some found := by
  obtain ⟨table, rest⟩ := found
  simp only [target_eq_some_iff, endsWord_lastOr]
  constructor
  · rintro ⟨into, gap, rfl, hs, hbefore, h⟩
    exact ⟨_, by simp only [List.append_assoc], hbefore, into, gap, rfl, hs, h⟩
  · rintro ⟨_, rfl, hbefore, into, gap, rfl, hs, h⟩
    exact ⟨into, gap, by simp only [List.append_assoc], hs, hbefore, h⟩

theorem targeted_iff :
    Targeted text table rest ↔ ∃ before, firstAt target none text = some (before, table, rest) :=
  exists_congr fun _ => (firstAt_eq_some_iff fun _ _ => targetBetween_iff).symm

theorem Targeted.unique (h : Targeted text table rest) (h' : Targeted text table' rest') :
    table = table' ∧ rest = rest' := by
  obtain ⟨before, hfirst⟩ := h
  obtain ⟨before', hfirst'⟩ := h'
  obtain ⟨-, hsame⟩ := hfirst.unique (fun _ _ => targetBetween_iff) hfirst'
  cases hsame; exact ⟨rfl, rfl⟩

theorem Parted.unique (h : Parted text table columnPart valuePart)
    (h' : Parted text table' columnPart' valuePart') :
    table = table' ∧ columnPart = columnPart' ∧ valuePart = valuePart' := by
  obtain ⟨rest, htable, hcut⟩ := h
  obtain ⟨rest', htable', hcut'⟩ := h'
  obtain ⟨rfl, rfl⟩ := htable.unique htable'
  exact ⟨rfl, hcut.cut_unique hcut'⟩

theorem Listed.unique (h : Listed text table names literals)
    (h' : Listed text table' names' literals') :
    table = table' ∧ names = names' ∧ literals = literals' := by
  obtain ⟨_, _, columnList, valueList, hparts, hcolumns, hvalues, rfl, rfl⟩ := h
  obtain ⟨_, _, columnList', valueList', hparts', hcolumns', hvalues', rfl, rfl⟩ := h'
  obtain ⟨rfl, rfl, rfl⟩ := hparts.unique hparts'
  rw [← columnList?_eq_some_iff] at hcolumns hcolumns'
  rw [← valueList?_eq_some_iff] at hvalues hvalues'
  rw [hcolumns] at hcolumns'
  rw [hvalues] at hvalues'
  cases hcolumns'; cases hvalues'
  exact ⟨rfl, rfl, rfl⟩

theorem InsertFlaw.unique {n : Nat} {f g : Fault} (hf : InsertFlaw text n f)
    (hg : InsertFlaw text n g) : f = g := by
  cases hf with
  | countMismatch hlists =>
    cases hg with
    | countMismatch hlists' =>
      obtain ⟨-, rfl, rfl⟩ := hlists.unique hlists'
      rfl
  | _ => cases hg; rfl

/-- The statement is malformed, unless an integer is all that is wrong with it. -/
theorem InsertFlaw.fault_eq {n : Nat} {f : Fault} (hf : InsertFlaw text n f) :
    (n ≤ 7 ∧ ∃ cause, f = .malformed cause) ∨ (n = 8 ∧ f = .external .unreadableNumeral) := by
  cases hf <;> simp

/-- Each flaw has a message of its own, and the last one none. -/
theorem InsertFlaw.message_injective {n m : Nat} {f g : Fault} (hf : InsertFlaw text n f)
    (hg : InsertFlaw text m g) (h : f.message? = g.message?) : n = m := by
  have hsame : f = g := by
    rcases hf.fault_eq with ⟨-, c, rfl⟩ | ⟨-, rfl⟩ <;> rcases hg.fault_eq with ⟨-, d, rfl⟩ | ⟨-, rfl⟩
    · rw [Malformed.message_injective (Option.some.inj h)]
    · cases h
    · cases h
    · rfl
  cases hf <;> cases hg <;> first | rfl | cases hsame

/-! ## The flaws in order -/

/-- The literals fail exactly if one of their pieces is an integer with too many digits. -/
theorem readValues_pieces_eq_error_iff {f : Fault} :
    readValues (literals.map strip) = .error f ↔
      f = .external .unreadableNumeral ∧ ∃ piece ∈ literals, OverlongInteger (strip piece) := by
  have hstrip : ∀ raw ∈ literals.map strip, strip raw = raw := by
    intro raw hraw
    obtain ⟨piece, -, rfl⟩ := List.mem_map.1 hraw
    exact strip_strip piece
  simp only [readValues_eq_error_iff hstrip, List.mem_map, exists_exists_and_eq_and]

/-- Where nothing is wrong with the columns, the literals are judged. -/
theorem readValues_judged (hlists : Listed text table names literals)
    (h7 : ClearTo (InsertFlaw text) 7) (build : List Value → Statement) :
    JudgedBy (InsertFlaw text) ((readValues (literals.map strip)).map build) := by
  cases hvalues : readValues (literals.map strip) with
  | error f =>
    obtain ⟨rfl, piece, hpiece, hlong⟩ := readValues_pieces_eq_error_iff.1 hvalues
    exact h7.judged (.overlongInteger hlists hpiece hlong)
  | ok values =>
    have h8 : ClearTo (InsertFlaw text) 8 := h7.next fun f (hf : InsertFlaw text 8 f) => by
      cases hf with
      | overlongInteger hlists' hpiece hlong =>
        obtain ⟨-, rfl, rfl⟩ := hlists.unique hlists'
        rw [readValues_pieces_eq_error_iff.2 ⟨rfl, _, hpiece, hlong⟩] at hvalues
        cases hvalues
    refine .inr ⟨⟨build values, rfl⟩, fun n f hf => ?_⟩
    have := h8 n f hf
    cases hf <;> omega

/-- A text with both lists is judged by their pieces. -/
theorem lists_judged (hlists : Listed text table names literals)
    (h4 : ClearTo (InsertFlaw text) 4) :
    JudgedBy (InsertFlaw text)
      (if [] ∈ names.map strip then .error (.malformed .blankColumn)
        else if ¬ (names.map strip).Nodup then .error (.malformed .repeatedColumn)
        else if names.length ≠ literals.length then
          .error (.malformed (.countMismatch names.length literals.length))
        else (readValues (literals.map strip)).map (.insert table (names.map strip))) := by
  -- each test is for the next flaw, and the lists of a flaw are these lists
  refine h4.test (fun hblank => ?_) (fun f (hf : InsertFlaw text 5 f) => ?_) fun _ h5 => ?_
  · obtain ⟨piece, hpiece, hb⟩ := nil_mem_map_strip_iff.1 hblank
    exact .blankColumn hlists hpiece hb
  · cases hf with
    | blankColumn hlists' hpiece hb =>
      obtain ⟨-, rfl, rfl⟩ := hlists.unique hlists'
      exact nil_mem_map_strip_iff.2 ⟨_, hpiece, hb⟩
  refine h5.test (fun hnodup => .repeatedColumn hlists hnodup)
    (fun f (hf : InsertFlaw text 6 f) => ?_) fun _ h6 => ?_
  · cases hf with
    | repeatedColumn hlists' hnames =>
      obtain ⟨-, rfl, rfl⟩ := hlists.unique hlists'
      exact hnames
  refine h6.test (fun hlen => .countMismatch hlists hlen)
    (fun f (hf : InsertFlaw text 7 f) => ?_) fun _ h7 => ?_
  · cases hf with
    | countMismatch hlists' hne =>
      obtain ⟨-, rfl, rfl⟩ := hlists.unique hlists'
      exact hne
  exact readValues_judged hlists h7 _

/-- **The reader judges by the flaws**, one after another. -/
theorem readInsert_judged (text : Text) : JudgedBy (InsertFlaw text) (readInsert text) := by
  have h0 : ClearTo (InsertFlaw text) 0 := by
    intro n f hf
    cases hf <;> decide
  -- the four cuts are made one after another, and each is a flaw if it fails
  cases htarget : firstAt target none text with
  | none =>
    rw [readInsert, htarget]
    exact h0.judged (.noTarget ((firstAt_eq_none_iff_place fun _ _ => targetBetween_iff).1 htarget))
  | some p =>
    obtain ⟨before, table, rest⟩ := p
    have htable : Targeted text table rest := targeted_iff.2 ⟨before, htarget⟩
    have h1 : ClearTo (InsertFlaw text) 1 := h0.next fun f (hf : InsertFlaw text 1 f) => by
      cases hf with
      | noTarget hno =>
        obtain ⟨b, hfirst⟩ := htable
        exact hno _ _ hfirst.here
    cases hvalues : cutAtWord? valuesWord rest with
    | none =>
      simp only [readInsert, htarget, hvalues]
      exact h1.judged (.noValues htable (cutAtWord?_eq_none_iff.1 hvalues))
    | some q =>
      obtain ⟨columnPart, valuePart⟩ := q
      have hcut := cutAtWord?_eq_some_iff.1 hvalues
      have hparts : Parted text table columnPart valuePart := ⟨rest, htable, hcut⟩
      have h2 : ClearTo (InsertFlaw text) 2 := h1.next fun f (hf : InsertFlaw text 2 f) => by
        cases hf with
        | noValues htable' hno =>
          obtain ⟨-, rfl⟩ := htable.unique htable'
          exact hno (hasWord_iff_between.2 ⟨_, _, hcut.here⟩)
      cases hcolumns : columnList? columnPart with
      | none =>
        simp only [readInsert, htarget, hvalues, hcolumns]
        exact h2.judged (.noColumnList hparts (columnList?_eq_none_iff.1 hcolumns))
      | some columnList =>
        have h3 : ClearTo (InsertFlaw text) 3 := h2.next fun f (hf : InsertFlaw text 3 f) => by
          cases hf with
          | noColumnList hparts' hno =>
            obtain ⟨-, rfl, -⟩ := hparts.unique hparts'
            rw [← columnList?_eq_none_iff, hcolumns] at hno
            cases hno
        cases hlist : valueList? valuePart with
        | none =>
          simp only [readInsert, htarget, hvalues, hcolumns, hlist]
          exact h3.judged (.noValueList hparts (valueList?_eq_none_iff.1 hlist))
        | some valueList =>
          have h4 : ClearTo (InsertFlaw text) 4 := h3.next fun f (hf : InsertFlaw text 4 f) => by
            cases hf with
            | noValueList hparts' hno =>
              obtain ⟨-, -, rfl⟩ := hparts.unique hparts'
              rw [← valueList?_eq_none_iff, hlist] at hno
              cases hno
          have hjudged := lists_judged ⟨columnPart, valuePart, columnList, valueList, hparts,
            columnList?_eq_some_iff.1 hcolumns, valueList?_eq_some_iff.1 hlist, rfl, rfl⟩ h4
          rw [readInsert_of_lists htarget hvalues hcolumns hlist]
          simpa only [items, List.length_map] using hjudged

/-- What an insertion that is read says, piece by piece. -/
theorem readInsert_pieces {st : Statement} (h : readInsert text = .ok st) :
    ∃ table names literals values, Listed text table names literals ∧
      (∀ piece ∈ names, ¬ Blanks piece) ∧ names.length = literals.length ∧
      List.Forall₂ (fun piece v => readLiteral (strip piece) = .ok v) literals values ∧
      st = .insert table (names.map strip) values := by
  obtain ⟨table, columns, trimmed, values, hparts, hvalues, rfl⟩ := readInsert_eq_ok h
  obtain ⟨htarget, hcut, hcolumns, hlist, rfl, rfl, hblank, -, hlen⟩ := hparts
  rename_i columnList valueList
  refine ⟨table, pieces ',' columnList, pieces ',' valueList, values,
    ⟨_, _, _, _, ⟨_, targeted_iff.2 ⟨_, htarget⟩, cutAtWord?_eq_some_iff.1 hcut⟩,
      columnList?_eq_some_iff.1 hcolumns, valueList?_eq_some_iff.1 hlist, rfl, rfl⟩,
    fun piece hpiece hb => hblank (nil_mem_map_strip_iff.2 ⟨piece, hpiece, hb⟩), ?_, ?_, rfl⟩
  · simpa [items] using hlen
  · exact List.forall₂_map_left_iff.1 (readValues_eq_ok_iff.1 hvalues)

/-- **A text is read exactly if it has no flaw**, in either mode, and otherwise has the fault of its
first one. All flaws but the last make the statement malformed, each with a message of its own.
What is read are the trimmed pieces of both lists. -/
theorem insert_grammar (hinsert : leadingWord text = insertWord) (mode : Mode) :
    (∀ f, read mode text = .error f ↔ FirstFlaw (InsertFlaw text) f) ∧
      ((∃ st, read mode text = .ok st) ↔ ∀ n f, ¬ InsertFlaw text n f) ∧
      (∀ n f, InsertFlaw text n f →
        (n ≤ 7 ∧ ∃ cause, f = .malformed cause) ∨ (n = 8 ∧ f = .external .unreadableNumeral)) ∧
      (∀ n m f g, InsertFlaw text n f → InsertFlaw text m g → f.message? = g.message? → n = m) ∧
      ∀ st, read mode text = .ok st → ∃ table names literals values,
        Listed text table names literals ∧
        List.Forall₂ (fun piece v => readLiteral (strip piece) = .ok v) literals values ∧
        st = .insert table (names.map strip) values := by
  rw [read_of_insert hinsert, readInsert_strip]
  obtain ⟨herror, hok⟩ := (readInsert_judged text).exact fun n f g => InsertFlaw.unique
  refine ⟨herror, hok, fun n f => InsertFlaw.fault_eq, fun n m f g => InsertFlaw.message_injective,
    fun st hst => ?_⟩
  obtain ⟨table, names, literals, values, hlists, -, -, hvalues, hst⟩ := readInsert_pieces hst
  exact ⟨table, names, literals, values, hlists, hvalues, hst⟩

/-- Of two flaws the first one counts: here the list of values is too short as well. -/
theorem insert_grammar_sample :
    leadingWord "insert into notes (mark, mark) values (1)".toList = insertWord ∧
      read .strict "insert into notes (mark, mark) values (1)".toList =
        .error (.malformed .repeatedColumn) ∧
      FirstFlaw (InsertFlaw "insert into notes (mark, mark) values (1)".toList)
        (.malformed .repeatedColumn) := by
  have hinsert : leadingWord "insert into notes (mark, mark) values (1)".toList = insertWord := by
    decide
  have hread : read .strict "insert into notes (mark, mark) values (1)".toList =
      .error (.malformed .repeatedColumn) := by
    decide
  exact ⟨hinsert, hread, ((insert_grammar hinsert .strict).1 _).1 hread⟩

/-! ## Values that are not there -/

theorem readLiteral_of_blanks {piece : Text} (h : Blanks piece) :
    readLiteral (strip piece) = .ok (.text []) := by
  rw [strip_eq_nil_iff.2 h]
  decide

/-- **An insertion has as many pieces of values as columns, of which none is blank.** A piece of
values can be blank; it is read as the empty text, so that the values that are really there are
fewer than the columns exactly if there is such a piece. -/
theorem insertion_counts_pieces {values : List Value}
    (h : read mode text = .ok (.insert table columns values)) :
    ∃ names literals, Listed text table names literals ∧ columns = names.map strip ∧
      columns ≠ [] ∧ [] ∉ columns ∧ literals.length = columns.length ∧
      List.Forall₂ (fun piece v => readLiteral (strip piece) = .ok v ∧
        (Blanks piece → v = .text [])) literals values ∧
      ((literals.filter fun piece => strip piece ≠ []).length = columns.length ↔
        ∀ piece ∈ literals, ¬ Blanks piece) := by
  have hinsert : leadingWord text = insertWord := by
    rcases read_eq_ok h with ⟨-, _, _, _, hst⟩ | ⟨hinsert, -⟩
    · cases hst
    · exact hinsert
  rw [read_of_insert hinsert, readInsert_strip] at h
  obtain ⟨_, names, literals, _, hlists, hblank, hlen, hvalues, hst⟩ := readInsert_pieces h
  cases hst
  have hnames : names ≠ [] := by
    obtain ⟨_, _, columnList, _, -, -, -, rfl, -⟩ := hlists
    exact pieces_ne_nil columnList
  refine ⟨names, literals, hlists, rfl, by simpa using hnames, ?_, by simpa using hlen.symm, ?_, ?_⟩
  · rw [nil_mem_map_strip_iff]
    rintro ⟨piece, hpiece, hb⟩
    exact hblank piece hpiece hb
  · refine hvalues.imp fun piece v hv => ⟨hv, fun hb => ?_⟩
    rw [readLiteral_of_blanks hb] at hv
    exact (Except.ok.inj hv).symm
  · rw [List.length_map, hlen, List.length_filter_eq_length_iff]
    simp only [ne_eq, strip_eq_nil_iff, decide_eq_true_eq]
    exact Iff.rfl

/-- An insertion with parentheses for its values, and nothing between them. -/
def valuelessInsertion : Text := "INSERT INTO notes (mark) VALUES ()".toList

theorem read_valuelessInsertion (mode : Mode) :
    read mode valuelessInsertion = .ok (.insert "notes".toList ["mark".toList] [.text []]) := by
  cases mode <;> decide

theorem insertion_counts_pieces_sample :
    read .naive valuelessInsertion = .ok (.insert "notes".toList ["mark".toList] [.text []]) ∧
      ∃ names literals, Listed valuelessInsertion "notes".toList names literals ∧
        literals.length = 1 := by
  have hread := read_valuelessInsertion .naive
  obtain ⟨names, literals, hlists, -, -, -, hlen, -⟩ := insertion_counts_pieces hread
  exact ⟨hread, names, literals, hlists, hlen⟩

/-- **A value that is not there does not keep an insertion from being read**, while a column that
is not there does. -/
theorem missing_value_accepted :
    ¬ ∀ (mode : Mode) (text table : Text) (names literals columns : List Text) (values : List Value),
      read mode text = .ok (.insert table columns values) → Listed text table names literals →
        ∀ piece ∈ literals, ¬ Blanks piece := by
  intro h
  have hlists : Listed valuelessInsertion "notes".toList ["mark".toList] [[]] :=
    ⟨" (mark) ".toList, " ()".toList, "mark".toList, [],
      ⟨" (mark) VALUES ()".toList, targeted_iff.2 ⟨"INSERT ".toList, by decide⟩,
        cutAtWord?_eq_some_iff.1 (by decide)⟩,
      columnList?_eq_some_iff.1 (by decide), valueList?_eq_some_iff.1 (by decide), by decide,
      by decide⟩
  exact h .naive _ _ _ _ _ _ (read_valuelessInsertion .naive) hlists [] (by simp) blanks_nil

end Almanac.Statement
