import Almanac.Proofs.Growth
import Almanac.Proofs.Reading
import Almanac.Proofs.Recall

/-!
# How a statement can fail

Whatever a text is, carrying it out answers rows or fails with a query error, with two exceptions:
an integer in the literals of an insertion that has more digits than can be read, and a value in the
column of a filter that cannot be shown. These faults are no query errors, and they come only when
everything else in the text is as it must be.

* `readValues_eq_error_iff`: **literals fail exactly if one of them is such an integer.**
* `Store.execute_eq_error`: how what is read can fail.
* `query_error_unless_escapes`: **the exceptions, exactly.**
* `overlong_integer_escapes`: it is one.
-/

namespace Almanac

open Text Statement

/-! ## Literals -/

namespace Statement

/-- An integer with more digits than can be read. -/
def OverlongInteger (raw : Text) : Prop :=
  ∃ negative sign digits, Sign negative sign ∧ raw = sign ++ digits ∧
    (∀ d ∈ digits, isDecimalDigit d = true) ∧ maxIntegerDigits < digits.length

/-- The text is an insertion, complete but for such an integer among its literals. -/
def HasOverlongLiteral (text : Text) : Prop :=
  leadingWord text = insertWord ∧ ∃ table columns literals,
    InsertParts (strip text) table columns literals ∧ ∃ raw ∈ literals, OverlongInteger raw

variable {raw text table : Text} {columns literals : List Text} {f : Fault}

theorem readLiteral_eq_error_iff (h : strip raw = raw) :
    readLiteral raw = .error f ↔ f = .external .unreadableNumeral ∧ OverlongInteger raw := by
  have hbreak : withoutFinalBreak raw = raw := by
    refine if_neg fun hlast => ?_
    have := (trimBy_eq_self_iff.1 h).2 '\n' hlast
    revert this; decide
  constructor
  · intro herr
    obtain ⟨hf, ⟨negative, digits⟩, hint, hlen⟩ := readLiteral_eq_error herr
    rw [hbreak] at hint
    obtain ⟨sign, hsign, hraw, hdigits⟩ := sign_of_integer? hint
    exact ⟨hf, negative, sign, digits, hsign, hraw, hdigits, hlen⟩
  · rintro ⟨rfl, negative, sign, digits, hsign, rfl, hdigits, hlen⟩
    have hne : digits ≠ [] := by rintro rfl; simp at hlen
    rw [readLiteral_of_sign hsign hne hdigits, integerOf, if_pos hlen]

/-- **Literals fail exactly if one of them is an integer with too many digits.** -/
theorem readValues_eq_error_iff (h : ∀ raw ∈ literals, strip raw = raw) :
    readValues literals = .error f ↔
      f = .external .unreadableNumeral ∧ ∃ raw ∈ literals, OverlongInteger raw := by
  induction literals with
  | nil => simp [readValues]
  | cons raw rest ih =>
    have hraw := readLiteral_eq_error_iff (f := f) (h raw (by simp))
    have ih := ih fun r hr => h r (List.mem_cons_of_mem _ hr)
    rw [readValues, bind_eq_error_iff]
    constructor
    · rintro (hfirst | ⟨v, -, hrest⟩)
      · exact ⟨(hraw.1 hfirst).1, raw, by simp, (hraw.1 hfirst).2⟩
      · rcases bind_eq_error_iff.1 hrest with hrest | ⟨vs, -, hpure⟩
        · obtain ⟨hf, r, hr, hlong⟩ := ih.1 hrest
          exact ⟨hf, r, List.mem_cons_of_mem _ hr, hlong⟩
        · cases hpure
    · rintro ⟨rfl, r, hr, hlong⟩
      -- a first literal that is refused has the same fault as a later one
      cases hfirst : readLiteral raw with
      | error g =>
        obtain ⟨rfl, -⟩ := (readLiteral_eq_error_iff (h raw (by simp))).1 hfirst
        exact .inl rfl
      | ok v =>
        refine .inr ⟨v, rfl, bind_eq_error_iff.2 (.inl (ih.2 ⟨rfl, ?_⟩))⟩
        rcases List.mem_cons.1 hr with rfl | hr
        · have := (readLiteral_eq_error_iff (h r (by simp))).2 ⟨rfl, hlong⟩
          rw [hfirst] at this; cases this
        · exact ⟨r, hr, hlong⟩

theorem strip_of_mem_literals (h : InsertParts text table columns literals) :
    ∀ raw ∈ literals, strip raw = raw := by
  obtain ⟨-, -, -, -, -, rfl, -, -, -⟩ := h
  exact fun raw hraw => strip_of_mem_items hraw

theorem read_of_overlong (h : HasOverlongLiteral text) (mode : Mode) :
    read mode text = .error (.external .unreadableNumeral) := by
  obtain ⟨hword, table, columns, literals, hparts, hlong⟩ := h
  have hvalues : readValues literals = .error (.external .unreadableNumeral) :=
    (readValues_eq_error_iff (strip_of_mem_literals hparts)).2 ⟨rfl, hlong⟩
  rw [read_of_parts hword hparts, hvalues]; rfl

/-- Without such an integer a text is read or is at fault itself. -/
theorem read_of_not_overlong (h : ¬ HasOverlongLiteral text) (mode : Mode) :
    (∃ st, read mode text = .ok st) ∨ ∃ e, read mode text = .error (.query e) := by
  cases hread : read mode text with
  | ok st => exact .inl ⟨st, rfl⟩
  | error f =>
    rcases read_eq_error hread with ⟨e, rfl⟩ | ⟨hword, table, columns, literals, hparts, hvalues⟩
    · exact .inr ⟨e, rfl⟩
    · obtain ⟨-, hlong⟩ := (readValues_eq_error_iff (strip_of_mem_literals hparts)).1 hvalues
      exact absurd ⟨hword, table, columns, literals, hparts, hlong⟩ h

end Statement

/-! ## Carrying out what was read -/

namespace Store

variable {s : Store} {n : Text} {f : Fault}

theorem table_text_eq_error (h : s.table (.text n) = .error f) :
    f = .query (.unknownTable (.text n)) := by
  simp only [table, keyOf_text, bind, Except.bind] at h
  split at h <;> cases h
  rfl

theorem append_text_eq_error {values : Record} (h : s.append (.text n) values = .error f) :
    f = .query (.unknownTable (.text n)) ∨ ∃ c, f = .query (.schemaMismatch (.text n) c) := by
  simp only [append, keyOf_text, bind, Except.bind] at h
  split at h
  · cases h; exact .inl rfl
  · split at h <;> cases h
    exact .inr ⟨_, rfl⟩

/-- **A statement fails with a query error**, or for a value that its filter has to compare and that
cannot be shown. -/
theorem execute_eq_error {st : Statement} (h : s.execute st = .error f) :
    (∃ e, f = .query e) ∨ ∃ table fields filter tbl k, st = .select table fields filter ∧
      s.table (.text table) = .ok tbl ∧ unfilterable? filter tbl.rows = some k ∧ f = .external k := by
  cases st with
  | select table fields filter =>
    cases ht : s.table (.text table) with
    | error g =>
      obtain rfl := table_text_eq_error ht
      simp only [execute, rows, ht, Except.map, bind, Except.bind] at h
      cases h
      exact .inl ⟨_, rfl⟩
    | ok tbl =>
      cases hk : unfilterable? filter tbl.rows with
      | none => rw [execute_select_of_filterable ht hk] at h; cases h
      | some k =>
        rw [execute_select_of_unfilterable ht hk] at h
        cases h
        exact .inr ⟨table, fields, filter, tbl, k, rfl, ht, hk, rfl⟩
  | insert table columns values =>
    -- an insertion shows no value but the name of its table, which is a text
    rcases bind_eq_error_iff.1 h with happend | ⟨p, -, hpure⟩
    · rcases append_text_eq_error happend with rfl | ⟨c, rfl⟩
      · exact .inl ⟨_, rfl⟩
      · exact .inl ⟨_, rfl⟩
    · cases hpure
  | other kind => cases h; exact .inl ⟨_, rfl⟩

/-- **What can come out of a text beside rows and query errors**: the fault of an integer with too
many digits among its literals, or that of a value which its filter has to compare and which cannot
be shown. -/
inductive Escapes (s : Store) (mode : Mode) (text : Text) : ExternalFault → Prop
  | literal (h : HasOverlongLiteral text) : Escapes s mode text .unreadableNumeral
  | filter {table : Text} {fields : List Text} {filter : Option Filter} {tbl : Table}
      {k : ExternalFault} (hread : read mode text = .ok (.select table fields filter))
      (ht : s.table (.text table) = .ok tbl) (hk : unfilterable? filter tbl.rows = some k) :
      Escapes s mode text k

end Store

variable {s : Store} {mode : Mode} {text : Text}

theorem query_of_overlong (h : HasOverlongLiteral text) :
    s.query mode (.text text) = .error (.external .unreadableNumeral) := by
  rw [Store.query, readValue, read_of_overlong h mode]; rfl

/-- **A statement's text answers rows or fails with a query error**, unless it is an insertion
with an integer of too many digits, or asks for rows by a column with a value that cannot be shown;
then it fails with the fault of that integer or that value. The store stays as it is whenever the
text fails. -/
theorem query_error_unless_escapes (s : Store) (mode : Mode) (text : Text) :
    ((∀ k, ¬ s.Escapes mode text k) →
      (∃ rows s', s.step mode (.execute (.text text)) = ⟨.ok (.rows rows), s', []⟩) ∨
        ∃ e : QueryError, s.step mode (.execute (.text text)) = ⟨.error (.query e), s, []⟩ ∧
          e.kind ∈ [ErrorKind.malformedStatement, .unsupportedStatement, .unknownTable,
            .schemaMismatch]) ∧
      ∀ k, s.Escapes mode text k →
        s.step mode (.execute (.text text)) = ⟨.error (.external k), s, []⟩ := by
  refine ⟨fun h => ?_, fun k hk => ?_⟩
  · have hkind : ∀ e : QueryError, e.kind ∈ [ErrorKind.malformedStatement, .unsupportedStatement,
        .unknownTable, .schemaMismatch] := by
      intro e; cases e <;> simp [QueryError.kind]
    cases hquery : s.query mode (.text text) with
    | ok p => exact .inl ⟨p.1, p.2, Store.step_execute_ok hquery⟩
    | error f =>
      -- the fault is one of reading, or of carrying out what was read
      have hf : ∃ e, f = .query e := by
        rcases bind_eq_error_iff.1 hquery with hread | ⟨st, hread, hexecute⟩
        · rcases read_of_not_overlong (fun hlong => h _ (.literal hlong)) mode with ⟨st, hst⟩ | ⟨e, he⟩
          · rw [readValue, hst] at hread; cases hread
          · rw [readValue, he] at hread
            cases hread; exact ⟨e, rfl⟩
        · rcases Store.execute_eq_error hexecute with he | ⟨_, _, _, _, k, rfl, ht, hk, -⟩
          · exact he
          · exact absurd (.filter hread ht hk) (h k)
      obtain ⟨e, rfl⟩ := hf
      exact .inr ⟨e, Store.step_execute_error hquery, hkind e⟩
  · cases hk with
    | literal hlong => exact Store.step_execute_error (query_of_overlong hlong)
    | filter hread ht hk =>
      refine Store.step_execute_error ?_
      rw [Store.query_text hread,
        Store.execute_select_of_unfilterable ht hk]

/-- One digit too many. -/
def overlongDigits : Text := List.replicate (maxIntegerDigits + 1) '1'

/-- A note whose mark has one digit too many. -/
def overlongInsertion : Text := insertionText "notes".toList "mark".toList overlongDigits

theorem eq_of_mem_overlongDigits {d : Char} (h : d ∈ overlongDigits) : d = '1' :=
  List.eq_of_mem_replicate h

theorem overlongInteger_overlongDigits : OverlongInteger overlongDigits := by
  refine ⟨false, [], overlongDigits, .none, (List.nil_append _).symm, ?_, ?_⟩
  · intro d hd
    rw [eq_of_mem_overlongDigits hd]; decide
  · unfold overlongDigits
    rw [List.length_replicate]; exact Nat.lt_succ_self _

theorem hasOverlongLiteral_overlongInsertion : HasOverlongLiteral overlongInsertion := by
  have hstrip : strip overlongDigits = overlongDigits :=
    strip_of_no_blank fun c hc => by rw [eq_of_mem_overlongDigits hc]; decide
  have hcomma : ',' ∉ overlongDigits := by
    intro hc
    exact absurd (eq_of_mem_overlongDigits hc) (by decide)
  obtain ⟨hword, hparts⟩ := insertParts_insertionText targetName_notes listedColumn_mark
    ⟨hstrip, hcomma⟩
  exact ⟨hword, _, _, _, hparts, _, List.mem_singleton_self _, overlongInteger_overlongDigits⟩

/-- A text that is read has no such literal. -/
theorem not_hasOverlongLiteral_of_read {st : Statement} (h : read mode text = .ok st) :
    ¬ HasOverlongLiteral text := by
  intro hlong
  rw [read_of_overlong hlong mode] at h; cases h

/-- Only what asks for rows can fail for what a column holds. -/
theorem not_escapes_of_insert {table : Text} {columns : List Text} {values : List Value}
    (h : read mode text = .ok (.insert table columns values)) (k : ExternalFault) :
    ¬ s.Escapes mode text k := by
  rintro (hlong | ⟨hread, -, -⟩)
  · exact not_hasOverlongLiteral_of_read h hlong
  · rw [h] at hread; cases hread

/-- An insertion is answered; with one digit too many it fails, and the notes stay. A note with such
a number is not told from the others. -/
theorem query_error_unless_escapes_sample :
    (∀ k, ¬ (Store.after Store.sampleRun).Escapes .strict sampleInsertion k) ∧
      ((∃ rows s', (Store.after Store.sampleRun).step .strict (.execute (.text sampleInsertion)) =
          ⟨.ok (.rows rows), s', []⟩) ∨
        ∃ e : QueryError, (Store.after Store.sampleRun).step .strict
            (.execute (.text sampleInsertion)) = ⟨.error (.query e), Store.after Store.sampleRun, []⟩ ∧
          e.kind ∈ [ErrorKind.malformedStatement, .unsupportedStatement, .unknownTable,
            .schemaMismatch]) ∧
      (Store.after Store.sampleRun).step .strict (.execute (.text overlongInsertion)) =
        ⟨.error (.external .unreadableNumeral), Store.after Store.sampleRun, []⟩ ∧
      (Store.after (Store.sampleRun ++ [Store.overlongNote])).step .naive
          (.execute (.text Store.markedNotes)) =
        ⟨.error (.external .unshowable), Store.after (Store.sampleRun ++ [Store.overlongNote]), []⟩ := by
  have hread : read .strict sampleInsertion = .ok (.insert "notes".toList
      ["mark".toList, "text".toList] [.int (-12), .text "'); VALUES ('".toList]) := by
    refine read_insertText sampleInsertion_insertText targetName_notes ?_ (by decide) rfl .strict
    intro c hc
    rcases List.mem_cons.1 hc with rfl | hc
    · exact listedColumn_mark
    · rw [List.mem_singleton.1 hc]; exact listedColumn_text
  have hshort := not_escapes_of_insert (s := Store.after Store.sampleRun) hread
  exact ⟨hshort, (query_error_unless_escapes _ .strict sampleInsertion).1 hshort,
    (query_error_unless_escapes _ .strict overlongInsertion).2 _
      (.literal hasOverlongLiteral_overlongInsertion),
    (query_error_unless_escapes _ .naive Store.markedNotes).2 _
      (.filter Store.read_markedNotes Store.table_overlongNote Store.unfilterable?_markedNotes)⟩

/-- **A fault that is no query error does come out of a text**: one digit too many in an
insertion that is otherwise as it must be. -/
theorem overlong_integer_escapes :
    ¬ ∀ (s : Store) (mode : Mode) (text : Text), s.Reachable →
      (∃ rows, (s.step mode (.execute (.text text))).result = .ok (.rows rows)) ∨
        ∃ e : QueryError, (s.step mode (.execute (.text text))).result = .error (.query e) := by
  intro h
  have hstep : ((Store.after Store.sampleRun).step .naive (.execute (.text overlongInsertion))).result =
      .error (.external .unreadableNumeral) := by
    rw [Store.step_execute_error (query_of_overlong hasOverlongLiteral_overlongInsertion)]
  rcases h (Store.after Store.sampleRun) .naive overlongInsertion ⟨Store.sampleRun, rfl⟩ with
    ⟨rows, hrows⟩ | ⟨e, he⟩
  · rw [hstep] at hrows; cases hrows
  · rw [hstep] at he; cases he

end Almanac
