import Almanac.Proofs.Numbering
import Almanac.Proofs.Reading

/-!
# Strict reading

A strict reader reads as a naive one does and then tests the value of the filter, last of
all: so it masks no other fault, and no other fault masks its own. What it tests is what is
left of the value when the blanks and the quotes at its ends are gone.

* `read_strict`: **strict reading is naive reading and one test of what was read.**
* `strict_refines_naive`: the same said case by case, with what follows for the rows.
* `strict_refuses`: **a terminator anywhere in the value is refused, and so is a quote that
  does not stand at its ends.**
* `open_quote_accepted`: a quote at an end is taken off before the test, also one that
  nothing closes.
-/

namespace Almanac.Statement

open Text

/-- The value that a statement's filter compares with. -/
def filterValue? : Statement → Option Text
  | select _ _ (some f) => f.value
  | _ => none

/-- The filter's value holds a terminator or a quote. -/
def IllegalFilter (st : Statement) : Prop :=
  ∃ v, st.filterValue? = some v ∧ ∃ k ∈ v, k = ';' ∨ k = '\'' ∨ k = '"'

/-- The statement, unless its filter's value is one that a strict reader refuses. -/
def refuseIllegal (st : Statement) : Except Fault Statement :=
  if st.filterValue?.any isIllegalValue then .error (.malformed .illegalFilterValue) else .ok st

variable {st : Statement} {text : Text}

theorem isIllegalValue_iff {v : Text} :
    isIllegalValue v = true ↔ ∃ k ∈ v, k = ';' ∨ k = '\'' ∨ k = '"' := by
  simp [isIllegalValue, isQuote]

theorem refuseIllegal_of_illegal (h : st.IllegalFilter) :
    st.refuseIllegal = .error (.malformed .illegalFilterValue) := by
  obtain ⟨v, hv, hk⟩ := h
  have hany : st.filterValue?.any isIllegalValue = true := by
    rw [hv]; exact isIllegalValue_iff.2 hk
  rw [refuseIllegal, if_pos hany]

theorem refuseIllegal_of_legal (h : ¬ st.IllegalFilter) : st.refuseIllegal = .ok st := by
  refine if_neg fun hany => h ?_
  cases hv : st.filterValue? with
  | none => rw [hv] at hany; cases hany
  | some v => rw [hv] at hany; exact ⟨v, hv, isIllegalValue_iff.1 hany⟩

/-! ## One test -/

theorem readSelect_strict (text : Text) :
    readSelect .strict text = (readSelect .naive text >>= refuseIllegal) := by
  unfold readSelect
  split
  · rfl
  · rename_i head tail _
    simp only
    split
    · rfl
    · cases readFields head with
      | error f => rfl
      | ok fields =>
        -- only the condition is read in the mode, and it is read last
        unfold readWhere
        split
        · rfl
        · rename_i before condition _
          rw [readFilter_strict]
          cases readFilter .naive condition with
          | error f => rfl
          | ok p =>
            have hvalue : (select (firstWord tail) fields
                (some ⟨p.1, some p.2⟩)).filterValue?.any isIllegalValue = isIllegalValue p.2 := rfl
            by_cases h : isIllegalValue p.2 = true <;>
              simp [Except.bind, Except.map, bind, pure, Except.pure, refuseIllegal, hvalue, h]

/-- **Strict reading is naive reading and one test of what was read.** -/
theorem read_strict (text : Text) : read .strict text = (read .naive text >>= refuseIllegal) := by
  by_cases hselect : leadingWord text = selectWord
  · rw [read_of_select hselect, read_of_select hselect, readSelect_strict]
  · have hsame : read .strict text = read .naive text :=
      read_eq_of_insert (by rw [leadingWord_strip]; exact hselect) .strict .naive
    rw [hsame]
    cases hread : read .naive text with
    | error f => rfl
    | ok st =>
      -- an insertion has no filter
      rcases read_eq_ok hread with ⟨hword, -⟩ | ⟨-, table, columns, values, rfl⟩
      · exact absurd hword hselect
      · rfl

/-- What a strict reader reads, a naive one reads alike. -/
theorem read_naive_of_strict (h : read .strict text = .ok st) : read .naive text = .ok st := by
  rw [read_strict] at h
  obtain ⟨st', hnaive, htest⟩ := bind_eq_ok_iff.1 h
  by_cases hillegal : st'.IllegalFilter
  · rw [refuseIllegal_of_illegal hillegal] at htest; cases htest
  · rw [refuseIllegal_of_legal hillegal] at htest
    rw [hnaive, htest]

/-- **A strict reader does one thing more than a naive one.** Where the naive reader reads a
statement whose filter's value holds a terminator or a quote, it refuses the value. In every
other case it does the same: it reads the same statement, or has the same fault. So a text
that it reads is answered alike in both modes, over any store, and leaves the same store. -/
theorem strict_refines_naive (text : Text) :
    (∀ st, read .naive text = .ok st → st.IllegalFilter →
        read .strict text = .error (.malformed .illegalFilterValue) ∧
          (Fault.malformed .illegalFilterValue).message? =
            some "WHERE 过滤值包含非法字符".toList) ∧
      ((∀ st, read .naive text = .ok st → ¬ st.IllegalFilter) →
        read .strict text = read .naive text) ∧
      ∀ st, read .strict text = .ok st → ∀ s : Store,
        s.step .strict (.execute (.text text)) = s.step .naive (.execute (.text text)) := by
  have hstrict := read_strict text
  refine ⟨fun st hread hillegal => ?_, fun hlegal => ?_, fun st hread s => ?_⟩
  · rw [hread] at hstrict
    exact ⟨hstrict.trans (refuseIllegal_of_illegal hillegal), rfl⟩
  · rw [hstrict]
    cases hread : read .naive text with
    | error f => rfl
    | ok st => exact refuseIllegal_of_legal (hlegal st hread)
  · have hsame : read .strict text = read .naive text := by rw [hread, read_naive_of_strict hread]
    simp only [Store.step, Store.query, readValue, hsame]

/-- A statement with a second one behind its value: the strict reader refuses it, and reads it
once the terminator and the quote before it are gone. -/
theorem strict_refines_naive_sample :
    read .naive "SELECT * FROM notes WHERE text = 'a'; DROP TABLE notes".toList =
        .ok (.select "notes".toList [allFields]
          (some ⟨"text".toList, some "a'; DROP TABLE notes".toList⟩)) ∧
      read .strict "SELECT * FROM notes WHERE text = 'a'; DROP TABLE notes".toList =
        .error (.malformed .illegalFilterValue) ∧
      read .strict "SELECT * FROM notes WHERE text = 'a DROP TABLE notes'".toList =
        read .naive "SELECT * FROM notes WHERE text = 'a DROP TABLE notes'".toList ∧
      (Store.after Store.sampleRun).step .strict
          (.execute (.text "SELECT * FROM notes WHERE text = 'a DROP TABLE notes'".toList)) =
        (Store.after Store.sampleRun).step .naive
          (.execute (.text "SELECT * FROM notes WHERE text = 'a DROP TABLE notes'".toList)) := by
  have hread : read .naive "SELECT * FROM notes WHERE text = 'a'; DROP TABLE notes".toList =
      .ok (.select "notes".toList [allFields]
        (some ⟨"text".toList, some "a'; DROP TABLE notes".toList⟩)) := rfl
  have hillegal : IllegalFilter (.select "notes".toList [allFields]
      (some ⟨"text".toList, some "a'; DROP TABLE notes".toList⟩)) :=
    ⟨_, rfl, ';', by decide, .inl rfl⟩
  have hread' : read .strict "SELECT * FROM notes WHERE text = 'a DROP TABLE notes'".toList =
      .ok (.select "notes".toList [allFields]
        (some ⟨"text".toList, some "a DROP TABLE notes".toList⟩)) := rfl
  have hlegal : ∀ st, read .naive "SELECT * FROM notes WHERE text = 'a DROP TABLE notes'".toList =
      .ok st → ¬ st.IllegalFilter := by
    rintro st hst ⟨v, hv, hk⟩
    rw [read_naive_of_strict hread'] at hst
    cases hst; cases hv
    exact absurd (isIllegalValue_iff.2 hk) (by decide)
  obtain ⟨hrefused, -, -⟩ := strict_refines_naive
    "SELECT * FROM notes WHERE text = 'a'; DROP TABLE notes".toList
  obtain ⟨-, hsame, hstep⟩ := strict_refines_naive
    "SELECT * FROM notes WHERE text = 'a DROP TABLE notes'".toList
  exact ⟨hread, (hrefused _ hread hillegal).1, hsame hlegal, hstep _ hread' _⟩

/-! ## What is refused -/

variable {before condition left right : Text}

/-- Cleaning a value takes off blanks and quotes only, so a terminator stays in it. -/
theorem mem_cleanValue_of_terminator (h : ';' ∈ right) : ';' ∈ cleanValue right :=
  mem_trimBy (by decide) (mem_trimBy (by decide) h)

/-- **A strict reader refuses a broken value**: one with a terminator anywhere in it, or one
that still holds a quote when the blanks, and then the quotes, at its two ends are gone. -/
theorem strict_refuses (hselect : leadingWord text = selectWord)
    (hwhere : cutAtWord? whereWord text = some (before, condition))
    (hequals : cut? '=' condition = some (left, right))
    (hbroken : ';' ∈ right ∨ ∃ q ∈ cleanValue right, isQuote q = true) :
    ∃ cause, read .strict text = .error (.malformed cause) := by
  have hillegal : isIllegalValue (cleanValue right) = true := by
    rw [isIllegalValue, List.any_eq_true]
    rcases hbroken with hsemicolon | ⟨q, hmem, hq⟩
    · exact ⟨';', mem_cleanValue_of_terminator hsemicolon, by decide⟩
    · exact ⟨q, hmem, by simp [hq]⟩
  cases hread : read .strict text with
  | error f =>
    rw [read_of_select hselect] at hread
    obtain ⟨cause, rfl⟩ := readSelect_eq_error hread
    exact ⟨cause, rfl⟩
  | ok st =>
    -- the condition would have been read, and its value passed the test
    rw [read_of_select hselect] at hread
    obtain ⟨-, -, -, filter, -, -, -, hfilter, -⟩ := readSelect_eq_ok hread
    rw [readWhere_strip hwhere] at hfilter
    obtain ⟨p, hp, -⟩ := map_eq_ok_iff.1 hfilter
    rw [readFilter_of_cut hequals] at hp
    split at hp
    · cases hp
    · rw [if_pos ⟨rfl, hillegal⟩] at hp; cases hp

/-- An attempt to widen the condition: the quotes inside its value are refused. -/
theorem strict_refuses_sample :
    leadingWord "Select * from notes where text = '' OR '1'='1'".toList = selectWord ∧
      cutAtWord? whereWord "Select * from notes where text = '' OR '1'='1'".toList =
        some ("Select * from notes ".toList, " text = '' OR '1'='1'".toList) ∧
      cut? '=' " text = '' OR '1'='1'".toList = some (" text ".toList, " '' OR '1'='1'".toList) ∧
      '\'' ∈ cleanValue " '' OR '1'='1'".toList ∧
      ∃ cause, read .strict "Select * from notes where text = '' OR '1'='1'".toList =
        .error (.malformed cause) := by
  have hselect : leadingWord "Select * from notes where text = '' OR '1'='1'".toList = selectWord := rfl
  have hwhere : cutAtWord? whereWord "Select * from notes where text = '' OR '1'='1'".toList =
      some ("Select * from notes ".toList, " text = '' OR '1'='1'".toList) := rfl
  have hequals : cut? '=' " text = '' OR '1'='1'".toList =
      some (" text ".toList, " '' OR '1'='1'".toList) := rfl
  have hquote : '\'' ∈ cleanValue " '' OR '1'='1'".toList := by decide
  exact ⟨hselect, hwhere, hequals, hquote,
    strict_refuses hselect hwhere hequals (.inr ⟨'\'', hquote, by decide⟩)⟩

/-- **A quote that nothing closes is not always refused**: at an end of the value it is taken
off before the test. So it is not so that a strict reader refuses whatever holds a terminator
or an odd number of quotes of one kind behind the equals sign. -/
theorem open_quote_accepted :
    ¬ ∀ text before condition left right, leadingWord text = selectWord → HasWord fromWord text →
      cutAtWord? whereWord text = some (before, condition) →
      cut? '=' condition = some (left, right) →
      (';' ∈ right ∨ right.count '\'' % 2 = 1 ∨ right.count '"' % 2 = 1) →
      ∃ cause, read .strict text = .error (.malformed cause) := by
  intro h
  have hfrom : HasWord fromWord "SELECT * FROM notes WHERE text = 'a".toList := by
    by_contra hnone
    have := cutAtWord?_eq_none_iff.2 hnone
    revert this; decide
  obtain ⟨cause, hcause⟩ := h "SELECT * FROM notes WHERE text = 'a".toList
    "SELECT * FROM notes ".toList " text = 'a".toList " text ".toList " 'a".toList rfl hfrom rfl rfl
    (.inr (.inl (by decide)))
  have hread : read .strict "SELECT * FROM notes WHERE text = 'a".toList =
      .ok (.select "notes".toList [allFields] (some ⟨"text".toList, some "a".toList⟩)) := rfl
  rw [hread] at hcause; cases hcause

end Almanac.Statement
