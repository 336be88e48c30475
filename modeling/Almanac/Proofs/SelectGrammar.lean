import Almanac.Proofs.Reading

/-!
# The grammar of statements that ask for rows

Which texts are read as such, and what is wrong with each of the others: the conditions on a
text, said without a reader, in the order in which they count.

* `SelectFlaw`: the five things that can be wrong.
* `exists_selectList`: the first `FROM` stands behind the first word, so there is a list to read.
* `select_grammar`: **a text is read exactly if it has no flaw, and otherwise has the fault of
  its first one.**
-/

namespace Almanac.Statement

open Text

/-- What stands between the first word of a text and its first `FROM`. -/
def SelectList (text list : Text) : Prop :=
  ∃ lead tail, Blanks lead ∧
    FirstPlace (WordBetween fromWord text) (lead ++ firstWord text ++ list) tail

/-- **What can be wrong with a text that asks for rows**, numbered in the order in which it counts. -/
inductive SelectFlaw (text : Text) : Nat → Fault → Prop
  | noSource (hfrom : ¬ HasWord fromWord text) : SelectFlaw text 1 (.malformed .noSource)
  | noSourceTable {head tail : Text} (hfrom : FirstPlace (WordBetween fromWord text) head tail)
      (htail : Blanks tail) : SelectFlaw text 2 (.malformed .noSourceTable)
  | blankField {list piece : Text} (hlist : SelectList text list) (hpiece : piece ∈ pieces ',' list)
      (hblank : Blanks piece) : SelectFlaw text 3 (.malformed .blankField)
  | noEquals {before condition : Text}
      (hwhere : FirstPlace (WordBetween whereWord text) before condition)
      (hequals : '=' ∉ condition) : SelectFlaw text 4 (.malformed .noEquals)
  | noFilterColumn {before left right : Text}
      (hwhere : FirstPlace (WordBetween whereWord text) before (left ++ '=' :: right))
      (hequals : '=' ∉ left) (hleft : Blanks left) : SelectFlaw text 5 (.malformed .noFilterColumn)

variable {text head tail list : Text}

/-! ## The select list -/

/-- A word that is `SELECT` in upper case has no `FROM` in it. -/
theorem not_hasWord_from (h : upper text = selectWord) : ¬ HasWord fromWord text := by
  rintro ⟨before, word, after, rfl, hs, -, -⟩
  cases hs with
  | @cons _ c _ cs hc _ =>
    have hF : 'F' ∈ upperChar c := by
      have hcases : c = 'F' ∨ c = 'f' := by simpa [spells] using hc
      rcases hcases with rfl | rfl <;> decide
    have hmem : 'F' ∈ upper (before ++ c :: cs ++ after) := List.mem_flatMap.2 ⟨c, by simp, hF⟩
    rw [h] at hmem
    revert hmem; decide

/-- **The first `FROM` stands behind the first word**, with a blank between them. -/
theorem exists_selectList (hselect : leadingWord text = selectWord)
    (hfrom : cutAtWord? fromWord text = some (head, tail)) :
    ∃ lead list, Blanks lead ∧ head = lead ++ firstWord text ++ list ∧
      ∀ c, list.head? = some c → isBlank c = true := by
  obtain ⟨lead, rest, hlead, htext, hrest⟩ := exists_firstWord text
  have hnone : ¬ HasWord fromWord (lead ++ firstWord text) := by
    simpa using not_hasWord_pad isKeyword_from hlead blanks_nil (not_hasWord_from hselect)
  -- behind the first word the text ends, which it cannot with a `FROM` to come, or a blank stands
  cases rest with
  | nil =>
    rw [List.append_nil] at htext
    rw [htext, cutAtWord?_eq_none_iff.2 hnone] at hfrom
    cases hfrom
  | cons c r =>
    have hc : isBlank c = true := hrest c rfl
    rw [htext, cutAtWord?_append_cons isKeyword_from (isWord_of_isBlank hc) hnone] at hfrom
    obtain ⟨p, -, hp⟩ := Option.map_eq_some_iff.1 hfrom
    cases hp
    refine ⟨lead, c :: p.1, hlead, rfl, fun d hd => ?_⟩
    cases hd; exact hc

/-- The select list is one text only, and its items are what is read. -/
theorem readFields_of_head (hselect : leadingWord text = selectWord)
    (hfrom : cutAtWord? fromWord text = some (head, tail)) :
    ∃ list, SelectList text list ∧ (∀ list', SelectList text list' → list' = list) ∧
      readFields head =
        if [] ∈ items list then .error (.malformed .blankField) else .ok (items list) := by
  have hne : firstWord text ≠ [] := by
    intro h
    rw [leadingWord, h] at hselect
    revert hselect; decide
  have hword : ∀ c ∈ firstWord text, isBlank c = false := fun c hc => isBlank_of_mem_firstWord hc
  obtain ⟨lead, list, hlead, rfl, hlist⟩ := exists_selectList hselect hfrom
  have hfirst := cutAtWord?_eq_some_iff.1 hfrom
  refine ⟨list, ⟨lead, tail, hlead, hfirst⟩, fun list' hlist' => ?_,
    readFields_of_word hlead hne hword hlist⟩
  obtain ⟨lead', tail', hlead', hfirst'⟩ := hlist'
  exact eq_of_word_append hlead' hlead hne hword (hfirst'.cut_unique hfirst).1

/-- With the first `FROM` found, what counts are the table, the fields and the condition. -/
theorem readSelect_of_cut {mode : Mode} (hfrom : cutAtWord? fromWord text = some (head, tail))
    (hfields : readFields head =
      if [] ∈ items list then .error (.malformed .blankField) else .ok (items list)) :
    readSelect mode text =
      if firstWord tail = [] then .error (.malformed .noSourceTable)
      else if [] ∈ items list then .error (.malformed .blankField)
      else (readWhere mode text).map (.select (firstWord tail) (items list)) := by
  rw [readSelect, hfrom]
  simp only [hfields]
  split
  · rfl
  · split
    · rfl
    · cases readWhere mode text <;> rfl

/-! ## The grammar -/

theorem SelectFlaw.unique {n : Nat} {f g : Fault} (hf : SelectFlaw text n f)
    (hg : SelectFlaw text n g) : f = g := by
  cases hf <;> cases hg <;> rfl

theorem SelectFlaw.malformed {n : Nat} {f : Fault} (hf : SelectFlaw text n f) :
    ∃ cause, f = .malformed cause := by
  cases hf <;> exact ⟨_, rfl⟩

/-- Each flaw has a message of its own. -/
theorem SelectFlaw.message_injective {n m : Nat} {f g : Fault} (hf : SelectFlaw text n f)
    (hg : SelectFlaw text m g) (h : f.message? = g.message?) : n = m := by
  have hsame : f = g := by
    obtain ⟨c, rfl⟩ := hf.malformed
    obtain ⟨d, rfl⟩ := hg.malformed
    rw [Malformed.message_injective (Option.some.inj h)]
  cases hf <;> cases hg <;> first | rfl | cases hsame

/-- A statement with a table and fields is judged by its condition, if it has one. -/
theorem readWhere_judged (h3 : ClearTo (SelectFlaw text) 3) (build : Option Filter → Statement) :
    JudgedBy (SelectFlaw text) ((readWhere .naive text).map build) := by
  have hclear : ClearTo (SelectFlaw text) 5 → ∀ n f, ¬ SelectFlaw text n f := by
    intro h5 n f hf
    have := h5 n f hf
    cases hf <;> omega
  cases hwhere : cutAtWord? whereWord text with
  | none =>
    -- the two flaws that are left are flaws of a condition, and there is none
    have hno : ∀ before condition, ¬ FirstPlace (WordBetween whereWord text) before condition :=
      fun before condition hfirst => by
        rw [cutAtWord?_eq_some_iff.2 hfirst] at hwhere
        cases hwhere
    have h4 : ClearTo (SelectFlaw text) 4 := h3.next fun f (hf : SelectFlaw text 4 f) => by
      cases hf with
      | noEquals hfirst => exact hno _ _ hfirst
    have h5 : ClearTo (SelectFlaw text) 5 := h4.next fun f (hf : SelectFlaw text 5 f) => by
      cases hf with
      | noFilterColumn hfirst => exact hno _ _ hfirst
    rw [readWhere, hwhere]
    exact .inr ⟨⟨_, rfl⟩, hclear h5⟩
  | some p =>
    obtain ⟨before, condition⟩ := p
    have hfirst := cutAtWord?_eq_some_iff.1 hwhere
    rw [readWhere, hwhere]
    simp only
    cases hequals : cut? '=' condition with
    | none =>
      rw [readFilter_of_not_cut hequals]
      exact h3.judged (.noEquals hfirst (cut?_eq_none_iff.1 hequals))
    | some q =>
      have h4 : ClearTo (SelectFlaw text) 4 := h3.next fun f (hf : SelectFlaw text 4 f) => by
        cases hf with
        | noEquals hfirst' hno =>
          rw [(hfirst'.cut_unique hfirst).2, ← cut?_eq_none_iff, hequals] at hno
          cases hno
      obtain ⟨left, right⟩ := q
      obtain ⟨rfl, hleft⟩ := cut?_eq_some_iff.1 hequals
      -- only the strict reader looks at the value
      have hread : ((readFilter .naive (left ++ '=' :: right)).map
          fun p => some ⟨p.1, some p.2⟩).map build =
            if strip left = [] then .error (.malformed .noFilterColumn)
            else .ok (build (some ⟨strip left, some (cleanValue right)⟩)) := by
        rw [readFilter_of_cut hequals]
        split <;> rfl
      rw [hread]
      refine h4.test (fun hcolumn => .noFilterColumn hfirst hleft (strip_eq_nil_iff.1 hcolumn))
        (fun f (hf : SelectFlaw text 5 f) => ?_) fun _ h5 => .inr ⟨⟨_, rfl⟩, hclear h5⟩
      cases hf with
      | noFilterColumn hfirst' hno hblank =>
        obtain ⟨rfl, -⟩ := eq_of_append_cons (hfirst.cut_unique hfirst').2 hleft hno
        exact strip_eq_nil_iff.2 hblank

/-- **The reader judges by the flaws**, one after another. -/
theorem readSelect_judged (hselect : leadingWord text = selectWord) :
    JudgedBy (SelectFlaw text) (readSelect .naive text) := by
  have h0 : ClearTo (SelectFlaw text) 0 := by
    intro n f hf
    cases hf <;> decide
  cases hfrom : cutAtWord? fromWord text with
  | none =>
    rw [readSelect, hfrom]
    exact h0.judged (.noSource (cutAtWord?_eq_none_iff.1 hfrom))
  | some p =>
    obtain ⟨head, tail⟩ := p
    have hfirst := cutAtWord?_eq_some_iff.1 hfrom
    have h1 : ClearTo (SelectFlaw text) 1 := h0.next fun f (hf : SelectFlaw text 1 f) => by
      cases hf with
      | noSource hno => exact hno (hasWord_iff_between.2 ⟨head, tail, hfirst.here⟩)
    obtain ⟨list, hlist, honly, hfields⟩ := readFields_of_head hselect hfrom
    rw [readSelect_of_cut hfrom hfields]
    refine h1.test (fun htable => .noSourceTable hfirst (firstWord_eq_nil_iff.1 htable))
      (fun f (hf : SelectFlaw text 2 f) => ?_) fun _ h2 => ?_
    · cases hf with
      | noSourceTable hfirst' htail =>
        rw [← (hfirst.cut_unique hfirst').2] at htail
        exact firstWord_eq_nil_iff.2 htail
    refine h2.test (fun hblank => ?_) (fun f (hf : SelectFlaw text 3 f) => ?_) fun _ h3 => ?_
    · obtain ⟨piece, hpiece, hb⟩ := nil_mem_map_strip_iff.1 hblank
      exact .blankField hlist hpiece hb
    · cases hf with
      | blankField hlist' hpiece hb =>
        rw [honly _ hlist'] at hpiece
        exact nil_mem_map_strip_iff.2 ⟨_, hpiece, hb⟩
    exact readWhere_judged h3 _

/-- **A text is read exactly if it has no flaw**, and otherwise is malformed by its first one, with a
message that none of the other flaws has. -/
theorem select_grammar (hselect : leadingWord text = selectWord) :
    (∀ f, read .naive text = .error f ↔ FirstFlaw (SelectFlaw text) f) ∧
      ((∃ st, read .naive text = .ok st) ↔ ∀ n f, ¬ SelectFlaw text n f) ∧
      (∀ n f, SelectFlaw text n f → ∃ cause, f = .malformed cause) ∧
      ∀ n m f g, SelectFlaw text n f → SelectFlaw text m g → f.message? = g.message? → n = m := by
  rw [read_of_select hselect, readSelect_strip]
  obtain ⟨herror, hok⟩ := (readSelect_judged hselect).exact fun n f g => SelectFlaw.unique
  exact ⟨herror, hok, fun n f => SelectFlaw.malformed, fun n m f g => SelectFlaw.message_injective⟩

/-- Of two flaws the first one counts: here the condition names no column as well. -/
theorem select_grammar_sample :
    leadingWord "Select city,, mark from notes where = 1".toList = selectWord ∧
      read .naive "Select city,, mark from notes where = 1".toList = .error (.malformed .blankField) ∧
      FirstFlaw (SelectFlaw "Select city,, mark from notes where = 1".toList)
        (.malformed .blankField) := by
  have hselect : leadingWord "Select city,, mark from notes where = 1".toList = selectWord := by
    decide
  have hread : read .naive "Select city,, mark from notes where = 1".toList =
      .error (.malformed .blankField) := by
    decide
  exact ⟨hselect, hread, ((select_grammar hselect).1 _).1 hread⟩

end Almanac.Statement
