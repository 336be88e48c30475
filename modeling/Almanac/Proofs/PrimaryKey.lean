import Almanac.Proofs.Lookup

/-!
# Looking a row up by its number

Rows are numbered from 1 in the order of insertion and compared by text, and a number has one
canonical text. So a look-up in the column of numbers finds the one row that has the number.

* `Table.Ok.matching_number`: the row that a number finds is the one that was inserted as such.
* `lookup_by_number`: **a look-up by number answers that row, or none**, with or without quotes
  and in either mode.
-/

namespace Almanac

open Text Statement

/-! ## Numbers as filter values -/

section

variable {n : Nat} {before after : Text}

/-- Cleaning takes the quotes off a number, and nothing of the number itself. -/
theorem cleanValue_number (hbefore : ∀ c ∈ before, isQuote c = true)
    (hafter : ∀ c ∈ after, isQuote c = true) : cleanValue (before ++ ofNat n ++ after) = ofNat n := by
  have hdigit : ∀ c ∈ ofNat n, isDecimalDigit c = true := fun c hc => isDecimalDigit_of_mem_ofNat hc
  have hstrip : strip (before ++ ofNat n ++ after) = before ++ ofNat n ++ after := by
    apply strip_of_no_blank
    intro c hc
    rcases List.mem_append.1 hc with hc | hc
    · rcases List.mem_append.1 hc with hc | hc
      · exact isBlank_of_isQuote (hbefore c hc)
      · exact isBlank_of_isDecimalDigit (hdigit c hc)
    · exact isBlank_of_isQuote (hafter c hc)
  have hquotes : trimBy isQuote (ofNat n) = ofNat n :=
    trimBy_eq_self_iff.2 ⟨fun c hc => isQuote_of_isDecimalDigit (hdigit c (List.mem_of_head? hc)),
      fun c hc => isQuote_of_isDecimalDigit (hdigit c (List.mem_of_getLast? hc))⟩
  rw [cleanValue, hstrip, trimBy_pad hbefore hafter, hquotes]

/-- No reader refuses a number. -/
theorem isIllegalValue_number (n : Nat) : isIllegalValue (ofNat n) = false := by
  rw [isIllegalValue, List.any_eq_false]
  intro c hc hillegal
  have hdigit : isDecimalDigit c = true := isDecimalDigit_of_mem_ofNat hc
  rw [Bool.or_eq_true, beq_iff_eq] at hillegal
  rcases hillegal with rfl | hquote
  · revert hdigit; decide
  · rw [isQuote_of_isDecimalDigit hdigit] at hquote; cases hquote

end

/-! ## The rows that a number finds -/

/-- A test that is met at one place of a list finds what stands there. -/
theorem filter_eq_singleton {α : Type} {p : α → Bool} {l : List α} {j : Nat} {a : α}
    (ha : l[j]? = some a) (hp : ∀ i b, l[i]? = some b → (p b = true ↔ i = j)) : l.filter p = [a] := by
  induction l generalizing j with
  | nil => simp at ha
  | cons b rest ih =>
    cases j with
    | zero =>
      have hb : p b = true := (hp 0 b rfl).2 rfl
      have hrest : rest.filter p = [] := by
        rw [List.filter_eq_nil_iff]
        intro c hc hpc
        obtain ⟨i, hi⟩ := List.mem_iff_getElem?.1 hc
        have := (hp (i + 1) c hi).1 hpc
        omega
      cases ha
      rw [List.filter_cons_of_pos hb, hrest]
    | succ j =>
      have hb : ¬ p b = true := by
        intro hb
        have := (hp 0 b rfl).1 hb
        omega
      rw [List.filter_cons_of_neg hb]
      refine ih ha fun i c hc => ?_
      have := hp (i + 1) c hc
      rw [this]; omega

namespace Table

variable {t : Table} {row : Record} {i n : Nat}

/-- A row's number is that of its place. -/
theorem Ok.get_number (h : t.Ok) (hrow : t.rows[i]? = some row) :
    row.get idColumn = .int (i + 1 : Nat) := by
  obtain ⟨hi, rfl⟩ := List.getElem?_eq_some_iff.1 hrow
  have hid := h.ids i hi
  simp only [List.get_eq_getElem] at hid
  rw [Record.get, hid]
  rfl

theorem Ok.asText_number (h : t.Ok) (hrow : t.rows[i]? = some row) :
    (row.get idColumn).asText = some (ofNat (i + 1)) := by
  rw [h.get_number hrow]
  rfl

/-- The numbers can all be shown exactly if that of the rows can. -/
theorem Ok.comparable_number_iff (h : t.Ok) :
    Comparable idColumn t.rows ↔ t.rows.length < tenTo maxIntegerDigits := by
  constructor
  · intro hall
    by_contra hlong
    obtain ⟨i, hi⟩ : ∃ i, tenTo maxIntegerDigits = i + 1 :=
      Nat.exists_eq_succ_of_ne_zero (tenTo_pos _).ne'
    have hrow : t.rows[i]? = some t.rows[i] := List.getElem?_eq_getElem (by omega)
    have hshown := hall _ (List.mem_of_getElem? hrow)
    rw [h.get_number hrow, Value.showable_int_iff, Int.natAbs_natCast, hi] at hshown
    exact Nat.lt_irrefl _ hshown
  · intro hshort row hmem
    obtain ⟨i, hrow⟩ := List.mem_iff_getElem?.1 hmem
    have hlt : i < t.rows.length := (List.getElem?_eq_some_iff.1 hrow).1
    rw [h.get_number hrow, Value.showable_int_iff, Int.natAbs_natCast]
    omega

/-- Where they cannot, it is for their digits. -/
theorem Ok.incomparable?_number (h : t.Ok) (hlong : tenTo maxIntegerDigits ≤ t.rows.length) :
    incomparable? idColumn t.rows = some .unshowable := by
  cases hk : incomparable? idColumn t.rows with
  | none =>
    have hshort := h.comparable_number_iff.1 (incomparable?_eq_none_iff.1 hk)
    omega
  | some k =>
    obtain ⟨row, hmem, hrow⟩ := List.exists_of_findSome?_eq_some hk
    obtain ⟨i, hi⟩ := List.mem_iff_getElem?.1 hmem
    rw [h.get_number hi, Value.unshowable?_int] at hrow
    split at hrow
    · cases hrow
    · exact hrow.symm

/-- **A number finds the row that was inserted as such.** -/
theorem Ok.matching_number (h : t.Ok) (hrow : t.rows[i]? = some row) :
    t.matching idColumn (ofNat (i + 1)) = [row] := by
  apply filter_eq_singleton hrow
  intro j other hother
  rw [decide_eq_true_eq, h.asText_number hother, Option.some.injEq, ofNat_injective.eq_iff]
  omega

/-- Zero finds no row, and neither does a number beyond the last one. -/
theorem Ok.matching_beyond (h : t.Ok) (hn : n = 0 ∨ t.rows.length < n) :
    t.matching idColumn (ofNat n) = [] := by
  unfold matching
  rw [List.filter_eq_nil_iff]
  intro other hmem hfound
  obtain ⟨j, hj⟩ := List.mem_iff_getElem?.1 hmem
  rw [decide_eq_true_eq, h.asText_number hj, Option.some.injEq, ofNat_injective.eq_iff] at hfound
  have hlt : j < t.rows.length := (List.getElem?_eq_some_iff.1 hj).1
  omega

end Table

variable {s : Store} {tbl : Table} {t before after : Text}

/-- **A look-up by number is one by primary key.** In any store that is reached, and in either
mode, a look-up of a number in the column of numbers, with any quotes around it or none,
answers the row that was inserted as the `n`-th, alone, if there is one, and otherwise no row.
The store stays as it is. It would fail only where there are so many rows that their numbers have too
many digits to be shown, and no machine has room for as many. -/
theorem lookup_by_number (hs : s.Reachable) (ht : s.table (.text t) = .ok tbl) (hname : SourceName t)
    (hbefore : ∀ c ∈ before, isQuote c = true) (hafter : ∀ c ∈ after, isQuote c = true)
    (mode : Mode) (n : Nat) :
    (tbl.rows.length < tenTo maxIntegerDigits →
      (1 ≤ n → n ≤ tbl.rows.length → ∃ row, tbl.rows[n - 1]? = some row ∧
        s.step mode (.execute (.text (lookupText t idColumn (before ++ ofNat n ++ after)))) =
          ⟨.ok (.rows [row]), s, []⟩) ∧
      (¬ (1 ≤ n ∧ n ≤ tbl.rows.length) →
        s.step mode (.execute (.text (lookupText t idColumn (before ++ ofNat n ++ after)))) =
          ⟨.ok (.rows []), s, []⟩)) ∧
      (tenTo maxIntegerDigits ≤ tbl.rows.length →
        s.step mode (.execute (.text (lookupText t idColumn (before ++ ofNat n ++ after)))) =
          ⟨.error (.external .unshowable), s, []⟩) := by
  have htable : tbl.Ok := hs.table_ok ht
  have hcolumn : FilterColumn idColumn := ⟨by decide, by decide, by decide⟩
  have hquery := query_lookupText ht hname hcolumn mode (before ++ ofNat n ++ after)
  rw [cleanValue_number hbefore hafter, isIllegalValue_number, if_neg (by simp)] at hquery
  refine ⟨fun hshort => ?_, fun hlong => ?_⟩
  · rw [incomparable?_eq_none_iff.2 (htable.comparable_number_iff.2 hshort)] at hquery
    rw [Store.step_execute_ok hquery]
    refine ⟨fun hpos hle => ?_, fun hout => ?_⟩
    · -- places are counted from 0, and numbers from 1
      obtain ⟨i, rfl⟩ : ∃ i, n = i + 1 := ⟨n - 1, by omega⟩
      have hrow : tbl.rows[i]? = some tbl.rows[i] := List.getElem?_eq_getElem (by omega)
      exact ⟨_, hrow, by rw [htable.matching_number hrow]⟩
    · rw [htable.matching_beyond (by omega)]
  · rw [htable.incomparable?_number hlong] at hquery
    exact Store.step_execute_error hquery

/-- The second note is found by its number, quoted or not, and there is no third one. -/
theorem lookup_by_number_sample :
    (Store.after Store.sampleRun).Reachable ∧
      (Store.after Store.sampleRun).table (.text "notes".toList) = .ok Store.sampleTable ∧
      SourceName "notes".toList ∧
      (∃ row, Store.sampleTable.rows[1]? = some row ∧
        (Store.after Store.sampleRun).step .strict
            (.execute (.text (lookupText "notes".toList idColumn (['\''] ++ ofNat 2 ++ ['\''])))) =
          ⟨.ok (.rows [row]), Store.after Store.sampleRun, []⟩) ∧
      (Store.after Store.sampleRun).step .naive
          (.execute (.text (lookupText "notes".toList idColumn ([] ++ ofNat 3 ++ [])))) =
        ⟨.ok (.rows []), Store.after Store.sampleRun, []⟩ := by
  have hreach : (Store.after Store.sampleRun).Reachable := ⟨Store.sampleRun, rfl⟩
  have hshort : Store.sampleTable.rows.length < tenTo maxIntegerDigits := lt_tenTo (by decide)
  have hquote : ∀ c ∈ ['\''], isQuote c = true := List.all_iff_forall_prop.1 (by decide)
  have hnone : ∀ c ∈ ([] : Text), isQuote c = true := List.forall_mem_nil _
  obtain ⟨hfound, -⟩ := (lookup_by_number hreach Store.table_sampleRun sourceName_notes hquote hquote
    .strict 2).1 hshort
  obtain ⟨-, habsent⟩ := (lookup_by_number hreach Store.table_sampleRun sourceName_notes hnone hnone
    .naive 3).1 hshort
  exact ⟨hreach, Store.table_sampleRun, sourceName_notes, hfound (by decide) (by decide),
    habsent (by decide)⟩

end Almanac
