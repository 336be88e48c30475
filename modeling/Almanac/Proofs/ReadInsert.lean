import Almanac.Proofs.Written

/-!
# Reading a statement that adds a row

The reader finds the table behind the first `INTO`, the columns between the first
parentheses before `VALUES`, and the literals between the first opening parenthesis after
it and the last closing one. The literals stand behind everything that is searched for,
and so does every quote, parenthesis or keyword inside them.

* `InsertParts`: what an insertion is cut into, whatever its literals are.
* `readInsert_cases`: **a text without such parts is malformed**, and with them only a
  literal can be refused.
* `target_eq_some_iff`, `columnList?_eq_some_iff`, `valueList?_eq_some_iff`: what each cut finds.
* `readInsert_strip`: **the blanks around a statement do not matter.**
* `firstAt_target`: the first `INTO` is the one in front of the table.
* `insertParts_written`: an insertion that is written as such has the intended parts.
* `read_insertText`: **an insertion reads back as what it says**, in either mode.
-/

namespace Almanac.Statement

open Text

variable {insert gap₁ into gap₂ table gap₃ list gap₄ keyword gap₅ rest : Text} {before : Option Char}

/-! ## Parts -/

/-- **The parts of an insertion**: a table, columns that are not blank and not repeated, and
as many literals. Only a literal can still keep it from being read. -/
inductive InsertParts (text table : Text) (columns literals : List Text) : Prop
  | mk {before afterTable columnPart valuePart columnList valueList : Text}
      (htarget : firstAt target none text = some (before, table, afterTable))
      (hvalues : cutAtWord? valuesWord afterTable = some (columnPart, valuePart))
      (hcolumnList : columnList? columnPart = some columnList)
      (hvalueList : valueList? valuePart = some valueList)
      (hcolumns : items columnList = columns) (hliterals : items valueList = literals)
      (hblank : [] ∉ columns) (hnodup : columns.Nodup) (hlen : columns.length = literals.length)

section Parts

variable {mode : Mode} {text : Text} {columns literals : List Text}

/-- Literals are read one by one. -/
theorem readValues_eq_ok_iff {values : List Value} :
    readValues literals = .ok values ↔
      List.Forall₂ (fun raw v => readLiteral raw = .ok v) literals values := by
  induction literals generalizing values with
  | nil =>
    simp only [readValues, Except.ok.injEq, List.forall₂_nil_left_iff]
    exact eq_comm
  | cons raw rest ih =>
    simp only [readValues, bind_eq_ok_iff, List.forall₂_cons_left_iff]
    constructor
    · rintro ⟨v, hv, vs, hvs, hpure⟩
      cases hpure
      exact ⟨v, vs, hv, ih.1 hvs, rfl⟩
    · rintro ⟨v, vs, hv, hvs, rfl⟩
      exact ⟨v, hv, vs, ih.2 hvs, rfl⟩

/-- With both lists found, only their items count. -/
theorem readInsert_of_lists {before afterTable columnPart valuePart columnList valueList : Text}
    (htarget : firstAt target none text = some (before, table, afterTable))
    (hvalues : cutAtWord? valuesWord afterTable = some (columnPart, valuePart))
    (hcolumnList : columnList? columnPart = some columnList)
    (hvalueList : valueList? valuePart = some valueList) :
    readInsert text =
      if [] ∈ items columnList then .error (.malformed .blankColumn)
      else if ¬ (items columnList).Nodup then .error (.malformed .repeatedColumn)
      else if (items columnList).length ≠ (items valueList).length then
        .error (.malformed (.countMismatch (items columnList).length (items valueList).length))
      else (readValues (items valueList)).map (.insert table (items columnList)) := by
  simp only [readInsert, htarget, hvalues, hcolumnList, hvalueList, List.contains_iff_mem]
  cases readValues (items valueList) <;> rfl

/-- With its parts found, an insertion is read as soon as its literals are. -/
theorem readInsert_of_parts (h : InsertParts text table columns literals) :
    readInsert text = (readValues literals).map (.insert table columns) := by
  obtain ⟨htarget, hvalues, hcolumnList, hvalueList, rfl, rfl, hblank, hnodup, hlen⟩ := h
  rw [readInsert_of_lists htarget hvalues hcolumnList hvalueList, if_neg hblank,
    if_neg (not_not.2 hnodup), if_neg (not_not.2 hlen)]

/-- **A text without such parts is malformed.** -/
theorem readInsert_cases (text : Text) :
    (∃ cause, readInsert text = .error (.malformed cause)) ∨
      ∃ table columns literals, InsertParts text table columns literals := by
  cases htarget : firstAt target none text with
  | none => exact .inl ⟨.noTarget, by simp [readInsert, htarget]⟩
  | some p =>
    obtain ⟨before, table, afterTable⟩ := p
    cases hvalues : cutAtWord? valuesWord afterTable with
    | none => exact .inl ⟨.noValues, by simp [readInsert, htarget, hvalues]⟩
    | some q =>
      obtain ⟨columnPart, valuePart⟩ := q
      cases hcolumnList : columnList? columnPart with
      | none => exact .inl ⟨.noColumnList, by simp [readInsert, htarget, hvalues, hcolumnList]⟩
      | some columnList =>
        cases hvalueList : valueList? valuePart with
        | none =>
          exact .inl ⟨.noValueList, by simp [readInsert, htarget, hvalues, hcolumnList, hvalueList]⟩
        | some valueList =>
          -- what is left are the three tests of the lists
          rw [readInsert_of_lists htarget hvalues hcolumnList hvalueList]
          by_cases hblank : [] ∈ items columnList
          · exact .inl ⟨_, if_pos hblank⟩
          by_cases hnodup : (items columnList).Nodup
          swap
          · exact .inl ⟨_, by rw [if_neg hblank, if_pos hnodup]⟩
          by_cases hlen : (items columnList).length = (items valueList).length
          swap
          · exact .inl ⟨_, by rw [if_neg hblank, if_neg (not_not.2 hnodup), if_pos hlen]⟩
          exact .inr ⟨_, _, _, .mk htarget hvalues hcolumnList hvalueList rfl rfl hblank hnodup hlen⟩

/-- What an insertion that is read is made of. -/
theorem readInsert_eq_ok {st : Statement} (h : readInsert text = .ok st) :
    ∃ table columns literals values, InsertParts text table columns literals ∧
      readValues literals = .ok values ∧ st = .insert table columns values := by
  rcases readInsert_cases text with ⟨cause, hbad⟩ | ⟨table, columns, literals, hparts⟩
  · rw [hbad] at h; cases h
  · rw [readInsert_of_parts hparts] at h
    obtain ⟨values, hvalues, rfl⟩ := map_eq_ok_iff.1 h
    exact ⟨table, columns, literals, values, hparts, hvalues, rfl⟩

theorem read_of_parts (hword : leadingWord text = insertWord)
    (h : InsertParts (strip text) table columns literals) :
    read mode text = (readValues literals).map (.insert table columns) := by
  rw [read, leadingWord_strip, hword, if_neg (by decide), if_pos rfl, readInsert_of_parts h]

end Parts

/-! ## The table -/

theorem target_of_isWord {c : Char} (hc : isWord c = true) (t : Text) : target (some c) t = none := by
  simp [target, endsWord, hc]

theorem target_of_isBlank {c : Char} (hc : isBlank c = true) (t : Text) :
    target before (c :: t) = none := by
  have hI : spells 'I' c = false :=
    spells_of_not_isWord isKeyword_into (by decide) (isWord_of_isBlank hc)
  simp [target, intoWord, afterKeyword?, hI]

/-- The third letter tells the two words that start alike from each other. -/
theorem afterKeyword?_into_insert (hinsert : AnyCase insertWord insert) (t : Text) :
    afterKeyword? intoWord (insert ++ t) = none := by
  have hS : spells 'T' 'S' = false ∧ spells 'T' 's' = false := by decide
  cases hinsert with
  | cons _ h =>
    cases h with
    | cons _ h =>
      cases h with
      | @cons _ c _ _ hc _ =>
        have hT : spells 'T' c = false := by
          rcases hc with rfl | rfl
          · exact hS.1
          · exact hS.2
        simp only [List.cons_append, intoWord, afterKeyword?, hT]
        split
        · split <;> rfl
        · rfl

theorem isBlank_of_isTargetChar {c : Char} (hc : isTargetChar c = true) : isBlank c = false := by
  simp only [isTargetChar, Bool.and_eq_true, Bool.not_eq_true'] at hc
  exact hc.1

/-- **A target is `INTO`, a gap and a table's name**, which goes on as long as it can. -/
theorem target_eq_some_iff {t : Text} :
    target before t = some (table, rest) ↔ endsWord before = true ∧
      ∃ into gap, t = into ++ (gap ++ (table ++ rest)) ∧
        List.Forall₂ (fun k c => spells k c = true) intoWord into ∧ Gap gap ∧ table ≠ [] ∧
        (∀ c ∈ table, isTargetChar c = true) ∧
        ∀ c, rest.head? = some c → isTargetChar c = false := by
  simp only [target, Option.ite_none_right_eq_some, Option.bind_eq_some_iff,
    afterKeyword?_eq_some_iff, Option.ite_none_left_eq_some, not_or, Option.some.injEq,
    Prod.mk.injEq]
  constructor
  · rintro ⟨hbefore, behind, ⟨into, rfl, hs⟩, ⟨hgap, hname⟩, rfl, rfl⟩
    have hsplit : behind.takeWhile isBlank ++ behind.dropWhile isBlank = behind :=
      List.takeWhile_append_dropWhile
    refine ⟨hbefore, into, behind.takeWhile isBlank, ?_, hs, ⟨fun hnil => ?_, ?_⟩, hname, ?_, ?_⟩
    · rw [List.takeWhile_append_dropWhile, hsplit]
    · rw [hnil, List.nil_append] at hsplit
      exact hgap (congrArg List.length hsplit)
    · exact fun _ hc => List.mem_takeWhile_imp hc
    · exact fun _ hc => List.mem_takeWhile_imp hc
    · exact fun _ hc => eq_false_of_head?_dropWhile hc
  · rintro ⟨hbefore, into, gap, rfl, hs, hgap, hname, hchars, hrest⟩
    have hnamed : (gap ++ (table ++ rest)).dropWhile isBlank = table ++ rest := by
      rw [List.dropWhile_append_of_pos hgap.2,
        dropWhile_word_append hname fun c hc => isBlank_of_isTargetChar (hchars c hc)]
    have htake : rest.takeWhile isTargetChar = [] ∧ rest.dropWhile isTargetChar = rest := by
      cases rest with
      | nil => simp
      | cons c r => simp [hrest c rfl]
    have hlength : (table ++ rest).length ≠ (gap ++ (table ++ rest)).length := by
      have := List.length_pos_iff.2 hgap.1
      simp only [List.length_append] at this ⊢; omega
    refine ⟨hbefore, _, ⟨into, rfl, hs⟩, ?_⟩
    rw [hnamed, List.takeWhile_append_of_pos hchars, List.dropWhile_append_of_pos hchars, htake.1,
      htake.2, List.append_nil]
    exact ⟨⟨hlength, hname⟩, rfl, rfl⟩

/-- Where `INTO` stands with a gap and a table's name behind it, it gives that table. -/
theorem target_here (hbefore : endsWord before = true) (hinto : AnyCase intoWord into)
    (hgap₂ : Gap gap₂) (htable : TargetName table)
    (hrest : ∀ c, rest.head? = some c → isTargetChar c = false) :
    target before (into ++ (gap₂ ++ (table ++ rest))) = some (table, rest) := by
  refine target_eq_some_iff.2 ⟨hbefore, into, gap₂, rfl, hinto.spelled, hgap₂, htable.ne_nil,
    fun c hc => ?_, hrest⟩
  have hne : c ≠ '(' := by rintro rfl; exact htable.no_open hc
  simp [isTargetChar, htable.no_blank c hc, hne]

/-- **The first `INTO` is the one in front of the table.** -/
theorem firstAt_target (hinsert : AnyCase insertWord insert) (hgap₁ : Gap gap₁)
    (hinto : AnyCase intoWord into) (hgap₂ : Gap gap₂) (htable : TargetName table)
    (hrest : ∀ c, rest.head? = some c → isTargetChar c = false) :
    firstAt target none (insert ++ (gap₁ ++ (into ++ (gap₂ ++ (table ++ rest))))) =
      some (insert ++ gap₁, table, rest) := by
  -- inside the first word only its start could match, and it does not
  have hword := hinsert.isWord isKeyword_insert
  have h₁ := firstAt_append (a := insert) target none (gap₁ ++ (into ++ (gap₂ ++ (table ++ rest))))
    fun a' c r ha => by
      rw [lastOr_eq]
      by_cases hne : a' = []
      · subst hne
        rw [List.nil_append] at ha
        rw [if_pos rfl, ← List.cons_append, ← ha, target, afterKeyword?_into_insert hinsert]
        rfl
      · rw [if_neg hne, List.getLast?_eq_some_getLast hne]
        exact target_of_isWord (hword _ (by rw [ha]; simp)) _
  -- nor can a blank start the word
  have h₂ := firstAt_append (a := gap₁) target (lastOr none insert)
    (into ++ (gap₂ ++ (table ++ rest))) fun a' c r ha =>
      target_of_isBlank (hgap₁.2 c (by rw [ha]; simp)) _
  have hbefore : endsWord (lastOr (lastOr none insert) gap₁) = true := by
    rw [lastOr_eq, if_neg hgap₁.1, List.getLast?_eq_some_getLast hgap₁.1]
    exact endsWord_of_isBlank (hgap₁.2 _ (List.getLast_mem _))
  have hprobe := target_here hbefore hinto hgap₂ htable hrest
  have hhere : firstAt target (lastOr (lastOr none insert) gap₁)
      (into ++ (gap₂ ++ (table ++ rest))) = some ([], table, rest) := by
    obtain ⟨c, r, hcr⟩ := List.exists_cons_of_ne_nil (hinto.ne_nil isKeyword_into)
    rw [hcr, List.cons_append] at hprobe ⊢
    simp [firstAt, hprobe]
  rw [h₁, h₂, hhere]; simp

theorem isTargetChar_head_gap (hgap₃ : Blanks gap₃) (t : Text) :
    ∀ c, (gap₃ ++ '(' :: t).head? = some c → isTargetChar c = false := by
  intro c hc
  cases gap₃ with
  | nil => cases hc; decide
  | cons d r =>
    cases hc
    have hblank : isBlank c = true := hgap₃ c (by simp)
    simp [isTargetChar, hblank]

/-! ## The two lists -/

/-- **The first `VALUES` is the one between the lists.** -/
theorem cutAtWord?_values (hgap₃ : Blanks gap₃) (hlist : ¬ HasWord valuesWord list)
    (hgap₄ : Blanks gap₄) (hkeyword : AnyCase valuesWord keyword)
    (hrest : endsWord rest.head? = true) :
    cutAtWord? valuesWord (gap₃ ++ '(' :: (list ++ ')' :: (gap₄ ++ (keyword ++ rest)))) =
      some (gap₃ ++ '(' :: (list ++ ')' :: gap₄), rest) := by
  have hgap : ¬ HasWord valuesWord gap₃ :=
    not_hasWord_of_not_isWord isKeyword_values fun c hc => isWord_of_isBlank (hgap₃ c hc)
  rw [cutAtWord?_append_cons isKeyword_values (by decide) hgap,
    cutAtWord?_append_cons isKeyword_values (by decide) hlist,
    cutAtWord?_blanks_append isKeyword_values hgap₄,
    cutAtWord?_here isKeyword_values hkeyword hrest]
  simp

/-- The text between the first `(` and the first `)` behind it. -/
def EnclosedFirst (part list : Text) : Prop :=
  ∃ a b, part = a ++ '(' :: (list ++ ')' :: b) ∧ '(' ∉ a ∧ ')' ∉ list

/-- The text between the first `(` and the last `)`, which is behind it. -/
def EnclosedLast (part list : Text) : Prop :=
  ∃ a b, part = a ++ '(' :: (list ++ ')' :: b) ∧ '(' ∉ a ∧ ')' ∉ b

/-- No parenthesis opens, or none closes behind the first one that does. -/
def Unclosed (part : Text) : Prop :=
  '(' ∉ part ∨ ∃ a b, part = a ++ '(' :: b ∧ '(' ∉ a ∧ ')' ∉ b

theorem columnList?_eq_some_iff {part : Text} :
    columnList? part = some list ↔ EnclosedFirst part list := by
  simp only [columnList?, Option.bind_eq_some_iff, Option.map_eq_some_iff, Prod.exists,
    cut?_eq_some_iff, exists_and_right, exists_eq_right]
  constructor
  · rintro ⟨a, _, ⟨rfl, ha⟩, ⟨b, rfl⟩, hlist⟩
    exact ⟨a, b, rfl, ha, hlist⟩
  · rintro ⟨a, b, rfl, ha, hlist⟩
    exact ⟨a, _, ⟨rfl, ha⟩, ⟨b, rfl⟩, hlist⟩

theorem valueList?_eq_some_iff {part : Text} :
    valueList? part = some list ↔ EnclosedLast part list := by
  simp only [valueList?, Option.bind_eq_some_iff, Option.map_eq_some_iff, Prod.exists,
    cut?_eq_some_iff, cutLast?_eq_some_iff, exists_and_right, exists_eq_right]
  constructor
  · rintro ⟨a, _, ⟨rfl, ha⟩, b, rfl, hb⟩
    exact ⟨a, b, rfl, ha, hb⟩
  · rintro ⟨a, b, rfl, ha, hb⟩
    exact ⟨a, _, ⟨rfl, ha⟩, b, rfl, hb⟩

/-- A list is missing exactly if no parenthesis encloses it. -/
theorem bind_cut?_eq_none_iff {part : Text} {close : Text → Option (Text × Text)}
    (hclose : ∀ t, close t = none ↔ ')' ∉ t) :
    ((cut? '(' part).bind fun p => (close p.2).map (·.1)) = none ↔ Unclosed part := by
  cases hopen : cut? '(' part with
  | none => simp [Unclosed, cut?_eq_none_iff.1 hopen]
  | some p =>
    obtain ⟨hpart, ha⟩ := cut?_eq_some_iff.1 hopen
    have hmem : '(' ∈ part := by simp [hpart]
    simp only [Option.bind_some, Option.map_eq_none_iff, hclose, Unclosed, hmem, not_true_eq_false,
      false_or]
    constructor
    · exact fun hb => ⟨p.1, p.2, hpart, ha, hb⟩
    · rintro ⟨a, b, hab, ha', hb⟩
      obtain ⟨-, hrest⟩ := eq_of_append_cons (hpart.symm.trans hab) ha ha'
      rwa [hrest]

theorem columnList?_eq_none_iff {part : Text} : columnList? part = none ↔ Unclosed part :=
  bind_cut?_eq_none_iff fun _ => cut?_eq_none_iff

theorem valueList?_eq_none_iff {part : Text} : valueList? part = none ↔ Unclosed part :=
  bind_cut?_eq_none_iff fun _ => cutLast?_eq_none_iff

theorem columnList?_written (hgap₃ : Blanks gap₃) (hlist : ')' ∉ list) :
    columnList? (gap₃ ++ '(' :: (list ++ ')' :: gap₄)) = some list :=
  columnList?_eq_some_iff.2 ⟨gap₃, gap₄, rfl, not_mem_of_blanks hgap₃ (by decide), hlist⟩

/-- The last parenthesis closes the literals, whatever parentheses they hold. -/
theorem valueList?_written (hgap₅ : Blanks gap₅) (literalList : Text) :
    valueList? (gap₅ ++ '(' :: (literalList ++ [')'])) = some literalList :=
  valueList?_eq_some_iff.2 ⟨gap₅, [], rfl, not_mem_of_blanks hgap₅ (by decide), by simp⟩

theorem endsWord_head_gap (hgap₅ : Blanks gap₅) (t : Text) :
    endsWord (gap₅ ++ '(' :: t).head? = true := by
  cases gap₅ with
  | nil => rfl
  | cons c r => exact endsWord_of_isBlank (hgap₅ c (by simp))

/-! ## Blanks around a statement -/

/-- A target has no blanks at its end. -/
theorem target_append_blanks {b : Text} (hb : Blanks b) (before : Option Char) (t : Text) :
    target before (t ++ b) = (target before t).map fun p => (p.1, p.2 ++ b) := by
  have hkeyword : afterKeyword? intoWord (t ++ b) = (afterKeyword? intoWord t).map (· ++ b) := by
    cases b with
    | nil => simp
    | cons c r =>
      exact afterKeyword?_append_cons fun k hk =>
        spells_of_not_isWord isKeyword_into hk (isWord_of_isBlank (hb c (by simp)))
  have hhead : ∀ c, b.head? = some c → isTargetChar c = false := by
    intro c hc
    simp [isTargetChar, hb c (List.mem_of_head? hc)]
  rw [target, target, hkeyword]
  split
  · cases afterKeyword? intoWord t with
    | none => rfl
    | some rest =>
      simp only [Option.map_some, Option.bind_some, List.dropWhile_append]
      by_cases hnil : rest.dropWhile isBlank = []
      · simp [hnil, List.dropWhile_eq_nil_iff.2 hb]
      · simp only [List.isEmpty_iff, hnil, if_false, takeWhile_append_of_head hhead,
          dropWhile_append_of_head hhead, List.length_append, Nat.add_right_cancel_iff]
        split <;> rfl
  · rfl

theorem firstAt_target_pad {a b : Text} (ha : Blanks a) (hb : Blanks b) (t : Text) :
    firstAt target none (a ++ t ++ b) =
      (firstAt target none t).map fun p => (a ++ p.1, p.2.1, p.2.2 ++ b) := by
  have hblank : ∀ before, firstAt target before b = none := by
    intro before
    rw [firstAt_eq_none_iff]
    rintro u rest rfl
    cases rest with
    | nil => simp [target, intoWord, afterKeyword?]
    | cons c r => exact target_of_isBlank (hb c (by simp)) r
  have hlast : endsWord (lastOr none a) = true := by
    rw [endsWord_lastOr]
    cases hc : a.getLast? with
    | none => rfl
    | some c => exact endsWord_of_isBlank (ha c (List.mem_of_getLast? hc))
  have hsame : firstAt target (lastOr none a) (t ++ b) = firstAt target none (t ++ b) := by
    have hnone : endsWord none = true := rfl
    exact firstAt_congr (by rw [target, target, hlast, hnone])
  rw [List.append_assoc, firstAt_append target none (t ++ b) fun u c r hu =>
    target_of_isBlank (ha c (by rw [hu]; simp)) _, hsame,
    firstAt_append_of_none (target_append_blanks hb) hblank, Option.map_map]
  rfl

theorem valueList?_append_blanks {b part : Text} (hb : Blanks b) :
    valueList? (part ++ b) = valueList? part := by
  have hopen : '(' ∉ b := not_mem_of_blanks hb (by decide)
  have hclose : ')' ∉ b := not_mem_of_blanks hb (by decide)
  cases h : valueList? part with
  | some list =>
    obtain ⟨u, v, rfl, hu, hv⟩ := valueList?_eq_some_iff.1 h
    exact valueList?_eq_some_iff.2 ⟨u, v ++ b, by simp, hu, by simp [hv, hclose]⟩
  | none =>
    rw [valueList?_eq_none_iff]
    rcases valueList?_eq_none_iff.1 h with hno | ⟨u, v, rfl, hu, hv⟩
    · exact .inl (by simp [hno, hopen])
    · exact .inr ⟨u, v ++ b, by simp, hu, by simp [hv, hclose]⟩

/-- **The blanks around a statement do not matter.** -/
theorem readInsert_strip (text : Text) : readInsert (strip text) = readInsert text := by
  obtain ⟨a, b, ha, hb, ht⟩ := exists_trimBy isBlank text
  conv_rhs => rw [ht]
  change readInsert (strip text) = readInsert (a ++ strip text ++ b)
  rw [readInsert, readInsert, firstAt_target_pad ha hb]
  cases firstAt target none (strip text) with
  | none => rfl
  | some p =>
    have hcut : cutAtWord? valuesWord (p.2.2 ++ b) =
        (cutAtWord? valuesWord p.2.2).map fun q => (q.1, q.2 ++ b) := by
      simpa using cutAtWord?_pad (t := p.2.2) isKeyword_values blanks_nil hb
    simp only [Option.map_some, hcut]
    cases cutAtWord? valuesWord p.2.2 with
    | none => rfl
    | some q => simp only [Option.map_some, valueList?_append_blanks hb]

/-! ## The whole statement -/

variable {columns literals : List Text} {values : List Value} {text literalList : Text}

/-- **An insertion that is written as such has the intended parts**, whatever parentheses,
quotes and keywords stand in its literals. -/
theorem insertParts_written (hinsert : AnyCase insertWord insert) (hgap₁ : Gap gap₁)
    (hinto : AnyCase intoWord into) (hgap₂ : Gap gap₂) (hgap₃ : Blanks gap₃)
    (hlist : ListText columns list) (hgap₄ : Blanks gap₄) (hkeyword : AnyCase valuesWord keyword)
    (hgap₅ : Blanks gap₅) (hliterals : ListText literals literalList) (htable : TargetName table)
    (hcolumns : ∀ c ∈ columns, ListedColumn c) (hnodup : columns.Nodup)
    (hitems : ∀ raw ∈ literals, strip raw = raw ∧ ',' ∉ raw)
    (hlen : columns.length = literals.length)
    (htext : text = insert ++ gap₁ ++ into ++ gap₂ ++ table ++ gap₃ ++ '(' :: (list ++ ')' ::
      (gap₄ ++ keyword ++ gap₅ ++ '(' :: (literalList ++ [')'])))) :
    leadingWord text = insertWord ∧ InsertParts (strip text) table columns literals := by
  set valued := gap₅ ++ '(' :: (literalList ++ [')']) with hvalued
  set listed := gap₃ ++ '(' :: (list ++ ')' :: (gap₄ ++ (keyword ++ valued))) with hlisted
  have hparts : text = insert ++ (gap₁ ++ (into ++ (gap₂ ++ (table ++ listed)))) := by
    rw [htext]; simp [hlisted, hvalued]
  -- the text starts with a letter and ends with a parenthesis
  have hstrip : strip text = text := by
    apply trimBy_eq_self_iff.2
    constructor
    · intro c hc
      rw [hparts, List.head?_append_of_ne_nil _ (hinsert.ne_nil isKeyword_insert)] at hc
      exact hinsert.no_blank isKeyword_insert c (List.mem_of_head? hc)
    · intro c hc
      have hlast : text = (insert ++ gap₁ ++ into ++ gap₂ ++ table ++ gap₃ ++ '(' :: (list ++ ')' ::
          (gap₄ ++ keyword ++ gap₅ ++ '(' :: literalList))) ++ [')'] := by
        rw [htext]; simp
      rw [hlast, List.getLast?_concat] at hc
      cases hc; decide
  have hkind : leadingWord text = insertWord := by
    rw [hparts]
    exact leadingWord_of_anyCase isKeyword_insert (List.all_iff_forall_prop.1 (by decide)) hinsert
      (hgap₁.head _)
  have hafter : ∀ c, listed.head? = some c → isTargetChar c = false := isTargetChar_head_gap hgap₃ _
  have hcut : cutAtWord? valuesWord listed = some (gap₃ ++ '(' :: (list ++ ')' :: gap₄), valued) :=
    cutAtWord?_values hgap₃
      (not_hasWord_of_listText isKeyword_values hlist fun c hc => (hcolumns c hc).no_values)
      hgap₄ hkeyword (endsWord_head_gap hgap₅ _)
  have hclose : ')' ∉ list :=
    not_mem_of_listText hlist (by decide) (by decide) fun c hc => (hcolumns c hc).no_close
  have hblank : [] ∉ columns := fun hc => (hcolumns [] hc).ne_nil rfl
  have hcolumnItems : items list = columns :=
    items_of_listText hlist fun c hc => ⟨(hcolumns c hc).trimmed, (hcolumns c hc).no_comma⟩
  refine ⟨hkind, ?_⟩
  rw [hstrip, hparts]
  exact .mk (firstAt_target hinsert hgap₁ hinto hgap₂ htable hafter) hcut
    (columnList?_written hgap₃ hclose) (valueList?_written hgap₅ literalList) hcolumnItems
    (items_of_listText hliterals hitems) hblank hnodup hlen

/-- **An insertion reads back as what it says**, in either mode. -/
theorem read_insertText (h : InsertText table columns values text) (htable : TargetName table)
    (hcolumns : ∀ c ∈ columns, ListedColumn c) (hnodup : columns.Nodup)
    (hlen : columns.length = values.length) (mode : Mode) :
    read mode text = .ok (.insert table columns values) := by
  obtain ⟨hinsert, hgap₁, hinto, hgap₂, hgap₃, hlist, hgap₄, hkeyword, hgap₅, hspelling,
    hliterals⟩ := h
  obtain ⟨hword, hparts⟩ := insertParts_written hinsert hgap₁ hinto hgap₂ hgap₃ hlist hgap₄ hkeyword
    hgap₅ hliterals htable hcolumns hnodup (item_of_spelling hspelling)
    (hlen.trans hspelling.length_eq) rfl
  rw [read_of_parts hword hparts, readValues_of_spelling hspelling]
  rfl

end Almanac.Statement
