import Almanac.Proofs.Written

/-!
# Reading a statement that asks for rows

The reader cuts a statement at the first `FROM`, the first `WHERE` and the first `=`.
In a statement that is written as such, these are the intended ones, and nothing in the
value can move them: it stands behind all three.

* `readFilter_of_cut`: a condition is read by its first equals sign.
* `readSelect_eq_ok`, `readSelect_eq_error`: what the reader can come to, for any text.
* `readSelect_strip`: **the blanks around a statement do not matter.**
* `read_selectText`: behind `FROM` a statement is read as if nothing stood in front of it.
* `read_filterText`: **a statement with a filter reads back as what it says**, and its
  value is all that follows the equals sign, cleaned.
* `select_round_trip`: so does any statement that asks for rows, to the last character if its value
  needs no cleaning.
-/

namespace Almanac.Statement

open Text

/-! ## Conditions -/

/-- The blanks around a value are cleaned away. -/
theorem cleanValue_pad {a b : Text} (ha : Blanks a) (hb : Blanks b) (v : Text) :
    cleanValue (a ++ v ++ b) = cleanValue v := by
  rw [cleanValue, cleanValue, strip_pad ha hb]

theorem cleanValue_trimEnd (v : Text) : cleanValue (trimEnd isBlank v) = cleanValue v := by
  obtain ⟨b, hb, hv⟩ := exists_trimEnd isBlank v
  have h := cleanValue_pad blanks_nil hb (trimEnd isBlank v)
  rw [List.nil_append, ← hv] at h
  exact h.symm

/-- **A condition is read by its first equals sign**; the blanks around it do not matter. -/
theorem readFilter_of_cut {condition left right : Text}
    (h : cut? '=' condition = some (left, right)) (mode : Mode) :
    readFilter mode condition =
      if strip left = [] then .error (.malformed .noFilterColumn)
      else if mode = .strict ∧ isIllegalValue (cleanValue right) then
        .error (.malformed .illegalFilterValue)
      else .ok (strip left, cleanValue right) := by
  obtain ⟨rfl, hleft⟩ := cut?_eq_some_iff.1 h
  have hsplit : left.takeWhile isBlank ++ left.dropWhile isBlank = left :=
    List.takeWhile_append_dropWhile
  have hgap : Blanks (left.takeWhile isBlank) := fun _ hc => List.mem_takeWhile_imp hc
  have hhead : ∀ c, (left.dropWhile isBlank).head? = some c → isBlank c = false :=
    fun _ hc => eq_false_of_head?_dropWhile hc
  -- the strip leaves the equals sign, so it stays the first one
  have hstrip : strip (left ++ '=' :: right) =
      left.dropWhile isBlank ++ '=' :: trimEnd isBlank right := by
    have := strip_append_cons (t := right) hgap hhead (c := '=') (by decide)
    rwa [hsplit] at this
  have hcut : cut? '=' (left.dropWhile isBlank ++ '=' :: trimEnd isBlank right) =
      some (left.dropWhile isBlank, trimEnd isBlank right) :=
    cut?_eq_some_iff.2 ⟨rfl, fun hmem => hleft ((List.dropWhile_suffix isBlank).subset hmem)⟩
  have hcolumn : strip (left.dropWhile isBlank) = strip left := by
    have := strip_pad (t := left.dropWhile isBlank) hgap blanks_nil
    rw [List.append_nil, hsplit] at this
    exact this.symm
  simp only [readFilter, hstrip, hcut, hcolumn, cleanValue_trimEnd]

/-- A text without an equals sign is no condition. -/
theorem readFilter_of_not_cut {condition : Text} (h : cut? '=' condition = none) (mode : Mode) :
    readFilter mode condition = .error (.malformed .noEquals) := by
  have hnone : cut? '=' (strip condition) = none := by
    obtain ⟨a, b, -, -, ht⟩ := exists_trimBy isBlank condition
    rw [cut?_eq_none_iff, ht] at h
    exact cut?_eq_none_iff.2 fun hmem => h (List.mem_append_left _ (List.mem_append_right _ hmem))
  rw [readFilter, hnone]

/-- **A condition reads back as its column and its cleaned value.** -/
theorem readFilter_written {gap gap' column : Text} (hgap : Blanks gap) (hgap' : Blanks gap')
    (hcolumn : FilterColumn column) (mode : Mode) (v : Text) :
    readFilter mode (gap ++ column ++ gap' ++ '=' :: v) =
      if mode = .strict ∧ isIllegalValue (cleanValue v) then
        .error (.malformed .illegalFilterValue)
      else .ok (column, cleanValue v) := by
  have hequals : isBlank '=' = false := by decide
  have hcut : cut? '=' (gap ++ column ++ gap' ++ '=' :: v) = some (gap ++ column ++ gap', v) := by
    refine cut?_eq_some_iff.2 ⟨rfl, ?_⟩
    simp [hcolumn.no_equals, not_mem_of_blanks hgap hequals, not_mem_of_blanks hgap' hequals]
  have hleft : strip (gap ++ column ++ gap') = column := by rw [strip_pad hgap hgap', hcolumn.trimmed]
  rw [readFilter_of_cut hcut, hleft, if_neg hcolumn.ne_nil]

/-- Whatever is wrong with a condition, the statement is malformed. -/
theorem readFilter_eq_error {mode : Mode} {condition : Text} {f : Fault}
    (h : readFilter mode condition = .error f) : ∃ cause, f = .malformed cause := by
  unfold readFilter at h
  split at h
  · cases h; exact ⟨_, rfl⟩
  · simp only at h
    split at h
    · cases h; exact ⟨_, rfl⟩
    · split at h <;> cases h
      exact ⟨_, rfl⟩

/-! ## Any text -/

variable {mode : Mode} {text head : Text} {f : Fault}

/-- What a statement that is read is made of. -/
theorem readSelect_eq_ok {st : Statement} (h : readSelect mode text = .ok st) :
    ∃ head tail fields filter, cutAtWord? fromWord text = some (head, tail) ∧
      firstWord tail ≠ [] ∧ readFields head = .ok fields ∧ readWhere mode text = .ok filter ∧
      st = .select (firstWord tail) fields filter := by
  unfold readSelect at h
  split at h
  · cases h
  · rename_i head tail hcut
    simp only at h
    split at h
    · cases h
    · rename_i hname
      obtain ⟨fields, hfields, h⟩ := bind_eq_ok_iff.1 h
      obtain ⟨filter, hwhere, h⟩ := bind_eq_ok_iff.1 h
      cases h
      exact ⟨head, tail, fields, filter, hcut, hname, hfields, hwhere, rfl⟩

theorem readFields_eq_error (h : readFields head = .error f) : ∃ cause, f = .malformed cause := by
  unfold readFields at h
  simp only at h
  split at h <;> cases h
  exact ⟨_, rfl⟩

theorem readWhere_eq_error (h : readWhere mode text = .error f) : ∃ cause, f = .malformed cause := by
  unfold readWhere at h
  split at h
  · cases h
  · exact readFilter_eq_error (map_eq_error_iff.1 h)

/-- What a condition that is read is made of. -/
theorem readFilter_eq_ok {condition column value : Text}
    (h : readFilter mode condition = .ok (column, value)) :
    ∃ left right, cut? '=' condition = some (left, right) ∧ strip left ≠ [] ∧
      column = strip left ∧ value = cleanValue right := by
  cases hcut : cut? '=' condition with
  | none =>
    rw [readFilter_of_not_cut hcut] at h
    cases h
  | some p =>
    rw [readFilter_of_cut hcut] at h
    split at h
    · cases h
    · rename_i hname
      split at h
      · cases h
      · cases h
        exact ⟨p.1, p.2, rfl, hname, rfl, rfl⟩

/-- The fields that are read are the items of a list, none of them empty. -/
theorem readFields_eq_ok {fields : List Text} (h : readFields head = .ok fields) :
    ∃ list, fields = items list ∧ [] ∉ fields := by
  unfold readFields at h
  simp only at h
  split at h
  · cases h
  · rename_i hblank
    cases h
    exact ⟨_, rfl, fun hmem => hblank (List.contains_iff_mem.2 hmem)⟩

/-- A text that is read with a filter has its condition behind the first `WHERE`. -/
theorem readWhere_eq_ok {filter : Filter} (h : readWhere mode text = .ok (some filter)) :
    ∃ before condition left right, cutAtWord? whereWord text = some (before, condition) ∧
      cut? '=' condition = some (left, right) ∧ strip left ≠ [] ∧
      filter = ⟨strip left, some (cleanValue right)⟩ := by
  unfold readWhere at h
  split at h
  · cases h
  · rename_i before condition hcut
    obtain ⟨⟨column, value⟩, hread, hfilter⟩ := map_eq_ok_iff.1 h
    obtain ⟨left, right, hequals, hleft, rfl, rfl⟩ := readFilter_eq_ok hread
    cases hfilter
    exact ⟨before, condition, left, right, hcut, hequals, hleft, rfl⟩

theorem readFilter_append {b : Text} (hb : Blanks b) (condition : Text) :
    readFilter mode (condition ++ b) = readFilter mode condition := by
  have hstrip : strip (condition ++ b) = strip condition := strip_pad (a := []) blanks_nil hb
  rw [readFilter, readFilter, hstrip]

/-- The blanks around a statement do not matter to its condition. -/
theorem readWhere_pad {a b : Text} (ha : Blanks a) (hb : Blanks b) :
    readWhere mode (a ++ text ++ b) = readWhere mode text := by
  rw [readWhere, readWhere, cutAtWord?_pad isKeyword_where ha hb]
  cases cutAtWord? whereWord text with
  | none => rfl
  | some p => simp [readFilter_append hb]

/-- A statement without the blanks around it keeps its condition. -/
theorem readWhere_strip {before condition : Text}
    (h : cutAtWord? whereWord text = some (before, condition)) :
    readWhere mode (strip text) = (readFilter mode condition).map fun p => some ⟨p.1, some p.2⟩ := by
  obtain ⟨a, b, ha, hb, ht⟩ := exists_trimBy isBlank text
  have hsame : readWhere mode text = readWhere mode (strip text) := by
    conv_lhs => rw [ht]
    exact readWhere_pad ha hb
  rw [← hsame, readWhere, h]

/-- **The blanks around a statement do not matter.** -/
theorem readSelect_strip (text : Text) : readSelect mode (strip text) = readSelect mode text := by
  obtain ⟨a, b, ha, hb, ht⟩ := exists_trimBy isBlank text
  conv_rhs => rw [ht]
  change readSelect mode (strip text) = readSelect mode (a ++ strip text ++ b)
  rw [readSelect, readSelect, readWhere_pad ha hb, cutAtWord?_pad isKeyword_from ha hb]
  cases cutAtWord? fromWord (strip text) with
  | none => rfl
  | some p =>
    have hname : firstWord (p.2 ++ b) = firstWord p.2 := firstWord_pad (a := []) blanks_nil hb
    have hhead : strip (a ++ p.1) = strip p.1 := by simpa using strip_pad ha blanks_nil
    simp [readFields, hname, hhead]

/-- With a table and fields found, a statement is read as soon as its condition is. -/
theorem readSelect_eq_map {tail : Text} {fields : List Text}
    (hcut : cutAtWord? fromWord text = some (head, tail)) (hname : firstWord tail ≠ [])
    (hfields : readFields head = .ok fields) :
    readSelect mode text = (readWhere mode text).map (.select (firstWord tail) fields) := by
  rw [readSelect, hcut]
  simp only [hname, if_false, hfields]
  cases readWhere mode text <;> rfl

/-- A statement with all its parts is read to them. -/
theorem readSelect_of_parts {tail : Text} {fields : List Text} {filter : Option Filter}
    (hcut : cutAtWord? fromWord text = some (head, tail)) (hname : firstWord tail ≠ [])
    (hfields : readFields head = .ok fields) (hfilter : readWhere mode text = .ok filter) :
    readSelect mode text = .ok (.select (firstWord tail) fields filter) := by
  rw [readSelect_eq_map hcut hname hfields, hfilter]
  rfl

/-- **Whatever is wrong with a statement that asks for rows, it is malformed.** -/
theorem readSelect_eq_error (h : readSelect mode text = .error f) : ∃ cause, f = .malformed cause := by
  unfold readSelect at h
  split at h
  · cases h; exact ⟨_, rfl⟩
  · simp only at h
    split at h
    · cases h; exact ⟨_, rfl⟩
    · rcases bind_eq_error_iff.1 h with hfields | ⟨fields, -, h⟩
      · exact readFields_eq_error hfields
      · rcases bind_eq_error_iff.1 h with hwhere | ⟨filter, -, h⟩
        · exact readWhere_eq_error hwhere
        · cases h

/-! ## Select lists -/

/-- What stands behind the first word is read as a list, whatever blanks are around it. -/
theorem readFields_of_word {lead word list : Text} (hlead : Blanks lead) (hne : word ≠ [])
    (hword : ∀ c ∈ word, isBlank c = false) (hlist : ∀ c, list.head? = some c → isBlank c = true) :
    readFields (lead ++ word ++ list) =
      if [] ∈ items list then .error (.malformed .blankField) else .ok (items list) := by
  have hhead : ∀ c, (trimEnd isBlank list).head? = some c → isBlank c = true := by
    intro c hc
    obtain ⟨b, -, ht⟩ := exists_trimEnd isBlank list
    apply hlist c
    rw [ht]; simp [hc]
  have hitems : (pieces ',' ((trimEnd isBlank list).dropWhile isBlank)).map strip = items list := by
    rw [← items, items_dropWhile, items_trimEnd]
  rw [readFields, strip_word_append hlead hne hword, afterFirstWord_append hne hword hhead, hitems]
  simp only [List.contains_iff_mem]

variable {select gap₁ list gap₂ source gap₃ table gap₄ filter rest : Text} {fields : List Text}

theorem readFields_written (hselect : AnyCase selectWord select) (hgap₁ : Gap gap₁)
    (hlist : ListText fields list) (hgap₂ : Blanks gap₂) (hfields : ∀ f ∈ fields, FieldName f) :
    readFields (select ++ gap₁ ++ list ++ gap₂) = .ok fields := by
  have hhead : ∀ c, (gap₁ ++ list ++ gap₂).head? = some c → isBlank c = true := by
    rw [List.append_assoc]
    exact hgap₁.head _
  have hread := readFields_of_word blanks_nil (hselect.ne_nil isKeyword_select)
    (hselect.no_blank isKeyword_select) hhead
  have hitems : items (gap₁ ++ list ++ gap₂) = fields := by
    rw [items_pad hgap₁.2 hgap₂]
    exact items_of_listText hlist fun f hf => ⟨(hfields f hf).trimmed, (hfields f hf).no_comma⟩
  have hblank : [] ∉ fields := fun h => (hfields [] h).ne_nil rfl
  rw [hitems, if_neg hblank] at hread
  simpa using hread

/-! ## The whole statement -/

/-- The first `FROM` is the one in front of the table. -/
theorem cutAtWord?_from (hselect : AnyCase selectWord select) (hgap₁ : Gap gap₁)
    (hlist : ¬ HasWord fromWord list) (hgap₂ : Gap gap₂) (hsource : AnyCase fromWord source)
    (hgap₃ : Gap gap₃) :
    cutAtWord? fromWord (select ++ gap₁ ++ (list ++ gap₂ ++ (source ++ (gap₃ ++ rest)))) =
      some (select ++ gap₁ ++ list ++ gap₂, gap₃ ++ rest) := by
  have hword : ¬ HasWord fromWord select :=
    not_hasWord_of_length (hselect.isWord isKeyword_select) (by rw [← hselect.length_eq]; decide)
  rw [cutAtWord?_append_gap isKeyword_from hgap₁.1 hgap₁.isWord hword,
    cutAtWord?_append_gap isKeyword_from hgap₂.1 hgap₂.isWord hlist,
    cutAtWord?_here isKeyword_from hsource (hgap₃.endsWord rest)]
  simp

/-- There is no `WHERE` in front of the table. -/
theorem cutAtWord?_where (hselect : AnyCase selectWord select) (hgap₁ : Gap gap₁)
    (hlist : ¬ HasWord whereWord list) (hgap₂ : Gap gap₂) (hsource : AnyCase fromWord source)
    (hgap₃ : Gap gap₃) (rest : Text) :
    cutAtWord? whereWord (select ++ gap₁ ++ (list ++ gap₂ ++ (source ++ (gap₃ ++ rest)))) =
      (cutAtWord? whereWord rest).map fun p =>
        (select ++ gap₁ ++ (list ++ gap₂ ++ (source ++ gap₃ ++ p.1)), p.2) := by
  have hword : ¬ HasWord whereWord select :=
    not_hasWord_of_length (hselect.isWord isKeyword_select) (by rw [← hselect.length_eq]; decide)
  have hword' : ¬ HasWord whereWord source :=
    not_hasWord_of_length (hsource.isWord isKeyword_from) (by rw [← hsource.length_eq]; decide)
  rw [cutAtWord?_append_gap isKeyword_where hgap₁.1 hgap₁.isWord hword,
    cutAtWord?_append_gap isKeyword_where hgap₂.1 hgap₂.isWord hlist, ← List.append_assoc source,
    cutAtWord?_append_gap isKeyword_where hgap₃.1 hgap₃.isWord hword']
  simp only [Option.map_map]
  rfl

/-- **Behind `FROM` a statement is read as if nothing stood in front of it**: its first word is
the table, and the condition is looked for from there on. -/
theorem read_selectText (hselect : AnyCase selectWord select) (hgap₁ : Gap gap₁)
    (hlist : ListText fields list) (hgap₂ : Gap gap₂) (hsource : AnyCase fromWord source)
    (hgap₃ : Gap gap₃) (hfields : ∀ f ∈ fields, FieldName f) (hname : firstWord rest ≠ [])
    (mode : Mode) :
    read mode (select ++ gap₁ ++ (list ++ gap₂ ++ (source ++ (gap₃ ++ rest)))) =
      (readWhere mode rest).map (.select (firstWord rest) fields) := by
  have hnoFrom := not_hasWord_of_listText isKeyword_from hlist fun f hf => (hfields f hf).no_from
  have hnoWhere := not_hasWord_of_listText isKeyword_where hlist fun f hf => (hfields f hf).no_where
  have hkind : leadingWord (select ++ gap₁ ++ (list ++ gap₂ ++ (source ++ (gap₃ ++ rest)))) =
      selectWord := by
    rw [List.append_assoc]
    exact leadingWord_of_anyCase isKeyword_select (List.all_iff_forall_prop.1 (by decide)) hselect
      (hgap₁.head _)
  have htable : firstWord (gap₃ ++ rest) = firstWord rest := by
    simpa using firstWord_pad (b := []) hgap₃.2 blanks_nil
  have hwhere : readWhere mode (select ++ gap₁ ++ (list ++ gap₂ ++ (source ++ (gap₃ ++ rest)))) =
      readWhere mode rest := by
    rw [readWhere, readWhere, cutAtWord?_where hselect hgap₁ hnoWhere hgap₂ hsource hgap₃]
    cases cutAtWord? whereWord rest <;> rfl
  rw [read, leadingWord_strip, hkind, if_pos rfl, readSelect_strip,
    readSelect_eq_map (cutAtWord?_from hselect hgap₁ hnoFrom hgap₂ hsource hgap₃)
      (by rwa [htable]) (readFields_written hselect hgap₁ hlist hgap₂.2 hfields), htable, hwhere]

/-- **A statement with a filter reads back as what it says.** Its value is all that
follows the equals sign, cleaned; a strict reader looks at that value alone. -/
theorem read_filterText {column value text : Text} (h : FilterText fields table column value text)
    (hfields : ∀ f ∈ fields, FieldName f) (htable : SourceName table) (hcolumn : FilterColumn column)
    (mode : Mode) :
    read mode text =
      if mode = .strict ∧ isIllegalValue (cleanValue value) then
        .error (.malformed .illegalFilterValue)
      else .ok (.select table fields (some ⟨column, some (cleanValue value)⟩)) := by
  obtain ⟨hselect, hgap₁, hlist, hgap₂, hsource, hgap₃, hgap₄, hfilter, hgap₅, hgap₆⟩ := h
  rename_i select gap₁ list gap₂ source gap₃ gap₄ filter gap₅ gap₆
  set condition := gap₅ ++ column ++ gap₆ ++ '=' :: value with hcondition
  set sourced := table ++ gap₄ ++ (filter ++ condition) with hsourced
  have hname : firstWord sourced = table := by
    simpa [hsourced] using
      firstWord_append blanks_nil htable.ne_nil htable.no_blank (hgap₄.head (filter ++ condition))
  have hnamed : firstWord sourced ≠ [] := by
    rw [hname]
    exact htable.ne_nil
  have hends : endsWord condition.head? = true := by
    simpa [hcondition] using hgap₅.endsWord (column ++ gap₆ ++ '=' :: value)
  have hwhere : cutAtWord? whereWord sourced = some (table ++ gap₄, condition) := by
    rw [hsourced, cutAtWord?_append_gap isKeyword_where hgap₄.1 hgap₄.isWord htable.no_where,
      cutAtWord?_here isKeyword_where hfilter hends]
    simp
  have hread := read_selectText hselect hgap₁ hlist hgap₂ hsource hgap₃ hfields hnamed mode
  have htext : select ++ gap₁ ++ list ++ gap₂ ++ source ++ gap₃ ++ table ++ gap₄ ++ filter ++ gap₅ ++
      column ++ gap₆ ++ '=' :: value =
      select ++ gap₁ ++ (list ++ gap₂ ++ (source ++ (gap₃ ++ sourced))) := by
    simp [hsourced, hcondition]
  rw [htext, hread, hname, readWhere, hwhere]
  simp only [hcondition, readFilter_written hgap₅.2 hgap₆ hcolumn]
  split <;> rfl

theorem FilterValue.cleanValue_eq {value : Text} (h : FilterValue value) : cleanValue value = value := by
  rw [cleanValue, h.trimmed]
  exact trimBy_eq_self_iff.2 ⟨h.no_quote_first, h.no_quote_last⟩

/-- **A statement that asks for rows reads back as what it says**: its fields in their order, its
table, and its filter or none. -/
theorem select_round_trip {question : Option (Text × Text)} {text : Text}
    (h : SelectText fields table question text) (hfields : ∀ f ∈ fields, FieldName f)
    (htable : SourceName table)
    (hfilter : ∀ p, question = some p → FilterColumn p.1 ∧ FilterValue p.2) :
    read .naive text = .ok (.select table fields (question.map fun p => ⟨p.1, some p.2⟩)) := by
  cases h with
  | all hselect hgap₁ hlist hgap₂ hsource hgap₃ =>
    have hname : firstWord table = table := by
      simpa using firstWord_append (b := []) blanks_nil htable.ne_nil htable.no_blank (by simp)
    have hnamed : firstWord table ≠ [] := by
      rw [hname]
      exact htable.ne_nil
    have hwhere : readWhere .naive table = .ok none := by
      rw [readWhere, cutAtWord?_eq_none_iff.2 htable.no_where]
    have hread := read_selectText hselect hgap₁ hlist hgap₂ hsource hgap₃ hfields hnamed .naive
    rw [hname, hwhere] at hread
    simpa [Except.map] using hread
  | @filtered column gap value text hgap h =>
    obtain ⟨hcolumn, hvalue⟩ := hfilter _ rfl
    have hclean : cleanValue (gap ++ value) = value := by
      simpa [hvalue.cleanValue_eq] using cleanValue_pad hgap blanks_nil value
    rw [read_filterText h hfields htable hcolumn, hclean, if_neg (by simp)]
    rfl

/-- Words that look like keywords do not count as such, nor does a keyword in the value. -/
theorem select_round_trip_sample :
    SelectText ["FROMAGE".toList, "somewhere".toList] "notes".toList
        (some ("where else".toList, "it's = from".toList))
        "Select FROMAGE , somewhere from\tnotes Where where else =it's = from".toList ∧
      (∀ f ∈ ["FROMAGE".toList, "somewhere".toList], FieldName f) ∧ SourceName "notes".toList ∧
      FilterColumn "where else".toList ∧ FilterValue "it's = from".toList ∧
      read .naive "Select FROMAGE , somewhere from\tnotes Where where else =it's = from".toList =
        .ok (.select "notes".toList ["FROMAGE".toList, "somewhere".toList]
          (some ⟨"where else".toList, some "it's = from".toList⟩)) := by
  have htab : Gap ['\t'] := ⟨by decide, List.all_iff_forall_prop.1 (by decide)⟩
  have hselect : AnyCase selectWord "Select".toList := by unfold AnyCase; decide
  have hfrom : AnyCase fromWord "from".toList := by unfold AnyCase; decide
  have hwhere : AnyCase whereWord "Where".toList := by unfold AnyCase; decide
  have hlist : ListText ["FROMAGE".toList, "somewhere".toList] "FROMAGE , somewhere".toList :=
    .cons blanks_nil gap_space.2 (.one gap_space.2 blanks_nil)
  have hspelled : "Select FROMAGE , somewhere from\tnotes Where where else =it's = from".toList =
      "Select".toList ++ [' '] ++ "FROMAGE , somewhere".toList ++ [' '] ++ "from".toList ++ ['\t'] ++
        "notes".toList ++ [' '] ++ "Where".toList ++ [' '] ++ "where else".toList ++ [' '] ++
        '=' :: ([] ++ "it's = from".toList) := by
    decide
  have htext : SelectText ["FROMAGE".toList, "somewhere".toList] "notes".toList
      (some ("where else".toList, "it's = from".toList))
      "Select FROMAGE , somewhere from\tnotes Where where else =it's = from".toList := by
    rw [hspelled]
    exact .filtered blanks_nil
      (.mk hselect gap_space hlist gap_space hfrom htab gap_space hwhere gap_space gap_space.2)
  have hfields : ∀ f ∈ ["FROMAGE".toList, "somewhere".toList], FieldName f := by
    intro f hf
    rcases List.mem_pair.1 hf with rfl | rfl
    all_goals
      exact ⟨by decide, by decide, by decide, cutAtWord?_eq_none_iff.1 (by decide),
        cutAtWord?_eq_none_iff.1 (by decide)⟩
  have hname : SourceName "notes".toList :=
    ⟨by decide, List.all_iff_forall_prop.1 (by decide), cutAtWord?_eq_none_iff.1 (by decide)⟩
  have hcolumn : FilterColumn "where else".toList := ⟨by decide, by decide, by decide⟩
  have hquotes : trimBy isQuote "it's = from".toList = "it's = from".toList := by decide
  have hvalue : FilterValue "it's = from".toList :=
    ⟨by decide, (trimBy_eq_self_iff.1 hquotes).1, (trimBy_eq_self_iff.1 hquotes).2⟩
  have hread := select_round_trip htext hfields hname fun p hp => by
    cases hp
    exact ⟨hcolumn, hvalue⟩
  exact ⟨htext, hfields, hname, hcolumn, hvalue, hread⟩

end Almanac.Statement
