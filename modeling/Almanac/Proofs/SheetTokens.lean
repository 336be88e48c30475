import Almanac.Proofs.Sheets

/-!
# The tokens of a sheet

The lines of a sheet are read token by token. Between two tokens only little counts of the place
that was reached: the word that comes next and its column. Where the line's end in front of it
belongs to does not count: behind a bare text it has been passed over already, behind a quoted one
it has not.

* `At.afterName`: **a name and its colon** open what has to be opened at their column, and close what
  stands further to the right.
* `Behind.afterValue`: **a value** is read up to the next line.
* `tokensOf_text`: so the tokens of a sheet are its names and its values.
-/

namespace Almanac.Yaml

open Text

variable {t w raw name rest : Text} {plain : Bool} {c : Char} {n column : Nat} {columns : List Nat}
  {tokens : List Token}

namespace Sheet

/-- The tokens of a value and its name. -/
def valueTokens (p : Text × Value) : List Token :=
  [.key, .scalar true p.1, .value, .scalar (lineScalar p.2).1 (lineScalar p.2).2]

/-- The tokens of a section. -/
def sectionTokens (p : Text × Record) : List Token :=
  [.key, .scalar true p.1, .value, .blockMapping] ++ p.2.flatMap valueTokens ++ [.blockEnd]

end Sheet

/-! ## Places -/

namespace Cursor

theorem advance_add (m n : Nat) (c : Cursor) : c.advance (m + n) = (c.advance m).advance n := by
  induction m generalizing c with
  | zero => rw [Nat.zero_add]; rfl
  | succ m ih => rw [Nat.add_right_comm, advance, ih]; rfl

variable {cur : Cursor}

theorem upTo_self (h : cur.ahead = t) : cur.upTo t = cur := by
  rw [upTo, h, Nat.sub_self]; rfl

/-- To go up to a place is to go on from every place in front of it. -/
theorem upTo_append {a b : Text} (h : cur.ahead = a ++ (b ++ t)) :
    cur.upTo t = (cur.upTo (b ++ t)).upTo t := by
  have hmiddle : (cur.upTo (b ++ t)).ahead = b ++ t := upTo_ahead h
  have hfirst : cur.ahead.length - t.length = a.length + b.length := by
    rw [h]; simp only [List.length_append]; omega
  have hsecond : cur.ahead.length - (b ++ t).length = a.length := by
    rw [h]; simp only [List.length_append]; omega
  have hthird : (b ++ t).length - t.length = b.length := by
    simp only [List.length_append]; omega
  rw [upTo, hfirst, advance_add, upTo, hmiddle, hthird, upTo, hsecond]

/-- A character that ends no line and has a width takes one column. -/
theorem step_of_word (h : cur.ahead = c :: t) (hbreak : isBreak c = false) (hmark : c ≠ orderMark) :
    cur.step = ⟨t, cur.index + 1, cur.line, cur.column + 1⟩ := by
  rw [step, h]
  simp only [hbreak, if_neg Bool.false_ne_true, if_neg hmark]

theorem upTo_word (h : cur.ahead = w ++ t) (hw : ∀ c ∈ w, isBreak c = false ∧ c ≠ orderMark) :
    cur.upTo t = ⟨t, cur.index + w.length, cur.line, cur.column + w.length⟩ := by
  have hlength : cur.ahead.length - t.length = w.length := by
    rw [h, List.length_append]; omega
  rw [upTo, hlength]
  clear hlength
  induction w generalizing cur with
  | nil =>
    obtain ⟨ahead, index, line, column⟩ := cur
    cases h; rfl
  | cons c r ih =>
    have hstep := step_of_word h (hw c (by simp)).1 (hw c (by simp)).2
    rw [List.length_cons, advance, ih (by rw [hstep]; rfl) fun d hd => hw d (by simp [hd]), hstep]
    simp only [Cursor.mk.injEq, true_and]
    omega

/-- Behind a line's end the column counts the spaces. -/
theorem column_upTo_newLine {front : Text} (h : cur.ahead = front ++ (newLine n ++ t)) :
    (cur.upTo t).column = n := by
  have hline : cur.ahead = (front ++ ['\n']) ++ (spaces n ++ t) := by
    rw [h]; simp [newLine]
  have hbreak : (cur.upTo (spaces n ++ t)).column = 0 := by
    have hahead : (cur.upTo ('\n' :: (spaces n ++ t))).ahead = '\n' :: (spaces n ++ t) := upTo_ahead h
    have hstep : cur.upTo (spaces n ++ t) = (cur.upTo ('\n' :: (spaces n ++ t))).step := by
      have hsplit : cur.upTo (spaces n ++ t) = (cur.upTo ('\n' :: (spaces n ++ t))).upTo (spaces n ++ t) :=
        upTo_append (a := front) (b := ['\n']) (by rw [h]; rfl)
      rw [hsplit, upTo, hahead, List.length_cons, Nat.add_sub_cancel_left]
      rfl
    rw [hstep, step, hahead]
    rfl
  have hspaces : (cur.upTo (spaces n ++ t)).ahead = spaces n ++ t := upTo_ahead hline
  rw [upTo_append hline, upTo_word hspaces, hbreak, spaces, List.length_replicate, Nat.zero_add]
  intro c hc
  rw [List.eq_of_mem_replicate hc]
  decide

end Cursor

/-! ## What stands between tokens -/

namespace Lexer

variable {lx lx' : Lexer}

theorem skipGap_startsWord (h : StartsWord w) : skipGap false w = (w, false) := by
  cases w with
  | nil => rfl
  | cons c r =>
    have hspace : c ≠ ' ' := fun hc => h.ne (c := ' ') (by decide) (by decide) (by rw [hc]; rfl)
    have hsign : c ≠ '#' := fun hc => h.ne (c := '#') (by decide) (by decide) (by rw [hc]; rfl)
    have hbreak : isBreak c = false :=
      (writable_of_letter (h c rfl)).2
    simp [skipGap, hspace, hsign, hbreak]

theorem skipGap_newLine (h : StartsWord w) (n : Nat) : skipGap false (newLine n ++ w) = (w, true) := by
  have hspaces : skipGap false (spaces n ++ w) = (w, false) := by
    induction n with
    | zero => exact skipGap_startsWord h
    | succ n ih =>
      change skipGap false (' ' :: (spaces n ++ w)) = _
      rw [skipGap, if_neg (by decide), if_neg (by decide), if_pos rfl, ih]
  change skipGap false ('\n' :: (spaces n ++ w)) = _
  rw [skipGap, if_pos (by decide), hspaces]

theorem skip_eq (h : lx.cursor.ahead.head? ≠ some orderMark) :
    lx.skip = { lx with
      cursor := lx.cursor.upTo (skipGap false lx.cursor.ahead).1
      keyMayStart := lx.keyMayStart || ((skipGap false lx.cursor.ahead).2 && !lx.inFlow) } := by
  rw [skip, if_neg fun hmark => h hmark.2]

/-- Where no gap is ahead, nothing is passed over. -/
theorem skip_self (h : skipGap false lx.cursor.ahead = (lx.cursor.ahead, false))
    (hmark : lx.cursor.ahead.head? ≠ some orderMark) : lx.skip = lx := by
  rw [skip_eq hmark, h, Cursor.upTo_self rfl, Bool.false_and, Bool.or_false]

/-! ## Leading from one place to another -/

/-- The reading of tokens leads from one place to another, in some steps. -/
def Leads (steps : Nat) (lx lx' : Lexer) : Prop :=
  ∀ fuel, lx.run none (fuel + steps) = lx'.run none fuel

theorem Leads.trans {lx'' : Lexer} {m n : Nat} (h : Leads m lx lx') (h' : Leads n lx' lx'') :
    Leads (m + n) lx lx'' := by
  intro fuel
  rw [Nat.add_comm m n, ← Nat.add_assoc, h, h']

theorem leads_fetch {settled : Lexer} (hend : lx.atEnd = false) (hsettle : lx.settle = .ok settled)
    (hfetch : settled.fetch = .ok lx') : Leads 1 lx lx' := by
  intro fuel
  rw [run, hend, if_neg Bool.false_ne_true, hsettle]
  simp only [fetchBefore_none, hfetch]

/-- A place in front of a word: its column, the columns of the open collections, and the tokens so
far. Nothing in front of the word may yet be a key, but the word may. -/
structure At (lx : Lexer) (columns : List Nat) (tokens : List Token) (column : Nat) (w : Text) :
    Prop where
  unfinished : lx.atEnd = false
  candidate : lx.candidate = none
  outer : lx.outer = []
  columns : lx.columns = columns
  tokens : lx.tokens = tokens
  keyMayStart : lx.skip.keyMayStart = true
  ahead : lx.skip.cursor.ahead = w
  column : lx.skip.cursor.column = column

/-- A place between a name and its colon: the name starts at a column and is a key if the colon
is. -/
structure Between (lx : Lexer) (columns : List Nat) (before : List Token) (name : Text) (column : Nat)
    (rest : Text) : Prop where
  candidate : ∃ k, lx.candidate = some k ∧ k.number = before.length ∧ k.column = column ∧
    k.line = lx.cursor.line ∧ lx.cursor.index ≤ k.index + keyReach
  outer : lx.outer = []
  columns : lx.columns = columns
  tokens : lx.tokens = .scalar true name :: before
  ahead : lx.cursor.ahead = ':' :: rest
  column : column < lx.cursor.column

/-- A place behind a colon, where no key may start on this line. -/
structure Behind (lx : Lexer) (columns : List Nat) (tokens : List Token) (rest : Text) : Prop where
  unfinished : lx.atEnd = false
  candidate : lx.candidate = none
  outer : lx.outer = []
  column : ∀ k, columns.head? = some k → k < lx.cursor.column
  columns : lx.columns = columns
  tokens : lx.tokens = tokens
  keyMayStart : lx.keyMayStart = false
  ahead : lx.cursor.ahead = rest

/-! ## Single tokens -/

variable {crossed : Bool} {tail : Text}

/-- What a scalar is remembered as that may yet be a key. -/
def asCandidate (lx : Lexer) : Candidate :=
  ⟨lx.tokens.length, !lx.inFlow && lx.columns.head? == some lx.cursor.column, lx.cursor.index,
    lx.cursor.line, lx.cursor.column⟩

theorem saveCandidate_eq (h : lx.candidate = none) :
    lx.saveCandidate =
      .ok { lx with candidate := if lx.keyMayStart then some lx.asCandidate else none } := by
  obtain ⟨cursor, columns, candidate, outer, keyMayStart, tokens⟩ := lx
  cases h
  cases keyMayStart <;> rfl

/-- **A bare text is taken for a scalar** where it stands behind the margin, or starts as no
boundary does. -/
theorem fetchHere_of_startsPlain (h : lx.cursor.ahead = c :: rest) (houter : lx.outer = [])
    (hmark : leadingMarks.contains c = false) (hplain : startsPlain false c rest = true)
    (hmargin : lx.cursor.column ≠ 0 ∨ c ≠ '-' ∧ c ≠ '.')
    (hindicator : c = '-' ∨ c = '?' ∨ c = ':' → endsWord rest = false) :
    lx.fetchHere = lx.fetchPlain c := by
  have hflow : lx.inFlow = false := by rw [inFlow, houter]; rfl
  have hne : ∀ m ∈ leadingMarks, c ≠ m := by
    rintro m hm rfl
    rw [List.contains_iff_mem.2 hm] at hmark; cases hmark
  have hboundary : ∀ d, d = '-' ∨ d = '.' →
      (lx.cursor.column == 0 && startsWithMark [d, d, d] (c :: rest)) = false := by
    intro d hd
    rcases hmargin with hcolumn | ⟨hdash, hpoint⟩
    · rw [beq_eq_false_iff_ne.2 hcolumn, Bool.false_and]
    · have hcd : c ≠ d := by
        rcases hd with rfl | rfl
        · exact hdash
        · exact hpoint
      simp [startsWithMark, hcd]
  have hends : ∀ d, d = '-' ∨ d = '?' ∨ d = ':' → (c == d && endsWord rest) = false := by
    intro d hd
    by_cases hcd : c = d
    · rw [hindicator (hcd ▸ hd), Bool.and_false]
    · rw [beq_eq_false_iff_ne.2 hcd, Bool.false_and]
  rw [fetchHere, h]
  simp only [hflow, hplain, startMark, endMark, hboundary '-' (.inl rfl), hboundary '.' (.inr rfl),
    hends '-' (.inl rfl), hends '?' (.inr (.inl rfl)), hends ':' (.inr (.inr rfl)), Bool.false_or,
    beq_eq_false_iff_ne.2 (hne '%' (by decide)), beq_eq_false_iff_ne.2 (hne '|' (by decide)),
    beq_eq_false_iff_ne.2 (hne '>' (by decide)), Bool.and_false, Bool.false_and,
    if_neg (hne '[' (by decide)), if_neg (hne '\x7b' (by decide)), if_neg (hne ']' (by decide)),
    if_neg (hne '\x7d' (by decide)), if_neg (hne ',' (by decide)), if_neg (hne '*' (by decide)),
    if_neg (hne '&' (by decide)), if_neg (hne '!' (by decide)), if_neg (hne '\'' (by decide)),
    if_neg (hne '"' (by decide)), if_neg Bool.false_ne_true, if_true]

/-- The scalar that a bare text is taken for, up to what stops the reader behind it. -/
theorem fetchHere_bare (h : lx.cursor.ahead = t ++ tail) (ht : Bare t) (houter : lx.outer = [])
    (hcandidate : lx.candidate = none) (hmargin : lx.cursor.column ≠ 0 ∨ StartsWord t)
    (hstop : readPlain false lx.least .none tail = ⟨[], rest, crossed⟩) :
    lx.fetchHere = .ok { lx with
      cursor := lx.cursor.upTo rest
      candidate := if lx.keyMayStart then some lx.asCandidate else none
      keyMayStart := crossed
      tokens := .scalar true t :: lx.tokens } := by
  obtain ⟨c, r, rfl⟩ := List.exists_cons_of_ne_nil ht.ne_nil
  have hmargin' : lx.cursor.column ≠ 0 ∨ c ≠ '-' ∧ c ≠ '.' := by
    rcases hmargin with hcolumn | hword
    · exact .inl hcolumn
    · refine .inr ⟨?_, ?_⟩ <;> rintro rfl <;> have := hword _ rfl <;> revert this <;> decide
  have hflow : lx.inFlow = false := by rw [inFlow, houter]; rfl
  rw [fetchHere_of_startsPlain h houter (ht.leading c rfl).1 (ht.startsPlain tail) hmargin'
    fun hc => ht.endsWord hc tail]
  rw [fetchPlain, saveCandidate_eq hcandidate]
  simp only [bind, Except.bind, pure, Except.pure, h, List.cons_append, List.drop_succ_cons,
    List.drop_zero]
  change Except.ok (takeUpTo (allowing _ (readPlain lx.inFlow lx.least .none _).crossed) (.scalar true
    (c :: (readPlain lx.inFlow lx.least .none _).text)) (readPlain lx.inFlow lx.least .none _).rest) = _
  rw [hflow, ht.readPlain hstop]
  rfl

theorem unwind_eq (h : lx.outer = []) (isInside : Nat → Bool) :
    lx.unwind isInside = { lx with
      columns := lx.columns.dropWhile isInside
      tokens := (lx.columns.takeWhile isInside).map (fun _ => .blockEnd) ++ lx.tokens } := by
  have hflow : lx.inFlow = false := by rw [inFlow, h]; rfl
  rw [unwind, hflow, if_neg Bool.false_ne_true]

theorem unwind_self {isInside : Nat → Bool} (h : ∀ k, lx.columns.head? = some k → isInside k = false) :
    lx.unwind isInside = lx := by
  obtain ⟨cursor, columns, candidate, outer, keyMayStart, tokens⟩ := lx
  unfold unwind
  split
  · rfl
  · cases columns with
    | nil => rfl
    | cons k ks =>
      have hk : isInside k = false := h k rfl
      simp [hk]

theorem fetchHere_colon (h : lx.cursor.ahead = ':' :: rest) (hcolumn : lx.cursor.column ≠ 0)
    (hrest : endsWord rest = true) : lx.fetchHere = lx.fetchValue := by
  have hmargin : (lx.cursor.column == 0) = false := beq_eq_false_iff_ne.2 hcolumn
  rw [fetchHere, h]
  simp [hmargin, hrest]

/-! ## Names and values -/

/-- The columns that stay open at a column, and the collections that end there. -/
def staying (column : Nat) (columns : List Nat) : List Nat := columns.dropWhile (column < ·)

/-- The ends of the collections that stand further to the right than a column. -/
def ended (column : Nat) (columns : List Nat) : List Token :=
  (columns.takeWhile (column < ·)).map fun _ => .blockEnd

/-- A name at a column is the first one of its collection. -/
def isFirst (column : Nat) (columns : List Nat) : Bool :=
  (staying column columns).head?.all fun innermost => innermost < column

/-- The columns that are open behind a name at a column. -/
def columnsAt (column : Nat) (columns : List Nat) : List Nat :=
  if isFirst column columns then column :: staying column columns else staying column columns

/-- The tokens in front of a name at a column: collections have ended, and its own may have started. -/
def tokensAt (column : Nat) (columns : List Nat) (tokens : List Token) : List Token :=
  (if isFirst column columns then [.blockMapping] else []) ++ (ended column columns ++ tokens)

/-- From a place in front of a word nothing but the ends of collections comes before it. -/
theorem At.fetch_eq (h : lx.At columns tokens column w) :
    lx.fetch = fetchHere { lx.skip with
      columns := staying column columns
      tokens := ended column columns ++ tokens } := by
  have hsettle : lx.skip.settle = .ok lx.skip := settle_of_key_none h.candidate h.outer
  rw [fetch, hsettle]
  simp only [bind, Except.bind]
  rw [unwind_eq (show lx.skip.outer = [] from h.outer), h.column]
  have hcolumns : lx.skip.columns = columns := h.columns
  have htokens : lx.skip.tokens = tokens := h.tokens
  rw [hcolumns, htokens]
  rfl

theorem settle_of_fresh {k : Candidate} (h : lx.candidate = some k) (houter : lx.outer = [])
    (hline : k.line = lx.cursor.line) (hindex : lx.cursor.index ≤ k.index + keyReach) :
    lx.settle = .ok lx := by
  have hstale : isStale lx.cursor k = false := by
    rw [isStale, hline, bne_self_eq_false, Bool.false_or, decide_eq_false_iff_not]
    omega
  obtain ⟨cursor, columns, candidate, outer, keyMayStart, tokens⟩ := lx
  cases h
  cases houter
  simp only [settle, forget, hstale, if_neg Bool.false_ne_true, bind, Except.bind, pure, Except.pure,
    List.mapM_nil]

/-- What stays open at a column does not stand further to the right. -/
theorem head?_staying {k : Nat} (h : (staying column columns).head? = some k) : k ≤ column := by
  have hnot := List.head?_dropWhile_not (fun k => decide (column < k)) columns
  rw [staying] at h
  rw [h] at hnot
  simpa using hnot

theorem head?_columnsAt {k : Nat} (h : (columnsAt column columns).head? = some k) : k ≤ column := by
  rw [columnsAt] at h
  split at h
  · rw [List.head?_cons, Option.some.injEq] at h
    omega
  · exact head?_staying h

/-- A name is read up to its colon. In front of it the collections end that stand further to the
right. -/
theorem At.fetch_name (h : lx.At columns tokens column (name ++ ':' :: rest)) (hname : IsName name)
    (hrest : endsWord rest = true) :
    ∃ lx', lx.fetch = .ok lx' ∧
      lx'.Between (staying column columns) (ended column columns ++ tokens) name column rest := by
  have hletters : ∀ c ∈ name, isBreak c = false ∧ c ≠ orderMark := fun c hc =>
    ⟨(writable_of_letter (hname.letters c hc)).2, by
      rintro rfl
      rcases hname.letters _ hc with hbad | hbad <;> revert hbad <;> decide⟩
  have hlength : 0 < name.length := List.length_pos_of_ne_nil hname.ne_nil
  have hword : StartsWord name := fun c hc => hname.letters c (List.mem_of_head? hc)
  set here : Lexer := { lx.skip with
    columns := staying column columns
    tokens := ended column columns ++ tokens } with hhere
  have hstart : here.keyMayStart = true := h.keyMayStart
  have hcolumn : here.cursor.column = column := h.column
  have hahead : here.cursor.ahead = name ++ ':' :: rest := h.ahead
  have hupTo := Cursor.upTo_word hahead hletters
  refine ⟨_, h.fetch_eq.trans (fetchHere_bare h.ahead (bare_of_word hname.ne_nil hname.letters) h.outer
    h.candidate (.inr hword) (readPlain_colon hrest)), ⟨here.asCandidate, ?_, rfl, hcolumn, ?_, ?_⟩,
    h.outer, rfl, rfl, ?_, ?_⟩
  · exact if_pos hstart
  · change here.cursor.line = (here.cursor.upTo (':' :: rest)).line
    rw [hupTo]
  · have hshort := hname.short
    change (here.cursor.upTo (':' :: rest)).index ≤ here.cursor.index + 1024
    rw [hupTo]
    dsimp only
    omega
  · change (here.cursor.upTo (':' :: rest)).ahead = _
    rw [hupTo]
  · change column < (here.cursor.upTo (':' :: rest)).column
    rw [hupTo, hcolumn]
    dsimp only
    omega

/-- Between a name and its colon, both are still a key. -/
theorem Between.settle (h : lx.Between columns tokens name column rest) : lx.settle = .ok lx := by
  obtain ⟨k, hcandidate, -, -, hline, hindex⟩ := h.candidate
  exact settle_of_fresh hcandidate h.outer hline hindex

/-- The colon makes a key of the name, and starts a collection if the name is its first. -/
theorem Between.fetch_colon
    (h : lx.Between (staying column columns) (ended column columns ++ tokens) name column rest)
    (hrest : endsWord rest = true) :
    ∃ lx', lx.fetch = .ok lx' ∧ lx'.Behind (columnsAt column columns)
      (.value :: .scalar true name :: .key :: tokensAt column columns tokens) rest := by
  obtain ⟨k, hcandidate, hnumber, hplace, -, -⟩ := h.candidate
  have hcolumn := h.column
  have hskip : lx.skip = lx := by
    refine skip_self ?_ ?_
    · rw [h.ahead]; rfl
    · rw [h.ahead]
      simp [orderMark]
  have hunwind : lx.unwind (fun k => lx.cursor.column < k) = lx := by
    refine unwind_self fun k hk => ?_
    rw [h.columns] at hk
    have hle := head?_staying hk
    rw [decide_eq_false_iff_not]
    omega
  have hopens : lx.opensAt column = isFirst column columns := by
    have hflow : lx.inFlow = false := by rw [inFlow, h.outer]; rfl
    rw [opensAt, hflow, h.columns]
    rfl
  have hlength : (Token.scalar true name :: (ended column columns ++ tokens)).length - k.number = 1 := by
    rw [hnumber, List.length_cons]
    omega
  have hfetch : lx.fetch = lx.fetchValue := by
    rw [fetch, hskip, h.settle]
    simp only [bind, Except.bind]
    rw [hunwind]
    exact fetchHere_colon h.ahead (by omega) hrest
  rw [fetchValue, hcandidate] at hfetch
  simp only [hplace, hopens, hlength, h.tokens, h.columns] at hfetch
  have hstep : lx.cursor.step = ⟨rest, lx.cursor.index + 1, lx.cursor.line, lx.cursor.column + 1⟩ :=
    Cursor.step_of_word h.ahead (by decide) (by decide)
  refine ⟨_, hfetch, rfl, rfl, h.outer, fun k hk => ?_, rfl, rfl, rfl, congrArg Cursor.ahead hstep⟩
  · change k < lx.cursor.step.column
    rw [hstep]
    have hle := head?_columnsAt hk
    dsimp only
    omega

/-- **A name and its colon are a key.** In front of them the collections end that stand further to
the right, and one starts if the name is its first. -/
theorem At.afterName (h : lx.At columns tokens column (name ++ ':' :: rest)) (hname : IsName name)
    (hrest : endsWord rest = true) :
    ∃ lx', Leads 2 lx lx' ∧ lx'.Behind (columnsAt column columns)
      (.value :: .scalar true name :: .key :: tokensAt column columns tokens) rest := by
  obtain ⟨named, hfetch, hnamed⟩ := h.fetch_name hname hrest
  obtain ⟨lx', hcolon, hbehind⟩ := hnamed.fetch_colon hrest
  have hend : named.atEnd = false := by rw [atEnd, hnamed.tokens]; rfl
  exact ⟨lx', (leads_fetch h.unfinished (settle_of_key_none h.candidate h.outer) hfetch).trans
    (leads_fetch hend hnamed.settle hcolon), hbehind⟩

/-- A word that is ahead may be a key if keys may start. -/
theorem at_word (hend : lx.atEnd = false) (hcandidate : lx.candidate = none) (houter : lx.outer = [])
    (hstart : lx.keyMayStart = true) (hahead : lx.cursor.ahead = w) (hw : StartsWord w) :
    lx.At lx.columns lx.tokens lx.cursor.column w := by
  have hmark : w.head? ≠ some orderMark := hw.ne (by decide) (by decide)
  have hskip : lx.skip = lx :=
    skip_self (by rw [hahead, skipGap_startsWord hw]) (by rwa [hahead])
  exact ⟨hend, hcandidate, houter, rfl, rfl, by rw [hskip, hstart], by rw [hskip, hahead],
    by rw [hskip]⟩

/-- The word of the next line may be a key in any case. -/
theorem at_newLine (hend : lx.atEnd = false) (hcandidate : lx.candidate = none)
    (houter : lx.outer = []) (hahead : lx.cursor.ahead = newLine n ++ w) (hw : StartsWord w) :
    lx.At lx.columns lx.tokens n w := by
  have hflow : lx.inFlow = false := by rw [inFlow, houter]; rfl
  have hskip : lx.skip = { lx with cursor := lx.cursor.upTo w, keyMayStart := true } := by
    rw [skip_eq (by rw [hahead]; simp [newLine, orderMark]), hahead, skipGap_newLine hw, hflow]
    simp
  have hline : lx.cursor.ahead = [] ++ (newLine n ++ w) := hahead
  refine ⟨hend, hcandidate, houter, rfl, rfl, ?_, ?_, ?_⟩
  · rw [hskip]
  · rw [hskip]
    exact Cursor.upTo_ahead hahead
  · rw [hskip]
    exact Cursor.column_upTo_newLine hline

/-- No gap starts with what is written of a scalar. -/
theorem skipGap_reads (h : Reads raw plain t) (tail : Text) :
    skipGap false (' ' :: (raw ++ tail)) = (raw ++ tail, false) := by
  have hword : ∀ c r, raw = c :: r → c ≠ ' ' ∧ c ≠ '#' ∧ isBreak c = false := by
    rintro c r rfl
    cases h with
    | bare hbare =>
      refine ⟨(hbare.leading c rfl).2, ?_, (hbare.line c (by simp)).1⟩
      rintro rfl
      have := (hbare.leading '#' rfl).1
      revert this; decide
    | quoted hline => decide
  have hne : raw ≠ [] := by
    cases h with
    | bare hbare => exact hbare.ne_nil
    | quoted hline => simp
  obtain ⟨c, r, rfl⟩ := List.exists_cons_of_ne_nil hne
  obtain ⟨hspace, hsign, hbreak⟩ := hword c r rfl
  simp [skipGap, hspace, hsign, hbreak, show isBreak ' ' = false from rfl]

/-- The scalar that a text between quotes is taken for. -/
theorem fetchHere_quoted (h : lx.cursor.ahead = '\'' :: (doubled t ++ ['\'']) ++ rest)
    (ht : ∀ c ∈ t, isBreak c = false) (hrest : rest.head? ≠ some '\'')
    (hstart : lx.keyMayStart = false) :
    lx.fetchHere = .ok { lx with
      cursor := lx.cursor.upTo rest
      tokens := .scalar false t :: lx.tokens } := by
  have hahead : lx.cursor.ahead = '\'' :: (doubled t ++ '\'' :: rest) := by
    rw [h, List.cons_append, List.append_assoc]; rfl
  have hread : readSingle .none (doubled t ++ '\'' :: rest) = .ok (t, rest) :=
    readSingle_doubled ht hrest []
  have hquote : lx.fetchHere = lx.fetchQuoted (readSingle .none) := by
    rw [fetchHere, hahead]
    simp [startsWithMark, startMark, endMark]
  have hsave : lx.saveCandidate = .ok lx := by
    rw [saveCandidate, hstart, if_neg Bool.false_ne_true]
  rw [hquote, fetchQuoted, hsave]
  simp only [bind, Except.bind, pure, Except.pure, hahead, List.drop_succ_cons, List.drop_zero, hread]
  rw [← hstart]
  rfl

/-- Behind a colon and a blank there is only a scalar to be read. -/
theorem Behind.fetch_eq (h : lx.Behind columns tokens (' ' :: t))
    (hgap : skipGap false (' ' :: t) = (t, false)) :
    lx.fetch = fetchHere { lx with
      cursor := ⟨t, lx.cursor.index + 1, lx.cursor.line, lx.cursor.column + 1⟩ } := by
  have hahead : lx.cursor.ahead = [' '] ++ t := h.ahead
  set here : Lexer := { lx with
    cursor := ⟨t, lx.cursor.index + 1, lx.cursor.line, lx.cursor.column + 1⟩ } with hhere
  have hskip : lx.skip = here := by
    rw [hhere, skip_eq (by rw [h.ahead]; simp [orderMark]), h.ahead, hgap, h.keyMayStart,
      Cursor.upTo_word hahead (List.all_iff_forall_prop.1 (by decide))]
    obtain ⟨cursor, columns, candidate, outer, keyMayStart, tokens⟩ := lx
    cases h.keyMayStart
    rfl
  have hsettle : here.settle = .ok here := settle_of_key_none h.candidate h.outer
  rw [fetch, hskip, hsettle]
  simp only [bind, Except.bind]
  refine congrArg fetchHere (unwind_self fun k hk => ?_)
  have hk' : columns.head? = some k := by rw [← h.columns]; exact hk
  have := h.column k hk'
  rw [decide_eq_false_iff_not, hhere]
  dsimp only
  omega

/-- **A value is read up to the next line**, whether quotes stand around it or not. -/
theorem Behind.afterValue {top : Nat} {outer : List Nat}
    (h : lx.Behind (top :: outer) tokens (' ' :: (raw ++ (newLine n ++ w)))) (hraw : Reads raw plain t)
    (hw : StartsWord w) (hn : n ≤ top) :
    ∃ lx', Leads 1 lx lx' ∧ lx'.At (top :: outer) (.scalar plain t :: tokens) n w := by
  have hfetch := h.fetch_eq (skipGap_reads hraw _)
  set here : Lexer := { lx with
    cursor := ⟨raw ++ (newLine n ++ w), lx.cursor.index + 1, lx.cursor.line, lx.cursor.column + 1⟩ }
  have hstart : here.keyMayStart = false := h.keyMayStart
  have hcolumns : here.columns = top :: outer := h.columns
  have htokens : here.tokens = tokens := h.tokens
  have hleads : ∀ {lx'}, here.fetchHere = .ok lx' → Leads 1 lx lx' := fun hlx' =>
    leads_fetch h.unfinished (settle_of_key_none h.candidate h.outer) (hfetch.trans hlx')
  cases hraw with
  | bare hbare =>
    -- the reader has passed over the line's end already
    have hleast : n < here.least := by
      rw [least, hcolumns]
      change n < top + 1
      omega
    have hbehind : here.cursor.ahead = t ++ (newLine n ++ w) := rfl
    have hscalar := fetchHere_bare hbehind hbare h.outer h.candidate (.inl (Nat.succ_ne_zero _))
      (readPlain_newLine hw hleast)
    have hahead : (here.cursor.upTo w).ahead = w := by
      have hsplit : here.cursor.ahead = (t ++ newLine n) ++ w := (List.append_assoc _ _ _).symm
      exact Cursor.upTo_ahead hsplit
    have hcolumn : (here.cursor.upTo w).column = n := Cursor.column_upTo_newLine rfl
    rw [hstart, if_neg Bool.false_ne_true, htokens] at hscalar
    refine ⟨_, hleads hscalar, ?_⟩
    rw [← hcolumns, ← hcolumn]
    exact at_word rfl rfl h.outer rfl hahead hw
  | quoted hline =>
    have hbehind : here.cursor.ahead = '\'' :: (doubled t ++ ['\'']) ++ (newLine n ++ w) := rfl
    have hscalar := fetchHere_quoted hbehind hline (by simp [newLine]) hstart
    have hahead : (here.cursor.upTo (newLine n ++ w)).ahead = newLine n ++ w := Cursor.upTo_ahead rfl
    rw [htokens] at hscalar
    refine ⟨_, hleads hscalar, ?_⟩
    rw [← hcolumns]
    exact at_newLine rfl h.candidate h.outer hahead hw

/-! ## Lines -/

variable {p : Text × Value} {settings : Record}

/-- **The line of a value** is read up to the next line. -/
theorem At.afterLine (h : lx.At columns tokens 2 (p.1 ++ ':' :: ' ' :: (scalar 4 p.2 ++ (newLine n ++ w))))
    (hname : IsName p.1) (hvalue : FitsLine p.2) (hcolumns : columnsAt 2 columns = [2, 0])
    (hw : StartsWord w) (hn : n ≤ 2) :
    ∃ lx', Leads 3 lx lx' ∧ lx'.At [2, 0] ((Sheet.valueTokens p).reverse ++ tokensAt 2 columns tokens) n w := by
  obtain ⟨named, hfirst, hnamed⟩ := h.afterName hname rfl
  rw [hcolumns] at hnamed
  obtain ⟨lx', hlast, hat⟩ := hnamed.afterValue (reads_scalar hvalue 4) hw hn
  exact ⟨lx', hfirst.trans hlast, hat⟩

/-- The lines of values, one after the other. -/
theorem At.afterLines (h : lx.At columns tokens 2 (p.1 ++ ':' :: ' ' :: (scalar 4 p.2 ++
      (settings.flatMap Sheet.valueLine ++ (newLine 0 ++ w)))))
    (hnames : ∀ q ∈ p :: settings, IsName q.1) (hvalues : ∀ q ∈ p :: settings, FitsLine q.2)
    (hcolumns : columnsAt 2 columns = [2, 0]) (hw : StartsWord w) :
    ∃ lx', Leads (3 * (p :: settings).length) lx lx' ∧
      lx'.At [2, 0] (((p :: settings).flatMap Sheet.valueTokens).reverse ++ tokensAt 2 columns tokens) 0 w := by
  -- the first name may open the collection of the values, the others find it open
  induction settings generalizing lx columns tokens p with
  | nil =>
    obtain ⟨lx', hleads, hat⟩ := h.afterLine (hnames p (by simp)) (hvalues p (by simp)) hcolumns hw
      (Nat.zero_le 2)
    exact ⟨lx', hleads, by simpa using hat⟩
  | cons q settings ih =>
    have hq := hnames q (by simp)
    have hlines : ((q :: settings).flatMap Sheet.valueLine ++ (newLine 0 ++ w)) = newLine 2 ++ (q.1 ++
        ':' :: ' ' :: (scalar 4 q.2 ++ (settings.flatMap Sheet.valueLine ++ (newLine 0 ++ w)))) := by
      simp [Sheet.valueLine]
    rw [hlines] at h
    obtain ⟨mid, hfirst, hmid⟩ := h.afterLine (hnames p (by simp)) (hvalues p (by simp)) hcolumns
      (hq.startsWord _) le_rfl
    obtain ⟨lx', hrest, hat⟩ := ih hmid (fun r hr => hnames r (by simp_all))
      (fun r hr => hvalues r (by simp_all)) rfl
    have hsteps : 3 * (p :: q :: settings).length = 3 + 3 * (q :: settings).length := by
      simp only [List.length_cons]; omega
    rw [hsteps]
    refine ⟨lx', hfirst.trans hrest, ?_⟩
    have htokens : tokensAt 2 [2, 0] ((Sheet.valueTokens p).reverse ++ tokensAt 2 columns tokens) =
        (Sheet.valueTokens p).reverse ++ tokensAt 2 columns tokens := rfl
    rw [htokens] at hat
    rwa [List.flatMap_cons, List.reverse_append, List.append_assoc]

/-- **The lines of a section** are read up to the next one, behind which its values are closed. -/
theorem At.afterSection {s : Text × Record}
    (h : lx.At columns tokens 0 (Sheet.sectionLines s ++ (newLine 0 ++ w))) (hne : s.2 ≠ [])
    (hname : IsName s.1) (hnames : ∀ q ∈ s.2, IsName q.1) (hvalues : ∀ q ∈ s.2, FitsLine q.2)
    (hcolumns : columnsAt 0 columns = [0]) (hw : StartsWord w) :
    ∃ lx' tokens', Leads (2 + 3 * s.2.length) lx lx' ∧ lx'.At [2, 0] tokens' 0 w ∧
      .blockEnd :: tokens' = (Sheet.sectionTokens s).reverse ++ tokensAt 0 columns tokens := by
  obtain ⟨name, settings⟩ := s
  obtain ⟨q, settings, rfl⟩ := List.exists_cons_of_ne_nil hne
  have hlines : Sheet.sectionLines (name, q :: settings) ++ (newLine 0 ++ w) = name ++ ':' ::
      (newLine 2 ++ (q.1 ++ ':' :: ' ' :: (scalar 4 q.2 ++ (settings.flatMap Sheet.valueLine ++
        (newLine 0 ++ w))))) := by
    simp [Sheet.sectionLines, Sheet.valueLine]
  rw [hlines] at h
  obtain ⟨named, hfirst, hnamed⟩ := h.afterName hname rfl
  rw [hcolumns] at hnamed
  have hat := at_newLine hnamed.unfinished hnamed.candidate hnamed.outer hnamed.ahead
    ((hnames q (by simp)).startsWord _)
  rw [hnamed.columns, hnamed.tokens] at hat
  obtain ⟨lx', hrest, hat'⟩ := hat.afterLines hnames hvalues rfl hw
  refine ⟨lx', _, hfirst.trans hrest, hat', ?_⟩
  simp [Sheet.sectionTokens, tokensAt, isFirst, staying, ended]

/-- The lines of sections, one after the other. -/
theorem At.afterSections {s : Text × Record} {sheet : Sheet}
    (h : lx.At columns tokens 0 (Sheet.text (s :: sheet))) (hne : ∀ p ∈ s :: sheet, p.2 ≠ [])
    (hnames : ∀ p ∈ s :: sheet, IsName p.1 ∧ ∀ q ∈ p.2, IsName q.1)
    (hvalues : ∀ p ∈ s :: sheet, ∀ q ∈ p.2, FitsLine q.2) (hcolumns : columnsAt 0 columns = [0]) :
    ∃ lx' tokens', Leads ((s :: sheet).map fun p => 2 + 3 * p.2.length).sum lx lx' ∧
      lx'.At [2, 0] tokens' 0 [] ∧
      .blockEnd :: tokens' = ((s :: sheet).flatMap Sheet.sectionTokens).reverse ++ tokensAt 0 columns tokens := by
  -- a section ends only where the next one starts, so one end is always left over
  induction sheet generalizing lx columns tokens s with
  | nil =>
    have hlines : Sheet.text [s] = Sheet.sectionLines s ++ (newLine 0 ++ []) := by
      simp [Sheet.text]
    rw [hlines] at h
    obtain ⟨lx', tokens', hleads, hat, htokens⟩ := h.afterSection (hne s (by simp))
      (hnames s (by simp)).1 (hnames s (by simp)).2 (hvalues s (by simp)) hcolumns
      (fun c hc => by cases hc)
    exact ⟨lx', tokens', by simpa using hleads, hat, by simpa using htokens⟩
  | cons p sheet ih =>
    have hlines : Sheet.text (s :: p :: sheet) = Sheet.sectionLines s ++ (newLine 0 ++
        Sheet.text (p :: sheet)) := by
      simp [Sheet.text]
    have hrest : ∀ r ∈ p :: sheet, r ∈ s :: p :: sheet := fun r hr => List.mem_cons_of_mem _ hr
    rw [hlines] at h
    obtain ⟨mid, tokens₁, hfirst, hmid, htokens₁⟩ := h.afterSection (hne s (by simp))
      (hnames s (by simp)).1 (hnames s (by simp)).2 (hvalues s (by simp)) hcolumns
      (Sheet.startsWord_text fun r hr => (hnames r (hrest r hr)).1)
    obtain ⟨lx', tokens', hlast, hat, htokens⟩ := ih hmid (fun r hr => hne r (hrest r hr))
      (fun r hr => hnames r (hrest r hr)) (fun r hr => hvalues r (hrest r hr)) rfl
    refine ⟨lx', tokens', hfirst.trans hlast, hat, ?_⟩
    have hclosed : tokensAt 0 [2, 0] tokens₁ = .blockEnd :: tokens₁ := rfl
    rw [htokens, hclosed, htokens₁]
    simp

/-- At the end of the text all collections end. -/
theorem At.fetch_end (h : lx.At [2, 0] tokens 0 []) :
    ∃ lx', Leads 1 lx lx' ∧ lx'.tokens = .finish :: .blockEnd :: .blockEnd :: tokens := by
  set here : Lexer := { lx.skip with
    columns := staying 0 [2, 0]
    tokens := ended 0 [2, 0] ++ tokens }
  have hahead : here.cursor.ahead = [] := h.ahead
  have houter : here.outer = [] := h.outer
  have hcandidate : here.candidate = none := h.candidate
  have hend : here.fetchHere = .ok { here with
      columns := []
      tokens := .finish :: .blockEnd :: here.tokens } := by
    rw [fetchHere_nil hahead, fetchEnd, unwind_eq houter, dropCandidate]
    simp only [hcandidate]
    rfl
  exact ⟨_, leads_fetch h.unfinished (settle_of_key_none h.candidate h.outer) (h.fetch_eq.trans hend),
    rfl⟩

end Lexer

namespace Sheet

open Lexer

theorem steps_le_length {s : Sheet} (h : ∀ p ∈ s, p.1 ≠ []) :
    (s.map fun p => 2 + 3 * p.2.length).sum ≤ s.text.length := by
  have hvalues : ∀ settings : Record, 3 * settings.length ≤ (settings.flatMap valueLine).length := by
    intro settings
    induction settings with
    | nil => exact le_rfl
    | cons q settings ih =>
      have hline : 3 ≤ (valueLine q).length := by
        simp only [valueLine, newLine, spaces, List.length_append, List.length_cons,
          List.length_replicate]
        omega
      rw [List.flatMap_cons, List.length_append, List.length_cons]
      omega
  induction s with
  | nil => exact le_rfl
  | cons p s ih =>
    have hname : 0 < p.1.length := List.length_pos_of_ne_nil (h p (by simp))
    have hrest := ih fun q hq => h q (by simp [hq])
    have hlines := hvalues p.2
    simp only [List.map_cons, List.sum_cons]
    simp only [text, List.flatMap_cons, sectionLines, List.length_append, List.length_cons] at hrest ⊢
    omega

/-- **The tokens of a sheet are its names and its values.** -/
theorem tokensOf_text {s : Sheet} (h : s.Ok) :
    tokensOf ⟨s.text, none⟩ = .blockMapping :: s.flatMap sectionTokens ++ [.blockEnd, .finish] := by
  have hsteps := steps_le_length fun p hp => (h.names p hp).1.ne_nil
  obtain ⟨p, l, rfl⟩ := List.exists_cons_of_ne_nil h.ne_nil
  have hstart : (start (text (p :: l))).At [] [] 0 (text (p :: l)) := at_word rfl rfl rfl rfl rfl
    (startsWord_text fun q hq => (h.names q hq).1)
  obtain ⟨last, tokens, hleads, hlast, htokens⟩ := hstart.afterSections h.section_ne_nil h.names
    h.values rfl
  obtain ⟨lx', hend, hfinished⟩ := hlast.fetch_end
  have hall := hleads.trans hend
  have hrun : tokensOf ⟨text (p :: l), none⟩ = lx'.tokens.reverse := by
    have hfuel := hall ((text (p :: l)).length + 2 -
      (((p :: l).map fun q => 2 + 3 * q.2.length).sum + 1))
    rw [Nat.sub_add_cancel (by omega)] at hfuel
    rw [tokensOf, hfuel]
    have hdone : lx'.atEnd = true := atEnd_iff.2 (by rw [hfinished]; rfl)
    -- a lexer that has finished does not care how much fuel is left
    cases (text (p :: l)).length + 2 - (((p :: l).map fun q => 2 + 3 * q.2.length).sum + 1) with
    | zero => rfl
    | succ fuel => rw [run, if_pos hdone]
  rw [hrun, hfinished, htokens]
  simp [tokensAt, isFirst, staying, ended]

end Sheet

end Almanac.Yaml
