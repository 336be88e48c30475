import Almanac.Proofs.Recall
import Mathlib.Data.Nat.Digits.Defs

/-!
# Looking numbers and words up as they were written

A literal without quotes is turned into a value when a row is added, and a look-up compares
its own text with the text that the value has by then. So what is found again is what is
written as it would be printed: a number in its canonical decimal, a truth value in small
letters. Nothing has no text and is not found.

* `Text.ofNat_digitsValue`: **digits without superfluous zeros are the number's own**.
* `ofInt_integerValue_eq_iff`: an integer is printed as it was written exactly if it was
  written canonically.
* `asText_eq_some_iff`: the same for every literal without quotes.
* `literal_recalled`: **such a literal is found again exactly if it is canonical.**
-/

namespace Almanac

open Text Statement

/-! ## Numbers as they are printed -/

namespace Text

/-- **Digits as they are printed**: ASCII digits, and no zero in front of others. -/
structure PlainDigits (digits : Text) : Prop where
  ne_nil : digits ≠ []
  ascii : ∀ d ∈ digits, d.isDigit = true
  no_zero : digits.head? = some '0' → digits = ['0']

/-- **A canonical decimal**: such digits, with nothing in front of them but the minus of a
number that is not zero. -/
def CanonicalDecimal (t : Text) : Prop :=
  PlainDigits t ∨ ∃ digits, t = '-' :: digits ∧ PlainDigits digits ∧ digits ≠ ['0']

variable {n d : Nat} {c : Char} {digits t : Text}

theorem exists_digitChar (h : c.isDigit = true) : ∃ d < 10, c = Nat.digitChar d := by
  simp only [Char.isDigit, Bool.and_eq_true, decide_eq_true_eq, ge_iff_le,
    UInt32.le_iff_toNat_le] at h
  have hlo : 48 ≤ c.toNat := h.1
  have hhi : c.toNat ≤ 57 := h.2
  have hc : c = Char.ofNat c.toNat := (Char.ofNat_toNat c).symm
  -- ten characters are left
  have key : ∀ k ≤ 57, 48 ≤ k → ∃ d < 10, Char.ofNat k = Nat.digitChar d := by decide
  rw [hc]
  exact key c.toNat hhi hlo

theorem ofNat_of_lt (h : d < 10) : ofNat d = [Nat.digitChar d] := by
  rw [ofNat, Nat.toDigits_eq_if (by decide), if_pos h]

/-- One more digit is written behind the others. -/
theorem ofNat_ten_mul_add (hn : 0 < n) (hd : d < 10) :
    ofNat (10 * n + d) = ofNat n ++ [Nat.digitChar d] := by
  have hdiv : (10 * n + d) / 10 = n := by omega
  have hmod : (10 * n + d) % 10 = d := by omega
  rw [ofNat, Nat.toDigits_eq_if (by decide), if_neg (by omega), hdiv, hmod, ofNat]

theorem ofInt_eq (i : Int) : ofInt i = (if i < 0 then ['-'] else []) ++ ofNat i.natAbs := by
  cases i with
  | ofNat n => rfl
  | negSucc n => rw [if_pos (Int.negSucc_lt_zero n)]; rfl

theorem length_ofNat_le {n k : Nat} (hk : 0 < k) (h : n < tenTo k) : (ofNat n).length ≤ k :=
  Nat.toDigits_length 10 n k hk h

/-- A number that is not zero does not start with one. -/
theorem head?_ofNat_ne (h : 0 < n) : (ofNat n).head? ≠ some '0' := by
  induction n using Nat.strongRecOn with
  | ind n ih =>
    by_cases hlt : n < 10
    · have key : ∀ d < 10, 0 < d → Nat.digitChar d ≠ '0' := by decide
      rw [ofNat_of_lt hlt]
      simpa using key n hlt h
    · have hsplit : ofNat n = ofNat (n / 10) ++ [Nat.digitChar (n % 10)] := by
        rw [← ofNat_ten_mul_add (by omega) (Nat.mod_lt _ (by decide)), Nat.div_add_mod]
      rw [hsplit, List.head?_append_of_ne_nil _ (ofNat_ne_nil _)]
      exact ih (n / 10) (by omega) (by omega)

theorem plainDigits_ofNat (n : Nat) : PlainDigits (ofNat n) where
  ne_nil := ofNat_ne_nil n
  ascii := fun _ hd => Nat.isDigit_of_mem_toDigits (by decide) (by decide) hd
  no_zero := by
    intro hhead
    by_cases hn : n = 0
    · rw [hn]; rfl
    · exact absurd hhead (head?_ofNat_ne (by omega))

/-- **Digits without superfluous zeros are those of the number that they stand for.** -/
theorem ofNat_digitsValue (h : PlainDigits digits) : ofNat (digitsValue digits) = digits := by
  obtain ⟨hne, hascii, hzero⟩ := h
  induction digits using List.reverseRecOn with
  | nil => exact absurd rfl hne
  | append_singleton before c ih =>
    obtain ⟨d, hd, rfl⟩ := exists_digitChar (hascii c (by simp))
    rw [digitsValue_concat_digitChar before hd]
    by_cases hnil : before = []
    · subst hnil
      have hvalue : 10 * digitsValue [] + d = d := by simp [digitsValue]
      rw [hvalue, ofNat_of_lt hd, List.nil_append]
    · -- what stands before the last digit does not start with a zero, so it is no zero
      have hhead : before.head? ≠ some '0' := by
        intro hhead
        have hall := hzero (by rw [List.head?_append_of_ne_nil _ hnil]; exact hhead)
        have hlen := congrArg List.length hall
        rw [List.length_append, List.length_singleton, List.length_singleton] at hlen
        exact hnil (List.eq_nil_of_length_eq_zero (by omega))
      have hbefore : ofNat (digitsValue before) = before :=
        ih hnil (fun e he => hascii e (by simp [he])) fun hh => absurd hh hhead
      have hvalue : 0 < digitsValue before := by
        refine Nat.pos_of_ne_zero fun h0 => ?_
        rw [h0] at hbefore
        rw [← hbefore] at hhead
        exact hhead rfl
      rw [ofNat_ten_mul_add hvalue hd, hbefore]

theorem canonicalDecimal_ofInt (i : Int) : CanonicalDecimal (ofInt i) := by
  cases i with
  | ofNat n => exact .inl (plainDigits_ofNat n)
  | negSucc n =>
    refine .inr ⟨_, rfl, plainDigits_ofNat _, fun h => ?_⟩
    exact head?_ofNat_ne (Nat.succ_pos n) (by rw [h]; rfl)

theorem CanonicalDecimal.exists_digit (h : CanonicalDecimal t) : ∃ c ∈ t, c.isDigit = true := by
  rcases h with hplain | ⟨digits, rfl, hplain, -⟩
  · obtain ⟨c, hc⟩ := List.exists_mem_of_ne_nil t hplain.ne_nil
    exact ⟨c, hc, hplain.ascii c hc⟩
  · obtain ⟨c, hc⟩ := List.exists_mem_of_ne_nil digits hplain.ne_nil
    exact ⟨c, List.mem_cons_of_mem _ hc, hplain.ascii c hc⟩

end Text

/-! ## Literals without quotes -/

namespace Statement

/-- **A canonical literal**: a truth value in small letters, or a canonical decimal. -/
def CanonicalLiteral (raw : Text) : Prop :=
  raw = "true".toList ∨ raw = "false".toList ∨ CanonicalDecimal raw

variable {negative : Bool} {keyword sign digits raw : Text} {v : Value}

/-- **An integer is printed as it was written exactly if it was written canonically.** -/
theorem ofInt_integerValue_eq_iff (hsign : Sign negative sign)
    (hdigits : ∀ d ∈ digits, isDecimalDigit d = true) :
    ofInt (integerValue negative digits) = sign ++ digits ↔ CanonicalDecimal (sign ++ digits) := by
  have hminus : isDecimalDigit '-' = false := by decide
  constructor
  · intro h
    rw [← h]
    exact canonicalDecimal_ofInt _
  · intro h
    cases hsign with
    | none =>
      rcases h with hplain | ⟨ds, hds, -, -⟩
      · exact ofNat_digitsValue hplain
      · have := hdigits '-' (by rw [List.nil_append] at hds; simp [hds])
        rw [hminus] at this; cases this
    | plus =>
      rcases h with hplain | ⟨ds, hds, -, -⟩
      · exact absurd (hplain.ascii '+' (by simp)) (by decide)
      · cases hds
    | minus =>
      rcases h with hplain | ⟨ds, hds, hplain, hzero⟩
      · exact absurd (hplain.ascii '-' (by simp)) (by decide)
      · have hsame : digits = ds := (List.cons.inj hds).2
        subst hsame
        have hprinted := ofNat_digitsValue hplain
        -- a value of zero would be printed as one
        obtain ⟨n, hn⟩ : ∃ n, digitsValue digits = n + 1 := by
          refine Nat.exists_eq_succ_of_ne_zero fun h0 => hzero ?_
          rw [← hprinted, h0]; rfl
        have hvalue : integerValue true digits = .negSucc n := by
          rw [integerValue, if_pos rfl, hn]; rfl
        rw [hn] at hprinted
        rw [hvalue, ofInt, hprinted]; rfl

/-- Neither quotes nor blanks stand around such a literal, so a filter compares it as it is. -/
theorem cleanValue_of_spelling (h : Spelling v raw) (hbare : ∀ x, v ≠ .text x) :
    cleanValue raw = raw := by
  have hword : ∀ {keyword}, (∀ k ∈ keyword, isQuote k = false ∧ isQuote k.toLower = false) →
      AnyCase keyword raw → ∀ c ∈ raw, isQuote c = false := fun hk h => h.forall hk
  have hquote : ∀ c ∈ raw, isQuote c = false := by
    cases h with
    | null h => exact hword (List.all_iff_forall_prop.1 (by decide)) h
    | yes h => exact hword (List.all_iff_forall_prop.1 (by decide)) h
    | no h => exact hword (List.all_iff_forall_prop.1 (by decide)) h
    | int hsign hne hdigits hlen =>
      intro c hc
      rcases List.mem_append.1 hc with hc | hc
      · cases hsign <;> simp at hc <;> subst hc <;> decide
      · exact isQuote_of_isDecimalDigit (hdigits c hc)
    | text hq hbody => exact absurd rfl (hbare _)
  rw [cleanValue, h.item.1]
  exact trimBy_eq_self_iff.2
    ⟨fun c hc => hquote c (List.mem_of_head? hc), fun c hc => hquote c (List.mem_of_getLast? hc)⟩

/-- A word is canonical only as a truth value in small letters. -/
theorem canonicalLiteral_iff_of_anyCase (h : AnyCase keyword raw)
    (hk : ∀ k ∈ keyword, k.isDigit = false ∧ k.toLower.isDigit = false) :
    CanonicalLiteral raw ↔ raw = "true".toList ∨ raw = "false".toList := by
  have hdecimal : ¬ CanonicalDecimal raw := by
    intro hdecimal
    obtain ⟨c, hc, hdigit⟩ := hdecimal.exists_digit
    rw [h.forall hk c hc] at hdigit; cases hdigit
  simp only [CanonicalLiteral, hdecimal, or_false]

/-- **A literal's value is printed as it was written exactly if it was written canonically.** -/
theorem asText_eq_some_iff (h : Spelling v raw) (hbare : ∀ x, v ≠ .text x) :
    v.asText = some raw ↔ CanonicalLiteral raw := by
  cases h with
  | null h =>
    have hlower : raw.map Char.toLower = "null".toList :=
      (lower_of_anyCase h (List.all_iff_forall_prop.1 (by decide))).2.trans rfl
    rw [canonicalLiteral_iff_of_anyCase h (List.all_iff_forall_prop.1 (by decide))]
    constructor
    · intro hnone; cases hnone
    · rintro (rfl | rfl) <;> revert hlower <;> decide
  | yes h =>
    have hlower : raw.map Char.toLower = "true".toList :=
      (lower_of_anyCase h (List.all_iff_forall_prop.1 (by decide))).2.trans rfl
    have hfalse : raw ≠ "false".toList := by rintro rfl; revert hlower; decide
    have htext : (Value.bool true).asText = some "true".toList := rfl
    rw [canonicalLiteral_iff_of_anyCase h (List.all_iff_forall_prop.1 (by decide)), htext,
      Option.some.injEq, or_iff_left hfalse]
    exact eq_comm
  | no h =>
    have hlower : raw.map Char.toLower = "false".toList :=
      (lower_of_anyCase h (List.all_iff_forall_prop.1 (by decide))).2.trans rfl
    have htrue : raw ≠ "true".toList := by rintro rfl; revert hlower; decide
    have htext : (Value.bool false).asText = some "false".toList := rfl
    rw [canonicalLiteral_iff_of_anyCase h (List.all_iff_forall_prop.1 (by decide)), htext,
      Option.some.injEq, or_iff_right htrue]
    exact eq_comm
  | @int negative sign digits hsign hne hdigits hlen =>
    -- a word has no digit in it
    obtain ⟨d, hd⟩ := List.exists_mem_of_ne_nil digits hne
    have hword : ∀ {w : Text}, (∀ c ∈ w, isDecimalDigit c = false) → sign ++ digits ≠ w := by
      rintro w hw rfl
      have := hw d (List.mem_append_right _ hd)
      rw [hdigits d hd] at this; cases this
    have htext : (Value.int (integerValue negative digits)).asText =
        some (ofInt (integerValue negative digits)) := rfl
    rw [htext, Option.some.injEq, ofInt_integerValue_eq_iff hsign hdigits, CanonicalLiteral,
      or_iff_right (hword (List.all_iff_forall_prop.1 (by decide))),
      or_iff_right (hword (List.all_iff_forall_prop.1 (by decide)))]
  | text hq hbody => exact absurd rfl (hbare _)

end Statement

/-! ## Adding and looking up -/

variable {s : Store} {tbl : Table} {t c raw : Text} {v : Value}

/-- **A literal without quotes is found again exactly if it is canonical.** Take a number of a
sign or none and up to 4300 digits of any script, or one of the three words in any letter
case. An insertion of it answers the new row. A look-up of the same text then answers rows of
which the new one is the last if the text is a truth value in small letters or a canonical
decimal, and in every other case does not answer the new row. It fails if the column held a value
before that cannot be shown. -/
theorem literal_recalled (hs : s.Reachable) (ht : s.table (.text t) = .ok tbl) (hname : TargetName t)
    (hwhere : ¬ HasWord whereWord t) (hmem : c ∈ tbl.columns) (hid : c ≠ idColumn)
    (hc : ListedColumn c) (hequals : '=' ∉ c) (hspelling : Spelling v raw)
    (hbare : ∀ x, v ≠ .text x) (mode : Mode) :
    ∃ row s', s.step mode (.execute (.text (insertionText t c raw))) = ⟨.ok (.rows [row]), s', []⟩ ∧
      s'.rows (.text t) = .ok (tbl.rows ++ [row]) ∧
      (Comparable c tbl.rows → ∃ rows,
        s'.step .naive (.execute (.text (lookupText t c raw))) = ⟨.ok (.rows rows), s', []⟩ ∧
        (CanonicalLiteral raw → rows.getLast? = some row) ∧
        (¬ CanonicalLiteral raw → row ∉ rows)) ∧
      ∀ k, incomparable? c tbl.rows = some k →
        s'.step .naive (.execute (.text (lookupText t c raw))) = ⟨.error (.external k), s', []⟩ := by
  obtain ⟨row, s', hinsert, hrows, hanswered, hfails⟩ :=
    lookup_of_inserted hs ht hname hwhere hmem hid hc hequals hspelling mode
  refine ⟨row, s', hinsert, hrows, fun hcomparable => ?_, hfails⟩
  obtain ⟨rows, hlookup, hfound, hmissed⟩ := hanswered hcomparable
  rw [cleanValue_of_spelling hspelling hbare] at hfound hmissed
  have hiff := asText_eq_some_iff hspelling hbare
  exact ⟨rows, hlookup, fun h => hfound (hiff.2 h), fun h => hmissed fun heq => h (hiff.1 heq)⟩

/-- A number as it is printed is found again; with zeros in front of it, it is not. -/
theorem literal_recalled_sample :
    (Store.after Store.sampleRun).Reachable ∧
      (Store.after Store.sampleRun).table (.text "notes".toList) = .ok Store.sampleTable ∧
      CanonicalLiteral "-12".toList ∧ ¬ CanonicalLiteral "007".toList ∧
      (∃ row s' rows,
        (Store.after Store.sampleRun).step .strict (.execute (.text
          (insertionText "notes".toList "mark".toList "-12".toList))) = ⟨.ok (.rows [row]), s', []⟩ ∧
        s'.step .naive (.execute (.text (lookupText "notes".toList "mark".toList "-12".toList))) =
          ⟨.ok (.rows rows), s', []⟩ ∧ rows.getLast? = some row) ∧
      ∃ row s' rows,
        (Store.after Store.sampleRun).step .naive (.execute (.text
          (insertionText "notes".toList "mark".toList "007".toList))) = ⟨.ok (.rows [row]), s', []⟩ ∧
        s'.step .naive (.execute (.text (lookupText "notes".toList "mark".toList "007".toList))) =
          ⟨.ok (.rows rows), s', []⟩ ∧ row ∉ rows := by
  have hreach : (Store.after Store.sampleRun).Reachable := ⟨Store.sampleRun, rfl⟩
  have hwhere : ¬ HasWord whereWord "notes".toList := cutAtWord?_eq_none_iff.1 (by decide)
  have hminus : Spelling (.int (integerValue true "12".toList)) "-12".toList :=
    .int .minus (by decide) (List.all_iff_forall_prop.1 (by decide)) (by decide)
  have hzeros : Spelling (.int (integerValue false "007".toList)) "007".toList :=
    .int .none (by decide) (List.all_iff_forall_prop.1 (by decide)) (by decide)
  have hnumber : ∀ i x, Value.int i ≠ .text x := fun _ _ h => by cases h
  have hprinted : CanonicalLiteral "-12".toList :=
    (asText_eq_some_iff hminus (hnumber _)).1 (by decide)
  have hpadded : ¬ CanonicalLiteral "007".toList :=
    mt (asText_eq_some_iff hzeros (hnumber _)).2 (by decide)
  have hmarks : Comparable "mark".toList Store.sampleTable.rows := incomparable?_eq_none_iff.1 rfl
  obtain ⟨r, a, hadd, -, hanswered, -⟩ := literal_recalled hreach Store.table_sampleRun
    targetName_notes hwhere (by decide) (by decide) listedColumn_mark (by decide) hminus (hnumber _)
    .strict
  obtain ⟨rs, hfind, hfound, -⟩ := hanswered hmarks
  obtain ⟨r', a', hadd', -, hanswered', -⟩ := literal_recalled hreach Store.table_sampleRun
    targetName_notes hwhere (by decide) (by decide) listedColumn_mark (by decide) hzeros (hnumber _)
    .naive
  obtain ⟨rs', hfind', -, hmissed⟩ := hanswered' hmarks
  exact ⟨hreach, Store.table_sampleRun, hprinted, hpadded, ⟨r, a, rs, hadd, hfind, hfound hprinted⟩,
    r', a', rs', hadd', hfind', hmissed hpadded⟩

/-- **A canonical literal is not always found again**: a mark that was there before has one digit
too many to be shown. -/
theorem literal_not_recalled :
    ¬ ∀ (s : Store) (tbl : Table) (t c raw : Text) (v : Value), s.Reachable →
      s.table (.text t) = .ok tbl → TargetName t → ¬ HasWord whereWord t → c ∈ tbl.columns →
      c ≠ idColumn → ListedColumn c → '=' ∉ c → Spelling v raw → CanonicalLiteral raw →
      ∃ row s' rows,
        s.step .naive (.execute (.text (insertionText t c raw))) = ⟨.ok (.rows [row]), s', []⟩ ∧
        s'.step .naive (.execute (.text (lookupText t c raw))) = ⟨.ok (.rows rows), s', []⟩ ∧
        rows.getLast? = some row := by
  intro h
  have hwhere : ¬ HasWord whereWord "notes".toList := cutAtWord?_eq_none_iff.1 (by decide)
  have hyes : Spelling (.bool true) "true".toList := .yes (by unfold AnyCase; decide)
  obtain ⟨row, s', rows, hinsert, hlookup, -⟩ := h _ _ _ _ _ _ ⟨_, rfl⟩ Store.table_overlongNote
    targetName_notes hwhere (by decide) (by decide) listedColumn_mark (by decide) hyes (.inl rfl)
  obtain ⟨row', s'', hinsert', -, -, hfails⟩ := lookup_of_inserted ⟨_, rfl⟩ Store.table_overlongNote
    targetName_notes hwhere (by decide) (by decide) listedColumn_mark (by decide) hyes .naive
  obtain rfl : s' = s'' := congrArg Outcome.state (hinsert.symm.trans hinsert')
  rw [hfails _ Store.incomparable?_overlongTable] at hlookup
  cases hlookup

end Almanac
