import Almanac.Proofs.Words
import Almanac.Statement.Read

/-!
# How statements are written

The forms in which a statement may stand in a text: keywords in any letter case, one or
more blanks between words, any blanks around the items of a list. Each form is a
relation between what is said and the text that says it.

* `ListText`, `Spelling`: lists of items, and literals.
* `SelectText` with `FilterText`, and `InsertText`: the two statements.
* `items_of_listText`: **a list reads back as its items.**
* `readLiteral_of_spelling`: **a literal reads back as its value.**
* `exists_spelling`, `exists_selectText`: what can be said by a literal, and what can be asked for.
-/

namespace Almanac.Statement

open Text

/-! ## Forms -/

/-- A list: items between commas, with blanks around them. -/
inductive ListText : List Text → Text → Prop
  | one {a b item : Text} (ha : Blanks a) (hb : Blanks b) : ListText [item] (a ++ item ++ b)
  | cons {a b item rest : Text} {items : List Text} (ha : Blanks a) (hb : Blanks b)
      (h : ListText items rest) : ListText (item :: items) (a ++ item ++ b ++ ',' :: rest)

/-- The sign of a number; a plus may be left out. -/
inductive Sign : Bool → Text → Prop
  | none : Sign false []
  | plus : Sign false ['+']
  | minus : Sign true ['-']

/-- A literal that stands for the value. A text stands between two equal quotes, whatever
is in it but commas, which would end the item. -/
inductive Spelling : Value → Text → Prop
  | null {w : Text} (h : AnyCase "NULL".toList w) : Spelling .null w
  | yes {w : Text} (h : AnyCase "TRUE".toList w) : Spelling (.bool true) w
  | no {w : Text} (h : AnyCase "FALSE".toList w) : Spelling (.bool false) w
  | int {negative : Bool} {sign digits : Text} (hsign : Sign negative sign) (hne : digits ≠ [])
      (hdigits : ∀ d ∈ digits, isDecimalDigit d = true) (hlen : digits.length ≤ maxIntegerDigits) :
      Spelling (.int (integerValue negative digits)) (sign ++ digits)
  | text {q : Char} {body : Text} (hq : isQuote q = true) (hbody : ',' ∉ body) :
      Spelling (.text body) (q :: (body ++ [q]))

/-- `SELECT fields FROM table WHERE column = value`, where the value is all that follows
the equals sign. -/
inductive FilterText (fields : List Text) (table column value : Text) : Text → Prop
  | mk {select gap₁ list gap₂ source gap₃ gap₄ filter gap₅ gap₆ : Text}
      (hselect : AnyCase selectWord select) (hgap₁ : Gap gap₁) (hlist : ListText fields list)
      (hgap₂ : Gap gap₂) (hsource : AnyCase fromWord source) (hgap₃ : Gap gap₃) (hgap₄ : Gap gap₄)
      (hfilter : AnyCase whereWord filter) (hgap₅ : Gap gap₅) (hgap₆ : Blanks gap₆) :
      FilterText fields table column value
        (select ++ gap₁ ++ list ++ gap₂ ++ source ++ gap₃ ++ table ++ gap₄ ++ filter ++ gap₅ ++
          column ++ gap₆ ++ '=' :: value)

/-- `SELECT fields FROM table`, with a filter on a column and its value or without one. -/
inductive SelectText (fields : List Text) (table : Text) : Option (Text × Text) → Text → Prop
  | all {select gap₁ list gap₂ source gap₃ : Text} (hselect : AnyCase selectWord select)
      (hgap₁ : Gap gap₁) (hlist : ListText fields list) (hgap₂ : Gap gap₂)
      (hsource : AnyCase fromWord source) (hgap₃ : Gap gap₃) :
      SelectText fields table none (select ++ gap₁ ++ list ++ gap₂ ++ source ++ gap₃ ++ table)
  | filtered {column gap value text : Text} (hgap : Blanks gap)
      (h : FilterText fields table column (gap ++ value) text) :
      SelectText fields table (some (column, value)) text

/-- `INSERT INTO table (columns) VALUES (literals)`. -/
inductive InsertText (table : Text) (columns : List Text) (values : List Value) : Text → Prop
  | mk {insert gap₁ into gap₂ gap₃ list gap₄ keyword gap₅ literalList : Text} {literals : List Text}
      (hinsert : AnyCase insertWord insert) (hgap₁ : Gap gap₁) (hinto : AnyCase intoWord into)
      (hgap₂ : Gap gap₂) (hgap₃ : Blanks gap₃) (hlist : ListText columns list) (hgap₄ : Blanks gap₄)
      (hkeyword : AnyCase valuesWord keyword) (hgap₅ : Blanks gap₅)
      (hspelling : List.Forall₂ Spelling values literals) (hliterals : ListText literals literalList) :
      InsertText table columns values
        (insert ++ gap₁ ++ into ++ gap₂ ++ table ++ gap₃ ++ '(' :: (list ++ ')' :: (gap₄ ++ keyword ++
          gap₅ ++ '(' :: (literalList ++ [')']))))

/-! ## Names -/

/-- What can be said of a table's name where rows are asked for. -/
structure SourceName (table : Text) : Prop where
  ne_nil : table ≠ []
  no_blank : ∀ c ∈ table, isBlank c = false
  no_where : ¬ HasWord whereWord table

/-- A column that a filter can name. -/
structure FilterColumn (column : Text) : Prop where
  ne_nil : column ≠ []
  trimmed : strip column = column
  no_equals : '=' ∉ column

/-- A value that a filter looks for as it stands. -/
structure FilterValue (value : Text) : Prop where
  trimmed : strip value = value
  no_quote_first : ∀ c, value.head? = some c → isQuote c = false
  no_quote_last : ∀ c, value.getLast? = some c → isQuote c = false

/-- A field that a select list can name. -/
structure FieldName (field : Text) : Prop where
  ne_nil : field ≠ []
  trimmed : strip field = field
  no_comma : ',' ∉ field
  no_from : ¬ HasWord fromWord field
  no_where : ¬ HasWord whereWord field

/-- What can be said of a table's name where a row is added. -/
structure TargetName (table : Text) : Prop where
  ne_nil : table ≠ []
  no_blank : ∀ c ∈ table, isBlank c = false
  no_open : '(' ∉ table

/-- A column that the list of an insertion can name. -/
structure ListedColumn (column : Text) : Prop where
  ne_nil : column ≠ []
  trimmed : strip column = column
  no_comma : ',' ∉ column
  no_close : ')' ∉ column
  no_values : ¬ HasWord valuesWord column

theorem isKeyword_select : IsKeyword selectWord :=
  ⟨by decide, List.all_iff_forall_prop.1 (by decide)⟩
theorem isKeyword_insert : IsKeyword insertWord :=
  ⟨by decide, List.all_iff_forall_prop.1 (by decide)⟩
theorem isKeyword_into : IsKeyword intoWord :=
  ⟨by decide, List.all_iff_forall_prop.1 (by decide)⟩
theorem isKeyword_values : IsKeyword valuesWord :=
  ⟨by decide, List.all_iff_forall_prop.1 (by decide)⟩
theorem isKeyword_from : IsKeyword fromWord :=
  ⟨by decide, List.all_iff_forall_prop.1 (by decide)⟩
theorem isKeyword_where : IsKeyword whereWord :=
  ⟨by decide, List.all_iff_forall_prop.1 (by decide)⟩

variable {keyword w rest : Text}

/-- The first word of a statement says its kind, in any letter case. -/
theorem leadingWord_of_anyCase (hk : IsKeyword keyword)
    (hupper : ∀ k ∈ keyword, upperChar k = [k] ∧ upperChar k.toLower = [k]) (h : AnyCase keyword w)
    (hrest : ∀ c, rest.head? = some c → isBlank c = true) : leadingWord (w ++ rest) = keyword := by
  have hw : firstWord (w ++ rest) = w := by
    have := firstWord_append blanks_nil (h.ne_nil hk) (h.no_blank hk) hrest
    simpa using this
  rw [leadingWord, hw, h.upper hupper]

theorem leadingWord_strip (t : Text) : leadingWord (strip t) = leadingWord t := by
  rw [leadingWord, firstWord_strip, leadingWord]

/-! ## Lists -/

variable {ts : List Text} {r : Text}

/-- **A list reads back as its items.** -/
theorem items_of_listText (h : ListText ts r) (hts : ∀ t ∈ ts, strip t = t ∧ ',' ∉ t) :
    items r = ts := by
  have hpadded : ∀ {a b item : Text}, Blanks a → Blanks b → ',' ∉ item → ',' ∉ a ++ item ++ b := by
    intro a b item ha hb hitem
    have hblank : isBlank ',' = false := by decide
    simp [not_mem_of_blanks ha hblank, not_mem_of_blanks hb hblank, hitem]
  induction h with
  | @one a b item ha hb =>
    obtain ⟨hs, hc⟩ := hts item (by simp)
    have hstrip : strip (a ++ item ++ b) = item := by rw [strip_pad ha hb, hs]
    rw [items, pieces_of_not_mem (hpadded ha hb hc), List.map_singleton, hstrip]
  | @cons a b item rest items' ha hb h ih =>
    obtain ⟨hs, hc⟩ := hts item (by simp)
    have hstrip : strip (a ++ item ++ b) = item := by rw [strip_pad ha hb, hs]
    have hrest := ih fun t ht => hts t (List.mem_cons_of_mem _ ht)
    unfold items at hrest ⊢
    rw [pieces_append_cons (hpadded ha hb hc), List.map_cons, hstrip, hrest]

theorem exists_listText (h : ts ≠ []) : ∃ r, ListText ts r := by
  induction ts with
  | nil => exact absurd rfl h
  | cons item rest ih =>
    cases rest with
    | nil => exact ⟨_, .one blanks_nil blanks_nil⟩
    | cons next rest =>
      obtain ⟨r, hr⟩ := ih (List.cons_ne_nil next rest)
      exact ⟨_, .cons blanks_nil blanks_nil hr⟩

/-- Any fields of any table can be asked for, with any filter. -/
theorem exists_selectText (h : ts ≠ []) (table : Text) (question : Option (Text × Text)) :
    ∃ text, SelectText ts table question text := by
  obtain ⟨list, hlist⟩ := exists_listText h
  cases question with
  | none =>
    exact ⟨_, .all (anyCase_self selectWord) gap_space hlist gap_space (anyCase_self fromWord) gap_space⟩
  | some p =>
    exact ⟨_, .filtered gap_space.2 (.mk (anyCase_self selectWord) gap_space hlist gap_space
      (anyCase_self fromWord) gap_space gap_space (anyCase_self whereWord) gap_space gap_space.2)⟩

theorem not_mem_of_listText {c : Char} (h : ListText ts r) (hc : isBlank c = false) (hne : c ≠ ',')
    (hts : ∀ t ∈ ts, c ∉ t) : c ∉ r := by
  induction h with
  | @one a b item ha hb =>
    simp [not_mem_of_blanks ha hc, not_mem_of_blanks hb hc, hts item (by simp)]
  | @cons a b item rest items' ha hb _ ih =>
    have := ih fun t ht => hts t (List.mem_cons_of_mem _ ht)
    simp [not_mem_of_blanks ha hc, not_mem_of_blanks hb hc, hts item (by simp), hne, this]

theorem not_hasWord_of_listText {keyword : Text} (hk : IsKeyword keyword) (h : ListText ts r)
    (hts : ∀ t ∈ ts, ¬ HasWord keyword t) : ¬ HasWord keyword r := by
  induction h with
  | one ha hb => exact not_hasWord_pad hk ha hb (hts _ (by simp))
  | cons ha hb _ ih =>
    exact not_hasWord_append_cons hk (by decide) (not_hasWord_pad hk ha hb (hts _ (by simp)))
      (ih fun t ht => hts t (List.mem_cons_of_mem _ ht))

/-! ## Literals -/

variable {v : Value} {raw : Text}

theorem quotedBody?_of_head (h : ∀ c, raw.head? = some c → isQuote c = false) :
    quotedBody? raw = none := by
  cases raw with
  | nil => rfl
  | cons c r => simp [quotedBody?, h c rfl]

theorem not_sign_of_isDecimalDigit {d : Char} (h : isDecimalDigit d = true) : d ≠ '+' ∧ d ≠ '-' := by
  constructor <;> rintro rfl <;> revert h <;> decide

/-- A sign is told from what does not begin with one. -/
theorem signed_of_head {negative : Bool} {sign t : Text} (hsign : Sign negative sign)
    (h : ∀ c, t.head? = some c → c ≠ '+' ∧ c ≠ '-') : signed (sign ++ t) = (negative, t) := by
  cases hsign with
  | plus => rfl
  | minus => rfl
  | none =>
    cases t with
    | nil => rfl
    | cons d r =>
      have hd := h d rfl
      rw [List.nil_append]
      unfold signed
      split <;> simp_all

theorem signed_of_sign {negative : Bool} {sign digits : Text} (hsign : Sign negative sign)
    (hdigits : ∀ d ∈ digits, isDecimalDigit d = true) :
    signed (sign ++ digits) = (negative, digits) :=
  signed_of_head hsign fun c hc => not_sign_of_isDecimalDigit (hdigits c (List.mem_of_head? hc))

theorem toLower_of_isDecimalDigit {d : Char} (h : isDecimalDigit d = true) : d.toLower = d := by
  unfold Char.toLower
  split
  · -- a capital letter is no digit
    rename_i hd
    have h1 : 65 ≤ d.toNat := hd.1
    have h2 : d.toNat ≤ 90 := hd.2
    have key : ∀ n < 91, 65 ≤ n → isDecimalDigit (Char.ofNat n) = false := by decide
    have := key d.toNat (by omega) h1
    rw [Char.ofNat_toNat, h] at this; cases this
  · rfl

theorem isBlank_of_isDecimalDigit {d : Char} (h : isDecimalDigit d = true) : isBlank d = false := by
  by_contra hb
  have := forall_blank (P := fun c => isDecimalDigit c = false) (by decide +kernel)
    (show isBlank d = true by simpa using hb)
  rw [h] at this; cases this

theorem isQuote_of_isDecimalDigit {d : Char} (h : isDecimalDigit d = true) : isQuote d = false := by
  by_contra hq
  simp only [isQuote, Bool.not_eq_false, Bool.or_eq_true, beq_iff_eq] at hq
  rcases hq with rfl | rfl <;> revert h <;> decide

theorem map_toLower_ne {d : Char} {keyword : Text} (hmem : d ∈ raw) (h : isDecimalDigit d = true)
    (hk : ∀ k ∈ keyword, isDecimalDigit k = false) : raw.map Char.toLower ≠ keyword := by
  rintro rfl
  have := hk d (List.mem_map.2 ⟨d, hmem, toLower_of_isDecimalDigit h⟩)
  rw [h] at this; cases this

theorem withoutFinalBreak_of_digits {sign digits : Text} (hne : digits ≠ [])
    (hdigits : ∀ d ∈ digits, isDecimalDigit d = true) :
    withoutFinalBreak (sign ++ digits) = sign ++ digits := by
  have hlast : (sign ++ digits).getLast? ≠ some '\n' := by
    intro h
    rw [List.getLast?_append_of_ne_nil _ hne] at h
    have := hdigits '\n' (List.mem_of_getLast? h)
    revert this; decide
  rw [withoutFinalBreak, if_neg hlast]

/-- A word that stands for a value is no quoted text, and is read by its lower case. -/
theorem lower_of_anyCase {keyword : Text} (h : AnyCase keyword raw)
    (hk : ∀ k ∈ keyword, (isQuote k = false ∧ isQuote k.toLower = false) ∧
      k.toLower.toLower = k.toLower) :
    quotedBody? raw = none ∧ raw.map Char.toLower = keyword.map Char.toLower :=
  ⟨quotedBody?_of_head fun c hc => h.forall (fun k hmem => (hk k hmem).1) c (List.mem_of_head? hc),
    h.map_toLower fun k hmem => (hk k hmem).2⟩

/-- A sign and digits are an integer and no quoted text. -/
theorem integer?_of_sign {negative : Bool} {sign digits : Text} (hsign : Sign negative sign)
    (hne : digits ≠ []) (hdigits : ∀ d ∈ digits, isDecimalDigit d = true) :
    quotedBody? (sign ++ digits) = none ∧ integer? (sign ++ digits) = some (negative, digits) := by
  constructor
  · apply quotedBody?_of_head
    intro c hc
    rcases List.mem_append.1 (List.mem_of_head? hc) with hc | hc
    · cases hsign <;> simp at hc <;> subst hc <;> decide
    · exact isQuote_of_isDecimalDigit (hdigits c hc)
  · have hall : digits.all isDecimalDigit = true := List.all_eq_true.2 hdigits
    simp [integer?, signed_of_sign hsign hdigits, hne, hall]

theorem sign_signed (t : Text) : ∃ sign, Sign (signed t).1 sign ∧ t = sign ++ (signed t).2 := by
  unfold signed
  split
  · exact ⟨['-'], .minus, rfl⟩
  · exact ⟨['+'], .plus, rfl⟩
  · exact ⟨[], .none, rfl⟩

/-- An integer is a sign and digits. -/
theorem sign_of_integer? {t : Text} {negative : Bool} {digits : Text}
    (h : integer? t = some (negative, digits)) :
    ∃ sign, Sign negative sign ∧ t = sign ++ digits ∧ ∀ d ∈ digits, isDecimalDigit d = true := by
  simp only [integer?, Option.ite_none_right_eq_some, Option.some.injEq] at h
  obtain ⟨⟨-, hdigits⟩, hpair⟩ := h
  obtain ⟨rfl, rfl⟩ := Prod.mk.inj hpair
  obtain ⟨sign, hsign, ht⟩ := sign_signed t
  exact ⟨sign, hsign, ht, List.all_eq_true.1 hdigits⟩

/-- What has a digit in it is none of the three words. -/
theorem readLiteral_of_digit {d : Char} (hquote : quotedBody? raw = none) (hmem : d ∈ raw)
    (hd : isDecimalDigit d = true) :
    readLiteral raw = (integer? (withoutFinalBreak raw)).elim
      ((decimal? (withoutFinalBreak raw)).elim (.ok (.text raw)) fun n =>
        if n.pointed then .ok (.double n.value) else .ok (.text raw))
      fun p => integerOf p.1 p.2 := by
  have hword : ∀ {keyword}, (∀ k ∈ keyword, isDecimalDigit k = false) →
      raw.map Char.toLower ≠ keyword := map_toLower_ne hmem hd
  simp only [readLiteral, hquote]
  rw [if_neg (hword (List.all_iff_forall_prop.1 (by decide))),
    if_neg (hword (List.all_iff_forall_prop.1 (by decide))),
    if_neg (hword (List.all_iff_forall_prop.1 (by decide)))]
  cases integer? (withoutFinalBreak raw) with
  | some p => rfl
  | none => cases decimal? (withoutFinalBreak raw) <;> rfl

/-- A sign and digits are read as an integer, unless there are too many digits. -/
theorem readLiteral_of_sign {negative : Bool} {sign digits : Text} (hsign : Sign negative sign)
    (hne : digits ≠ []) (hdigits : ∀ d ∈ digits, isDecimalDigit d = true) :
    readLiteral (sign ++ digits) = integerOf negative digits := by
  obtain ⟨d, hd⟩ := List.exists_mem_of_ne_nil digits hne
  obtain ⟨hq, hint⟩ := integer?_of_sign hsign hne hdigits
  rw [readLiteral_of_digit hq (List.mem_append_right _ hd) (hdigits d hd),
    withoutFinalBreak_of_digits hne hdigits, hint]
  rfl

/-- **A literal reads back as its value.** -/
theorem readLiteral_of_spelling (h : Spelling v raw) : readLiteral raw = .ok v := by
  cases h with
  | null h =>
    obtain ⟨hq, hlower⟩ := lower_of_anyCase h (List.all_iff_forall_prop.1 (by decide))
    have hl : raw.map Char.toLower = "null".toList := hlower.trans rfl
    simp only [readLiteral, hq]
    rw [if_pos hl]
  | yes h =>
    obtain ⟨hq, hlower⟩ := lower_of_anyCase h (List.all_iff_forall_prop.1 (by decide))
    have hl : raw.map Char.toLower = "true".toList := hlower.trans rfl
    simp only [readLiteral, hq]
    rw [if_neg (by rw [hl]; decide), if_pos hl]
  | no h =>
    obtain ⟨hq, hlower⟩ := lower_of_anyCase h (List.all_iff_forall_prop.1 (by decide))
    have hl : raw.map Char.toLower = "false".toList := hlower.trans rfl
    simp only [readLiteral, hq]
    rw [if_neg (by rw [hl]; decide), if_neg (by rw [hl]; decide), if_pos hl]
  | @int negative sign digits hsign hne hdigits hlen =>
    rw [readLiteral_of_sign hsign hne hdigits, integerOf, if_neg (by omega)]
  | @text q body hq hbody =>
    have hb : quotedBody? (q :: (body ++ [q])) = some body := by simp [quotedBody?, hq]
    simp only [readLiteral, hb]

theorem isBlank_of_isQuote {q : Char} (hq : isQuote q = true) : isBlank q = false := by
  simp only [isQuote, Bool.or_eq_true, beq_iff_eq] at hq
  rcases hq with rfl | rfl <;> decide

/-- What stands between two quotes has no blanks around it. -/
theorem strip_quoted {q : Char} {body : Text} (hq : isQuote q = true) :
    strip (q :: (body ++ [q])) = q :: (body ++ [q]) := by
  have hblank := isBlank_of_isQuote hq
  apply trimBy_eq_self_iff.2
  constructor
  · intro c hc
    cases hc; exact hblank
  · intro c hc
    rw [← List.cons_append, List.getLast?_concat] at hc
    cases hc; exact hblank

/-- Nothing, truth values, numbers that are not too long and texts without a comma all have a
literal. -/
theorem exists_spelling (hv : v = .null ∨ (∃ b, v = .bool b) ∨
    (∃ n : Int, v = .int n ∧ (ofNat n.natAbs).length ≤ maxIntegerDigits) ∨
      ∃ t, v = .text t ∧ ',' ∉ t) : ∃ raw, Spelling v raw := by
  rcases hv with rfl | ⟨b, rfl⟩ | ⟨n, rfl, hlen⟩ | ⟨t, rfl, ht⟩
  · exact ⟨_, .null (anyCase_self _)⟩
  · cases b with
    | true => exact ⟨_, .yes (anyCase_self _)⟩
    | false => exact ⟨_, .no (anyCase_self _)⟩
  · have hdigits : ∀ d ∈ ofNat n.natAbs, isDecimalDigit d = true :=
      fun _ hd => isDecimalDigit_of_mem_ofNat hd
    have h : ∀ {negative sign}, Sign negative sign →
        Spelling (.int (integerValue negative (ofNat n.natAbs))) (sign ++ ofNat n.natAbs) :=
      fun hsign => .int hsign (ofNat_ne_nil _) hdigits hlen
    rcases Int.natAbs_eq n with hn | hn
    · have hvalue : integerValue false (ofNat n.natAbs) = n := by
        simp only [integerValue, Bool.false_eq_true, if_false, digitsValue_ofNat]; omega
      exact ⟨_, hvalue ▸ h .none⟩
    · have hvalue : integerValue true (ofNat n.natAbs) = n := by
        simp only [integerValue, if_true, digitsValue_ofNat]; omega
      exact ⟨_, hvalue ▸ h .minus⟩
  · exact ⟨_, .text (q := '"') rfl ht⟩

/-- **A literal is one item of a list.** -/
theorem Spelling.item (h : Spelling v raw) : strip raw = raw ∧ ',' ∉ raw := by
  have hword : ∀ {keyword}, (∀ k ∈ keyword, Text.isWord k = true ∧ Text.isWord k.toLower = true) →
      AnyCase keyword raw → strip raw = raw ∧ ',' ∉ raw := by
    intro keyword hk h
    refine ⟨strip_of_no_blank fun c hc => isBlank_of_isWord (h.forall hk c hc), fun hc => ?_⟩
    have := h.forall hk _ hc
    revert this; decide
  cases h with
  | null h => exact hword (List.all_iff_forall_prop.1 (by decide)) h
  | yes h => exact hword (List.all_iff_forall_prop.1 (by decide)) h
  | no h => exact hword (List.all_iff_forall_prop.1 (by decide)) h
  | @int negative sign digits hsign hne hdigits hlen =>
    have hall : ∀ c ∈ sign ++ digits, isBlank c = false ∧ c ≠ ',' := by
      intro c hc
      rcases List.mem_append.1 hc with hc | hc
      · cases hsign <;> simp at hc <;> subst hc <;> decide
      · refine ⟨isBlank_of_isDecimalDigit (hdigits c hc), ?_⟩
        rintro rfl
        have := hdigits _ hc
        revert this; decide
    exact ⟨strip_of_no_blank fun c hc => (hall c hc).1, fun hc => (hall _ hc).2 rfl⟩
  | @text q body hq hbody =>
    have hne : ',' ≠ q := by rintro rfl; revert hq; decide
    exact ⟨strip_quoted hq, by simp [hbody, hne]⟩

variable {values : List Value} {literals : List Text}

theorem item_of_spelling (h : List.Forall₂ Spelling values literals) :
    ∀ raw ∈ literals, strip raw = raw ∧ ',' ∉ raw := by
  induction h with
  | nil => simp
  | cons hv _ ih =>
    intro raw hraw
    rcases List.mem_cons.1 hraw with rfl | hraw
    · exact hv.item
    · exact ih raw hraw

theorem readValues_of_spelling (h : List.Forall₂ Spelling values literals) : readValues literals = .ok values := by
  induction h with
  | nil => rfl
  | cons hv _ ih => simp [readValues, readLiteral_of_spelling hv, ih, bind, Except.bind, pure, Except.pure]

end Almanac.Statement
