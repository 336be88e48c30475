import Almanac.Proofs.Canonical
import Almanac.Text.Printable
import Almanac.Yaml.Document
import Almanac.Yaml.Printer
import Mathlib.Data.Bool.AllAny

/-!
# Values that are written on one line

Nothing, truth values, whole numbers and texts without escapes and line ends are written on the rest
of a line, bare or between single quotes. Quotes are put around a text exactly where it would not
come back without them: where the reader would stop too early or start something else, and where
it would take the text for another kind of value.

* `readPlain_append`: **a bare text is read as far as it goes**, whatever ends it.
* `reads_scalar`: **a value is written so that its line gives it back**.
* `read_lineScalar`: what its line gives is read as that value again, with its type.
-/

namespace Almanac.Yaml

open Text

/-! ## Texts -/

/-- A value that is written on one line. Of a text, every character is written as it is. -/
inductive FitsLine : Value → Prop
  | null : FitsLine .null
  | bool (b : Bool) : FitsLine (.bool b)
  | int {i : Int} (h : i.natAbs < tenTo maxIntegerDigits) : FitsLine (.int i)
  | text {t : Text} (h : ∀ c ∈ t, isWritable c = true ∧ isBreak c = false) : FitsLine (.text t)

/-- **A text that reads back from its line as it stands**: no mark at its start or inside makes
the reader stop or begin something else. -/
structure Bare (t : Text) : Prop where
  ne_nil : t ≠ []
  leading : ∀ c, t.head? = some c → leadingMarks.contains c = false ∧ c ≠ ' '
  indicator : startsWithIndicator t = false
  line : ∀ c ∈ t, isBreak c = false ∧ c ≠ '\t'
  last : t.getLast? ≠ some ' '
  inner : hasInnerMark t = false

/-- A text that gives back another one from its line: it is bare, or stands between quotes. -/
inductive Reads : Text → Bool → Text → Prop
  | bare {t : Text} (h : Bare t) : Reads t true t
  | quoted {t : Text} (h : ∀ c ∈ t, isBreak c = false) : Reads ('\'' :: (doubled t ++ ['\''])) false t

/-- What the line of a value gives back: a text, and whether it is bare. -/
def lineScalar : Value → Bool × Text
  | .text t => (isPlain t, t)
  | v => (true, scalar 0 v)

variable {t rest tail : Text} {crossed : Bool} {least : Nat} {c : Char}

/-! ## Reading bare texts -/

theorem hasInnerMark_tail (h : hasInnerMark (c :: t) = false) : hasInnerMark t = false := by
  cases t with
  | nil => rfl
  | cons d r =>
    rw [hasInnerMark, Bool.or_eq_false_iff] at h
    exact h.2

/-- **A bare text is read as far as it goes.** In front of it a gap of blanks may have been passed
over, which belongs to it; what stops the reader behind it is up to that. -/
theorem readPlain_append (hstop : readPlain false least .none tail = ⟨[], rest, crossed⟩)
    (hline : ∀ c ∈ t, isBreak c = false ∧ c ≠ '\t') (hlast : t.getLast? ≠ some ' ')
    (hinner : hasInnerMark t = false) (b : Text) (hb : b ≠ [] → t ≠ [] ∧ t.head? ≠ some '#') :
    readPlain false least (.blanks b) (t ++ tail) = ⟨b ++ t, rest, crossed⟩ := by
  induction t generalizing b with
  | nil =>
    have hnil : b = [] := by
      by_contra hne
      exact (hb hne).1 rfl
    subst hnil
    exact hstop
  | cons c r ih =>
    have hrest : ∀ d ∈ r, isBreak d = false ∧ d ≠ '\t' := fun d hd => hline d (by simp [hd])
    have hlast' : r.getLast? ≠ some ' ' := by
      cases r with
      | nil => simp
      | cons d r => rwa [List.getLast?_cons_cons] at hlast
    have hinner' := hasInnerMark_tail hinner
    obtain ⟨hbreak, htab⟩ := hline c (by simp)
    rw [List.cons_append, readPlain]
    by_cases hspace : c = ' '
    · -- a blank is kept back until something follows it
      subst hspace
      have hnext : r ≠ [] ∧ r.head? ≠ some '#' := by
        cases r with
        | nil => exact absurd rfl hlast
        | cons d r =>
          refine ⟨by simp, fun hd => ?_⟩
          rw [List.head?_cons, Option.some.injEq] at hd
          subst hd
          cases hinner
      rw [if_pos rfl, Gap.afterBlank, ih hrest hlast' hinner' _ fun _ => hnext, List.append_assoc]
      rfl
    · have hcloses : Gap.closes false least c (.blanks b) = false := by
        cases b with
        | nil => rfl
        | cons d b =>
          have hne : c ≠ '#' := fun hc => (hb (by simp)).2 (by rw [hc]; rfl)
          simp [Gap.closes, hne]
      have hends : endsPlain false c (r ++ tail) = false := by
        by_cases hcolon : c = ':'
        · -- a colon belongs to the text unless a blank or its end follows
          subst hcolon
          cases r with
          | nil => cases hinner
          | cons d r =>
            have hd : d ≠ ' ' := by
              rintro rfl
              cases hinner
            simp [endsPlain, endsWord, isBlank, hd, (hrest d (by simp)).1, (hrest d (by simp)).2]
        · simp [endsPlain, hcolon, htab]
      have hnone : readPlain false least .none (r ++ tail) = ⟨r, rest, crossed⟩ :=
        ih hrest hlast' hinner' [] fun h => absurd rfl h
      rw [if_neg hspace, hbreak, if_neg Bool.false_ne_true, hcloses, hends, hnone]
      rfl

/-- A bare text is read behind its first character as far as it goes. -/
theorem Bare.readPlain {r : Text} (h : Bare (c :: r))
    (hstop : readPlain false least .none tail = ⟨[], rest, crossed⟩) :
    Yaml.readPlain false least .none (r ++ tail) = ⟨r, rest, crossed⟩ := by
  have hlast : r.getLast? ≠ some ' ' := by
    cases r with
    | nil => simp
    | cons d r =>
      have hlast := h.last
      rwa [List.getLast?_cons_cons] at hlast
  exact readPlain_append hstop (fun d hd => h.line d (by simp [hd])) hlast
    (hasInnerMark_tail h.inner) [] fun hne => absurd rfl hne

/-- A dash, a question mark or a colon at its start has a word behind it. -/
theorem Bare.endsWord {r : Text} (h : Bare (c :: r)) (hc : c = '-' ∨ c = '?' ∨ c = ':') (tail : Text) :
    Yaml.endsWord (r ++ tail) = false := by
  have hindicator := h.indicator
  have hmark : (c == '?' || c == '-' || c == ':') = true := by
    rcases hc with rfl | rfl | rfl <;> rfl
  rw [startsWithIndicator, hmark, Bool.true_and] at hindicator
  cases r with
  | nil => cases hindicator
  | cons d r =>
    have hd := h.line d (by simp)
    have hspace : d ≠ ' ' := by simpa using hindicator
    simp [Yaml.endsWord, isBlank, hspace, hd.1, hd.2]

theorem Bare.startsPlain {r : Text} (h : Bare (c :: r)) (tail : Text) :
    Yaml.startsPlain false c (r ++ tail) = true := by
  by_cases hc : c = '-' ∨ c = '?' ∨ c = ':'
  · have hmark : (c == '-' || (!false && (c == '?' || c == ':'))) = true := by
      rcases hc with rfl | rfl | rfl <;> rfl
    rw [Yaml.startsPlain, h.endsWord hc, hmark]
    simp
  · have hindicators : indicators.contains c = false := by
      have key : ∀ m ∈ indicators, (m = '-' ∨ m = '?' ∨ m = ':') ∨ m ∈ leadingMarks ∨ m = ' ' ∨
          m = '\t' ∨ isBreak m = true := List.all_iff_forall_prop.1 (by decide)
      by_contra hbad
      rw [Bool.not_eq_false, List.contains_iff_mem] at hbad
      obtain ⟨hlead, hspace⟩ := h.leading c rfl
      obtain ⟨hbreak, htab⟩ := h.line c (by simp)
      rcases key c hbad with hindicator | hmem | heq | heq | heq
      · exact hc hindicator
      · rw [List.contains_iff_mem.2 hmem] at hlead; cases hlead
      · exact hspace heq
      · exact htab heq
      · rw [heq] at hbreak; cases hbreak
    rw [Yaml.startsPlain, hindicators]
    rfl

/-- A colon with a blank or a line's end behind it ends a bare text. -/
theorem readPlain_colon (h : endsWord t = true) :
    readPlain false least .none (':' :: t) = ⟨[], ':' :: t, false⟩ := by
  have hends : endsPlain false ':' t = true := by simp [endsPlain, h]
  rw [readPlain, if_neg (by decide), if_neg (by decide), hends]
  simp

/-- A text that is nothing, or goes on with a word. -/
def StartsWord (t : Text) : Prop := ∀ c, t.head? = some c → c.isLower = true ∨ c = '_'

theorem StartsWord.ne (h : StartsWord t) (hc : c.isLower = false) (hc' : c ≠ '_') :
    t.head? ≠ some c := by
  intro hhead
  rcases h c hhead with hlower | heq
  · rw [hc] at hlower; cases hlower
  · exact hc' heq

/-- A word is never a boundary, however far it is indented. -/
theorem isBoundary_spaces (h : StartsWord t) (n : Nat) : isBoundary (spaces n ++ t) = false := by
  have hmark : ∀ d, d ≠ ' ' → d.isLower = false → d ≠ '_' → (spaces n ++ t).head? ≠ some d := by
    intro d hspace hlower hline
    cases n with
    | zero => exact h.ne hlower hline
    | succ n => simpa [spaces, List.replicate_succ] using Ne.symm hspace
  have hstarts : ∀ d, (spaces n ++ t).head? ≠ some d →
      startsWithMark [d, d, d] (spaces n ++ t) = false := by
    intro d hd
    cases htext : spaces n ++ t with
    | nil => rfl
    | cons e r =>
      rw [htext] at hd
      have hne : e ≠ d := by simpa using hd
      simp [startsWithMark, hne]
  rw [isBoundary, startMark, endMark, hstarts '-' (hmark '-' (by decide) (by decide) (by decide)),
    hstarts '.' (hmark '.' (by decide) (by decide) (by decide))]
  rfl

/-- In a line that is indented too little, a bare text does not go on. -/
theorem readPlain_indented (h : StartsWord t) (first more : Text) {n column : Nat}
    (hn : column + n < least) :
    readPlain false least (.lines first more column) (spaces n ++ t) = ⟨[], t, true⟩ := by
  induction n generalizing column with
  | zero =>
    cases t with
    | nil => rfl
    | cons c r =>
      have hspace : c ≠ ' ' := fun hc => h.ne (c := ' ') (by decide) (by decide) (by rw [hc]; rfl)
      have hbreak : isBreak c = false := by
        rcases h c rfl with hlower | rfl
        · by_contra hc
          simp only [isBreak, Bool.not_eq_false, Bool.or_eq_true, beq_iff_eq] at hc
          rcases hc with ((rfl | rfl) | rfl) | rfl <;> revert hlower <;> decide
        · decide
      have hcloses : Gap.closes false least c (.lines first more column) = true := by
        have hlt : column < least := by omega
        simp [Gap.closes, hlt]
      change readPlain false least _ (c :: r) = _
      rw [readPlain, if_neg hspace, hbreak, if_neg Bool.false_ne_true, hcloses]
      rfl
  | succ n ih =>
    change readPlain false least _ (' ' :: (spaces n ++ t)) = _
    rw [readPlain, if_pos rfl, Gap.afterBlank]
    exact ih (by omega)

/-- So a line's end is the end of a bare text if the next line is indented too little. -/
theorem readPlain_newLine (h : StartsWord t) {n : Nat} (hn : n < least) :
    readPlain false least .none (newLine n ++ t) = ⟨[], t, true⟩ := by
  change readPlain false least .none ('\n' :: (spaces n ++ t)) = _
  rw [readPlain, if_neg (by decide), if_pos (by decide), isBoundary_spaces h]
  exact readPlain_indented h _ _ (by omega)

/-! ## Writing texts -/

/-- **A printable character needs no escape**, and ends no line. -/
theorem writable_of_isPrintable (h : isPrintable c = true) :
    isWritable c = true ∧ isBreak c = false := by
  have hcases : (32 ≤ c.toNat ∧ c.toNat ≤ 126) ∨ ∃ r ∈ printableRanges, r.1 ≤ c.toNat ∧ c.toNat ≤ r.2 := by
    unfold isPrintable at h
    split at h
    · simp only [Bool.and_eq_true, decide_eq_true_eq] at h
      exact .inl ⟨h.1, by omega⟩
    · simp only [inRanges, List.any_eq_true, Bool.and_eq_true, decide_eq_true_eq] at h
      exact .inr h
  -- no printable range reaches over the edge of the writable ones or over a line's end
  have hranges : ∀ r ∈ printableRanges, (0xA0 ≤ r.1 ∧ r.2 ≤ 0x2027) ∨ (0x202A ≤ r.1 ∧ r.2 ≤ 0xD7FF) ∨
      (0xE000 ≤ r.1 ∧ r.2 ≤ 0xFEFE) ∨ (0xFF00 ≤ r.1 ∧ r.2 ≤ 0xFFFD) ∨
      (0x10000 ≤ r.1 ∧ r.2 ≤ 0x10FFFE) := by decide +kernel
  have hcode : (32 ≤ c.toNat ∧ c.toNat ≤ 126) ∨ (0xA0 ≤ c.toNat ∧ c.toNat ≤ 0x2027) ∨
      (0x202A ≤ c.toNat ∧ c.toNat ≤ 0xD7FF) ∨ (0xE000 ≤ c.toNat ∧ c.toNat ≤ 0xFEFE) ∨
      (0xFF00 ≤ c.toNat ∧ c.toNat ≤ 0xFFFD) ∨ (0x10000 ≤ c.toNat ∧ c.toNat ≤ 0x10FFFE) := by
    rcases hcases with hascii | ⟨r, hr, hlow, hhigh⟩
    · exact .inl hascii
    · have := hranges r hr
      omega
  constructor
  · have hin : inRanges [(0x20, 0x7E), (0xA0, 0xD7FF), (0xE000, 0xFEFE), (0xFF00, 0xFFFD),
        (0x10000, 0x10FFFE)] c = true := by
      simp only [inRanges, List.any_cons, List.any_nil, Bool.or_eq_true, Bool.and_eq_true,
        decide_eq_true_eq, Bool.false_eq_true, or_false]
      omega
    rw [isWritable, hin, Bool.or_true]
  · by_contra hbreak
    simp only [isBreak, Bool.not_eq_false, Bool.or_eq_true, beq_iff_eq] at hbreak
    have hcodes : c.toNat = 10 ∨ c.toNat = 0x85 ∨ c.toNat = 0x2028 ∨ c.toNat = 0x2029 := by
      rcases hbreak with ((rfl | rfl) | rfl) | rfl <;> decide
    omega

/-- So a text of printable characters fits on its line. -/
theorem FitsLine.of_printable (h : t.all isPrintable = true) : FitsLine (.text t) :=
  .text fun c hc => writable_of_isPrintable (List.all_eq_true.1 h c hc)

theorem hasLooseBreak_of_line (h : ∀ c ∈ t, isBreak c = false) : hasLooseBreak t = false := by
  induction t with
  | nil => rfl
  | cons c r ih =>
    cases r with
    | nil => rfl
    | cons d r =>
      have hc := h c (by simp)
      have hd := h d (by simp)
      rw [hasLooseBreak, ih fun e he => h e (by simp [he]), hc, hd]
      simp

theorem singleBody_of_line (h : ∀ c ∈ t, isBreak c = false) (indent : Nat) :
    singleBody indent false t = doubled t := by
  induction t with
  | nil => rfl
  | cons c r ih =>
    have hc := h c (by simp)
    rw [singleBody, if_neg (by simp [hc]), ih fun d hd => h d (by simp [hd])]
    simp [doubled]

theorem bare_of_isPlain (hplain : isPlain t = true) (htab : '\t' ∉ t) : Bare t := by
  simp only [isPlain, Bool.and_eq_true, Bool.not_eq_true', List.isEmpty_eq_false_iff, bne_iff_ne,
    ne_eq, Option.any_eq_false] at hplain
  obtain ⟨⟨⟨⟨⟨⟨⟨⟨⟨hne, hbreak⟩, -⟩, hspace⟩, hlast⟩, hmark⟩, -⟩, -⟩, hindicator⟩, hinner⟩ := hplain
  refine ⟨hne, fun c hc => ⟨by simpa using hmark c hc, ?_⟩, hindicator, fun c hc => ⟨?_, ?_⟩, hlast,
    hinner⟩
  · rintro rfl
    exact hspace hc
  · by_contra hbad
    rw [Bool.not_eq_false] at hbad
    have hany : t.any isBreak = true := List.any_eq_true.2 ⟨c, hc, hbad⟩
    rw [hany] at hbreak; cases hbreak
  · rintro rfl
    exact htab hc

theorem hasInnerMark_of_not_mem (hcolon : ':' ∉ t) (hspace : ' ' ∉ t) : hasInnerMark t = false := by
  induction t with
  | nil => rfl
  | cons c r ih =>
    have hc : c ≠ ':' := fun h => hcolon (by simp [h])
    have hc' : c ≠ ' ' := fun h => hspace (by simp [h])
    cases r with
    | nil => simpa [hasInnerMark] using hc
    | cons d r =>
      rw [hasInnerMark, ih (fun h => hcolon (by simp [h])) fun h => hspace (by simp [h])]
      simp [hc, hc']

/-- The characters that may keep a text from being bare, wherever they stand. -/
def bareMarks : Text := leadingMarks ++ [' ', ':', '\t', '\n', '\u0085', '\u2028', '\u2029']

theorem bare_of_no_marks (hne : t ≠ []) (hindicator : startsWithIndicator t = false)
    (h : ∀ m ∈ bareMarks, m ∉ t) : Bare t := by
  have hspace : ' ' ∉ t := h ' ' (by decide)
  refine ⟨hne, fun c hc => ⟨?_, ?_⟩, hindicator, fun c hc => ⟨?_, ?_⟩, ?_, ?_⟩
  · by_contra hbad
    rw [Bool.not_eq_false, List.contains_iff_mem] at hbad
    exact h c (List.mem_append_left _ hbad) (List.mem_of_head? hc)
  · rintro rfl
    exact hspace (List.mem_of_head? hc)
  · by_contra hbad
    simp only [isBreak, Bool.not_eq_false, Bool.or_eq_true, beq_iff_eq] at hbad
    rcases hbad with ((rfl | rfl) | rfl) | rfl <;> exact h _ (by decide) hc
  · rintro rfl
    exact h '\t' (by decide) hc
  · exact fun hlast => hspace (List.mem_of_getLast? hlast)
  · exact hasInnerMark_of_not_mem (h ':' (by decide)) hspace

/-- A word is bare. -/
theorem bare_of_word (hne : t ≠ []) (h : ∀ c ∈ t, c.isLower = true ∨ c = '_') : Bare t := by
  have hother : ∀ c : Char, c.isLower = false → c ≠ '_' → c ∉ t := by
    intro c hlower hline hmem
    rcases h c hmem with hc | rfl
    · rw [hlower] at hc; cases hc
    · exact hline rfl
  have hmarks : ∀ m ∈ bareMarks, m.isLower = false ∧ m ≠ '_' :=
    List.all_iff_forall_prop.1 (by decide)
  refine bare_of_no_marks hne ?_ fun m hm => hother m (hmarks m hm).1 (hmarks m hm).2
  obtain ⟨c, r, rfl⟩ := List.exists_cons_of_ne_nil hne
  have hfirst : ∀ m : Char, m.isLower = false → m ≠ '_' → c ≠ m := by
    rintro m hlower hline rfl
    exact hother c hlower hline (by simp)
  simp [startsWithIndicator, hfirst '?' (by decide) (by decide), hfirst '-' (by decide) (by decide),
    hfirst ':' (by decide) (by decide)]

theorem needsEscapes_of_line (h : ∀ c ∈ t, isWritable c = true ∧ isBreak c = false) :
    needsEscapes t = false := by
  rw [needsEscapes, hasLooseBreak_of_line fun c hc => (h c hc).2, Bool.or_false, List.any_eq_false]
  intro c hc
  simp [(h c hc).1]

/-- **A text without escapes is written so that its line gives it back**, bare exactly if it can
be. -/
theorem reads_scalarText (h : ∀ c ∈ t, isWritable c = true ∧ isBreak c = false) (indent : Nat) :
    Reads (scalarText indent t) (isPlain t) t := by
  have hline : ∀ c ∈ t, isBreak c = false := fun c hc => (h c hc).2
  rw [scalarText, needsEscapes_of_line h, if_neg Bool.false_ne_true]
  cases hplain : isPlain t with
  | true =>
    have htab : '\t' ∉ t := by
      intro hmem
      have hwritable := (h '\t' hmem).1
      revert hwritable; decide
    exact .bare (bare_of_isPlain hplain htab)
  | false =>
    rw [if_neg Bool.false_ne_true, singleBody_of_line hline]
    exact .quoted hline

/-! ## Whole numbers -/

section

variable {digits : Text} {i : Int}

theorem signed_ofInt (i : Int) : signed (ofInt i) = (decide (i < 0), ofNat i.natAbs) := by
  cases i with
  | ofNat n => exact signed_ofNat n
  | negSucc n => rw [decide_eq_true (Int.negSucc_lt_zero n)]; rfl

/-- A digit is none of some characters that are no digits. -/
theorem not_mem_of_digits (h : ∀ d ∈ digits, d.isDigit = true) (hc : c.isDigit = false) :
    c ∉ digits := by
  intro hmem
  rw [h c hmem] at hc; cases hc

theorem mem_ofInt (h : c ∈ ofInt i) : c = '-' ∨ c.isDigit = true := by
  rw [ofInt_eq, List.mem_append] at h
  rcases h with h | h
  · split at h
    · exact .inl (List.mem_singleton.1 h)
    · cases h
  · exact .inr ((plainDigits_ofNat _).ascii c h)

theorem bare_ofInt (i : Int) : Bare (ofInt i) := by
  have hne := ofNat_ne_nil i.natAbs
  have hmarks : ∀ m ∈ bareMarks, m ≠ '-' ∧ m.isDigit = false :=
    List.all_iff_forall_prop.1 (by decide)
  refine bare_of_no_marks ?_ ?_ fun m hm hmem => ?_
  · rw [ofInt_eq]
    exact List.append_ne_nil_of_right_ne_nil _ hne
  · -- behind a minus there is a digit
    obtain ⟨d, r, hdigits⟩ := List.exists_cons_of_ne_nil hne
    have hd : d.isDigit = true := (plainDigits_ofNat _).ascii d (by rw [hdigits]; simp)
    have hnot : ∀ m : Char, m.isDigit = false → d ≠ m := by
      rintro m hm rfl
      rw [hd] at hm; cases hm
    rw [ofInt_eq, hdigits]
    split
    · simp [startsWithIndicator, hnot ' ' (by decide)]
    · simp [startsWithIndicator, hnot '?' (by decide), hnot '-' (by decide), hnot ':' (by decide)]
  · rcases mem_ofInt hmem with heq | hdigit
    · exact (hmarks m hm).1 heq
    · rw [(hmarks m hm).2] at hdigit; cases hdigit

/-- Digits have the form of a whole number. -/
theorem isInteger_ofInt (i : Int) : Numeral.isInteger (ofInt i) = true := by
  have hdigits := plainDigits_ofNat i.natAbs
  have hpieces : pieces ':' (ofNat i.natAbs) = [ofNat i.natAbs] :=
    pieces_of_not_mem (not_mem_of_digits hdigits.ascii (by decide))
  have hall : (ofNat i.natAbs).all Numeral.isDigitOr_ = true := by
    refine List.all_eq_true.2 fun c hc => ?_
    rw [Numeral.isDigitOr_, hdigits.ascii c hc]; rfl
  have hzero : ∀ r, ofNat i.natAbs = '0' :: r → r = [] := by
    intro r hr
    have hone := hdigits.no_zero (by rw [hr]; rfl)
    rw [hr] at hone
    exact (List.cons.inj hone).2
  have hhead : (ofNat i.natAbs).head?.any Char.isDigit = true := by
    obtain ⟨d, r, hdr⟩ := List.exists_cons_of_ne_nil hdigits.ne_nil
    rw [hdr]
    exact hdigits.ascii d (by rw [hdr]; simp)
  rw [Numeral.isInteger, signed_ofInt]
  split
  · rename_i r hr
    cases hzero _ hr
  · rename_i r hr
    cases hzero _ hr
  · rename_i r _ _ hr
    rw [hzero _ hr]
    rfl
  · rw [hpieces]
    simp [Numeral.isLeadingPlace, hhead, hall]

/-- Digits have no form of a double. -/
theorem isDouble_ofInt (i : Int) : Numeral.isDouble (ofInt i) = false := by
  have hdigits := plainDigits_ofNat i.natAbs
  have hpoint : '.' ∉ ofNat i.natAbs := not_mem_of_digits hdigits.ascii (by decide)
  have hpieces : pieces ':' (ofNat i.natAbs) = [ofNat i.natAbs] :=
    pieces_of_not_mem (not_mem_of_digits hdigits.ascii (by decide))
  have hinfinity : Numeral.infinitySpellings.contains (ofNat i.natAbs) = false := by
    have key : ∀ w ∈ Numeral.infinitySpellings, '.' ∈ w := by decide
    by_contra hbad
    rw [Bool.not_eq_false, List.contains_iff_mem] at hbad
    exact hpoint (key _ hbad)
  have hnan : Numeral.nanSpellings.contains (ofInt i) = false := by
    have key : ∀ w ∈ Numeral.nanSpellings, '.' ∈ w := by decide
    by_contra hbad
    rw [Bool.not_eq_false, List.contains_iff_mem] at hbad
    rcases mem_ofInt (key _ hbad) with heq | hdigit
    · cases heq
    · cases hdigit
  have hsixtieths : Numeral.isSixtieths (ofNat i.natAbs) = false := by
    rw [Numeral.isSixtieths, hpieces]
  have hdecimal : Numeral.isDecimal (ofNat i.natAbs) = false := by
    have hend : (ofNat i.natAbs).dropWhile Numeral.isDigitOr_ = [] := by
      refine List.dropWhile_eq_nil_iff.2 fun c hc => ?_
      rw [Numeral.isDigitOr_, hdigits.ascii c hc]; rfl
    simp only [Numeral.isDecimal, hend]
  rw [Numeral.isDouble, signed_ofInt]
  simp only [hinfinity, hnan, hsixtieths, hdecimal, Bool.or_self, Bool.false_and]

/-- Digits are taken for a whole number and for nothing else. -/
theorem ofPlain_ofInt (i : Int) : Kind.ofPlain (ofInt i) = .int := by
  have hdigits := plainDigits_ofNat i.natAbs
  obtain ⟨d, hd⟩ := List.exists_mem_of_ne_nil _ hdigits.ne_nil
  have hmem : d ∈ ofInt i := by rw [ofInt_eq]; exact List.mem_append_right _ hd
  -- no word has a digit in it
  have hword : ∀ words : List Text, (∀ w ∈ words, w.any Char.isDigit = false) →
      words.contains (ofInt i) = false := by
    intro words hwords
    by_contra hbad
    rw [Bool.not_eq_false, List.contains_iff_mem] at hbad
    exact List.any_eq_false.1 (hwords _ hbad) d hmem (hdigits.ascii d hd)
  have hnull : nullSpellings.contains (ofInt i) = false := hword _ (by decide)
  have htruth : (truthWords.any fun p => (casings p.1).contains (ofInt i)) = false := by
    have key : ∀ p ∈ truthWords, ∀ w ∈ casings p.1, w.any Char.isDigit = false := by decide
    refine List.any_eq_false.2 fun p hp => ?_
    rw [hword _ (key p hp)]
    exact Bool.false_ne_true
  have hbreak : '\n' ∉ ofInt i := by
    intro hmem
    have := ((bare_ofInt i).line '\n' hmem).1
    revert this; decide
  have hend : withoutFinalBreak (ofInt i) = ofInt i :=
    if_neg fun h => hbreak (List.mem_of_getLast? h)
  have hlone : ofInt i ≠ ['\n'] := by
    intro h
    rw [h] at hbreak
    exact hbreak (by simp)
  rw [Kind.ofPlain, if_neg hlone, hend, Kind.ofForm, hnull, if_neg Bool.false_ne_true, htruth,
    if_neg Bool.false_ne_true, isDouble_ofInt, if_neg Bool.false_ne_true, isInteger_ofInt, if_pos rfl]

/-- Nothing that stands around a numeral is a digit. -/
theorem stripNumeral_of_digits (h : ∀ d ∈ digits, d.isDigit = true) : stripNumeral digits = digits := by
  have hblank : ∀ d ∈ digits, isNumeralBlank d = false := by
    intro d hd
    have hdecimal : isDecimalDigit d = true := by
      obtain ⟨n, hn, rfl⟩ := exists_digitChar (h d hd)
      rw [isDecimalDigit, digit?_digitChar hn]; rfl
    rw [isNumeralBlank, Statement.isBlank_of_isDecimalDigit hdecimal]; rfl
  exact trimBy_eq_self_iff.2 ⟨fun c hc => hblank c (List.mem_of_head? hc),
    fun c hc => hblank c (List.mem_of_getLast? hc)⟩

/-- Not too many digits of a natural number are read as that number. -/
theorem integer_ofNat {n : Nat} (h : n < tenTo maxIntegerDigits) : Radix.ten.integer (ofNat n) = .ok n := by
  have hdigits := plainDigits_ofNat n
  have hmark : Radix.ten.withoutMark (ofNat n) = ofNat n := by
    unfold Radix.withoutMark
    split
    · exact if_neg (by rintro ⟨⟩)
    · rfl
  have hall : (ofNat n).all isDecimalDigit = true :=
    List.all_eq_true.2 fun c hc => isDecimalDigit_of_mem_ofNat hc
  have hradix : (ofNat n).all Radix.ten.isDigit = true := by
    refine List.all_eq_true.2 fun c hc => ?_
    obtain ⟨d, hd⟩ := Option.isSome_iff_exists.1 (isDecimalDigit_of_mem_ofNat hc)
    rw [Radix.isDigit, Radix.digitValue?, hd]
    exact decide_eq_true (digit?_lt_ten hd)
  have hlength : ¬ maxIntegerDigits < (ofNat n).length :=
    Nat.not_lt.2 (length_ofNat_le (by decide) h)
  have hvalue : Radix.ten.ofDigits (ofNat n) = .ok n := by
    rw [Radix.ofDigits, if_neg, Radix.value_ten hall, digitsValue_ofNat]
    simp [hdigits.ne_nil, hradix, hlength]
  rw [Radix.integer, stripNumeral_of_digits hdigits.ascii, signed_ofNat]
  simp only [hmark, hvalue]
  rfl

/-- **A whole number that can be shown is read back.** -/
theorem integer_ofInt (h : i.natAbs < tenTo maxIntegerDigits) :
    Numeral.integer (ofInt i) = .ok i := by
  have hdigits := plainDigits_ofNat i.natAbs
  have hsame : Numeral.unseparated (ofInt i) = ofInt i := by
    refine List.filter_eq_self.2 fun c hc => ?_
    rcases mem_ofInt hc with rfl | hdigit
    · rfl
    · by_contra hbad
      simp only [bne_iff_ne, ne_eq, not_not] at hbad
      rw [hbad] at hdigit; cases hdigit
  have hmagnitude : Numeral.magnitude (ofNat i.natAbs) = .ok i.natAbs := by
    have hpieces : pieces ':' (ofNat i.natAbs) = [ofNat i.natAbs] :=
      pieces_of_not_mem (not_mem_of_digits hdigits.ascii (by decide))
    by_cases hzero : (ofNat i.natAbs).head? = some '0'
    · -- only the number zero starts with one, and is read in base 8
      have hlone := hdigits.no_zero hzero
      have hvalue : i.natAbs = 0 := by
        rw [← digitsValue_ofNat i.natAbs, hlone]; rfl
      rw [hlone, hvalue]; rfl
    · unfold Numeral.magnitude
      split
      · rename_i heq; rw [heq] at hzero; exact absurd rfl hzero
      · rename_i heq; rw [heq] at hzero; exact absurd rfl hzero
      · rename_i heq; rw [heq] at hzero; exact absurd rfl hzero
      · rw [hpieces]
        simp [integer_ofNat h, Except.map, Numeral.sumPlaces, pure, Except.pure, bind, Except.bind]
  rw [Numeral.integer, hsame, signed_ofInt]
  cases hnil : ofNat i.natAbs with
  | nil => exact absurd hnil hdigits.ne_nil
  | cons d r =>
    rw [hnil] at hmagnitude
    simp only [hmagnitude, Except.map]
    have habs : (if decide (i < 0) = true then -(i.natAbs : Int) else i.natAbs) = i := by
      split <;> rename_i hneg <;> rw [decide_eq_true_eq] at hneg <;> omega
    rw [habs]

end

/-! ## Values -/

/-- **A value is written so that its line gives it back.** -/
theorem reads_scalar {v : Value} (h : FitsLine v) (indent : Nat) :
    Reads (scalar indent v) (lineScalar v).1 (lineScalar v).2 := by
  have hword : ∀ w : Text, w ≠ [] → (w.all fun c => decide (c.isLower = true ∨ c = '_')) = true →
      Reads w true w := fun w hne hw => .bare (bare_of_word hne (List.all_iff_forall_prop.1 hw))
  cases h with
  | null => exact hword "null".toList (by decide) (by decide)
  | bool b =>
    cases b with
    | false => exact hword "false".toList (by decide) (by decide)
    | true => exact hword "true".toList (by decide) (by decide)
  | int h => exact .bare (bare_ofInt _)
  | text h => exact reads_scalarText h indent

/-- The node of a value's line. -/
def lineNode (v : Value) : Node :=
  ⟨Properties.scalarKind ⟨none, none⟩ (lineScalar v).1 (lineScalar v).2, .scalar (lineScalar v).2⟩

/-- **What its line gives is read as the value**, with its type. -/
theorem read_lineScalar {v : Value} (h : FitsLine v) (payload : Nat) :
    (lineNode v).kind.read payload (lineScalar v).2 = .ok v := by
  cases h with
  | null => rfl
  | bool b => cases b <;> rfl
  | @int i h =>
    change (Kind.ofPlain (ofInt i)).read payload (ofInt i) = _
    rw [ofPlain_ofInt, Kind.read, integer_ofInt h]
    rfl
  | @text t h =>
    change (if isPlain t = true then Kind.ofPlain t else Kind.text).read payload t = _
    split
    · rename_i hplain
      refine read_ofPlain_of_text ?_ payload
      simp only [isPlain, Bool.and_eq_true, Bool.not_eq_true'] at hplain
      obtain ⟨⟨⟨⟨⟨⟨⟨⟨-, htaken⟩, -⟩, -⟩, -⟩, -⟩, -⟩, -⟩, -⟩ := hplain
      exact htaken
    · rfl

/-- What fits on a line can be shown, if only there is a place left for it. -/
theorem FitsLine.obstacle?_eq_none {v : Value} (h : FitsLine v) (n : Nat) :
    v.obstacle? (n + 1) = none := by
  cases h with
  | int h => rw [Value.obstacle?, if_pos h]
  | null | bool | text => rw [Value.obstacle?] <;> simp

theorem Outline.ofValue_of_fitsLine {v : Value} (h : FitsLine v) : ofValue v = ofScalar v := by
  cases h <;> simp [ofValue]

end Almanac.Yaml
