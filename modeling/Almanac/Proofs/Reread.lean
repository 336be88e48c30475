import Almanac.Proofs.Canonical
import Almanac.Proofs.Rounding

/-!
# Numbers read from their own text

The text under which a number is compared is also a literal, and it stands for the same number, with
the same type. Doubles that are written with an exponent and without a point are the exception: to the
reader an exponent only counts behind a point, and what has none is a bare word.

* `readLiteral_pointed`: **a text with a point is read as the decimal that it shows**.
* `exists_pointed`: which doubles are written so.
* `number_reread`: **what becomes of each number**.
* `lone_digit_is_text`: one that does not come back.
-/

namespace Almanac

open Text Statement

/-! ## Digits -/

namespace Text

variable {t digits whole fraction tail sign : Text} {negative : Bool} {c : Char} {n k : Nat} {e : Int}

theorem digitsValue_zeros (t : Text) (k : Nat) :
    digitsValue (t ++ List.replicate k '0') = digitsValue t * tenTo k := by
  induction k with
  | zero => rw [List.replicate_zero, List.append_nil]; exact (Nat.mul_one _).symm
  | succ k ih =>
    have hzero : '0' = Nat.digitChar 0 := rfl
    rw [List.replicate_succ', ← List.append_assoc, hzero, digitsValue_concat_digitChar _ (by decide),
      ← hzero, ih, tenTo_succ, Nat.mul_left_comm]
    rfl

theorem digitsValue_zeros_append (k : Nat) (t : Text) :
    digitsValue (List.replicate k '0' ++ t) = digitsValue t := by
  have hzeros : digitsValue (List.replicate k '0') = 0 := by
    have h := digitsValue_zeros [] k
    rw [List.nil_append] at h
    rw [h]
    exact Nat.zero_mul _
  rw [digitsValue_append, hzeros]
  rfl

theorem isDecimalDigit_zero : isDecimalDigit '0' = true := by decide

/-- **The digits of a decimal**, without the zeros behind them: what is left out is a power of ten. -/
theorem exists_significant (h : 0 < n) : significant n ≠ [] ∧
    (∀ c ∈ significant n, isDecimalDigit c = true) ∧
    ∃ k, n = digitsValue (significant n) * tenTo k ∧
      Binary64.digitCount n = (significant n).length + k := by
  obtain ⟨zeros, hzeros, hsplit⟩ := exists_trimEnd (· == '0') (ofNat n)
  have hreplicate : zeros = List.replicate zeros.length '0' :=
    List.eq_replicate_of_mem fun c hc => by simpa using hzeros c hc
  have hparts : ofNat n = significant n ++ List.replicate zeros.length '0' := by
    rw [significant, ← hreplicate]
    exact hsplit
  refine ⟨fun hnil => ?_, fun c hc => ?_, zeros.length, ?_, ?_⟩
  · -- a number that is not zero has another digit than that in front
    rw [hnil, List.nil_append] at hparts
    have hhead := head?_ofNat_ne h
    rw [hparts] at hhead
    cases hlength : zeros.length with
    | zero => rw [hlength] at hparts; exact ofNat_ne_nil n hparts
    | succ k => rw [hlength] at hhead; exact hhead rfl
  · exact isDecimalDigit_of_mem_ofNat (n := n) (by rw [hparts]; exact List.mem_append_left _ hc)
  · rw [← digitsValue_zeros, ← hparts, digitsValue_ofNat]
  · rw [← List.length_replicate (n := zeros.length) (a := '0'), ← List.length_append, ← hparts]
    rfl

/-! ## Texts with a point -/

/-- **A decimal with a point**: digits, a point, digits and what stands behind them. -/
structure Pointed (t whole fraction tail : Text) (e : Int) : Prop where
  text : t = whole ++ '.' :: (fraction ++ tail)
  ne_nil : whole ≠ []
  whole_digits : ∀ c ∈ whole, isDecimalDigit c = true
  fraction_digits : ∀ c ∈ fraction, isDecimalDigit c = true
  exponent : exponent? tail = some e
  ends : ∀ c, tail.head? = some c → isDecimalDigit c = false
  unbroken : '\n' ∉ tail

/-- Digits stop where something else begins. -/
theorem takeWhile_digits (hdigits : ∀ d ∈ digits, isDecimalDigit d = true)
    (hends : ∀ c, t.head? = some c → isDecimalDigit c = false) :
    (digits ++ t).takeWhile isDecimalDigit = digits ∧ (digits ++ t).dropWhile isDecimalDigit = t := by
  constructor
  · rw [takeWhile_append_of_head hends]
    exact List.takeWhile_eq_self_iff.2 hdigits
  · rw [dropWhile_append_of_head hends, List.dropWhile_eq_nil_iff.2 hdigits, List.nil_append]

/-- A decimal with a point is taken apart into its parts. -/
theorem Pointed.decimal?_eq (h : Pointed t whole fraction tail e) (hsign : Sign negative sign) :
    decimal? (sign ++ t) = some ⟨negative, whole, fraction, true, e⟩ := by
  have hpoint : ∀ c, ('.' :: (fraction ++ tail)).head? = some c → isDecimalDigit c = false := by
    rintro _ ⟨⟩
    decide
  obtain ⟨hwhole, hrest⟩ := takeWhile_digits h.whole_digits hpoint
  obtain ⟨hfraction, htail⟩ := takeWhile_digits h.fraction_digits h.ends
  have hhead : ∀ c, (whole ++ '.' :: (fraction ++ tail)).head? = some c → c ≠ '+' ∧ c ≠ '-' := by
    intro c hc
    rw [List.head?_append_of_ne_nil _ h.ne_nil] at hc
    exact not_sign_of_isDecimalDigit (h.whole_digits c (List.mem_of_head? hc))
  rw [h.text, decimal?, signed_of_head hsign hhead]
  simp only [hwhole, hrest, hfraction, htail, if_true, h.ne_nil, false_and, if_false, h.exponent,
    Option.map_some]

theorem not_mem_sign (hsign : Sign negative sign) (h : c ≠ '+' ∧ c ≠ '-') : c ∉ sign := by
  cases hsign with
  | none => exact List.not_mem_nil
  | plus => exact fun hc => h.1 (List.mem_singleton.1 hc)
  | minus => exact fun hc => h.2 (List.mem_singleton.1 hc)

theorem not_mem_digits (hdigits : ∀ d ∈ digits, isDecimalDigit d = true)
    (h : isDecimalDigit c = false) : c ∉ digits := by
  intro hc
  rw [hdigits c hc] at h
  cases h

theorem Pointed.not_mem_break (h : Pointed t whole fraction tail e) : '\n' ∉ t := by
  have hdigit : isDecimalDigit '\n' = false := by decide
  have hpoint : '\n' ≠ '.' := by decide
  simp [h.text, not_mem_digits h.whole_digits hdigit, not_mem_digits h.fraction_digits hdigit,
    h.unbroken, hpoint]

/-- What has a character in it that is neither a digit nor a sign is no integer. -/
theorem integer?_eq_none_of_mem (hc : c ∈ t) (hdigit : isDecimalDigit c = false)
    (hsign : c ≠ '+' ∧ c ≠ '-') : integer? t = none := by
  cases hinteger : integer? t with
  | none => rfl
  | some p =>
    obtain ⟨negative, digits⟩ := p
    obtain ⟨sign, hkind, ht, hdigits⟩ := sign_of_integer? hinteger
    rw [ht, List.mem_append] at hc
    exact absurd hc (not_or.2 ⟨not_mem_sign hkind hsign, not_mem_digits hdigits hdigit⟩)

/-- What has no point is no decimal with a point. -/
theorem pointed_of_decimal? {d : DecimalNumeral} (h : decimal? t = some d) (hpoint : '.' ∉ t) :
    d.pointed = false := by
  obtain ⟨sign, -, ht⟩ := sign_signed t
  simp only [decimal?, Option.ite_none_left_eq_some] at h
  obtain ⟨e, -, rfl⟩ := Option.map_eq_some_iff.1 h.2
  dsimp only
  split
  · rename_i rest hrest
    have hmem : '.' ∈ (signed t).2 := (List.dropWhile_suffix _).subset (by rw [hrest]; simp)
    exact absurd (by rw [ht]; exact List.mem_append_right _ hmem) hpoint
  · rfl

/-! ## The layout of doubles -/

/-- The digits of an exponent, with zeros in front of them to make up the width. -/
def exponentDigits (layout : DecimalLayout) (power : Int) : Text :=
  List.replicate (layout.exponentWidth - (ofNat power.natAbs).length) '0' ++ ofNat power.natAbs

/-- What stands behind the digits of a decimal with an exponent. -/
def exponentTail (layout : DecimalLayout) (power : Int) : Text :=
  'e' :: (if power < 0 then '-' else '+') :: exponentDigits layout power

section

variable (layout : DecimalLayout) (power : Int)

theorem isDecimalDigit_exponent : ∀ c ∈ exponentDigits layout power, isDecimalDigit c = true := by
  intro c hc
  rcases List.mem_append.1 hc with hc | hc
  · rw [List.eq_of_mem_replicate hc]
    exact isDecimalDigit_zero
  · exact isDecimalDigit_of_mem_ofNat hc

/-- **An exponent is read as it was written.** -/
theorem exponent?_tail : exponent? (exponentTail layout power) = some power := by
  have hne : exponentDigits layout power ≠ [] :=
    List.append_ne_nil_of_right_ne_nil _ (ofNat_ne_nil _)
  have hinteger : ∀ {negative sign}, Sign negative sign →
      integer? (sign ++ exponentDigits layout power) = some (negative, exponentDigits layout power) :=
    fun hsign => (integer?_of_sign hsign hne (isDecimalDigit_exponent layout power)).2
  have hvalue : digitsValue (exponentDigits layout power) = power.natAbs := by
    rw [exponentDigits, digitsValue_zeros_append, digitsValue_ofNat]
  rw [exponentTail, exponent?, if_pos (.inl rfl)]
  by_cases hpower : power < 0
  · have hminus := hinteger .minus
    rw [List.singleton_append] at hminus
    rw [if_pos hpower, hminus, Option.map_some, integerValue, if_pos rfl, hvalue]
    exact congrArg some (by omega)
  · have hplus := hinteger .plus
    rw [List.singleton_append] at hplus
    rw [if_neg hpower, hplus, Option.map_some, integerValue, if_neg Bool.false_ne_true, hvalue]
    exact congrArg some (by omega)

theorem not_mem_tail (hdigit : isDecimalDigit c = false) (hne : c ≠ 'e' ∧ c ≠ '+' ∧ c ≠ '-') :
    c ∉ exponentTail layout power := by
  have hdigits := not_mem_digits (isDecimalDigit_exponent layout power) hdigit
  have hsign : c ≠ if power < 0 then '-' else '+' := by
    split
    · exact hne.2.2
    · exact hne.2.1
  simp only [exponentTail, List.mem_cons, not_or]
  exact ⟨hne.1, hsign, hdigits⟩

/-- **A decimal with an exponent and more than one digit has a point.** -/
theorem pointed_scientific (hlength : 2 ≤ digits.length)
    (hdigits : ∀ c ∈ digits, isDecimalDigit c = true) :
    Pointed (scientific layout digits power) (digits.take 1) (digits.drop 1)
      (exponentTail layout power) power where
  text := by
    rw [scientific, if_neg (by omega), List.append_assoc, List.cons_append]
    rfl
  ne_nil := by
    intro hnil
    have := congrArg List.length hnil
    rw [List.length_take, List.length_nil] at this
    omega
  whole_digits c hc := hdigits c (List.mem_of_mem_take hc)
  fraction_digits c hc := hdigits c (List.mem_of_mem_drop hc)
  exponent := exponent?_tail layout power
  ends := by
    rintro _ ⟨⟩
    decide
  unbroken := not_mem_tail layout power (by decide) (by decide)

end

/-- **A decimal that is written positionally has a point**, and shows its value. -/
theorem exists_pointed_positional (hne : digits ≠ [])
    (hdigits : ∀ c ∈ digits, isDecimalDigit c = true) (hvalue : 0 < digitsValue digits)
    (negative : Bool) (point : Int) :
    ∃ whole fraction, Pointed (positional digits point) whole fraction [] 0 ∧
      Binary64.ofDecimal negative (digitsValue (whole ++ fraction)) (0 - fraction.length) =
        Binary64.ofDecimal negative (digitsValue digits) (point - digits.length) := by
  have hzeros : ∀ k, ∀ c ∈ List.replicate k '0', isDecimalDigit c = true := by
    intro k c hc
    rw [List.eq_of_mem_replicate hc]
    exact isDecimalDigit_zero
  have hboth : ∀ {a b : Text}, (∀ c ∈ a, isDecimalDigit c = true) →
      (∀ c ∈ b, isDecimalDigit c = true) → ∀ c ∈ a ++ b, isDecimalDigit c = true :=
    fun ha hb c hc => (List.mem_append.1 hc).elim (ha c) (hb c)
  have hpointed : ∀ {whole fraction : Text}, positional digits point = whole ++ '.' :: fraction →
      whole ≠ [] → (∀ c ∈ whole, isDecimalDigit c = true) →
      (∀ c ∈ fraction, isDecimalDigit c = true) → Pointed (positional digits point) whole fraction [] 0 :=
    fun htext hne hwhole hfraction =>
      ⟨by rw [htext, List.append_nil], hne, hwhole, hfraction, rfl, nofun, List.not_mem_nil⟩
  by_cases hsmall : point ≤ 0
  · -- a zero, the point and zeros stand in front of the digits
    refine ⟨['0'], List.replicate (-point).toNat '0' ++ digits,
      hpointed (by rw [positional, if_pos hsmall]; rfl) (by simp) (hzeros 1) (hboth (hzeros _) hdigits),
      ?_⟩
    have hdigitsValue : digitsValue (['0'] ++ (List.replicate (-point).toNat '0' ++ digits)) =
        digitsValue digits := by
      rw [← List.append_assoc, ← List.replicate_one, ← List.replicate_append_replicate.symm]
      exact digitsValue_zeros_append _ _
    have hexponent : (0 : Int) - ((List.replicate (-point).toNat '0' ++ digits).length : Nat) =
        point - digits.length := by
      rw [List.length_append, List.length_replicate]
      omega
    rw [hdigitsValue, hexponent]
  · by_cases hshort : digits.length ≤ point.toNat
    · -- zeros, the point and a zero stand behind the digits
      refine ⟨digits ++ List.replicate (point.toNat - digits.length) '0', ['0'],
        hpointed (by simp [positional, if_neg hsmall, if_pos hshort]) (by simp [hne])
          (hboth hdigits (hzeros _)) (hzeros 1), ?_⟩
      have hdigitsValue : digitsValue
          (digits ++ List.replicate (point.toNat - digits.length) '0' ++ ['0']) =
            digitsValue digits * tenTo (point.toNat - digits.length + 1) := by
        rw [← digitsValue_zeros, List.replicate_succ', List.append_assoc]
      have hexponent : (0 : Int) - (['0'] : Text).length =
          point - digits.length - (point.toNat - digits.length + 1 : Nat) := by
        rw [List.length_singleton]
        omega
      rw [hdigitsValue, hexponent]
      exact Binary64.ofDecimal_shift negative hvalue _ _
    · -- the point stands among the digits
      refine ⟨digits.take point.toNat, digits.drop point.toNat,
        hpointed (by simp [positional, if_neg hsmall, if_neg hshort]) ?_
          (fun c hc => hdigits c (List.mem_of_mem_take hc))
          (fun c hc => hdigits c (List.mem_of_mem_drop hc)), ?_⟩
      · intro hnil
        have := congrArg List.length hnil
        rw [List.length_take, List.length_nil] at this
        omega
      · have hexponent : (0 : Int) - ((digits.drop point.toNat).length : Nat) =
            point - digits.length := by
          rw [List.length_drop]
          omega
        rw [List.take_append_drop, hexponent]

/-- **A decimal that is written with one digit and an exponent**: the others behind its first digit
are zeros, and that digit stands far from the point. -/
def IsLone (layout : DecimalLayout) (d : Binary64.Decimal) : Prop :=
  (significant d.coefficient).length ≤ 1 ∧
    ¬ (layout.least ≤ (Binary64.digitCount d.coefficient : Int) + d.exponent - 1 ∧
      (Binary64.digitCount d.coefficient : Int) + d.exponent - 1 ≤ layout.greatest)

variable {layout : DecimalLayout} {d : Binary64.Decimal}

/-- A decimal without the zeros behind its digits is the same number. -/
theorem ofDecimal_significant (h : 0 < d.coefficient) (negative : Bool) :
    Binary64.ofDecimal negative (digitsValue (significant d.coefficient))
        ((Binary64.digitCount d.coefficient : Int) + d.exponent - (significant d.coefficient).length) =
      Binary64.ofDecimal negative d.coefficient d.exponent ∧
    0 < digitsValue (significant d.coefficient) := by
  obtain ⟨-, -, k, hcoefficient, hcount⟩ := exists_significant h
  have hvalue : 0 < digitsValue (significant d.coefficient) := by
    refine Nat.pos_of_ne_zero fun hzero => ?_
    rw [hzero, Nat.zero_mul] at hcoefficient
    omega
  have hexponent : (Binary64.digitCount d.coefficient : Int) + d.exponent -
      (significant d.coefficient).length = d.exponent + k := by omega
  have hshift := Binary64.ofDecimal_shift negative hvalue k (d.exponent + k)
  rw [← hcoefficient, Int.add_sub_cancel] at hshift
  rw [hexponent]
  exact ⟨hshift.symm, hvalue⟩

/-- **Any other decimal has a point**, and shows its value. -/
theorem exists_pointed (h : 0 < d.coefficient) (hlone : ¬ IsLone layout d) (negative : Bool) :
    ∃ whole fraction tail e, Pointed (ofDecimal layout d) whole fraction tail e ∧
      Binary64.ofDecimal negative (digitsValue (whole ++ fraction)) (e - fraction.length) =
        Binary64.ofDecimal negative d.coefficient d.exponent := by
  obtain ⟨hne, hdigits, -⟩ := exists_significant h
  obtain ⟨hsame, hvalue⟩ := ofDecimal_significant h negative
  by_cases hpositional : layout.least ≤ (Binary64.digitCount d.coefficient : Int) + d.exponent - 1 ∧
      (Binary64.digitCount d.coefficient : Int) + d.exponent - 1 ≤ layout.greatest
  · -- zeros between the digits and the point make no difference to the value
    obtain ⟨whole, fraction, hpointed, hshown⟩ := exists_pointed_positional hne hdigits hvalue negative
      ((Binary64.digitCount d.coefficient : Int) + d.exponent)
    rw [ofDecimal, if_pos hpositional]
    exact ⟨whole, fraction, [], 0, hpointed, hshown.trans hsame⟩
  · -- behind the first digit there is another one, and the point in front of it
    have hlength : 2 ≤ (significant d.coefficient).length := by
      by_contra hshort
      exact hlone ⟨by omega, hpositional⟩
    rw [ofDecimal, if_neg hpositional]
    refine ⟨_, _, _, _, pointed_scientific layout _ hlength hdigits, ?_⟩
    rw [List.take_append_drop, List.length_drop, ← hsame]
    congr 1
    omega

/-- A decimal with one digit and an exponent is that digit and the exponent. -/
theorem exists_lone (h : 0 < d.coefficient) (hlone : IsLone layout d) :
    ∃ c power, isDecimalDigit c = true ∧ ofDecimal layout d = c :: exponentTail layout power := by
  obtain ⟨hne, hdigits, -⟩ := exists_significant h
  obtain ⟨c, rest, hcons⟩ := List.exists_cons_of_ne_nil hne
  have hrest : rest = [] := by
    have hlength := hlone.1
    rw [hcons, List.length_cons] at hlength
    exact List.eq_nil_of_length_eq_zero (by omega)
  refine ⟨c, (Binary64.digitCount d.coefficient : Int) + d.exponent - 1, hdigits c (by simp [hcons]), ?_⟩
  rw [ofDecimal, if_neg hlone.2, scientific, if_pos hlone.1, hcons, hrest]
  rfl

end Text

/-! ## Literals -/

namespace Statement

variable {t whole fraction tail sign raw : Text} {negative : Bool} {c d : Char} {e : Int}

/-- **A literal that can only be a decimal with a point or a word**: there is a digit in it, and a
character that no integer has, and it neither begins with a quote nor holds a break. -/
structure DecimalOrWord (raw : Text) : Prop where
  quote : ∀ c, raw.head? = some c → isQuote c = false
  digit : ∃ c ∈ raw, isDecimalDigit c = true
  other : ∃ c ∈ raw, isDecimalDigit c = false ∧ c ≠ '+' ∧ c ≠ '-'
  unbroken : '\n' ∉ raw

theorem DecimalOrWord.readLiteral_eq (h : DecimalOrWord raw) :
    readLiteral raw = (decimal? raw).elim (.ok (.text raw)) fun d =>
      if d.pointed then .ok (.double d.value) else .ok (.text raw) := by
  obtain ⟨d, hd, hdigit⟩ := h.digit
  obtain ⟨c, hc, hnot, hsign⟩ := h.other
  have hlast : raw.getLast? ≠ some '\n' := fun hlast => h.unbroken (List.mem_of_getLast? hlast)
  rw [readLiteral_of_digit (quotedBody?_of_head h.quote) hd hdigit, withoutFinalBreak, if_neg hlast,
    integer?_eq_none_of_mem hc hnot hsign]
  rfl

theorem isQuote_of_sign (hsign : Sign negative sign) (hd : isDecimalDigit d = true)
    (h : (sign ++ d :: t).head? = some c) : isQuote c = false := by
  cases hsign with
  | none =>
    rw [← Option.some.inj h]
    exact isQuote_of_isDecimalDigit hd
  | plus | minus =>
    rw [← Option.some.inj h]
    decide

/-- **A text with a point is read as the decimal that it shows.** -/
theorem readLiteral_pointed (h : Pointed t whole fraction tail e) (hsign : Sign negative sign) :
    readLiteral (sign ++ t) = .ok (.double
      (Binary64.ofDecimal negative (digitsValue (whole ++ fraction)) (e - fraction.length))) := by
  obtain ⟨d, rest, hwhole⟩ := List.exists_cons_of_ne_nil h.ne_nil
  have hd : isDecimalDigit d = true := h.whole_digits d (by simp [hwhole])
  have hcases : DecimalOrWord (sign ++ t) := by
    refine ⟨fun c hc => ?_, ⟨d, by simp [h.text, hwhole], hd⟩, ⟨'.', by simp [h.text], by decide⟩, ?_⟩
    · rw [h.text, hwhole, List.cons_append] at hc
      exact isQuote_of_sign hsign hd hc
    · rw [List.mem_append]
      exact not_or.2 ⟨not_mem_sign hsign (by decide), h.not_mem_break⟩
  rw [hcases.readLiteral_eq, h.decimal?_eq hsign]
  rfl

/-- **A text with an exponent and without a point is a word.** -/
theorem readLiteral_lone (layout : DecimalLayout) (power : Int) (hd : isDecimalDigit d = true)
    (hsign : Sign negative sign) :
    readLiteral (sign ++ d :: exponentTail layout power) =
      .ok (.text (sign ++ d :: exponentTail layout power)) := by
  have hnot : ∀ {c}, isDecimalDigit c = false → c ≠ 'e' ∧ c ≠ '+' ∧ c ≠ '-' →
      c ∉ sign ++ d :: exponentTail layout power := by
    intro c hc hne
    have hdigit : c ≠ d := by
      rintro rfl
      rw [hd] at hc
      cases hc
    rw [List.mem_append, List.mem_cons]
    exact not_or.2 ⟨not_mem_sign hsign hne.2,
      not_or.2 ⟨hdigit, not_mem_tail layout power hc hne⟩⟩
  have hcases : DecimalOrWord (sign ++ d :: exponentTail layout power) :=
    ⟨fun c hc => isQuote_of_sign hsign hd hc, ⟨d, by simp, hd⟩,
      ⟨'e', by simp [exponentTail], by decide⟩, hnot (by decide) (by decide)⟩
  rw [hcases.readLiteral_eq]
  cases hdecimal : decimal? (sign ++ d :: exponentTail layout power) with
  | none => rfl
  | some n =>
    have hpoint := pointed_of_decimal? hdecimal (hnot (by decide) (by decide))
    simp [hpoint]

end Statement

/-! ## Numbers -/

namespace Value

/-- **A number whose text can be read**: a truth value, an integer that is not too long, or a finite
double. -/
inductive IsNumber : Value → Prop
  | bool (b : Bool) : IsNumber (.bool b)
  | int {i : Int} (h : i.natAbs < tenTo maxIntegerDigits) : IsNumber (.int i)
  | double (negative : Bool) (rank : Fin rankCount) : IsNumber (.double (.finite negative rank))

/-- A double whose text has one digit and an exponent. -/
def IsLone (v : Value) : Prop :=
  ∃ negative rank, v = .double (.finite negative rank) ∧ rank.val ≠ 0 ∧
    Text.IsLone doubleLayout (Binary64.shortest rank.val)

variable {v : Value} {negative : Bool} {rank : Fin rankCount} {sign : Text}

theorem readLiteral_ofInt {i : Int} (h : i.natAbs < tenTo maxIntegerDigits) :
    readLiteral (ofInt i) = .ok (.int i) := by
  have hdigits : ∀ d ∈ ofNat i.natAbs, isDecimalDigit d = true :=
    fun d hd => isDecimalDigit_of_mem_ofNat hd
  have hlength : ¬ maxIntegerDigits < (ofNat i.natAbs).length :=
    Nat.not_lt.2 (length_ofNat_le (by decide) h)
  have hread : ∀ {negative sign}, Sign negative sign → readLiteral (sign ++ ofNat i.natAbs) =
      .ok (.int (if negative then -(i.natAbs : Int) else i.natAbs)) := by
    intro negative sign hsign
    rw [readLiteral_of_sign hsign (ofNat_ne_nil _) hdigits, integerOf, if_neg hlength, integerValue,
      digitsValue_ofNat]
  rw [ofInt_eq]
  by_cases hi : i < 0
  · rw [if_pos hi, hread .minus]
    exact congrArg (fun n => Except.ok (Value.int n)) (by rw [if_pos rfl]; omega)
  · rw [if_neg hi, hread .none]
    exact congrArg (fun n => Except.ok (Value.int n)) (by rw [if_neg Bool.false_ne_true]; omega)

/-- Zero is written with a point. -/
theorem readLiteral_zero (hsign : Sign negative sign) :
    readLiteral (sign ++ ['0', '.', '0']) = .ok (.double (Binary64.zero negative)) := by
  have hzero : ∀ c ∈ ['0'], isDecimalDigit c = true := by
    intro c hc
    rw [List.mem_singleton.1 hc]
    exact isDecimalDigit_zero
  have hpointed : Pointed ['0', '.', '0'] ['0'] ['0'] [] 0 :=
    ⟨rfl, by simp, hzero, hzero, rfl, nofun, List.not_mem_nil⟩
  exact readLiteral_pointed hpointed hsign

/-- A decimal that rounds to a magnitude and has a point is read as it. -/
theorem readLiteral_shortest (hsign : Sign negative sign) (hpos : 0 < rank.val)
    (hlone : ¬ Text.IsLone doubleLayout (Binary64.shortest rank.val)) :
    readLiteral (sign ++ ofDecimal doubleLayout (Binary64.shortest rank.val)) =
      .ok (.double (.finite negative rank)) := by
  obtain ⟨hcoefficient, hread⟩ := Binary64.ofDecimal_of_readsBack negative
    (Binary64.readsBack_shortest rank.val) hpos rank.isLt
  obtain ⟨whole, fraction, tail, e, hpointed, hvalue⟩ := exists_pointed hcoefficient hlone negative
  rw [readLiteral_pointed hpointed hsign, hvalue, hread]

theorem sign_minus (negative : Bool) : Sign negative (if negative then ['-'] else []) := by
  cases negative with
  | false => exact .none
  | true => exact .minus

theorem coefficient_shortest (hpos : 0 < rank.val) : 0 < (Binary64.shortest rank.val).coefficient :=
  (Binary64.ofDecimal_of_readsBack false (Binary64.readsBack_shortest rank.val) hpos rank.isLt).1

theorem isLone_double_iff : (Value.double (.finite negative rank)).IsLone ↔
    rank.val ≠ 0 ∧ Text.IsLone doubleLayout (Binary64.shortest rank.val) := by
  refine ⟨?_, fun h => ⟨negative, rank, rfl, h⟩⟩
  rintro ⟨_, _, heq, h⟩
  cases heq
  exact h

theorem ofDouble_zero (hzero : rank.val = 0) :
    ofDouble (.finite negative rank) = (if negative then ['-'] else []) ++ ['0', '.', '0'] := by
  rw [ofDouble, if_pos hzero]

theorem ofDouble_of_ne_zero (hzero : rank.val ≠ 0) : ofDouble (.finite negative rank) =
    (if negative then ['-'] else []) ++ ofDecimal doubleLayout (Binary64.shortest rank.val) := by
  rw [ofDouble, if_neg hzero]

/-- The finite doubles whose text has one digit and an exponent are those whose text has no point. -/
theorem isLone_iff_not_mem :
    (Value.double (.finite negative rank)).IsLone ↔ '.' ∉ ofDouble (.finite negative rank) := by
  rw [isLone_double_iff]
  by_cases hzero : rank.val = 0
  · rw [ofDouble_zero hzero]
    simp [hzero]
  · have hcoefficient := coefficient_shortest (Nat.pos_of_ne_zero hzero)
    rw [ofDouble_of_ne_zero hzero]
    by_cases hlone : Text.IsLone doubleLayout (Binary64.shortest rank.val)
    · obtain ⟨c, power, hc, hshown⟩ := exists_lone hcoefficient hlone
      have hdigit : '.' ≠ c := by
        rintro rfl
        revert hc
        decide
      rw [hshown, List.mem_append, List.mem_cons]
      exact iff_of_true ⟨hzero, hlone⟩ (not_or.2 ⟨not_mem_sign (sign_minus negative) (by decide),
        not_or.2 ⟨hdigit, not_mem_tail _ _ (by decide) (by decide)⟩⟩)
    · obtain ⟨whole, fraction, tail, e, hpointed, -⟩ := exists_pointed hcoefficient hlone negative
      refine iff_of_false (fun h => hlone h.2) (not_not.2 ?_)
      rw [hpointed.text]
      simp

/-- **What becomes of a number that is read from its own text**: it comes back, with its type, unless it
is a double whose text has one digit and an exponent, and so no point. That one becomes a text. -/
theorem number_reread (h : v.IsNumber) :
    ∃ t, v.asText = some t ∧ (¬ v.IsLone → readLiteral t = .ok v) ∧
      (v.IsLone → readLiteral t = .ok (.text t)) := by
  cases h with
  | bool b =>
    refine ⟨_, rfl, fun _ => by cases b <;> rfl, ?_⟩
    rintro ⟨negative, rank, heq, -⟩
    cases heq
  | @int i h =>
    refine ⟨_, rfl, fun _ => readLiteral_ofInt h, ?_⟩
    rintro ⟨negative, rank, heq, -⟩
    cases heq
  | double negative rank =>
    have hsign := sign_minus negative
    refine ⟨ofDouble (.finite negative rank), rfl, ?_⟩
    rw [isLone_double_iff]
    by_cases hzero : rank.val = 0
    · have hrank : Binary64.finite negative rank = Binary64.zero negative :=
        congrArg (Binary64.finite negative) (Fin.ext hzero)
      refine ⟨fun _ => ?_, fun h => absurd hzero h.1⟩
      rw [ofDouble_zero hzero, hrank]
      exact readLiteral_zero hsign
    · have hpos := Nat.pos_of_ne_zero hzero
      rw [ofDouble_of_ne_zero hzero]
      refine ⟨fun h => readLiteral_shortest hsign hpos fun hlone => h ⟨hzero, hlone⟩, fun h => ?_⟩
      obtain ⟨c, power, hc, hshown⟩ := exists_lone (coefficient_shortest hpos) h.2
      rw [hshown]
      exact readLiteral_lone doubleLayout power hc hsign

/-- Minus one and a half. -/
def pointedSample : Value := .double (.finite true ⟨0x3FF8000000000000, by decide⟩)

/-- Ten to the power 16. -/
def loneSample : Value := .double (.finite false ⟨0x4341C37937E08000, by decide⟩)

theorem asText_pointedSample : pointedSample.asText = some "-1.5".toList := by decide +kernel

theorem asText_loneSample : loneSample.asText = some "1e+16".toList := by decide +kernel

theorem not_isLone_pointedSample : ¬ pointedSample.IsLone := by
  have htext : ofDouble (.finite true ⟨0x3FF8000000000000, by decide⟩) = "-1.5".toList :=
    Option.some.inj asText_pointedSample
  rw [pointedSample, isLone_iff_not_mem, htext]
  decide

theorem isLone_loneSample : loneSample.IsLone := by
  have htext : ofDouble (.finite false ⟨0x4341C37937E08000, by decide⟩) = "1e+16".toList :=
    Option.some.inj asText_loneSample
  rw [loneSample, isLone_iff_not_mem, htext]
  decide

theorem number_reread_sample :
    pointedSample.IsNumber ∧ (int (-12)).IsNumber ∧ loneSample.IsNumber ∧
      readLiteral "-1.5".toList = .ok pointedSample ∧ readLiteral "-12".toList = .ok (.int (-12)) ∧
      readLiteral "1e+16".toList = .ok (.text "1e+16".toList) := by
  have hpointed : pointedSample.IsNumber := .double _ _
  have hint : (int (-12)).IsNumber := .int (lt_tenTo (by decide))
  have hlone : loneSample.IsNumber := .double _ _
  obtain ⟨pointed, htext, hback, -⟩ := number_reread hpointed
  obtain ⟨whole, htext', hback', -⟩ := number_reread hint
  obtain ⟨lone, htext'', -, hword⟩ := number_reread hlone
  rw [asText_pointedSample] at htext
  rw [asText_loneSample] at htext''
  obtain rfl := Option.some.inj htext
  obtain rfl : "-12".toList = whole := Option.some.inj htext'
  obtain rfl := Option.some.inj htext''
  refine ⟨hpointed, hint, hlone, hback not_isLone_pointedSample, hback' ?_, hword isLone_loneSample⟩
  rintro ⟨negative, rank, heq, -⟩
  cases heq

/-- **A double does not always come back**: one digit and an exponent are a word to the reader. -/
theorem lone_digit_is_text :
    ¬ ∀ v : Value, v.IsNumber → ∃ t, v.asText = some t ∧ readLiteral t = .ok v := by
  intro h
  obtain ⟨t, htext, hread⟩ := h loneSample (.double _ _)
  rw [asText_loneSample] at htext
  have hword : readLiteral "1e+16".toList = .ok (.text "1e+16".toList) := rfl
  rw [← Option.some.inj htext, hword] at hread
  cases hread

end Value

end Almanac
