import Almanac.Proofs.Written

/-!
# Words by position

Where a keyword stands, said by positions in the text: its letters are there, in either case, and
word characters meet others (or the text's edge) in front of them and behind them. Of letters
beyond ASCII only the long s counts, for an `S`.

* `IsCapitals.wordBetween_iff`: what is around a word is given by its position.
* `IsCapitals.hasWord_iff`, `IsCapitals.firstPlace_iff`: so the text has the word if it stands at a
  position, and its first place is the first of them.
* `keyword_cut_first`: **a text is cut at the first position where the keyword stands**, and not at
  all if it stands nowhere.
-/

namespace Almanac.Text

/-- **The same letter in either case**; the long s is an `S` as well. -/
def SameLetter (k c : Char) : Prop := c.toLower = k.toLower ∨ k = 'S' ∧ c = 'ſ'

instance (k c : Char) : Decidable (SameLetter k c) := inferInstanceAs (Decidable (_ ∨ _))

/-- There is a word character at the position. -/
def isWordAt (t : Text) (i : Nat) : Bool := t[i]?.any isWord

/-- **A boundary**: of the characters in front of a position and behind it, one is a word character
and the other is not. Beyond the text's edges there is none. -/
def Boundary (t : Text) : Nat → Prop
  | 0 => isWordAt t 0 = true
  | i + 1 => isWordAt t i ≠ isWordAt t (i + 1)

instance (t : Text) (i : Nat) : Decidable (Boundary t i) :=
  match i with
  | 0 => inferInstanceAs (Decidable (_ = _))
  | _ + 1 => inferInstanceAs (Decidable (_ ≠ _))

/-- **The keyword stands at a position**, with a boundary in front of it and one behind it. -/
structure StandsAt (keyword t : Text) (i : Nat) : Prop where
  letters : List.Forall₂ SameLetter keyword ((t.drop i).take keyword.length)
  starts : Boundary t i
  ends : Boundary t (i + keyword.length)

instance (keyword t : Text) (i : Nat) : Decidable (StandsAt keyword t i) :=
  decidable_of_iff (_ ∧ _ ∧ _) ⟨fun ⟨h1, h2, h3⟩ => ⟨h1, h2, h3⟩, fun ⟨h1, h2, h3⟩ => ⟨h1, h2, h3⟩⟩

/-- A keyword of capital letters none of which is an `I`, which has more spellings. -/
structure IsCapitals (keyword : Text) : Prop extends IsKeyword keyword where
  isUpper : ∀ k ∈ keyword, k.isUpper = true
  ne_I : ∀ k ∈ keyword, k ≠ 'I'

variable {keyword t a b word : Text} {k c : Char} {i : Nat}

/-! ## Letters -/

/-- A capital letter is spelled by itself and by its small letter: the letters of either case lie
together, and small letters are as far behind as they are many. -/
theorem toLower_eq_iff (hk : k.isUpper = true) : c.toLower = k.toLower ↔ c = k ∨ c = k.toLower := by
  delta Char.isUpper at hk
  delta Char.toLower
  grind [Char.ext_iff]

theorem spells_iff (hk : k.isUpper = true) (hI : k ≠ 'I') : spells k c = true ↔ SameLetter k c := by
  rw [SameLetter, toLower_eq_iff hk]
  simp [spells, hI]

/-- Only an `I` has spellings that no other letter has. -/
theorem IsCapitals.forall₂_spells_iff (h : IsCapitals keyword) :
    List.Forall₂ (fun k c => spells k c = true) keyword word ↔
      List.Forall₂ SameLetter keyword word := by
  have hmem : ∀ k ∈ keyword, k.isUpper = true ∧ k ≠ 'I' :=
    fun k hk => ⟨h.isUpper k hk, h.ne_I k hk⟩
  constructor
  · intro hs
    refine ((List.forall₂_and_left _ _).2 ⟨hmem, hs⟩).imp fun k c ⟨⟨hk, hI⟩, hc⟩ => ?_
    exact (spells_iff hk hI).1 hc
  · intro hs
    refine ((List.forall₂_and_left _ _).2 ⟨hmem, hs⟩).imp fun k c ⟨⟨hk, hI⟩, hc⟩ => ?_
    exact (spells_iff hk hI).2 hc

/-! ## Boundaries -/

/-- Between two parts of a text there is a boundary if a word character stands on one side only. -/
theorem boundary_append :
    Boundary (a ++ b) a.length ↔ a.getLast?.any isWord ≠ b.head?.any isWord := by
  have hnext : isWordAt (a ++ b) a.length = b.head?.any isWord := by
    rw [isWordAt, List.getElem?_append_right (Nat.le_refl _), Nat.sub_self,
      ← List.head?_eq_getElem?]
  rcases List.eq_nil_or_concat a with rfl | ⟨r, c, rfl⟩
  · rw [← hnext]
    simp [Boundary]
  · have hlast : isWordAt (r ++ [c] ++ b) r.length = isWord c := by simp [isWordAt]
    rw [List.concat_eq_append, List.length_append, List.length_singleton] at hnext ⊢
    rw [Boundary, hlast, hnext, List.getLast?_concat, Option.any_some]

/-- Where word characters begin, there is a boundary if a word may end in front of them. -/
theorem boundary_iff_endsWord_left (hb : b.head?.any isWord = true) :
    Boundary (a ++ b) a.length ↔ endsWord a.getLast? = true := by
  rw [boundary_append, hb, endsWord]
  simp

/-- Where word characters end, there is a boundary if a word may begin behind them. -/
theorem boundary_iff_endsWord_right (ha : a.getLast?.any isWord = true) :
    Boundary (a ++ b) a.length ↔ endsWord b.head? = true := by
  rw [boundary_append, ha, endsWord]
  simp

/-! ## Positions -/

/-- What spells a keyword begins and ends with a word character. -/
theorem IsCapitals.ends_of_spelled (h : IsCapitals keyword)
    (hs : List.Forall₂ (fun k c => spells k c = true) keyword word) :
    word.head?.any isWord = true ∧ word.getLast?.any isWord = true := by
  have hword : ∀ c ∈ word, isWord c = true := by
    intro c hc
    obtain ⟨n, hn, rfl⟩ := List.mem_iff_getElem.1 hc
    have hnk : n < keyword.length := by rw [hs.length_eq]; exact hn
    exact isWord_of_spells h.toIsKeyword (List.getElem_mem hnk) (hs.get hnk hn)
  have hne : word ≠ [] := by
    rintro rfl
    cases hs
    exact h.ne_nil rfl
  rw [List.head?_eq_some_head hne, List.getLast?_eq_some_getLast hne]
  exact ⟨hword _ (List.head_mem hne), hword _ (List.getLast_mem hne)⟩

/-- A word that is spelled between two parts of a text stands there if it is bounded by them. -/
theorem IsCapitals.standsAt_append (h : IsCapitals keyword)
    (hs : List.Forall₂ (fun k c => spells k c = true) keyword word) :
    StandsAt keyword (a ++ word ++ b) a.length ↔
      endsWord a.getLast? = true ∧ endsWord b.head? = true := by
  obtain ⟨hhead, hlast⟩ := h.ends_of_spelled hs
  have hfirst : (word ++ b).head?.any isWord = true := by
    cases word with
    | nil => cases hhead
    | cons c r => exact hhead
  have hfinal : (a ++ word).getLast?.any isWord = true := by
    rcases List.eq_nil_or_concat word with rfl | ⟨r, c, rfl⟩
    · cases hlast
    · simpa [← List.append_assoc] using hlast
  have hletters : ((a ++ word ++ b).drop a.length).take keyword.length = word := by
    rw [List.append_assoc, List.drop_left, hs.length_eq, List.take_left]
  have hstarts : Boundary (a ++ word ++ b) a.length ↔ endsWord a.getLast? = true := by
    rw [List.append_assoc]
    exact boundary_iff_endsWord_left hfirst
  have hends : Boundary (a ++ word ++ b) (a.length + keyword.length) ↔ endsWord b.head? = true := by
    rw [hs.length_eq, ← List.length_append]
    exact boundary_iff_endsWord_right hfinal
  constructor
  · rintro ⟨-, h1, h2⟩
    exact ⟨hstarts.1 h1, hends.1 h2⟩
  · rintro ⟨h1, h2⟩
    refine ⟨?_, hstarts.2 h1, hends.2 h2⟩
    rw [hletters]
    exact h.forall₂_spells_iff.1 hs

/-- **What is around a word is given by its position.** -/
theorem IsCapitals.wordBetween_iff (h : IsCapitals keyword) :
    WordBetween keyword t a b ↔
      StandsAt keyword t a.length ∧ a = t.take a.length ∧
        b = t.drop (a.length + keyword.length) := by
  constructor
  · rintro ⟨word, rfl, hs, ha, hb⟩
    refine ⟨(h.standsAt_append hs).2 ⟨ha, hb⟩, by simp, ?_⟩
    rw [hs.length_eq, ← List.length_append, List.drop_left]
  · rintro ⟨hstands, ha, hb⟩
    -- the word is what the two parts leave of the text
    have hsplit : t = a ++ (t.drop a.length).take keyword.length ++ b := by
      conv_lhs => rw [← List.take_append_drop a.length t, ← ha,
        ← List.take_append_drop keyword.length (t.drop a.length), List.drop_drop, ← hb]
      rw [List.append_assoc]
    have hs := h.forall₂_spells_iff.2 hstands.letters
    rw [hsplit] at hstands
    exact ⟨_, hsplit, hs, (h.standsAt_append hs).1 hstands⟩

/-- A keyword stands inside the text, so there is a text of that length in front of it. -/
theorem IsCapitals.length_take (h : IsCapitals keyword) (hstands : StandsAt keyword t i) :
    (t.take i).length = i := by
  refine List.length_take_of_le (Nat.le_of_not_lt fun hlt => ?_)
  have hnil : (t.drop i).take keyword.length = [] := by
    rw [List.drop_eq_nil_of_le (by omega), List.take_nil]
  have hletters := hstands.letters
  rw [hnil] at hletters
  cases hletters
  exact h.ne_nil rfl

/-- Wherever the keyword stands, it is between what is in front of that position and the rest. -/
theorem IsCapitals.wordBetween_of_standsAt (h : IsCapitals keyword)
    (hstands : StandsAt keyword t i) :
    WordBetween keyword t (t.take i) (t.drop (i + keyword.length)) := by
  rw [h.wordBetween_iff, h.length_take hstands]
  exact ⟨hstands, rfl, rfl⟩

/-- The text has the word if it stands at a position. -/
theorem IsCapitals.hasWord_iff (h : IsCapitals keyword) :
    HasWord keyword t ↔ ∃ i, StandsAt keyword t i := by
  rw [hasWord_iff_between]
  constructor
  · rintro ⟨a, b, hword⟩
    exact ⟨a.length, (h.wordBetween_iff.1 hword).1⟩
  · rintro ⟨i, hstands⟩
    exact ⟨_, _, h.wordBetween_of_standsAt hstands⟩

/-- The first place of a keyword is the first position where it stands. -/
theorem IsCapitals.firstPlace_iff (h : IsCapitals keyword) :
    FirstPlace (WordBetween keyword t) a b ↔
      ∃ i, StandsAt keyword t i ∧ (∀ j < i, ¬ StandsAt keyword t j) ∧
        a = t.take i ∧ b = t.drop (i + keyword.length) := by
  constructor
  · rintro ⟨hhere, hfirst⟩
    obtain ⟨hstands, ha, hb⟩ := h.wordBetween_iff.1 hhere
    refine ⟨a.length, hstands, fun j hlt hj => ?_, ha, hb⟩
    have hle : a.length ≤ (t.take j).length := hfirst _ _ (h.wordBetween_of_standsAt hj)
    exact Nat.not_le.2 hlt (hle.trans (List.length_take_le j t))
  · rintro ⟨i, hstands, hfirst, rfl, rfl⟩
    refine ⟨h.wordBetween_of_standsAt hstands, fun b y hplace => ?_⟩
    have hle : i ≤ b.length := Nat.not_lt.1 fun hlt => hfirst _ hlt (h.wordBetween_iff.1 hplace).1
    exact (List.length_take_le i t).trans hle

end Almanac.Text

namespace Almanac.Statement

open Text

variable {keyword : Text}

/-- The words at which statements are cut. -/
theorem isCapitals_of_mem (h : keyword ∈ [fromWord, whereWord, valuesWord]) :
    IsCapitals keyword := by
  have hletters : ∀ word ∈ [fromWord, whereWord, valuesWord], ∀ k ∈ word,
      k.isUpper = true ∧ k ≠ 'I' := by simp [fromWord, whereWord, valuesWord]
  have hkeyword : IsKeyword keyword := by
    simp only [List.mem_cons, List.not_mem_nil, or_false] at h
    rcases h with rfl | rfl | rfl
    · exact isKeyword_from
    · exact isKeyword_where
    · exact isKeyword_values
  exact ⟨hkeyword, fun k hk => (hletters keyword h k hk).1, fun k hk => (hletters keyword h k hk).2⟩

/-- **A text is cut at the first position where the keyword stands**, into what is in front of that
position and what is behind the word; it is not cut if the keyword stands nowhere. The two parts and
the word between them are the text, and the keyword stands at no position in front of the cut. -/
theorem keyword_cut_first (h : keyword ∈ [fromWord, whereWord, valuesWord]) (t : Text) :
    (cutAtWord? keyword t = none ↔ ∀ i, ¬ StandsAt keyword t i) ∧
      (∀ i, StandsAt keyword t i → (∀ j < i, ¬ StandsAt keyword t j) →
        cutAtWord? keyword t = some (t.take i, t.drop (i + keyword.length))) ∧
      ∀ a b, cutAtWord? keyword t = some (a, b) →
        ∃ word, List.Forall₂ SameLetter keyword word ∧ a ++ word ++ b = t ∧
          StandsAt keyword t a.length ∧ ∀ j < a.length, ¬ StandsAt keyword t j := by
  have hcapitals := isCapitals_of_mem h
  refine ⟨?_, fun i hstands hfirst => ?_, fun a b hcut => ?_⟩
  · rw [cutAtWord?_eq_none_iff, hcapitals.hasWord_iff, not_exists]
  · exact cutAtWord?_eq_some_iff.2 (hcapitals.firstPlace_iff.2 ⟨i, hstands, hfirst, rfl, rfl⟩)
  · have hplace := cutAtWord?_eq_some_iff.1 hcut
    obtain ⟨word, ht, hs, -⟩ := hplace.here
    obtain ⟨i, hstands, hfirst, ha, -⟩ := hcapitals.firstPlace_iff.1 hplace
    rw [show a.length = i by rw [ha, hcapitals.length_take hstands]]
    exact ⟨word, hcapitals.forall₂_spells_iff.1 hs, ht.symm, hstands, hfirst⟩

/-- `values` that is glued to other letters is passed over, and a long s is its `S`: the first
position where the word stands is the fourteenth. -/
theorem keyword_cut_first_sample :
    valuesWord ∈ [fromWord, whereWord, valuesWord] ∧
      StandsAt valuesWord "(a) myvalues valueſ(1) VALUES".toList 13 ∧
      cutAtWord? valuesWord "(a) myvalues valueſ(1) VALUES".toList =
        some ("(a) myvalues ".toList, "(1) VALUES".toList) := by
  have hmem : valuesWord ∈ [fromWord, whereWord, valuesWord] := by decide
  have hstands : StandsAt valuesWord "(a) myvalues valueſ(1) VALUES".toList 13 := by decide
  exact ⟨hmem, hstands, (keyword_cut_first hmem _).2.1 13 hstands (by decide)⟩

end Almanac.Statement
