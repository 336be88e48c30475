import Almanac.Statement.Insert
import Mathlib.Data.Bool.AllAny
import Mathlib.Data.List.DropRight

/-!
# Blanks and quotes at the ends of a text

What a reader trims off never matters to it: `strip`, the pieces of a list and a text's
first word are the same with more blanks around them.

* `strip_pad`: **blanks around a text are stripped off**, whatever the text.
* `strip_append_cons`: the text before a separator keeps its end.
* `firstWord_append_cons`: **a blank ends the first word**, whatever comes after it.
* `items_pad`: **the items of a list do not depend on the blanks around it.**
* `not_mem_of_mem_items`: no item has a comma in it.
* `trimBy_eq_self_iff`: trimming changes nothing exactly if neither edge is trimmed.
-/

namespace Almanac

namespace Text

/-- A text of blanks only. -/
def Blanks (t : Text) : Prop := ∀ c ∈ t, isBlank c = true

/-- One or more blanks. -/
def Gap (t : Text) : Prop := t ≠ [] ∧ Blanks t

variable {p : Char → Bool} {a b t u : Text}

@[simp] theorem blanks_nil : Blanks [] := by simp [Blanks]

/-! ## Trimming -/

theorem trimEnd_eq_rdropWhile : trimEnd p t = List.rdropWhile p t := rfl

theorem trimEnd_append_of_all (hb : ∀ c ∈ b, p c = true) : trimEnd p (a ++ b) = trimEnd p a := by
  unfold trimEnd
  rw [List.reverse_append, List.dropWhile_append_of_pos (fun c hc => hb c (List.mem_reverse.1 hc))]

theorem trimEnd_append_of_not (h : ∃ c ∈ b, p c = false) :
    trimEnd p (a ++ b) = a ++ trimEnd p b := by
  obtain ⟨c, hc, hp⟩ := h
  have hne : b.reverse.dropWhile p ≠ [] := by
    rw [ne_eq, List.dropWhile_eq_nil_iff]
    intro hall
    have := hall c (List.mem_reverse.2 hc)
    rw [hp] at this; cases this
  unfold trimEnd
  rw [List.reverse_append, List.dropWhile_append]
  simp only [List.isEmpty_iff, hne, if_false, List.reverse_append, List.reverse_reverse]

theorem trimEnd_cons_of_not {c : Char} (hc : p c = false) :
    trimEnd p (c :: t) = c :: trimEnd p t := by
  by_cases ht : ∀ d ∈ t, p d = true
  · have h1 : trimEnd p ([c] ++ t) = trimEnd p [c] := trimEnd_append_of_all ht
    have h2 : trimEnd p t = [] := by
      rw [trimEnd_eq_rdropWhile]; exact List.rdropWhile_eq_nil_iff.2 ht
    rw [h2]; simpa [trimEnd, hc] using h1
  · push Not at ht
    obtain ⟨d, hd, hp⟩ := ht
    exact trimEnd_append_of_not (a := [c]) ⟨d, hd, by simpa using hp⟩

/-- Nothing is trimmed off in front of a character that stays. -/
theorem trimEnd_append_cons {c : Char} (hc : p c = false) (u : Text) :
    trimEnd p (u ++ c :: t) = u ++ c :: trimEnd p t := by
  rw [trimEnd_append_of_not ⟨c, by simp, hc⟩, trimEnd_cons_of_not hc]

/-- What is trimmed off the end of a text satisfies the test. -/
theorem exists_trimEnd (p : Char → Bool) (t : Text) :
    ∃ b, (∀ c ∈ b, p c = true) ∧ t = trimEnd p t ++ b :=
  ⟨t.rtakeWhile p, fun _ hc => List.mem_rtakeWhile_imp hc,
    (List.rdropWhile_append_rtakeWhile (p := p) (l := t)).symm⟩

theorem trimEnd_eq_self_iff : trimEnd p t = t ↔ ∀ c, t.getLast? = some c → p c = false := by
  rw [trimEnd_eq_rdropWhile, List.rdropWhile_eq_self_iff]
  constructor
  · intro h c hc
    have hne : t ≠ [] := by rintro rfl; simp at hc
    rw [List.getLast?_eq_some_getLast hne, Option.some.injEq] at hc
    rw [← hc]; simpa using h hne
  · intro h hne
    simpa using h _ (List.getLast?_eq_some_getLast hne)

theorem dropWhile_eq_self_iff_head :
    t.dropWhile p = t ↔ ∀ c, t.head? = some c → p c = false := by
  cases t with
  | nil => simp
  | cons c r =>
    by_cases hp : p c = true
    · have : r.dropWhile p ≠ c :: r := by
        intro h
        have := (List.dropWhile_suffix p (l := r)).length_le
        rw [h, List.length_cons] at this; omega
      simp [hp, this]
    · simp [hp]

theorem eq_false_of_head?_dropWhile {c : Char} (h : (t.dropWhile p).head? = some c) : p c = false := by
  simpa [h] using List.head?_dropWhile_not p t

/-- A run ends where the next text starts with a character of another kind. -/
theorem takeWhile_append_of_head (hb : ∀ c, b.head? = some c → p c = false) (a : Text) :
    (a ++ b).takeWhile p = a.takeWhile p := by
  have hnone : b.takeWhile p = [] := by
    cases b with
    | nil => rfl
    | cons c r => simp [hb c rfl]
  rw [List.takeWhile_append, hnone]
  split
  · rename_i hlen
    rw [List.append_nil, (List.takeWhile_prefix p).eq_of_length hlen]
  · rfl

theorem dropWhile_append_of_head (hb : ∀ c, b.head? = some c → p c = false) (a : Text) :
    (a ++ b).dropWhile p = a.dropWhile p ++ b := by
  rw [List.dropWhile_append]
  split
  · rename_i hempty
    rw [List.isEmpty_iff.1 hempty, List.nil_append, dropWhile_eq_self_iff_head.2 hb]
  · rfl

/-- **Trimming changes nothing exactly if neither edge is trimmed.** -/
theorem trimBy_eq_self_iff :
    trimBy p t = t ↔
      (∀ c, t.head? = some c → p c = false) ∧ ∀ c, t.getLast? = some c → p c = false := by
  have hlen : (trimEnd p (t.dropWhile p)).length ≤ (t.dropWhile p).length :=
    (List.rdropWhile_prefix p (l := t.dropWhile p)).length_le
  constructor
  · intro h
    -- the two trims shorten the text, so neither of them did anything
    have hd : t.dropWhile p = t := by
      apply (List.dropWhile_suffix p).eq_of_length_le
      have : (trimBy p t).length = t.length := by rw [h]
      unfold trimBy at this; omega
    refine ⟨dropWhile_eq_self_iff_head.1 hd, trimEnd_eq_self_iff.1 ?_⟩
    rw [trimBy, hd] at h; exact h
  · rintro ⟨hh, hl⟩
    rw [trimBy, dropWhile_eq_self_iff_head.2 hh, trimEnd_eq_self_iff.2 hl]

theorem trimBy_pad (ha : ∀ c ∈ a, p c = true) (hb : ∀ c ∈ b, p c = true) :
    trimBy p (a ++ t ++ b) = trimBy p t := by
  unfold trimBy
  rw [List.append_assoc, List.dropWhile_append_of_pos ha, List.dropWhile_append]
  by_cases h : t.dropWhile p = []
  · simp only [h, List.isEmpty_nil, if_true]
    rw [List.dropWhile_eq_nil_iff.2 hb]
  · simp only [List.isEmpty_iff, h, if_false]
    exact trimEnd_append_of_all hb

/-- **Blanks around a text are stripped off.** -/
theorem strip_pad (ha : Blanks a) (hb : Blanks b) : strip (a ++ t ++ b) = strip t :=
  trimBy_pad ha hb

/-- What stays when a text is trimmed has what satisfies the test around it, and nothing else. -/
theorem exists_trimBy (p : Char → Bool) (t : Text) :
    ∃ a b, (∀ c ∈ a, p c = true) ∧ (∀ c ∈ b, p c = true) ∧ t = a ++ trimBy p t ++ b := by
  obtain ⟨b, hb, ht⟩ := exists_trimEnd p (t.dropWhile p)
  refine ⟨t.takeWhile p, b, fun _ hc => List.mem_takeWhile_imp hc, hb, ?_⟩
  rw [trimBy, List.append_assoc, ← ht, List.takeWhile_append_dropWhile]

/-- A character that is not trimmed off stays in the text. -/
theorem mem_trimBy {c : Char} (hc : p c = false) (h : c ∈ t) : c ∈ trimBy p t := by
  obtain ⟨a, b, ha, hb, ht⟩ := exists_trimBy p t
  have hout : ∀ u : Text, (∀ d ∈ u, p d = true) → c ∉ u := by
    intro u hu hmem
    have := hu c hmem
    rw [hc] at this; cases this
  rw [ht, List.mem_append, List.mem_append] at h
  rcases h with (h | h) | h
  · exact absurd h (hout a ha)
  · exact h
  · exact absurd h (hout b hb)

/-- What is left of a text stood in it before. -/
theorem mem_of_mem_trimBy {c : Char} (h : c ∈ trimBy p t) : c ∈ t := by
  obtain ⟨a, b, -, -, ht⟩ := exists_trimBy p t
  rw [ht]
  exact List.mem_append_left _ (List.mem_append_right _ h)

theorem trimBy_trimBy (p : Char → Bool) (t : Text) : trimBy p (trimBy p t) = trimBy p t := by
  obtain ⟨a, b, ha, hb, ht⟩ := exists_trimBy p t
  conv_rhs => rw [ht]
  exact (trimBy_pad ha hb).symm

theorem strip_strip (t : Text) : strip (strip t) = strip t := trimBy_trimBy isBlank t

/-- A text with a first character that is not blank keeps it. -/
theorem strip_append_cons {c : Char} (ha : Blanks a) (hu : ∀ d, u.head? = some d → isBlank d = false)
    (hc : isBlank c = false) : strip (a ++ u ++ c :: t) = u ++ c :: trimEnd isBlank t := by
  have hhead : (u ++ c :: t).dropWhile isBlank = u ++ c :: t := by
    apply dropWhile_eq_self_iff_head.2
    cases u with
    | nil => simpa using hc
    | cons d r => simpa using hu
  rw [strip, trimBy, List.append_assoc, List.dropWhile_append_of_pos ha, hhead,
    trimEnd_append_cons hc]

theorem strip_of_no_blank (h : ∀ c ∈ t, isBlank c = false) : strip t = t :=
  trimBy_eq_self_iff.2 ⟨fun c hc => h c (List.mem_of_head? hc), fun c hc => h c (List.mem_of_getLast? hc)⟩

/-! ## First words -/

theorem dropWhile_word_append (hu : u ≠ []) (hword : ∀ c ∈ u, isBlank c = false) :
    (u ++ b).dropWhile isBlank = u ++ b := by
  apply dropWhile_eq_self_iff_head.2
  cases u with
  | nil => exact absurd rfl hu
  | cons c r => simpa using hword c

theorem firstWord_append (ha : Blanks a) (hu : u ≠ []) (hword : ∀ c ∈ u, isBlank c = false)
    (hb : ∀ c, b.head? = some c → isBlank c = true) : firstWord (a ++ u ++ b) = u := by
  rw [firstWord, List.append_assoc, List.dropWhile_append_of_pos ha, dropWhile_word_append hu hword,
    List.takeWhile_append_of_pos (by simpa using hword)]
  cases b with
  | nil => simp
  | cons c r => simp [hb c rfl]

/-- **Blanks around a text are no part of its first word.** -/
theorem firstWord_pad (ha : Blanks a) (hb : Blanks b) : firstWord (a ++ t ++ b) = firstWord t := by
  have hhead : ∀ c, b.head? = some c → (!isBlank c) = false := by
    intro c hc
    simp [hb c (List.mem_of_head? hc)]
  rw [firstWord, firstWord, List.append_assoc, List.dropWhile_append_of_pos ha, List.dropWhile_append]
  split
  · -- a text of blanks has no word
    rename_i hempty
    rw [List.isEmpty_iff.1 hempty, List.dropWhile_eq_nil_iff.2 hb]
  · exact takeWhile_append_of_head hhead _

/-- **A blank ends the first word**, whatever comes after it. -/
theorem firstWord_append_cons {c : Char} (hc : isBlank c = true) (ht : ∃ d ∈ t, isBlank d = false) :
    firstWord (t ++ c :: b) = firstWord t := by
  have hne : t.dropWhile isBlank ≠ [] := by
    rw [ne_eq, List.dropWhile_eq_nil_iff]
    intro hall
    obtain ⟨d, hmem, hd⟩ := ht
    rw [hall d hmem] at hd; cases hd
  rw [firstWord, firstWord, List.dropWhile_append, if_neg (by simpa using hne), List.takeWhile_append]
  split
  · rename_i hlen
    rw [List.takeWhile_cons_of_neg (by simp [hc]), List.append_nil,
      (List.takeWhile_prefix _).eq_of_length hlen]
  · rfl

/-- A text is its first word with blanks in front of it, and a rest that starts with a blank. -/
theorem exists_firstWord (t : Text) : ∃ lead rest, Blanks lead ∧ t = lead ++ firstWord t ++ rest ∧
    ∀ c, rest.head? = some c → isBlank c = true := by
  refine ⟨t.takeWhile isBlank, (t.dropWhile isBlank).dropWhile fun c => !isBlank c,
    fun _ hc => List.mem_takeWhile_imp hc, ?_, fun c hc => ?_⟩
  · rw [firstWord, List.append_assoc, List.takeWhile_append_dropWhile, List.takeWhile_append_dropWhile]
  · simpa using eq_false_of_head?_dropWhile hc

/-- What stands behind the first word does not depend on how the text is taken apart. -/
theorem eq_of_word_append (ha : Blanks a) (hb : Blanks b) (hu : u ≠ [])
    (hword : ∀ c ∈ u, isBlank c = false) {v w : Text} (h : a ++ u ++ v = b ++ u ++ w) : v = w := by
  have hdrop := congrArg (List.dropWhile isBlank) h
  rw [List.append_assoc, List.append_assoc, List.dropWhile_append_of_pos ha,
    List.dropWhile_append_of_pos hb, dropWhile_word_append hu hword,
    dropWhile_word_append hu hword] at hdrop
  exact List.append_cancel_left hdrop

/-- A text that starts with a word, but for blanks, keeps it when it is stripped. -/
theorem strip_word_append (ha : Blanks a) (hu : u ≠ []) (hword : ∀ c ∈ u, isBlank c = false) :
    strip (a ++ u ++ b) = u ++ trimEnd isBlank b := by
  obtain ⟨v, c, rfl⟩ := (List.eq_nil_or_concat u).resolve_left hu
  rw [List.concat_eq_append] at hword hu ⊢
  rw [strip, trimBy, List.append_assoc, List.dropWhile_append_of_pos ha,
    dropWhile_word_append hu hword, List.append_assoc, List.singleton_append,
    trimEnd_append_cons (hword c (by simp))]
  simp

theorem isBlank_of_mem_firstWord {c : Char} (h : c ∈ firstWord t) : isBlank c = false := by
  simpa using List.mem_takeWhile_imp h

theorem firstWord_strip (t : Text) : firstWord (strip t) = firstWord t := by
  obtain ⟨a, b, ha, hb, ht⟩ := exists_trimBy isBlank t
  conv_rhs => rw [ht]
  exact (firstWord_pad ha hb).symm

theorem afterFirstWord_append (hu : u ≠ []) (hword : ∀ c ∈ u, isBlank c = false)
    (hb : ∀ c, b.head? = some c → isBlank c = true) :
    afterFirstWord (u ++ b) = b.dropWhile isBlank := by
  rw [afterFirstWord, dropWhile_word_append hu hword,
    List.dropWhile_append_of_pos (by simpa using hword)]
  cases b with
  | nil => simp
  | cons c r => simp [hb c rfl]

/-! ## Pieces -/

variable {sep : Char}

theorem pieces_of_not_mem (h : sep ∉ t) : pieces sep t = [t] := by
  induction t with
  | nil => rfl
  | cons c r ih =>
    have hne : c ≠ sep := by rintro rfl; simp at h
    simp [pieces, hne, ih fun hr => h (List.mem_cons_of_mem _ hr)]

/-- The first piece ends at the first separator. -/
theorem pieces_append_cons (h : sep ∉ a) : pieces sep (a ++ sep :: b) = a :: pieces sep b := by
  induction a with
  | nil => simp [pieces]
  | cons c r ih =>
    have hne : c ≠ sep := by rintro rfl; simp at h
    simp [pieces, hne, ih fun hr => h (List.mem_cons_of_mem _ hr)]

/-- What follows a text without a separator in it belongs to the last piece. -/
theorem pieces_append (hb : sep ∉ b) (t : Text) :
    ∃ ps q, pieces sep t = ps ++ [q] ∧ pieces sep (t ++ b) = ps ++ [q ++ b] := by
  induction t with
  | nil => exact ⟨[], [], rfl, by simpa using pieces_of_not_mem hb⟩
  | cons c r ih =>
    obtain ⟨ps, q, h1, h2⟩ := ih
    by_cases hc : c = sep
    · exact ⟨[] :: ps, q, by simp [pieces, hc, h1], by simp [pieces, hc, h2]⟩
    · cases ps with
      | nil => exact ⟨[], c :: q, by simp [pieces, hc, h1], by simp [pieces, hc, h2]⟩
      | cons w ps => exact ⟨(c :: w) :: ps, q, by simp [pieces, hc, h1], by simp [pieces, hc, h2]⟩

/-- A character that is no separator goes to the first piece. -/
theorem pieces_cons_of_ne {c : Char} (hc : c ≠ sep) (t : Text) :
    ∃ w ps, pieces sep t = w :: ps ∧ pieces sep (c :: t) = (c :: w) :: ps := by
  have hne : pieces sep t ≠ [] := pieces_ne_nil t
  obtain ⟨w, ps, hw⟩ := List.exists_cons_of_ne_nil hne
  exact ⟨w, ps, hw, by simp only [pieces, hc, if_false, hw]⟩

/-- **No piece has the separator in it, and all that it has is in the text.** -/
theorem not_mem_of_mem_pieces (h : u ∈ pieces sep t) : sep ∉ u ∧ ∀ c ∈ u, c ∈ t := by
  induction t generalizing u with
  | nil =>
    rw [List.mem_singleton.1 h]
    simp
  | cons c r ih =>
    by_cases hc : c = sep
    · rw [pieces, if_pos hc] at h
      rcases List.mem_cons.1 h with rfl | h
      · simp
      · exact ⟨(ih h).1, fun d hd => List.mem_cons_of_mem _ ((ih h).2 d hd)⟩
    · obtain ⟨w, ps, hr, hcr⟩ := pieces_cons_of_ne hc r
      rw [hcr] at h
      rcases List.mem_cons.1 h with rfl | h
      · have hw := ih (u := w) (by rw [hr]; exact List.mem_cons_self)
        refine ⟨by simp [Ne.symm hc, hw.1], fun d hd => ?_⟩
        rcases List.mem_cons.1 hd with rfl | hd
        · exact List.mem_cons_self
        · exact List.mem_cons_of_mem _ (hw.2 d hd)
      · have hu := ih (u := u) (by rw [hr]; exact List.mem_cons_of_mem _ h)
        exact ⟨hu.1, fun d hd => List.mem_cons_of_mem _ (hu.2 d hd)⟩

theorem not_mem_of_blanks {c : Char} (hb : Blanks b) (hc : isBlank c = false) : c ∉ b := by
  intro h
  have := hb c h
  rw [hc] at this; cases this

end Text

namespace Statement

open Text

variable {a b t : Text}

theorem items_append (hb : Blanks b) : items (t ++ b) = items t := by
  have hcomma : ',' ∉ b := not_mem_of_blanks hb (by decide)
  obtain ⟨ps, q, h1, h2⟩ := pieces_append hcomma t
  have hq : strip (q ++ b) = strip q := by simpa using strip_pad blanks_nil hb
  simp [items, h1, h2, hq]

theorem blanks_append_items (ha : Blanks a) : items (a ++ t) = items t := by
  induction a with
  | nil => rfl
  | cons c r ih =>
    have hc : c ≠ ',' := by
      intro h; subst h
      have := ha ',' (by simp)
      revert this; decide
    have ih := ih fun d hd => ha d (List.mem_cons_of_mem _ hd)
    unfold items at ih ⊢
    obtain ⟨w, ps, hw, hcons⟩ := pieces_cons_of_ne hc (r ++ t)
    -- the blank goes to the first piece and is stripped off it again
    have hcw : strip (c :: w) = strip w := by
      simpa using strip_pad (a := [c]) (t := w) (by simpa [Blanks] using ha c (by simp)) blanks_nil
    rw [← ih, List.cons_append, hcons, hw, List.map_cons, List.map_cons, hcw]

/-- **The items of a list do not depend on the blanks around it.** -/
theorem items_pad (ha : Blanks a) (hb : Blanks b) : items (a ++ t ++ b) = items t := by
  rw [items_append hb, blanks_append_items ha]

/-- What is left of a piece is empty exactly if the piece is blank. -/
theorem nil_mem_map_strip_iff {ts : List Text} :
    [] ∈ ts.map strip ↔ ∃ piece ∈ ts, Blanks piece := by
  simp only [List.mem_map, strip_eq_nil_iff, Blanks]

theorem strip_of_mem_items {raw : Text} (h : raw ∈ items t) : strip raw = raw := by
  obtain ⟨piece, -, rfl⟩ := List.mem_map.1 h
  exact strip_strip piece

theorem items_ne_nil (t : Text) : items t ≠ [] := by simp [items, pieces_ne_nil]

/-- **No item has a comma in it, and all that it has is in the list.** -/
theorem not_mem_of_mem_items {raw : Text} (h : raw ∈ items t) : ',' ∉ raw ∧ ∀ c ∈ raw, c ∈ t := by
  obtain ⟨piece, hpiece, rfl⟩ := List.mem_map.1 h
  obtain ⟨hcomma, hmem⟩ := not_mem_of_mem_pieces hpiece
  exact ⟨fun hc => hcomma (mem_of_mem_trimBy hc), fun c hc => hmem c (mem_of_mem_trimBy hc)⟩

theorem items_trimEnd : items (trimEnd isBlank t) = items t := by
  obtain ⟨b, hb, ht⟩ := exists_trimEnd isBlank t
  conv_rhs => rw [ht]
  exact (items_append hb).symm

theorem items_dropWhile : items (t.dropWhile isBlank) = items t := by
  have ha : Blanks (t.takeWhile isBlank) := fun _ hc => List.mem_takeWhile_imp hc
  conv_rhs => rw [← List.takeWhile_append_dropWhile (p := isBlank) (l := t)]
  exact (blanks_append_items ha).symm

end Statement

end Almanac
