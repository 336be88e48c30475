import Almanac.Proofs.Trim
import Almanac.Statement.Select
import Almanac.Text.Uppercase
import Mathlib.Data.List.Forall2

/-!
# Searching for whole words

A character that is no word character cuts a text in two as far as keywords are
concerned: no keyword lies across it, and a word may start or end beside it as at the
text's edge. So a search can be followed part by part through a statement.

* `cutAtWord?_eq_some_iff`, `cutAtWord?_eq_none_iff`: **a search finds the first place where
  the keyword stands as a whole word, and fails exactly if there is none**, said without the
  search (`WordBetween`, `FirstPlace`, `HasWord`).
* `cutAtWord?_append_cons`: **a search passes over a part that does not have the word.**
* `cutAtWord?_append`: **what is appended does not move a cut** that has something behind it.
* `cutAtWord?_here`: it stops where the word stands, in any letter case.
-/

namespace Almanac

namespace Text

/-- The keyword in any letter case. -/
def AnyCase (keyword w : Text) : Prop :=
  List.Forall₂ (fun k c => c = k ∨ c = k.toLower) keyword w

/-- The keyword occurs in the text as a whole word. -/
def HasWord (keyword t : Text) : Prop :=
  ∃ before word after, t = before ++ word ++ after ∧
    List.Forall₂ (fun k c => spells k c = true) keyword word ∧
    endsWord before.getLast? = true ∧ endsWord after.head? = true

/-- The keyword stands as a whole word in the text, between `a` and `b`. -/
def WordBetween (keyword t a b : Text) : Prop :=
  ∃ word, t = a ++ word ++ b ∧ List.Forall₂ (fun k c => spells k c = true) keyword word ∧
    endsWord a.getLast? = true ∧ endsWord b.head? = true

/-- Of the places where something stands in a text, `a` is what is in front of the first one,
and `x` what was found there. -/
structure FirstPlace {α : Type} (place : Text → α → Prop) (a : Text) (x : α) : Prop where
  here : place a x
  first : ∀ b y, place b y → a.length ≤ b.length

/-- What is searched for: one or more letters, which are word characters in either case. -/
structure IsKeyword (keyword : Text) : Prop where
  ne_nil : keyword ≠ []
  isWord : ∀ k ∈ keyword, isWord k = true ∧ isWord k.toLower = true

variable {keyword a b t w : Text} {before : Option Char} {sep : Char}

/-! ## Letters -/

/-- What holds of the few blanks that there are holds of every blank. -/
theorem forall_blank {P : Char → Prop}
    (h : ∀ r ∈ blankRanges, ∀ d < r.2 - r.1 + 1, P (Char.ofNat (r.1 + d))) {c : Char}
    (hc : isBlank c = true) : P c := by
  obtain ⟨r, hr, hrange⟩ := List.any_eq_true.1 hc
  simp only [Bool.and_eq_true, decide_eq_true_eq] at hrange
  have := h r hr (c.toNat - r.1) (by omega)
  rwa [Nat.add_sub_cancel' hrange.1, Char.ofNat_toNat] at this

/-- **Blanks are no word characters.** -/
theorem isWord_of_isBlank {c : Char} (h : isBlank c = true) : isWord c = false :=
  forall_blank (P := fun c => isWord c = false) (by decide +kernel) h

theorem isBlank_of_isWord {c : Char} (h : isWord c = true) : isBlank c = false := by
  by_contra hb
  have := isWord_of_isBlank (by simpa using hb)
  rw [h] at this; cases this

theorem endsWord_of_isBlank {c : Char} (h : isBlank c = true) : endsWord (some c) = true := by
  simp [endsWord, isWord_of_isBlank h]

theorem isWord_of_spells (hk : IsKeyword keyword) {k c : Char} (hmem : k ∈ keyword)
    (h : spells k c = true) : isWord c = true := by
  obtain ⟨h1, h2⟩ := hk.isWord k hmem
  simp only [spells, Bool.or_eq_true, Bool.and_eq_true, beq_iff_eq] at h
  rcases h with ((rfl | rfl) | ⟨-, rfl⟩) | ⟨-, rfl | rfl⟩
  · exact h1
  · exact h2
  all_goals decide

theorem spells_of_not_isWord (hk : IsKeyword keyword) {k : Char} (hmem : k ∈ keyword)
    (hsep : isWord sep = false) : spells k sep = false := by
  by_contra h
  have := isWord_of_spells hk hmem (by simpa using h)
  rw [hsep] at this; cases this

theorem AnyCase.forall {P : Char → Prop} (h : AnyCase keyword w)
    (hP : ∀ k ∈ keyword, P k ∧ P k.toLower) : ∀ c ∈ w, P c := by
  induction h with
  | nil => simp
  | cons hc _ ih =>
    intro c hmem
    rcases List.mem_cons.1 hmem with rfl | hmem
    · rcases hc with rfl | rfl
      · exact (hP _ (by simp)).1
      · exact (hP _ (by simp)).2
    · exact ih (fun k hk => hP k (List.mem_cons_of_mem _ hk)) c hmem

theorem AnyCase.isWord (hk : IsKeyword keyword) (h : AnyCase keyword w) :
    ∀ c ∈ w, isWord c = true :=
  h.forall hk.isWord

theorem AnyCase.no_blank (hk : IsKeyword keyword) (h : AnyCase keyword w) :
    ∀ c ∈ w, isBlank c = false :=
  fun c hc => isBlank_of_isWord (h.isWord hk c hc)

theorem AnyCase.ne_nil (hk : IsKeyword keyword) (h : AnyCase keyword w) : w ≠ [] := by
  rintro rfl
  cases h; exact hk.ne_nil rfl

/-- A keyword in any letter case is the keyword in upper case. -/
theorem AnyCase.upper (h : AnyCase keyword w)
    (hk : ∀ k ∈ keyword, upperChar k = [k] ∧ upperChar k.toLower = [k]) : upper w = keyword := by
  induction h with
  | nil => rfl
  | @cons k c ks cs hc _ ih =>
    have hck : upperChar c = [k] := by
      rcases hc with rfl | rfl
      · exact (hk _ (by simp)).1
      · exact (hk k (by simp)).2
    have ih := ih fun k' hk' => hk k' (List.mem_cons_of_mem _ hk')
    unfold Text.upper at ih ⊢
    rw [List.flatMap_cons, hck, ih]; rfl

theorem AnyCase.spelled (h : AnyCase keyword w) :
    List.Forall₂ (fun k c => spells k c = true) keyword w := by
  refine List.Forall₂.imp (fun k c hc => ?_) h
  rcases hc with rfl | rfl <;> simp [spells]

theorem AnyCase.map_toLower (h : AnyCase keyword w)
    (hk : ∀ k ∈ keyword, k.toLower.toLower = k.toLower) :
    w.map Char.toLower = keyword.map Char.toLower := by
  induction h with
  | nil => rfl
  | @cons k c ks cs hc hcs ih =>
    have hcl : c.toLower = k.toLower := by
      rcases hc with rfl | rfl
      · rfl
      · exact hk k (by simp)
    simp [hcl, ih fun k' hk' => hk k' (List.mem_cons_of_mem _ hk')]

theorem anyCase_self (keyword : Text) : AnyCase keyword keyword := by
  induction keyword with
  | nil => exact .nil
  | cons k ks ih => exact .cons (.inl rfl) ih

/-! ## Gaps -/

theorem gap_space : Gap [' '] := ⟨by decide, List.all_iff_forall_prop.1 (by decide)⟩

theorem Gap.head (hg : Gap b) (t : Text) :
    ∀ c, (b ++ t).head? = some c → isBlank c = true := by
  obtain ⟨hne, hblank⟩ := hg
  cases b with
  | nil => exact absurd rfl hne
  | cons d r => intro c hc; cases hc; exact hblank d (by simp)

theorem Gap.endsWord (hg : Gap b) (t : Text) : Almanac.Text.endsWord (b ++ t).head? = true := by
  cases h : (b ++ t).head? with
  | none => rfl
  | some c => exact endsWord_of_isBlank (Gap.head hg t c h)

theorem Gap.isWord (hg : Gap b) : ∀ c ∈ b, Almanac.Text.isWord c = false :=
  fun c hc => isWord_of_isBlank (hg.2 c hc)

/-! ## Searches -/

variable {α : Type}

/-- A search passes over the positions where the probe fails. -/
theorem firstAt_append (probe : Probe α) (before : Option Char) (b : Text)
    (h : ∀ a' c r, a = a' ++ c :: r → probe (lastOr before a') (c :: (r ++ b)) = none) :
    firstAt probe before (a ++ b) =
      (firstAt probe (lastOr before a) b).map fun p => (a ++ p.1, p.2) := by
  induction a generalizing before with
  | nil => simp [lastOr]
  | cons c r ih =>
    have hc : probe before (c :: (r ++ b)) = none := by simpa [lastOr] using h [] c r rfl
    have hr := ih (some c) fun a' d r' hr => by
      simpa [lastOr] using h (c :: a') d r' (by simp [hr])
    simp only [List.cons_append, firstAt, hc, hr, lastOr, Option.map_map]
    rfl

/-- Only the probe at the start of the text sees the character before it. -/
theorem firstAt_congr {probe : Probe α} {x y : Option Char} (h : probe x t = probe y t) :
    firstAt probe x t = firstAt probe y t := by
  cases t <;> simp [firstAt, h]

/-- A search that the text behind is nothing for finds there what it finds without it. -/
theorem firstAt_append_of_none {probe : Probe α} {g : α → α}
    (hprobe : ∀ before t, probe before (t ++ b) = (probe before t).map g)
    (hb : ∀ before, firstAt probe before b = none) (before : Option Char) (t : Text) :
    firstAt probe before (t ++ b) = (firstAt probe before t).map fun p => (p.1, g p.2) := by
  induction t generalizing before with
  | nil =>
    have hnone : probe before ([] ++ b) = none := firstAt_eq_none_iff.1 (hb before) [] b rfl
    rw [hprobe, Option.map_eq_none_iff] at hnone
    rw [List.nil_append, hb, firstAt, hnone]; rfl
  | cons c r ih =>
    have hc := hprobe before (c :: r)
    rw [List.cons_append] at hc ⊢
    cases hp : probe before (c :: r) with
    | some x => simp [firstAt, hc, hp]
    | none =>
      simp only [firstAt, hc, hp, ih, Option.map_none, Option.map_map]
      rfl

theorem lastOr_eq (before : Option Char) (a : Text) :
    lastOr before a = if a = [] then before else a.getLast? := by
  induction a generalizing before with
  | nil => rfl
  | cons c r ih =>
    rw [lastOr, ih]
    cases r <;> simp

theorem afterKeyword?_eq_some_iff :
    afterKeyword? keyword t = some b ↔
      ∃ word, t = word ++ b ∧ List.Forall₂ (fun k c => spells k c = true) keyword word := by
  induction keyword generalizing t with
  | nil =>
    simp only [afterKeyword?, Option.some.injEq]
    exact ⟨fun h => ⟨[], h, .nil⟩, fun ⟨_, h, hs⟩ => by cases hs; exact h⟩
  | cons k ks ih =>
    cases t with
    | nil =>
      simp only [afterKeyword?, reduceCtorEq, false_iff]
      rintro ⟨word, hw, hs⟩
      cases hs; simp at hw
    | cons c r =>
      rw [afterKeyword?]
      constructor
      · intro h
        split at h
        · rename_i hc
          obtain ⟨word, rfl, hs⟩ := ih.1 h
          exact ⟨c :: word, rfl, .cons hc hs⟩
        · cases h
      · rintro ⟨word, hw, hs⟩
        cases hs with
        | cons hc hs =>
          simp only [List.cons_append, List.cons.injEq] at hw
          obtain ⟨rfl, rfl⟩ := hw
          rw [if_pos hc]; exact ih.2 ⟨_, rfl, hs⟩

/-- A keyword does not reach across what is no word character. -/
theorem afterKeyword?_append_cons (hsep : ∀ k ∈ keyword, spells k sep = false) :
    afterKeyword? keyword (a ++ sep :: b) = (afterKeyword? keyword a).map (· ++ sep :: b) := by
  induction keyword generalizing a with
  | nil => rfl
  | cons k ks ih =>
    cases a with
    | nil => simp [afterKeyword?, hsep k (by simp)]
    | cons c r =>
      simp only [List.cons_append, afterKeyword?]
      rw [ih fun k' hk' => hsep k' (List.mem_cons_of_mem _ hk')]
      split <;> rfl

theorem wholeWord_append_cons (hk : IsKeyword keyword) (hsep : isWord sep = false) :
    wholeWord keyword before (a ++ sep :: b) =
      (wholeWord keyword before a).map (· ++ sep :: b) := by
  have hends : endsWord (some sep) = true := by simp [endsWord, hsep]
  unfold wholeWord
  rw [afterKeyword?_append_cons fun k hmem => spells_of_not_isWord hk hmem hsep]
  split
  · cases afterKeyword? keyword a with
    | none => rfl
    | some rest =>
      cases rest with
      | nil => simp only [Option.map_some, List.nil_append, Option.bind_some, List.head?_cons,
          hends, if_true]; rfl
      | cons c r => by_cases h : endsWord (some c) = true <;> simp [h]
  · rfl

/-- Only the character before the text matters to a search, and of it only whether a word
may start behind it. -/
theorem firstAt_wholeWord_congr {x y : Option Char} (h : endsWord x = endsWord y) (t : Text) :
    firstAt (wholeWord keyword) x t = firstAt (wholeWord keyword) y t :=
  firstAt_congr (by simp only [wholeWord, h])

/-! ## First places -/

section Places

variable {α : Type} {probe : Probe α} {place : Text → α → Prop} {x : α}

/-- **A search finds the first of the places** that its probe tells. -/
theorem firstAt_eq_some_iff
    (h : ∀ b y, place b y ↔ ∃ rest, t = b ++ rest ∧ probe (lastOr none b) rest = some y) :
    firstAt probe none t = some (a, x) ↔ FirstPlace place a x := by
  have hsound : ∀ {b : Text} {y : α}, firstAt probe none t = some (b, y) → FirstPlace place b y := by
    intro b y hfound
    obtain ⟨rest, ht, hprobe, hmin⟩ := firstAt_eq_some hfound
    refine ⟨(h b y).2 ⟨rest, ht, hprobe⟩, fun b' y' hplace => ?_⟩
    obtain ⟨rest', ht', hprobe'⟩ := (h b' y').1 hplace
    by_contra hlt
    have hlen : b'.length + rest'.length = b.length + rest.length := by
      rw [← List.length_append, ← List.length_append, ← ht, ht']
    obtain ⟨c, r, rfl⟩ := List.exists_cons_of_ne_nil
      (List.ne_nil_of_length_pos (show 0 < rest'.length by omega))
    rw [hmin b' c r ht' (by omega)] at hprobe'
    cases hprobe'
  refine ⟨hsound, fun ⟨hhere, hfirst⟩ => ?_⟩
  obtain ⟨rest, ht, hprobe⟩ := (h a x).1 hhere
  cases hfound : firstAt probe none t with
  | none =>
    rw [firstAt_eq_none_iff.1 hfound a rest ht] at hprobe
    cases hprobe
  | some p =>
    -- what was found stands no earlier and no later, so it is the same
    obtain ⟨hhere', hfirst'⟩ := hsound hfound
    obtain ⟨rest', ht', hprobe'⟩ := (h p.1 p.2).1 hhere'
    obtain ⟨rfl, rfl⟩ := List.append_inj (ht.symm.trans ht')
      (Nat.le_antisymm (hfirst _ _ hhere') (hfirst' _ _ hhere))
    rw [hprobe] at hprobe'
    cases hprobe'; rfl

/-- There is one first place only. -/
theorem FirstPlace.unique {y : α} (hx : FirstPlace place a x)
    (h : ∀ b y, place b y ↔ ∃ rest, t = b ++ rest ∧ probe (lastOr none b) rest = some y)
    (hy : FirstPlace place b y) : a = b ∧ x = y := by
  rw [← firstAt_eq_some_iff h] at hx hy
  rw [hx] at hy
  cases hy; exact ⟨rfl, rfl⟩

/-- A search fails exactly if there is no place. -/
theorem firstAt_eq_none_iff_place
    (h : ∀ b y, place b y ↔ ∃ rest, t = b ++ rest ∧ probe (lastOr none b) rest = some y) :
    firstAt probe none t = none ↔ ∀ b y, ¬ place b y := by
  rw [firstAt_eq_none_iff]
  constructor
  · intro hnone b y hplace
    obtain ⟨rest, ht, hprobe⟩ := (h b y).1 hplace
    rw [hnone b rest ht] at hprobe
    cases hprobe
  · intro hnone b rest ht
    by_contra hne
    obtain ⟨y, hprobe⟩ := Option.ne_none_iff_exists'.1 hne
    exact hnone b y ((h b y).2 ⟨rest, ht, hprobe⟩)

end Places

theorem endsWord_lastOr (a : Text) : endsWord (lastOr none a) = endsWord a.getLast? := by
  rw [lastOr_eq]
  split
  · rename_i hnil; rw [hnil]; rfl
  · rfl

theorem wholeWord_eq_some_iff :
    wholeWord keyword before t = some b ↔
      endsWord before = true ∧ ∃ word, t = word ++ b ∧
        List.Forall₂ (fun k c => spells k c = true) keyword word ∧ endsWord b.head? = true := by
  simp only [wholeWord, Option.ite_none_right_eq_some, Option.bind_eq_some_iff, Option.some.injEq,
    afterKeyword?_eq_some_iff]
  constructor
  · rintro ⟨hbefore, rest, ⟨word, rfl, hs⟩, hends, rfl⟩
    exact ⟨hbefore, word, rfl, hs, hends⟩
  · rintro ⟨hbefore, word, rfl, hs, hends⟩
    exact ⟨hbefore, b, ⟨word, rfl, hs⟩, hends, rfl⟩

theorem wordBetween_iff :
    WordBetween keyword t a b ↔
      ∃ rest, t = a ++ rest ∧ wholeWord keyword (lastOr none a) rest = some b := by
  simp only [wholeWord_eq_some_iff, endsWord_lastOr]
  constructor
  · rintro ⟨word, rfl, hs, ha, hb⟩
    exact ⟨word ++ b, by rw [List.append_assoc], ha, word, rfl, hs, hb⟩
  · rintro ⟨_, rfl, ha, word, rfl, hs, hb⟩
    exact ⟨word, by rw [List.append_assoc], hs, ha, hb⟩

theorem hasWord_iff_between : HasWord keyword t ↔ ∃ a b, WordBetween keyword t a b :=
  ⟨fun ⟨a, word, b, h⟩ => ⟨a, b, word, h⟩, fun ⟨a, b, word, h⟩ => ⟨a, word, b, h⟩⟩

/-! ## Cuts at whole words -/

/-- **A cut is at the first place where the keyword stands as a whole word.** -/
theorem cutAtWord?_eq_some_iff :
    cutAtWord? keyword t = some (a, b) ↔ FirstPlace (WordBetween keyword t) a b :=
  firstAt_eq_some_iff fun _ _ => wordBetween_iff

theorem FirstPlace.cut_unique {a' b' : Text} (h : FirstPlace (WordBetween keyword t) a b)
    (h' : FirstPlace (WordBetween keyword t) a' b') : a = a' ∧ b = b' :=
  h.unique (fun _ _ => wordBetween_iff) h'

/-- **A search fails exactly if the keyword does not occur as a whole word.** -/
theorem cutAtWord?_eq_none_iff : cutAtWord? keyword t = none ↔ ¬ HasWord keyword t := by
  rw [cutAtWord?, firstAt_eq_none_iff_place fun _ _ => wordBetween_iff, hasWord_iff_between]
  simp only [not_exists]

/-- **A search passes over a part that does not have the word.** -/
theorem cutAtWord?_append_cons (hk : IsKeyword keyword) (hsep : isWord sep = false)
    (ha : ¬ HasWord keyword a) :
    cutAtWord? keyword (a ++ sep :: b) =
      (cutAtWord? keyword b).map fun p => (a ++ sep :: p.1, p.2) := by
  have hfail := firstAt_eq_none_iff.1 (cutAtWord?_eq_none_iff.2 ha)
  have h := firstAt_append (a := a ++ [sep]) (wholeWord keyword) none b
    fun a' c r hr => ?_
  · have hsame : firstAt (wholeWord keyword) (lastOr none (a ++ [sep])) b = cutAtWord? keyword b := by
      apply firstAt_wholeWord_congr
      rw [lastOr_eq, if_neg (by simp)]; simp [endsWord, hsep]
    rw [hsame] at h
    simpa [cutAtWord?] using h
  · -- a position before `b` lies in the first part, or is the separator itself
    rcases List.eq_nil_or_concat r with rfl | ⟨r', d, rfl⟩
    · have hr' : a = a' ∧ sep = c := by
        obtain ⟨h1, h2⟩ := List.append_inj' hr rfl
        exact ⟨h1, by simpa using h2⟩
      obtain ⟨rfl, rfl⟩ := hr'
      have : wholeWord keyword (lastOr none a) ([] ++ sep :: b) = _ := wholeWord_append_cons hk hsep
      rw [List.nil_append] at this
      rw [List.nil_append, this, hfail a [] (by simp)]; rfl
    · have hr' : a = a' ++ c :: r' ∧ sep = d := by
        rw [List.concat_eq_append, ← List.cons_append, ← List.append_assoc] at hr
        obtain ⟨h1, h2⟩ := List.append_inj' hr rfl
        exact ⟨h1, by simpa using h2⟩
      obtain ⟨rfl, rfl⟩ := hr'
      have : wholeWord keyword (lastOr none a') (c :: r' ++ sep :: b) = _ := wholeWord_append_cons hk hsep
      rw [hfail a' (c :: r') rfl] at this
      simpa using this

theorem not_hasWord_append_cons (hk : IsKeyword keyword) (hsep : isWord sep = false)
    (ha : ¬ HasWord keyword a) (hb : ¬ HasWord keyword b) : ¬ HasWord keyword (a ++ sep :: b) := by
  rw [← cutAtWord?_eq_none_iff, cutAtWord?_append_cons hk hsep ha, cutAtWord?_eq_none_iff.2 hb]
  rfl

/-- Letters alone have the word only if they are it, and so of its length. -/
theorem not_hasWord_of_length (ht : ∀ c ∈ t, isWord c = true) (hlen : t.length ≠ keyword.length) :
    ¬ HasWord keyword t := by
  rintro ⟨before, word, after, rfl, hs, hb, ha⟩
  have hbefore : before = [] := by
    rcases List.eq_nil_or_concat before with h | ⟨r, c, rfl⟩
    · exact h
    · have := ht c (by simp)
      simp [endsWord, this] at hb
  have hafter : after = [] := by
    cases after with
    | nil => rfl
    | cons c r =>
      have := ht c (by simp)
      simp [endsWord, this] at ha
  subst hbefore hafter
  rw [List.nil_append, List.append_nil] at hlen
  exact hlen hs.length_eq.symm

/-- Where no word character is, no search finds its word. -/
theorem firstAt_of_not_isWord (hk : IsKeyword keyword) (ht : ∀ c ∈ t, isWord c = false)
    (before : Option Char) : firstAt (wholeWord keyword) before t = none := by
  refine firstAt_eq_none_iff.2 fun u rest hrest => Option.eq_none_iff_forall_ne_some.2 fun v hv => ?_
  obtain ⟨-, word, rfl, hs, -⟩ := wholeWord_eq_some_iff.1 hv
  cases hs with
  | nil => exact hk.ne_nil rfl
  | @cons k c ks cs hc =>
    have h1 := isWord_of_spells hk (by simp) hc
    have h2 := ht c (by simp [hrest])
    rw [h1] at h2; cases h2

theorem not_hasWord_of_not_isWord (hk : IsKeyword keyword) (ht : ∀ c ∈ t, isWord c = false) :
    ¬ HasWord keyword t :=
  cutAtWord?_eq_none_iff.1 (firstAt_of_not_isWord hk ht none)

/-- A search passes over a part without the word and a gap behind it. -/
theorem cutAtWord?_append_gap {g : Text} (hk : IsKeyword keyword) (hne : g ≠ [])
    (hg : ∀ c ∈ g, isWord c = false) (ha : ¬ HasWord keyword a) :
    cutAtWord? keyword (a ++ g ++ b) =
      (cutAtWord? keyword b).map fun p => (a ++ g ++ p.1, p.2) := by
  obtain ⟨r, d, rfl⟩ := (List.eq_nil_or_concat g).resolve_left hne
  rw [List.concat_eq_append] at hg ⊢
  have hd : isWord d = false := hg d (by simp)
  have har : ¬ HasWord keyword (a ++ r) := by
    cases r with
    | nil => simpa using ha
    | cons c r =>
      exact not_hasWord_append_cons hk (hg c (by simp)) ha
        (not_hasWord_of_not_isWord hk fun e he => hg e (by simp [he]))
  simpa using cutAtWord?_append_cons (b := b) hk hd har

theorem cutAtWord?_blanks_append (hk : IsKeyword keyword) (ha : Blanks a) :
    cutAtWord? keyword (a ++ b) = (cutAtWord? keyword b).map fun p => (a ++ p.1, p.2) := by
  by_cases hne : a = []
  · simp [hne]
  · have hnil : ¬ HasWord keyword [] := not_hasWord_of_not_isWord hk (by simp)
    have hnot : ∀ c ∈ a, isWord c = false := fun c hc => isWord_of_isBlank (ha c hc)
    simpa using cutAtWord?_append_gap (b := b) hk hne hnot hnil

/-- Blanks around a text add no word to it. -/
theorem not_hasWord_pad (hk : IsKeyword keyword) (ha : Blanks a) (hb : Blanks b)
    (ht : ¬ HasWord keyword t) : ¬ HasWord keyword (a ++ t ++ b) := by
  have htb : ¬ HasWord keyword (t ++ b) := by
    cases b with
    | nil => simpa using ht
    | cons c r =>
      have hnot : ∀ e ∈ c :: r, isWord e = false := fun e he => isWord_of_isBlank (hb e he)
      exact not_hasWord_append_cons hk (hnot c (by simp)) ht
        (not_hasWord_of_not_isWord hk fun e he => hnot e (by simp [he]))
  rw [List.append_assoc, ← cutAtWord?_eq_none_iff, cutAtWord?_blanks_append hk ha,
    cutAtWord?_eq_none_iff.2 htb]
  rfl

/-- **Blanks around a text do not move a cut.** -/
theorem cutAtWord?_pad (hk : IsKeyword keyword) (ha : Blanks a) (hb : Blanks b) :
    cutAtWord? keyword (a ++ t ++ b) =
      (cutAtWord? keyword t).map fun p => (a ++ p.1, p.2 ++ b) := by
  have hprobe : ∀ before t, wholeWord keyword before (t ++ b) =
      (wholeWord keyword before t).map (· ++ b) := by
    intro before t
    cases b with
    | nil => simp
    | cons c r => exact wholeWord_append_cons hk (isWord_of_isBlank (hb c (by simp)))
  have hnone := firstAt_of_not_isWord hk fun c hc => isWord_of_isBlank (hb c hc)
  rw [List.append_assoc, cutAtWord?_blanks_append hk ha, cutAtWord?, firstAt_append_of_none hprobe hnone,
    Option.map_map]
  rfl

/-- What is searched through is what stands before the word, the word and what follows it. -/
theorem firstAt_wholeWord_split {u v : Text}
    (h : firstAt (wholeWord keyword) before t = some (u, v)) :
    ∃ word, t = u ++ word ++ v ∧ word.length = keyword.length := by
  obtain ⟨rest, rfl, hprobe, -⟩ := firstAt_eq_some h
  obtain ⟨-, word, rfl, hspelled, -⟩ := wholeWord_eq_some_iff.1 hprobe
  exact ⟨word, by rw [List.append_assoc], hspelled.length_eq.symm⟩

theorem length_of_firstAt {u v : Text} (h : firstAt (wholeWord keyword) before t = some (u, v)) :
    t.length = u.length + (keyword.length + v.length) := by
  obtain ⟨word, rfl, hword⟩ := firstAt_wholeWord_split h
  rw [List.length_append, List.length_append, hword]; omega

theorem afterKeyword?_append (hlen : keyword.length ≤ a.length) :
    afterKeyword? keyword (a ++ b) = (afterKeyword? keyword a).map (· ++ b) := by
  induction keyword generalizing a with
  | nil => rfl
  | cons k ks ih =>
    cases a with
    | nil => simp at hlen
    | cons c r =>
      rw [List.cons_append, afterKeyword?, afterKeyword?, ih (by simpa using hlen)]
      split <;> rfl

/-- Whether the word stands at a position is settled by one character more than it has. -/
theorem wholeWord_append (hlen : keyword.length < a.length) :
    wholeWord keyword before (a ++ b) = (wholeWord keyword before a).map (· ++ b) := by
  unfold wholeWord
  rw [afterKeyword?_append (Nat.le_of_lt hlen)]
  split
  · cases hafter : afterKeyword? keyword a with
    | none => rfl
    | some rest =>
      obtain ⟨word, rfl, hspelled⟩ := afterKeyword?_eq_some_iff.1 hafter
      rw [List.length_append, ← hspelled.length_eq] at hlen
      obtain ⟨c, r, rfl⟩ := List.exists_cons_of_ne_nil (List.ne_nil_of_length_pos
        (show 0 < rest.length by omega))
      by_cases hends : endsWord (some c) = true <;> simp [hends]
  · rfl

/-- A word that is found with something behind it is found there whatever comes after that. -/
theorem firstAt_wholeWord_append {u v : Text}
    (h : firstAt (wholeWord keyword) before t = some (u, v)) (hv : v ≠ []) (b : Text) :
    firstAt (wholeWord keyword) before (t ++ b) = some (u, v ++ b) := by
  have hpos : 0 < v.length := List.length_pos_iff.2 hv
  induction t generalizing before u with
  | nil =>
    have := length_of_firstAt h
    rw [List.length_nil] at this; omega
  | cons c r ih =>
    have hlen := length_of_firstAt h
    have hprobe : wholeWord keyword before (c :: (r ++ b)) =
        (wholeWord keyword before (c :: r)).map (· ++ b) := wholeWord_append (a := c :: r) (by omega)
    cases hw : wholeWord keyword before (c :: r) with
    | some w =>
      rw [hw] at hprobe
      simp only [firstAt, hw, Option.some.injEq, Prod.mk.injEq] at h
      obtain ⟨rfl, rfl⟩ := h
      simp [firstAt, hprobe]
    | none =>
      rw [hw] at hprobe
      simp only [firstAt, hw, Option.map_eq_some_iff, Prod.mk.injEq] at h
      obtain ⟨⟨u', v'⟩, hrest, rfl, rfl⟩ := h
      simp [firstAt, hprobe, ih hrest]

/-- **What is appended does not move a cut** that has something behind it. -/
theorem cutAtWord?_append {u v : Text} (h : cutAtWord? keyword t = some (u, v)) (hv : v ≠ [])
    (b : Text) : cutAtWord? keyword (t ++ b) = some (u, v ++ b) :=
  firstAt_wholeWord_append h hv b

/-- **A search stops where the word stands.** -/
theorem cutAtWord?_here (hk : IsKeyword keyword) (hw : AnyCase keyword w)
    (ht : endsWord t.head? = true) : cutAtWord? keyword (w ++ t) = some ([], t) := by
  have hprobe : wholeWord keyword none (w ++ t) = some t := by
    simp [wholeWord, endsWord, afterKeyword?_eq_some_iff.2 ⟨w, rfl, hw.spelled⟩] at ht ⊢
    exact ht
  cases hw with
  | nil => exact absurd rfl hk.ne_nil
  | cons hc hcs =>
    rw [List.cons_append] at hprobe ⊢
    simp [cutAtWord?, firstAt, hprobe]

end Text

end Almanac
