/-!
# Text

Text is the list of its characters, so that every rule about statements is a
recursion on lists. This module holds the cuts that all readers share.

* `cut?_eq_some_iff`: **a cut finds the first separator**, and loses nothing.
* `cutLast?_eq_some_iff`: the same from the other end.
* `pieces_ne_nil`: splitting on a separator always leaves a piece.
-/

namespace Almanac

/-- A text, as its characters in order. -/
abbrev Text := List Char

namespace Text

/-- Membership in a set of characters given as ranges of code points, both ends
included. -/
def inRanges (ranges : List (Nat × Nat)) (c : Char) : Bool :=
  ranges.any fun r => decide (r.1 ≤ c.toNat) && decide (c.toNat ≤ r.2)

/-- The text before and after the first `sep`. -/
def cut? (sep : Char) : Text → Option (Text × Text)
  | [] => none
  | c :: r => if c = sep then some ([], r) else (cut? sep r).map fun p => (c :: p.1, p.2)

/-- The text before and after the last `sep`. -/
def cutLast? (sep : Char) : Text → Option (Text × Text)
  | [] => none
  | c :: r =>
    match cutLast? sep r with
    | some p => some (c :: p.1, p.2)
    | none => if c = sep then some ([], r) else none

/-- The pieces between the occurrences of `sep`; one more than there are of them. -/
def pieces (sep : Char) : Text → List Text
  | [] => [[]]
  | c :: r =>
    if c = sep then [] :: pieces sep r
    else match pieces sep r with
      | [] => [[c]]
      | p :: ps => (c :: p) :: ps

/-- Drops the characters that satisfy `p` at the end. -/
def trimEnd (p : Char → Bool) (t : Text) : Text := (t.reverse.dropWhile p).reverse

/-- Drops the characters that satisfy `p` at both ends. -/
def trimBy (p : Char → Bool) (t : Text) : Text := trimEnd p (t.dropWhile p)

/-- The text without one line feed at its end. -/
def withoutFinalBreak (t : Text) : Text :=
  if t.getLast? = some '\n' then t.dropLast else t

/-- The texts one after another with `sep` between neighbours. -/
def joined (sep : Text) : List Text → Text
  | [] => []
  | [t] => t
  | t :: ts => t ++ sep ++ joined sep ts

variable {sep : Char}

theorem cut?_eq_none_iff {t : Text} : cut? sep t = none ↔ sep ∉ t := by
  induction t with
  | nil => simp [cut?]
  | cons c r ih =>
    by_cases h : c = sep
    · simp [cut?, h]
    · simp [cut?, h, ih, Ne.symm h]

/-- **A cut finds the first separator.** -/
theorem cut?_eq_some_iff {t a b : Text} :
    cut? sep t = some (a, b) ↔ t = a ++ sep :: b ∧ sep ∉ a := by
  induction t generalizing a with
  | nil => simp [cut?]
  | cons c r ih =>
    by_cases h : c = sep
    · subst h
      cases a with
      | nil => simp [cut?]
      | cons x xs => simp [cut?]; intro hx _ hc; exact absurd hx hc
    · cases a with
      | nil => simp [cut?, h]
      | cons x xs =>
        simp only [cut?, h, if_false, Option.map_eq_some_iff, Prod.exists, Prod.mk.injEq,
          List.cons_append, List.cons.injEq, List.mem_cons, not_or]
        constructor
        · rintro ⟨u, v, huv, ⟨rfl, rfl⟩, rfl⟩
          obtain ⟨h1, h2⟩ := ih.1 huv
          exact ⟨⟨rfl, h1⟩, Ne.symm h, h2⟩
        · rintro ⟨⟨rfl, h1⟩, -, h2⟩
          exact ⟨xs, b, ih.2 ⟨h1, h2⟩, ⟨rfl, rfl⟩, rfl⟩

/-- The first separator is in one place only. -/
theorem eq_of_append_cons {a b a' b' : Text} (h : a ++ sep :: b = a' ++ sep :: b') (ha : sep ∉ a)
    (ha' : sep ∉ a') : a = a' ∧ b = b' := by
  have hcut := cut?_eq_some_iff.2 ⟨h, ha'⟩
  rw [cut?_eq_some_iff.2 ⟨rfl, ha⟩] at hcut
  cases hcut; exact ⟨rfl, rfl⟩

theorem cutLast?_eq_none_iff {t : Text} : cutLast? sep t = none ↔ sep ∉ t := by
  induction t with
  | nil => simp [cutLast?]
  | cons c r ih =>
    cases hr : cutLast? sep r with
    | some p =>
      have : sep ∈ r := Decidable.byContradiction fun hn => by simp [ih.2 hn] at hr
      simp [cutLast?, hr, this]
    | none =>
      have := ih.1 hr
      by_cases h : c = sep
      · simp [cutLast?, hr, h]
      · simp [cutLast?, hr, h, Ne.symm h, this]

/-- **The last cut finds the last separator.** -/
theorem cutLast?_eq_some_iff {t a b : Text} :
    cutLast? sep t = some (a, b) ↔ t = a ++ sep :: b ∧ sep ∉ b := by
  induction t generalizing a b with
  | nil => simp [cutLast?]
  | cons c r ih =>
    cases hr : cutLast? sep r with
    | some p =>
      -- a later separator wins, so this character belongs to the first part
      obtain ⟨u, v⟩ := p
      have hp := ih.1 hr
      cases a with
      | nil =>
        simp only [cutLast?, hr, Option.some.injEq, List.nil_append, List.cons.injEq]
        constructor
        · intro h; simp [Prod.ext_iff] at h
        · rintro ⟨⟨-, rfl⟩, hb⟩; rw [hp.1] at hb; simp at hb
      | cons x xs =>
        simp only [cutLast?, hr, Option.some.injEq, Prod.mk.injEq, List.cons.injEq,
          List.cons_append]
        constructor
        · rintro ⟨⟨rfl, rfl⟩, rfl⟩; exact ⟨⟨rfl, hp.1⟩, hp.2⟩
        · rintro ⟨⟨rfl, h1⟩, h2⟩
          have := ih.2 ⟨h1, h2⟩
          rw [hr] at this; cases this; exact ⟨⟨rfl, rfl⟩, rfl⟩
    | none =>
      -- no separator is left, so the cut is here or nowhere
      have hn := cutLast?_eq_none_iff.1 hr
      cases a with
      | nil =>
        by_cases h : c = sep
        · simp [cutLast?, hr, h]; rintro rfl; exact hn
        · simp [cutLast?, hr, h]
      | cons x xs =>
        have : r ≠ xs ++ sep :: b := by rintro rfl; simp at hn
        by_cases h : c = sep <;> simp [cutLast?, hr, h, this]

theorem pieces_ne_nil (t : Text) : pieces sep t ≠ [] := by
  cases t with
  | nil => simp [pieces]
  | cons c r =>
    simp only [pieces]
    split
    · simp
    · split <;> simp

end Text

end Almanac
