import Almanac.Text.Word

/-!
# Keywords in text

A keyword is found by its letters in any case, standing as a whole word: neither
the character before it nor the one after it is a word character. Two letters have
spellings outside ASCII as well: the long s, and the dotted and the dotless i.

* `firstAt_eq_some`: **a search stops at the first position that matches**, and what
  precedes it is the text before that position.
* `firstAt_eq_none_iff`: a search fails only if no position matches.
-/

namespace Almanac.Text

/-- A character that spells the capital letter `k`, in either case. -/
def spells (k c : Char) : Bool :=
  c == k || c == k.toLower || (k == 'S' && c == 'ſ') || (k == 'I' && (c == 'İ' || c == 'ı'))

/-- What follows the keyword, if the text starts with it. -/
def afterKeyword? : Text → Text → Option Text
  | [], t => some t
  | _ :: _, [] => none
  | k :: ks, c :: t => if spells k c then afterKeyword? ks t else none

/-- A character (or the text's edge) next to which a word may start or end. -/
def endsWord (c : Option Char) : Bool := !c.any isWord

/-- A test of the text at one position: it is given the character before the position
and the text from there on. -/
abbrev Probe (α : Type) := Option Char → Text → Option α

/-- The keyword as a whole word, giving what follows it. -/
def wholeWord (keyword : Text) : Probe Text := fun before t =>
  if endsWord before then
    (afterKeyword? keyword t).bind fun rest => if endsWord rest.head? then some rest else none
  else none

/-- The text before the first position where the probe succeeds, and what it gives there. -/
def firstAt {α : Type} (probe : Probe α) : Option Char → Text → Option (Text × α)
  | before, [] => (probe before []).map fun a => ([], a)
  | before, c :: t =>
    match probe before (c :: t) with
    | some a => some ([], a)
    | none => (firstAt probe (some c) t).map fun p => (c :: p.1, p.2)

/-- The text before and after the first whole-word `keyword`. -/
def cutAtWord? (keyword t : Text) : Option (Text × Text) := firstAt (wholeWord keyword) none t

/-- The last character before a position: that of `a`, or `before` if `a` is empty. -/
def lastOr (before : Option Char) (a : Text) : Option Char :=
  match a with
  | [] => before
  | c :: r => lastOr (some c) r

variable {α : Type} {probe : Probe α}

/-- **A search stops at the first match.** It succeeds where the probe does, and at no
earlier position does the probe succeed. -/
theorem firstAt_eq_some {before : Option Char} {t a : Text} {x : α}
    (h : firstAt probe before t = some (a, x)) :
    ∃ rest, t = a ++ rest ∧ probe (lastOr before a) rest = some x ∧
      ∀ b c r, t = b ++ c :: r → b.length < a.length → probe (lastOr before b) (c :: r) = none := by
  induction t generalizing before a with
  | nil =>
    simp only [firstAt, Option.map_eq_some_iff, Prod.mk.injEq] at h
    obtain ⟨y, hy, rfl, rfl⟩ := h
    exact ⟨[], rfl, hy, by simp⟩
  | cons c t ih =>
    cases hp : probe before (c :: t) with
    | some y =>
      simp only [firstAt, hp, Option.some.injEq, Prod.mk.injEq] at h
      obtain ⟨rfl, rfl⟩ := h
      exact ⟨c :: t, rfl, hp, by simp⟩
    | none =>
      simp only [firstAt, hp, Option.map_eq_some_iff, Prod.mk.injEq] at h
      obtain ⟨⟨a', y⟩, hf, rfl, rfl⟩ := h
      obtain ⟨rest, rfl, hr, hmin⟩ := ih hf
      -- an earlier position is this one, which failed, or lies in the rest of the search
      refine ⟨rest, rfl, hr, fun b d r hb hlt => ?_⟩
      cases b with
      | nil => cases hb; exact hp
      | cons e b =>
        simp only [List.cons_append, List.cons.injEq] at hb
        obtain ⟨rfl, hb⟩ := hb
        exact hmin b d r hb (by simpa using hlt)

/-- **A search fails only if no position matches.** -/
theorem firstAt_eq_none_iff {before : Option Char} {t : Text} :
    firstAt probe before t = none ↔ ∀ a rest, t = a ++ rest → probe (lastOr before a) rest = none := by
  induction t generalizing before with
  | nil =>
    constructor
    · intro h a rest ht
      obtain ⟨rfl, rfl⟩ := List.append_eq_nil_iff.1 ht.symm
      simpa [firstAt, lastOr] using h
    · intro h; simpa [firstAt, lastOr] using h [] [] rfl
  | cons c t ih =>
    cases hp : probe before (c :: t) with
    | some y =>
      simp only [firstAt, hp, reduceCtorEq, false_iff]
      intro h; simpa [lastOr, hp] using h [] (c :: t) rfl
    | none =>
      simp only [firstAt, hp, Option.map_eq_none_iff, ih]
      constructor
      · intro h a rest ht
        cases a with
        | nil => cases ht; exact hp
        | cons d a =>
          simp only [List.cons_append, List.cons.injEq] at ht
          obtain ⟨rfl, rfl⟩ := ht
          exact h a rest rfl
      · rintro h a rest rfl; exact h (c :: a) rest rfl

end Almanac.Text
