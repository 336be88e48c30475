import Almanac.Fault.Kind
import Almanac.Proofs.ReadInsert
import Almanac.Proofs.ReadSelect

/-!
# Reading any text

The first word alone decides how a text is read; nothing behind it can make a text of one
kind a text of the other.

* `read_of_select`, `read_of_insert`, `read_of_other`: the three ways to be read.
* `read_eq_ok`: **what is read is of the kind that its first word says.**
* `read_eq_error`: what cannot be read is the statement's fault, or a literal's.
* `readValue_eq_ok`: only a text is read as a statement.
* `FirstFlaw`: which fault counts where a text has several flaws.
-/

namespace Almanac.Statement

open Text

variable {mode : Mode} {text : Text}

theorem read_of_select (h : leadingWord text = selectWord) :
    read mode text = readSelect mode (strip text) := by
  rw [read, leadingWord_strip, h, if_pos rfl]

theorem read_of_insert (h : leadingWord text = insertWord) :
    read mode text = readInsert (strip text) := by
  rw [read, leadingWord_strip, h, if_neg (by decide), if_pos rfl]

/-- A text with another first word, or with none, is refused for its kind. -/
theorem read_of_other (hselect : leadingWord text ≠ selectWord)
    (hinsert : leadingWord text ≠ insertWord) (mode : Mode) :
    ∃ e, read mode text = .error (.query e) ∧ e.kind = .unsupportedStatement := by
  rw [read, leadingWord_strip, if_neg hselect, if_neg hinsert]
  split
  · exact ⟨.emptyStatement, rfl, rfl⟩
  · exact ⟨.unsupported (leadingWord text), rfl, rfl⟩

/-- **What is read is of the kind that its first word says.** -/
theorem read_eq_ok {st : Statement} (h : read mode text = .ok st) :
    (leadingWord text = selectWord ∧ ∃ table fields filter, st = .select table fields filter) ∨
      (leadingWord text = insertWord ∧ ∃ table columns values, st = .insert table columns values) := by
  by_cases hselect : leadingWord text = selectWord
  · rw [read_of_select hselect] at h
    obtain ⟨-, tail, fields, filter, -, -, -, -, hst⟩ := readSelect_eq_ok h
    exact .inl ⟨hselect, firstWord tail, fields, filter, hst⟩
  by_cases hinsert : leadingWord text = insertWord
  · rw [read_of_insert hinsert] at h
    obtain ⟨table, columns, -, values, -, -, hst⟩ := readInsert_eq_ok h
    exact .inr ⟨hinsert, table, columns, values, hst⟩
  · obtain ⟨e, he, -⟩ := read_of_other hselect hinsert mode
    rw [he] at h; cases h

/-- What cannot be read is the statement's own fault, or an insertion whose parts are there
and whose literals fail. -/
theorem read_eq_error {f : Fault} (h : read mode text = .error f) :
    (∃ e, f = .query e) ∨
      (leadingWord text = insertWord ∧ ∃ table columns literals,
        InsertParts (strip text) table columns literals ∧ readValues literals = .error f) := by
  by_cases hselect : leadingWord text = selectWord
  · rw [read_of_select hselect] at h
    obtain ⟨cause, rfl⟩ := readSelect_eq_error h
    exact .inl ⟨_, rfl⟩
  by_cases hinsert : leadingWord text = insertWord
  · rw [read_of_insert hinsert] at h
    rcases readInsert_cases (strip text) with ⟨cause, hbad⟩ | ⟨table, columns, literals, hparts⟩
    · rw [hbad] at h
      cases h; exact .inl ⟨_, rfl⟩
    · rw [readInsert_of_parts hparts] at h
      exact .inr ⟨hinsert, table, columns, literals, hparts, map_eq_error_iff.1 h⟩
  · obtain ⟨e, he, -⟩ := read_of_other hselect hinsert mode
    rw [he] at h
    cases h; exact .inl ⟨e, rfl⟩

/-- Only a text is read as a statement. -/
theorem readValue_eq_ok {statement : Value} {st : Statement}
    (h : readValue mode statement = .ok st) :
    ∃ text, statement = .text text ∧ read mode text = .ok st := by
  have hempty : read mode [] ≠ .ok st := by
    intro hread
    rcases read_eq_ok hread with ⟨hword, -⟩ | ⟨hword, -⟩
    · exact absurd hword (by decide)
    · exact absurd hword (by decide)
  cases statement with
  | text t => exact ⟨t, rfl, h⟩
  | bytes b =>
    simp only [readValue, readBytes] at h
    split at h <;> cases h
  | _ =>
    simp only [readValue] at h
    split at h
    · cases h
    · exact absurd h hempty

/-! ## The first flaw -/

/-- **The fault that counts**: that of the first of the numbered flaws that there are. -/
def FirstFlaw (flaw : Nat → Fault → Prop) (f : Fault) : Prop :=
  ∃ n, flaw n f ∧ ∀ m g, flaw m g → n ≤ m

/-- None of the first `k` flaws is there. -/
def ClearTo (flaw : Nat → Fault → Prop) (k : Nat) : Prop :=
  ∀ n f, flaw n f → k < n

/-- A text is judged by its flaws: it has the fault that counts, or no flaw and is read. -/
def JudgedBy (flaw : Nat → Fault → Prop) (outcome : Except Fault Statement) : Prop :=
  (∃ f, outcome = .error f ∧ FirstFlaw flaw f) ∨
    (∃ st, outcome = .ok st) ∧ ∀ n f, ¬ flaw n f

variable {flaw : Nat → Fault → Prop} {k : Nat} {f : Fault} {outcome : Except Fault Statement}

theorem ClearTo.next (h : ClearTo flaw k) (hk : ∀ f, ¬ flaw (k + 1) f) : ClearTo flaw (k + 1) := by
  intro n f hf
  have hlt := h n f hf
  rcases Nat.eq_or_lt_of_le hlt with heq | hlt
  · subst heq; exact absurd hf (hk f)
  · exact hlt

theorem ClearTo.judged (h : ClearTo flaw k) (hf : flaw (k + 1) f) : JudgedBy flaw (.error f) :=
  .inl ⟨f, rfl, k + 1, hf, fun m g hg => h m g hg⟩

/-- A test for the next flaw: what does not fail it is judged by the flaws behind it. -/
theorem ClearTo.test {p : Prop} [Decidable p] (h : ClearTo flaw k) (hflaw : p → flaw (k + 1) f)
    (honly : ∀ g, flaw (k + 1) g → p)
    (hrest : ¬ p → ClearTo flaw (k + 1) → JudgedBy flaw outcome) :
    JudgedBy flaw (if p then .error f else outcome) := by
  by_cases hp : p
  · rw [if_pos hp]
    exact h.judged (hflaw hp)
  · rw [if_neg hp]
    exact hrest hp (h.next fun g hg => hp (honly g hg))

/-- **Where a flaw has one fault, the faults that come out are those that count**, and what has no
flaw is read. -/
theorem JudgedBy.exact (h : JudgedBy flaw outcome)
    (hunique : ∀ n f g, flaw n f → flaw n g → f = g) :
    (∀ f, outcome = .error f ↔ FirstFlaw flaw f) ∧
      ((∃ st, outcome = .ok st) ↔ ∀ n f, ¬ flaw n f) := by
  rcases h with ⟨f, rfl, n, hf, hfirst⟩ | ⟨⟨st, rfl⟩, hnone⟩
  · refine ⟨fun g => ⟨fun h => ?_, fun ⟨m, hg, hfirst'⟩ => ?_⟩, ?_⟩
    · cases h; exact ⟨n, hf, hfirst⟩
    · obtain rfl := Nat.le_antisymm (hfirst m g hg) (hfirst' n f hf)
      rw [hunique n f g hf hg]
    · exact ⟨fun ⟨_, hok⟩ => (by cases hok), fun hnone => absurd hf (hnone n f)⟩
  · refine ⟨fun g => ⟨fun herror => (by cases herror), fun ⟨n, hg, _⟩ => absurd hg (hnone n g)⟩, ?_⟩
    exact ⟨fun _ => hnone, fun _ => ⟨st, rfl⟩⟩

end Almanac.Statement
