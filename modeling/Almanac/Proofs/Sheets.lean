import Almanac.Proofs.LineScalars
import Almanac.Yaml.Source

/-!
# Sheets

A sheet is a document of two levels: named sections, each with named values that fit on their
lines. It is written with one line for the name of a section and one for each value, which is
indented behind the value's name.

* `document_outline`: **a sheet is written by its lines**.
* `ofText_text`: what is written is read whole.
-/

namespace Almanac.Yaml

open Text

/-- Named sections of named values. -/
abbrev Sheet := List (Text × Record)

/-- **A name**: a short word that is taken for nothing else than a text. -/
structure IsName (t : Text) : Prop where
  ne_nil : t ≠ []
  letters : ∀ c ∈ t, c.isLower = true ∨ c = '_'
  short : t.length < 100
  plain : isPlain t = true

instance {t : Text} : Decidable (IsName t) :=
  decidable_of_iff (t ≠ [] ∧ (t.all fun c => decide (c.isLower = true ∨ c = '_')) = true ∧
      t.length < 100 ∧ isPlain t = true)
    ⟨fun h => ⟨h.1, List.all_iff_forall_prop.1 h.2.1, h.2.2.1, h.2.2.2⟩,
      fun h => ⟨h.ne_nil, List.all_iff_forall_prop.2 h.letters, h.short, h.plain⟩⟩

namespace Sheet

/-! ## Lines -/

/-- The line of a value, from the end of the line before it on. -/
def valueLine (p : Text × Value) : Text := newLine 2 ++ (p.1 ++ ':' :: ' ' :: scalar 4 p.2)

/-- The lines of a section, without the last one's end. -/
def sectionLines (p : Text × Record) : Text := p.1 ++ ':' :: p.2.flatMap valueLine

/-- The lines of a sheet. -/
def text (s : Sheet) : Text := s.flatMap fun p => sectionLines p ++ newLine 0

/-- The outline of a section. -/
def sectionOutline (settings : Record) : Outline :=
  .mapping none none (settings.map fun p => (.ofScalar (.text p.1), .ofScalar p.2))

/-- The outline of a sheet. -/
def outline (s : Sheet) : Outline :=
  .mapping none none (s.map fun p => (.ofScalar (.text p.1), sectionOutline p.2))

/-- **A sheet that is well formed**: neither it nor a section of it is empty, what has a name has
a proper one of its own, and every value fits on its line. -/
structure Ok (s : Sheet) : Prop where
  ne_nil : s ≠ []
  section_ne_nil : ∀ p ∈ s, p.2 ≠ []
  names : ∀ p ∈ s, IsName p.1 ∧ ∀ q ∈ p.2, IsName q.1
  nodup : (s.map Prod.fst).Nodup ∧ ∀ p ∈ s, (Record.names p.2).Nodup
  values : ∀ p ∈ s, ∀ q ∈ p.2, FitsLine q.2

end Sheet

variable {t : Text} {v : Value} {c : Char}

/-! ## Writing -/

theorem writable_of_letter (h : c.isLower = true ∨ c = '_') :
    isWritable c = true ∧ isBreak c = false := by
  refine writable_of_isPrintable ?_
  rcases h with h | rfl
  · have hrange : (decide (c.val ≥ 97) && decide (c.val ≤ 122)) = true := h
    simp only [Bool.and_eq_true, decide_eq_true_eq, ge_iff_le, UInt32.le_iff_toNat_le] at hrange
    have hlow : 97 ≤ c.toNat := hrange.1
    have hhigh : c.toNat ≤ 122 := hrange.2
    rw [isPrintable, if_pos (by omega), Bool.and_eq_true, decide_eq_true_eq, decide_eq_true_eq]
    omega
  · decide

theorem IsName.scalarText (h : IsName t) (indent : Nat) : scalarText indent t = t :=
  scalarText_of_plain (needsEscapes_of_line fun c hc => writable_of_letter (h.letters c hc)) h.plain

theorem IsName.isShortKey (h : IsName t) : isShortKey none (.text t) = true := by
  have hline : t.any isBreak = false := by
    refine List.any_eq_false.2 fun c hc => ?_
    rw [(writable_of_letter (h.letters c hc)).2]
    exact Bool.false_ne_true
  have hshort := h.short
  have hwidth : tagWidth (.text t) + t.length < keyLimit := by
    change 5 + t.length < 128
    omega
  simp [Yaml.isShortKey, h.ne_nil, hline, hwidth]

theorem IsName.startsWord (h : IsName t) (rest : Text) : StartsWord (t ++ rest) := by
  intro c hc
  obtain ⟨d, r, rfl⟩ := List.exists_cons_of_ne_nil h.ne_nil
  exact h.letters c (by simpa using Or.inl hc.symm)

theorem joined_cons (sep : Text) (p : Text) (ps : List Text) :
    joined sep (p :: ps) = p ++ ps.flatMap (sep ++ ·) := by
  induction ps generalizing p with
  | nil => simp [joined]
  | cons q qs ih =>
    have hsplit : joined sep (p :: q :: qs) = p ++ sep ++ joined sep (q :: qs) := rfl
    rw [hsplit, ih, List.flatMap_cons, List.append_assoc, List.append_assoc]

/-- Parts that each end their line are laid out with a line's end behind them. -/
theorem layOut_newLine (parts : List Text) (h : parts ≠ []) :
    layOut 0 parts ++ ['\n'] = parts.flatMap (· ++ newLine 0) := by
  obtain ⟨p, ps, rfl⟩ := List.exists_cons_of_ne_nil h
  rw [layOut, joined_cons]
  induction ps generalizing p with
  | nil => simp [newLine, spaces]
  | cons q qs ih =>
    have hsplit : (p :: q :: qs).flatMap (· ++ newLine 0) =
        (p ++ newLine 0) ++ (q :: qs).flatMap (· ++ newLine 0) := rfl
    rw [hsplit, ← ih q (by simp)]
    simp

/-- Parts that each start a line are laid out behind a line's end. -/
theorem newLine_layOut (indent : Nat) (parts : List Text) (h : parts ≠ []) :
    newLine indent ++ layOut indent parts = parts.flatMap (newLine indent ++ ·) := by
  obtain ⟨p, ps, rfl⟩ := List.exists_cons_of_ne_nil h
  rw [layOut, joined_cons, List.flatMap_cons, List.append_assoc]

theorem repeated_ofScalar (v : Value) : (Outline.ofScalar v).repeated = [] := by
  rw [Outline.ofScalar, Outline.repeated]

theorem write_scalar (behind : Behind) (indent : Nat) (v : Value) :
    write [] behind indent (.ofScalar v) = ' ' :: scalar (indent + 2) v := by
  rw [Outline.ofScalar, write, words_of_nil]
  rfl

/-- An entry with a name is the name, a colon and the value. -/
theorem writeEntries_cons (h : IsName t) (indent : Nat) (o : Outline)
    (rest : List (Outline × Outline)) :
    writeEntries [] indent ((.ofScalar (.text t), o) :: rest) =
      (t ++ ':' :: write [] .key indent o) :: writeEntries [] indent rest := by
  have hkey : (write [] .colon indent (.ofScalar (.text t))).drop 1 = t := by
    rw [write_scalar]
    exact h.scalarText _
  have hshort : isShortKey (name? [] none) (.text t) = true := h.isShortKey
  rw [Outline.ofScalar] at hkey ⊢
  rw [writeEntries, hkey]
  simp only [hshort, if_true]

namespace Sheet

theorem write_sectionOutline {settings : Record} (hne : settings ≠ [])
    (h : ∀ p ∈ settings, IsName p.1) :
    write [] .key 0 (sectionOutline settings) = settings.flatMap valueLine := by
  have hentries : ∀ l : Record, (∀ p ∈ l, IsName p.1) →
      writeEntries [] 2 (l.map fun p => (.ofScalar (.text p.1), .ofScalar p.2)) =
        l.map fun p => p.1 ++ ':' :: ' ' :: scalar 4 p.2 := by
    intro l hl
    induction l with
    | nil => rfl
    | cons p l ih =>
      rw [List.map_cons, writeEntries_cons (hl p (by simp)), write_scalar,
        ih fun q hq => hl q (by simp [hq])]
      rfl
  have hlines : settings.flatMap valueLine = (settings.map fun p => p.1 ++ ':' :: ' ' ::
      scalar 4 p.2).flatMap (newLine 2 ++ ·) := by
    rw [List.flatMap_map]
    rfl
  have hempty : (settings.map fun p : Text × Value => (Outline.ofScalar (.text p.1),
      Outline.ofScalar p.2)).isEmpty = false := by
    simpa using hne
  rw [sectionOutline, write, words_of_nil, hempty, if_neg Bool.false_ne_true]
  change newLine 2 ++ layOut 2 (writeEntries [] 2 _) = _
  rw [hentries settings h, hlines]
  exact newLine_layOut 2 _ (by simpa using hne)

theorem repeated_outline (s : Sheet) : (outline s).repeated = [] := by
  rw [outline, Outline.repeated]
  refine Outline.repeatedEntries_of_nil fun e he => ?_
  obtain ⟨p, -, rfl⟩ := List.mem_map.1 he
  refine ⟨repeated_ofScalar _, ?_⟩
  rw [sectionOutline, Outline.repeated]
  refine Outline.repeatedEntries_of_nil fun d hd => ?_
  obtain ⟨q, -, rfl⟩ := List.mem_map.1 hd
  exact ⟨repeated_ofScalar _, repeated_ofScalar _⟩

/-- **A sheet is written by its lines.** -/
theorem document_outline {s : Sheet} (h : s.Ok) : document (outline s) = s.text := by
  have hentries : ∀ l : Sheet, (∀ p ∈ l, p ∈ s) →
      writeEntries [] 0 (l.map fun p => (.ofScalar (.text p.1), sectionOutline p.2)) =
        l.map sectionLines := by
    intro l hl
    induction l with
    | nil => rfl
    | cons p l ih =>
      have hp := hl p (by simp)
      rw [List.map_cons, writeEntries_cons (h.names p hp).1,
        write_sectionOutline (h.section_ne_nil p hp) (h.names p hp).2,
        ih fun q hq => hl q (by simp [hq])]
      rfl
  obtain ⟨p, l, rfl⟩ := List.exists_cons_of_ne_nil h.ne_nil
  have hrepeated := repeated_outline (p :: l)
  have hlines := hentries (p :: l) fun q hq => hq
  rw [outline, List.map_cons] at hrepeated ⊢
  rw [document, hrepeated]
  rw [List.map_cons] at hlines
  change layOut 0 (writeEntries [] 0 _) ++ ['\n'] = _
  rw [hlines, layOut_newLine _ (by simp), text, List.flatMap_map]

/-- A sheet has two levels. -/
theorem depth_outline (s : Sheet) : (outline s).depth ≤ 2 := by
  rw [outline, Outline.depth]
  refine Nat.succ_le_succ (Outline.depthOfEntries_le fun e he => ?_)
  obtain ⟨p, -, rfl⟩ := List.mem_map.1 he
  rw [sectionOutline, Outline.depth]
  refine Nat.succ_le_succ (Outline.depthOfEntries_le fun d hd => ?_)
  obtain ⟨q, -, rfl⟩ := List.mem_map.1 hd
  change (Outline.scalar none q.2).depth ≤ 0
  rw [Outline.depth]

theorem startsWord_text {s : Sheet} (h : ∀ p ∈ s, IsName p.1) : StartsWord s.text := by
  cases s with
  | nil => exact fun c hc => by cases hc
  | cons p s =>
    have htext : text (p :: s) = p.1 ++ ':' :: (p.2.flatMap valueLine ++ (newLine 0 ++ text s)) := by
      simp [text, sectionLines]
    rw [htext]
    exact (h p (by simp)).startsWord _

end Sheet

/-! ## What is written can be read -/

/-- A character that needs no escape may stand in a document, and is no carriage return. -/
theorem isAllowed_of_isWritable (h : isWritable c = true) : isAllowed c = true ∧ c ≠ '\r' := by
  refine ⟨?_, by rintro rfl; revert h; decide⟩
  simp only [isWritable, isAllowed, inRanges, List.any_cons, List.any_nil, Bool.or_eq_true,
    Bool.and_eq_true, decide_eq_true_eq, beq_iff_eq, Bool.false_eq_true, or_false] at h ⊢
  rcases h with (rfl | rfl) | h
  · decide
  · decide
  · right
    omega

/-- What is written of a value on its line needs no escape. -/
theorem isWritable_of_mem_scalar (h : FitsLine v) {indent : Nat} (hc : c ∈ scalar indent v) :
    isWritable c = true := by
  cases h with
  | null =>
    have key : ∀ c ∈ "null".toList, isWritable c = true := List.all_eq_true.1 (by decide)
    exact key c hc
  | bool b =>
    have key : ∀ c ∈ "true".toList ++ "false".toList, isWritable c = true :=
      List.all_eq_true.1 (by decide)
    cases b with
    | false => exact key c (List.mem_append_right _ hc)
    | true => exact key c (List.mem_append_left _ hc)
  | int h =>
    rcases mem_ofInt hc with rfl | hdigit
    · decide
    · obtain ⟨d, hd, rfl⟩ := exists_digitChar hdigit
      have key : ∀ d < 10, isWritable (Nat.digitChar d) = true := by decide
      exact key d hd
  | @text t h =>
    change c ∈ scalarText indent t at hc
    rw [scalarText, needsEscapes_of_line h, if_neg Bool.false_ne_true,
      singleBody_of_line fun d hd => (h d hd).2] at hc
    split at hc
    · exact (h c hc).1
    · simp only [doubled, List.mem_cons, List.mem_append, List.mem_flatMap, List.not_mem_nil,
        or_false] at hc
      rcases hc with rfl | ⟨d, hd, hcd⟩ | rfl
      · decide
      · split at hcd
        · simp only [List.mem_cons, List.not_mem_nil, or_false, or_self] at hcd
          rw [hcd]; decide
        · rw [List.mem_singleton.1 hcd]
          exact (h d hd).1
      · decide

namespace Sheet

theorem isWritable_of_mem_text {s : Sheet} (h : s.Ok) (hc : c ∈ s.text) : isWritable c = true := by
  have hname : ∀ name, IsName name → ∀ d ∈ name, isWritable d = true := fun name hn d hd =>
    (writable_of_letter (hn.letters d hd)).1
  simp only [text, sectionLines, valueLine, newLine, spaces, List.mem_flatMap, List.mem_append,
    List.mem_cons, List.mem_replicate] at hc
  obtain ⟨p, hp, (hmem | rfl | ⟨q, hq, (rfl | ⟨-, rfl⟩) | hmem | rfl | rfl | hmem⟩) | rfl | ⟨-, rfl⟩⟩ := hc
  · exact hname _ (h.names p hp).1 c hmem
  · decide
  · decide
  · decide
  · exact hname _ ((h.names p hp).2 q hq) c hmem
  · decide
  · decide
  · exact isWritable_of_mem_scalar (h.values p hp q hq) hmem
  · decide
  · decide

/-- **What is written of a sheet is read whole.** -/
theorem ofText_text {s : Sheet} (h : s.Ok) : Source.ofText s.text = ⟨s.text, none⟩ := by
  have hallowed := fun c (hc : c ∈ s.text) => isAllowed_of_isWritable (isWritable_of_mem_text h hc)
  have hsame : normaliseBreaks s.text = s.text :=
    normaliseBreaks_of_no_return fun hmem => (hallowed _ hmem).2 rfl
  rw [Source.ofText_of_allowed fun c hc => (hallowed c (by rwa [hsame] at hc)).1, hsame]

end Sheet

end Almanac.Yaml
