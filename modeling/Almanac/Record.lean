import Almanac.Value

/-!
# Records

A record holds values under names, in order. Writing under a name that is already
there keeps its place and replaces its value.

* `get?_put`: **a record reads back what was written last.**
* `names_put`: writing adds at most its own name, at the end.
* `putAll_of_perm`: what is laid over a record with the same names takes its place.
-/

namespace Almanac

/-- Values under names, in the order in which the names came. -/
abbrev Record := List (Text × Value)

namespace Record

/-- The names, in order. -/
def names (r : Record) : List Text := r.map (·.1)

/-- The value under a name. -/
def get? (r : Record) (name : Text) : Option Value := r.lookup name

/-- The value under a name, or nothing. -/
def get (r : Record) (name : Text) : Value := (r.get? name).getD .null

/-- Writes a value under a name. -/
def put : Record → Text → Value → Record
  | [], name, value => [(name, value)]
  | (n, v) :: r, name, value => if n = name then (n, value) :: r else (n, v) :: put r name value

/-- Writes the pairs one after another. -/
def putAll (r : Record) (pairs : List (Text × Value)) : Record :=
  pairs.foldl (fun r p => r.put p.1 p.2) r

/-- The record of a list of pairs: a repeated name keeps its first place and its last value. -/
def ofPairs (pairs : List (Text × Value)) : Record := putAll [] pairs

/-- The record with exactly these names, in order of their first occurrence. -/
def restrict (r : Record) (names : List Text) : Record :=
  names.eraseDups.map fun n => (n, r.get n)

variable {r : Record} {n m : Text} {v : Value}

/-- **A record reads back what was written last.** -/
theorem get?_put : (r.put n v).get? m = if m = n then some v else r.get? m := by
  induction r with
  | nil =>
    by_cases h : m = n
    · simp [put, get?, h]
    · have : (m == n) = false := by simpa using h
      simp [put, get?, List.lookup_cons, h, this]
  | cons p r ih =>
    obtain ⟨k, w⟩ := p
    simp only [get?] at ih
    -- the name is this entry's, or is written further on
    by_cases hk : k = n
    · subst hk
      by_cases h : m = k
      · simp [put, get?, h]
      · have : (m == k) = false := by simpa using h
        simp [put, get?, List.lookup_cons, h, this]
    · by_cases h : m = k
      · subst h; simp [put, get?, hk]
      · have : (m == k) = false := by simpa using h
        simp [put, get?, List.lookup_cons, hk, this, ih]

theorem names_put : (r.put n v).names = if n ∈ r.names then r.names else r.names ++ [n] := by
  induction r with
  | nil => simp [put, names]
  | cons p r ih =>
    obtain ⟨k, w⟩ := p
    simp only [names] at ih
    by_cases hk : k = n
    · simp [put, names, hk]
    · have hk' : n ≠ k := Ne.symm hk
      simp only [put, hk, if_false, names, List.map_cons, ih, List.mem_cons, hk', false_or]
      by_cases hm : n ∈ List.map (fun x => x.fst) r <;> simp [hm]

theorem get?_of_mem (hnodup : r.names.Nodup) (h : (n, v) ∈ r) : r.get? n = some v := by
  induction r with
  | nil => simp at h
  | cons p r ih =>
    obtain ⟨k, w⟩ := p
    simp only [names, List.map_cons, List.nodup_cons] at hnodup
    rcases List.mem_cons.1 h with heq | hmem
    · cases heq; simp [get?]
    · have hne : (n == k) = false := by
        have : n ≠ k := by
          rintro rfl
          exact hnodup.1 (List.mem_map.2 ⟨(n, v), hmem, rfl⟩)
        simpa using this
      have := ih hnodup.2 hmem
      rw [get?] at this ⊢
      rw [List.lookup_cons, hne]; exact this

/-- The names of a record of pairs are the pairs' names, each once. -/
theorem names_restrict (names : List Text) : (r.restrict names).names = names.eraseDups := by
  simp [restrict, Record.names, Function.comp_def]

/-! ## Laying records over others -/

variable {s given : Record} {p : Text × Value}

theorem names_putAll (h : ∀ p ∈ given, p.1 ∈ r.names) : (r.putAll given).names = r.names := by
  induction given generalizing r with
  | nil => rfl
  | cons p given ih =>
    have hput : (r.put p.1 p.2).names = r.names := by rw [names_put, if_pos (h p (by simp))]
    have hrest := ih (r := r.put p.1 p.2) fun q hq => by rw [hput]; exact h q (by simp [hq])
    exact hrest.trans hput

theorem get?_putAll_of_not_mem (h : n ∉ given.names) : (r.putAll given).get? n = r.get? n := by
  induction given generalizing r with
  | nil => rfl
  | cons p given ih =>
    simp only [names, List.map_cons, List.mem_cons, not_or] at h
    have hrest := ih (r := r.put p.1 p.2) h.2
    rw [get?_put, if_neg h.1] at hrest
    exact hrest

theorem get?_putAll_of_mem (hnodup : given.names.Nodup) (hp : p ∈ given) :
    (r.putAll given).get? p.1 = some p.2 := by
  induction given generalizing r with
  | nil => cases hp
  | cons q given ih =>
    simp only [names, List.map_cons, List.nodup_cons] at hnodup
    rcases List.mem_cons.1 hp with rfl | hmem
    · have hrest : ((r.put p.1 p.2).putAll given).get? p.1 = (r.put p.1 p.2).get? p.1 :=
        get?_putAll_of_not_mem hnodup.1
      rw [get?_put, if_pos rfl] at hrest
      exact hrest
    · exact ih hnodup.2 hmem

/-- A record is known by its names and what is under each. -/
theorem eq_of_get? (hnames : r.names = s.names) (hnodup : s.names.Nodup)
    (h : ∀ p ∈ s, r.get? p.1 = some p.2) : r = s := by
  induction s generalizing r with
  | nil => exact List.map_eq_nil_iff.1 hnames
  | cons p s ih =>
    obtain ⟨name, w⟩ := p
    obtain ⟨v, r, rfl⟩ : ∃ v t, r = (name, v) :: t := by
      cases r with
      | nil => cases hnames
      | cons q t =>
        obtain ⟨m, v⟩ := q
        have hname : m = name := (List.cons.inj hnames).1
        exact ⟨v, t, by rw [hname]⟩
    simp only [names, List.map_cons, List.cons.injEq, true_and, List.nodup_cons] at hnames hnodup
    have hvalue : v = w := by
      have hget := h (name, w) (by simp)
      simpa [get?] using hget
    have hrest : r = s := by
      refine ih hnames hnodup.2 fun d hd => ?_
      have hne : d.1 ≠ name := fun heq => hnodup.1 (heq ▸ List.mem_map_of_mem hd)
      have hget := h d (by simp [hd])
      simpa [get?, List.lookup_cons, beq_eq_false_iff_ne.2 hne] using hget
    rw [hrest, hvalue]

/-- **Settings that are laid over others with the same names take their place**, in whatever order
they come. -/
theorem putAll_of_perm (hnames : r.names = s.names) (hnodup : s.names.Nodup) (hperm : given.Perm s) :
    r.putAll given = s := by
  have hgiven : given.names.Nodup := (hperm.map _).nodup_iff.2 hnodup
  have hkept : (r.putAll given).names = r.names := names_putAll fun p hp => by
    rw [hnames]
    exact List.mem_map_of_mem (hperm.mem_iff.1 hp)
  exact eq_of_get? (hkept.trans hnames) hnodup fun p hp =>
    get?_putAll_of_mem hgiven (hperm.mem_iff.2 hp)

end Record

end Almanac
