import Almanac.Proofs.Denotation

/-!
# Keys of mappings

However a document is written, no two entries of a mapping that it denotes have one key: a key that
is repeated takes the place of the one before, also where a mapping takes over entries of another.

While a document is built, its scalars stay what they are once they are known, and what waits is a
collection. So the keys of a mapping that has been filled are not touched again.

* `construct_cases`: **what making a node known does**.
* `expand_sound`: **filling a collection leaves all keys apart**.
* `Document.keysDiffer_of_read`: **in a document that was read the keys of a mapping differ**.
* `Document.key?_of_read`: its scalars can be keys, so that none of them is a collection.
-/

namespace Almanac.Yaml

namespace Building

variable {b b' : Building} {n m : Nat} {d : Datum} {entries done : List (Nat × Nat)} {e : Nat × Nat}

/-- The key that a node stands for. -/
def keyOf (b : Building) (n : Nat) : Option Value.Key := (b.scalar? n).bind Value.key?

/-- Entries whose keys are known scalars, of which no two are one key. -/
structure Distinct (b : Building) (entries : List (Nat × Nat)) : Prop where
  known : ∀ e ∈ entries, (b.scalar? e.1).isSome
  differ : entries.Pairwise fun e f => b.keyOf e.1 ≠ b.keyOf f.1

/-- A node that is known to be a collection, if there is such a node. -/
def IsCollection (b : Building) (n : Nat) : Prop :=
  n < b.data.size → ∃ d, b.datum? n = some d ∧ ∀ v, d ≠ .scalar v

/-- The keys of every mapping differ, what can be no key is no scalar, and only collections wait. -/
structure Sound (b : Building) : Prop where
  mappings : ∀ {n entries}, b.datum? n = some (.mapping entries) → b.Distinct entries
  scalars : ∀ {n v}, b.datum? n = some (.scalar v) → v.key?.isSome
  waiting : ∀ n ∈ b.waiting, b.IsCollection n

theorem scalar?_eq_some_iff {v : Value} : b.scalar? n = some v ↔ b.datum? n = some (.scalar v) := by
  rw [scalar?]
  split
  · rename_i hd
    rw [hd]
    simp
  · rename_i hd
    simp only [reduceCtorEq, false_iff]
    exact hd v

/-! ## What stays -/

/-- No scalar is lost. -/
def KeepsScalars (b b' : Building) : Prop := ∀ n v, b.scalar? n = some v → b'.scalar? n = some v

/-- Nothing that was known is lost. -/
structure Keeps (b b' : Building) : Prop where
  size : b'.data.size = b.data.size
  datum : ∀ n d, b.datum? n = some d → b'.datum? n = some d

theorem Distinct.mono (h : b.Distinct entries) (hkeeps : KeepsScalars b b') : b'.Distinct entries := by
  have hsame : ∀ e ∈ entries, b'.scalar? e.1 = b.scalar? e.1 := by
    intro e he
    obtain ⟨v, hv⟩ := Option.isSome_iff_exists.1 (h.known e he)
    rw [hv, hkeeps _ _ hv]
  refine ⟨fun e he => by rw [hsame e he]; exact h.known e he, ?_⟩
  refine h.differ.imp_of_mem fun {e f} he hf hne => ?_
  rwa [keyOf, keyOf, hsame e he, hsame f hf]

theorem Keeps.scalars (h : Keeps b b') : KeepsScalars b b' := fun n _ hv =>
  scalar?_eq_some_iff.2 (h.datum n _ (scalar?_eq_some_iff.1 hv))

theorem Keeps.isCollection (h : Keeps b b') (hn : b.IsCollection n) : b'.IsCollection n := by
  intro hlt
  obtain ⟨d, hd, hscalar⟩ := hn (h.size ▸ hlt)
  exact ⟨d, h.datum n d hd, hscalar⟩

/-- The graph does not count for what is known, nor does what waits. -/
theorem Sound.of_data (h : b.Sound) (hdata : b'.data = b.data)
    (hwaiting : ∀ n ∈ b'.waiting, b.IsCollection n) : b'.Sound := by
  obtain ⟨graph, data, waiting⟩ := b
  obtain ⟨graph', data', waiting'⟩ := b'
  cases hdata
  refine ⟨fun {n entries} hn => ?_, h.scalars, hwaiting⟩
  have hdistinct : Distinct ⟨graph, data, waiting⟩ entries := h.mappings hn
  exact ⟨hdistinct.known, hdistinct.differ⟩

/-- A place that is not there takes nothing. -/
theorem put_of_le (h : b.data.size ≤ n) (d : Datum) : b.put n d = b := by
  rw [put, Array.setIfInBounds_eq_of_size_le h]

/-- What was put somewhere is found there, and elsewhere what was there before. -/
theorem datum?_of_put {d' : Datum} (h : (b.put n d).datum? m = some d') :
    m = n ∧ d' = d ∨ b.datum? m = some d' := by
  by_cases hlt : n < b.data.size
  · rw [datum?_put hlt] at h
    split at h
    · rename_i heq
      exact .inl ⟨heq, (Option.some.inj h).symm⟩
    · exact .inr h
  · rw [put_of_le (Nat.le_of_not_lt hlt)] at h
    exact .inr h

/-- Putting something where nothing is known loses nothing. -/
theorem keeps_put (h : b.datum? n = none) (d : Datum) : Keeps b (b.put n d) := by
  refine ⟨size_put .., fun m d' hd => ?_⟩
  by_cases hlt : n < b.data.size
  · have hne : m ≠ n := by
      rintro rfl
      rw [h] at hd; cases hd
    rw [datum?_put hlt, if_neg hne, hd]
  · rwa [put_of_le (Nat.le_of_not_lt hlt)]

/-- Putting something in a collection's place loses no scalar. -/
theorem keepsScalars_put (h : b.IsCollection n) (d : Datum) : KeepsScalars b (b.put n d) := by
  intro m v hv
  rw [scalar?_eq_some_iff] at hv ⊢
  by_cases hlt : n < b.data.size
  · have hne : m ≠ n := by
      rintro rfl
      obtain ⟨d', hd', hscalar⟩ := h hlt
      rw [hv] at hd'
      exact hscalar v (Option.some.inj hd').symm
    rw [datum?_put hlt, if_neg hne, hv]
  · rwa [put_of_le (Nat.le_of_not_lt hlt)]

theorem isCollection_put (h : b.IsCollection m) (hd : ∀ v, d ≠ .scalar v) :
    (b.put n d).IsCollection m := by
  intro hlt
  rw [size_put] at hlt
  by_cases hn : n < b.data.size
  · rw [datum?_put hn]
    split
    · exact ⟨d, rfl, hd⟩
    · exact h hlt
  · rw [put_of_le (Nat.le_of_not_lt hn)]
    exact h hlt

/-! ## Making nodes known -/

/-- More is known than before, and the keys of mappings stay apart. -/
structure Learns (b b' : Building) : Prop extends Keeps b b' where
  sound : b.Sound → b'.Sound

theorem Learns.refl (b : Building) : Learns b b := ⟨⟨rfl, fun _ _ => id⟩, id⟩

theorem Learns.trans {b'' : Building} (h : Learns b b') (h' : Learns b' b'') : Learns b b'' :=
  ⟨⟨h'.size.trans h.size, fun n d hd => h'.datum n d (h.datum n d hd)⟩, fun hb => h'.sound (h.sound hb)⟩

/-- A scalar that was read can be a key. -/
theorem key?_of_scalarOf {g : Graph} {v : Value} (h : scalarOf g n = .ok v) : v.key?.isSome := by
  obtain ⟨t, -, h⟩ := bind_eq_ok_iff.1 h
  split at h
  · cases h
  · rw [Kind.read.eq_def] at h
    split at h
    · cases h; rfl
    · split at h <;> cases h; rfl
    · obtain ⟨i, -, rfl⟩ := map_eq_ok_iff.1 h; rfl
    · obtain ⟨x, -, rfl⟩ := map_eq_ok_iff.1 h; rfl
    · rw [Kind.readMoment] at h
      split at h
      · split at h <;> cases h; rfl
      · cases h
    · rw [Kind.readBytes] at h
      split at h
      · split at h <;> cases h; rfl
      · cases h
    · cases h; rfl
    all_goals cases h

/-- **Making a node known** leaves it as it is, or puts something in its place that it did not have
before: a scalar, or an empty collection, which waits. -/
theorem construct_cases (h : b.construct n = .ok b') :
    b' = b ∨ b.datum? n = none ∧
      ((∃ v, v.key?.isSome ∧ b' = b.put n (.scalar v)) ∨
        ∃ d ∈ [Datum.list [], .mapping [], .set [], .pairs []], b' = b.await n d) := by
  rw [construct] at h
  split at h
  · exact .inl (Except.ok.inj h).symm
  · rename_i hunknown
    refine .inr ⟨by simpa using hunknown, ?_⟩
    split at h
    · exact .inr ⟨_, by simp, (Except.ok.inj h).symm⟩
    · exact .inr ⟨_, by simp, (Except.ok.inj h).symm⟩
    · exact .inr ⟨_, by simp, (Except.ok.inj h).symm⟩
    · exact .inr ⟨_, by simp, (Except.ok.inj h).symm⟩
    · cases h
    · cases h
    · cases h
    · obtain ⟨v, hread, hv⟩ := map_eq_ok_iff.1 h
      exact .inl ⟨v, key?_of_scalarOf hread, hv.symm⟩

/-- What is put where nothing was known is no mapping with entries. -/
theorem Sound.put_new (h : b.Sound) (hunknown : b.datum? n = none)
    (hd : ∀ entries, d = .mapping entries → entries = [])
    (hv : ∀ v, d = .scalar v → v.key?.isSome) : (b.put n d).Sound := by
  have hkeeps := keeps_put hunknown d
  refine ⟨fun {m entries} hm => ?_, fun {m v} hm => ?_,
    fun m hm => hkeeps.isCollection (h.waiting m hm)⟩
  · rcases datum?_of_put hm with ⟨-, heq⟩ | hold
    · rw [hd entries heq.symm]
      exact ⟨by simp, .nil⟩
    · exact (h.mappings hold).mono hkeeps.scalars
  · rcases datum?_of_put hm with ⟨-, heq⟩ | hold
    · exact hv v heq.symm
    · exact h.scalars hold

theorem learns_construct (h : b.construct n = .ok b') : Learns b b' := by
  obtain rfl | ⟨hunknown, ⟨v, hv, rfl⟩ | ⟨d, hd, rfl⟩⟩ := construct_cases h
  · exact .refl b'
  · exact ⟨keeps_put hunknown _, fun hb => hb.put_new hunknown (by rintro _ ⟨⟩) (by rintro _ ⟨⟩; exact hv)⟩
  · have hempty : (∀ v, d ≠ .scalar v) ∧ ∀ entries, d = .mapping entries → entries = [] := by
      simp only [List.mem_cons, List.not_mem_nil, or_false] at hd
      rcases hd with rfl | rfl | rfl | rfl <;> simp
    have hkeeps := keeps_put hunknown d
    refine ⟨⟨hkeeps.size, hkeeps.datum⟩, fun hb => ?_⟩
    have hput := hb.put_new hunknown hempty.2 fun v hv => absurd hv (hempty.1 v)
    refine hput.of_data rfl fun m hm => ?_
    rcases List.mem_append.1 hm with hold | hnew
    · exact hput.waiting m hold
    · -- the one that waits now has just become a collection
      rw [List.mem_singleton.1 hnew]
      intro hlt
      exact ⟨d, datum_put (by rwa [← size_put b n d]), hempty.1⟩

/-- Steps that each only make more known do so together. -/
theorem learns_foldlM {α : Type} {step : Building → α → Except ExternalFault Building}
    (hstep : ∀ {c a c'}, step c a = .ok c' → Learns c c') {as : List α}
    (h : as.foldlM step b = .ok b') : Learns b b' := by
  induction as generalizing b with
  | nil => cases h; exact .refl _
  | cons a as ih =>
    rw [List.foldlM_cons] at h
    obtain ⟨c, ha, hrest⟩ := bind_eq_ok_iff.1 h
    exact (hstep ha).trans (ih hrest)

/-- The key of an entry has become a scalar. -/
theorem learns_constructEntry (h : b.constructEntry e = .ok b') :
    Learns b b' ∧ (b'.scalar? e.1).isSome := by
  obtain ⟨c, hkey, hvalue⟩ := bind_eq_ok_iff.1 h
  split at hvalue
  · cases hvalue
  · rename_i hscalar
    have hlearns := learns_construct hvalue
    obtain ⟨v, hv⟩ := Option.ne_none_iff_exists'.1 (by simpa using hscalar)
    exact ⟨(learns_construct hkey).trans hlearns, by rw [hlearns.scalars _ _ hv]; rfl⟩

theorem learns_constructPair (h : b.constructPair n = .ok b') : Learns b b' := by
  obtain ⟨e, -, h⟩ := bind_eq_ok_iff.1 h
  obtain ⟨c, hkey, hvalue⟩ := bind_eq_ok_iff.1 h
  exact (learns_construct hkey).trans (learns_construct hvalue)

theorem scalars_of_foldlM (h : entries.foldlM constructEntry b = .ok b') :
    ∀ e ∈ entries, (b'.scalar? e.1).isSome := by
  induction entries generalizing b with
  | nil => simp
  | cons e entries ih =>
    rw [List.foldlM_cons] at h
    obtain ⟨c, he, hrest⟩ := bind_eq_ok_iff.1 h
    intro f hf
    rcases List.mem_cons.1 hf with rfl | hmem
    · obtain ⟨v, hv⟩ := Option.isSome_iff_exists.1 (learns_constructEntry he).2
      have hlearns : Learns c b' := learns_foldlM (fun ha => (learns_constructEntry ha).1) hrest
      rw [hlearns.scalars _ _ hv]
      rfl
    · exact ih hrest f hmem

/-! ## Collecting entries -/

/-- The entries after one more are those before or the new one, by their keys. -/
theorem mem_putEntry {key : Option Value.Key} {f : Nat × Nat} (h : f ∈ b.putEntry key e done) :
    f.1 = e.1 ∨ ∃ d ∈ done, d.1 = f.1 := by
  induction done with
  | nil => exact .inl (by rw [List.mem_singleton.1 h])
  | cons d done ih =>
    obtain ⟨k, m⟩ := d
    rw [putEntry] at h
    split at h
    · rcases List.mem_cons.1 h with rfl | hmem
      · exact .inr ⟨(k, m), by simp, rfl⟩
      · exact .inr ⟨f, by simp [hmem], rfl⟩
    · rcases List.mem_cons.1 h with rfl | hmem
      · exact .inr ⟨(k, m), by simp, rfl⟩
      · rcases ih hmem with heq | ⟨d, hd, heq⟩
        · exact .inl heq
        · exact .inr ⟨d, List.mem_cons_of_mem _ hd, heq⟩

/-- One more entry takes the place of one with its key, so the keys stay apart. -/
theorem Distinct.putEntry (h : b.Distinct done) (he : (b.scalar? e.1).isSome) :
    b.Distinct (b.putEntry (b.keyOf e.1) e done) := by
  refine ⟨fun f hf => ?_, ?_⟩
  · rcases mem_putEntry hf with heq | ⟨d, hd, heq⟩
    · rwa [heq]
    · rw [← heq]; exact h.known d hd
  · have hdiffer := h.differ
    clear h
    induction done with
    | nil => exact List.pairwise_singleton ..
    | cons d done ih =>
      obtain ⟨k, m⟩ := d
      obtain ⟨hfirst, hrest⟩ := List.pairwise_cons.1 hdiffer
      rw [Building.putEntry]
      split
      · exact List.pairwise_cons.2 ⟨hfirst, hrest⟩
      · rename_i hne
        refine List.pairwise_cons.2 ⟨fun f hf => ?_, ih hrest⟩
        rcases mem_putEntry hf with heq | ⟨d, hd, heq⟩
        · rw [heq]; exact hne
        · rw [← heq]; exact hfirst d hd

/-- **However entries are repeated, those that are collected have different keys.** -/
theorem distinct_collect (h : ∀ e ∈ entries, (b.scalar? e.1).isSome) : b.Distinct (b.collect entries) := by
  have hfold : ∀ done, b.Distinct done →
      b.Distinct (entries.foldl (fun done e => b.putEntry (b.keyOf e.1) e done) done) := by
    induction entries with
    | nil => exact fun done hdone => hdone
    | cons e entries ih =>
      intro done hdone
      rw [List.foldl_cons]
      exact ih (fun f hf => h f (by simp [hf])) _ (hdone.putEntry (h e (by simp)))
  exact hfold [] ⟨by simp, .nil⟩

/-! ## Filling collections -/

theorem learns_constructEntries (h : b.constructEntries n = .ok (b', entries)) :
    Learns b b' ∧ b'.Distinct entries := by
  rw [constructEntries] at h
  split at h
  · obtain ⟨g, -, h⟩ := bind_eq_ok_iff.1 h
    obtain ⟨c, hfold, hresult⟩ := bind_eq_ok_iff.1 h
    cases hresult
    have hlearns : Learns { b with graph := g } b' :=
      learns_foldlM (fun ha => (learns_constructEntry ha).1) hfold
    exact ⟨⟨⟨hlearns.size, hlearns.datum⟩, fun hb => hlearns.sound (hb.of_data rfl hb.waiting)⟩,
      distinct_collect (scalars_of_foldlM hfold)⟩
  · cases h

/-- **What filling a collection does**: it makes other nodes known, and then puts what the collection
holds in its place. -/
theorem expand_cases (h : b.expand n = .ok b') :
    ∃ c d, Learns b c ∧ b' = c.put n d ∧ (∀ v, d ≠ .scalar v) ∧
      ∀ entries, d = .mapping entries → c.Distinct entries := by
  rw [expand] at h
  split at h
  · obtain ⟨c, hall, hresult⟩ := bind_eq_ok_iff.1 h
    exact ⟨c, _, learns_foldlM learns_construct hall, (Except.ok.inj hresult).symm, by simp, by simp⟩
  · obtain ⟨c, hall, h⟩ := bind_eq_ok_iff.1 h
    obtain ⟨entries, -, hresult⟩ := bind_eq_ok_iff.1 h
    exact ⟨c, _, learns_foldlM learns_constructPair hall, (Except.ok.inj hresult).symm, by simp, by simp⟩
  · obtain ⟨⟨c, entries⟩, hentries, hresult⟩ := bind_eq_ok_iff.1 h
    obtain ⟨hlearns, hdistinct⟩ := learns_constructEntries hentries
    exact ⟨c, _, hlearns, (Except.ok.inj hresult).symm, by simp, by rintro _ ⟨⟩; exact hdistinct⟩
  · obtain ⟨⟨c, entries⟩, hentries, hresult⟩ := bind_eq_ok_iff.1 h
    exact ⟨c, _, (learns_constructEntries hentries).1, (Except.ok.inj hresult).symm, by simp, by simp⟩
  · cases h

/-- **Filling a collection leaves all keys apart.** -/
theorem expand_sound (hb : b.Sound) (hn : b.IsCollection n) (h : b.expand n = .ok b') : b'.Sound := by
  obtain ⟨c, d, hlearns, rfl, hscalar, hmapping⟩ := expand_cases h
  have hc := hlearns.sound hb
  -- only scalars are keys, and the collection is none
  have hkeeps := keepsScalars_put (hlearns.isCollection hn) d
  refine ⟨fun {m entries} hm => ?_, fun {m v} hm => ?_,
    fun m hm => isCollection_put (hc.waiting m hm) hscalar⟩
  · rcases datum?_of_put hm with ⟨-, heq⟩ | hold
    · exact (hmapping entries heq.symm).mono hkeeps
    · exact (hc.mappings hold).mono hkeeps
  · rcases datum?_of_put hm with ⟨-, heq⟩ | hold
    · exact absurd heq.symm (hscalar v)
    · exact hc.scalars hold

theorem expandAll_sound {fuel : Nat} (hb : b.Sound) (h : b.expandAll fuel = .ok b') : b'.Sound := by
  induction fuel generalizing b with
  | zero => cases h; exact hb
  | succ fuel ih =>
    rw [expandAll] at h
    split at h
    · cases h; exact hb
    · rename_i n rest hwaiting
      obtain ⟨c, hexpand, hrest⟩ := bind_eq_ok_iff.1 h
      have hpopped : Sound { b with waiting := rest } :=
        hb.of_data rfl fun m hm => hb.waiting m (by rw [hwaiting]; exact List.mem_cons_of_mem n hm)
      have hn : b.IsCollection n := hb.waiting n (by rw [hwaiting]; simp)
      exact ih (expand_sound hpopped hn hexpand) hrest

theorem sound_start (g : Graph) : (start g).Sound :=
  ⟨fun {n entries} hn => (by rw [datum?_start] at hn; cases hn),
    fun {n v} hn => (by rw [datum?_start] at hn; cases hn), by simp [start]⟩

end Building

/-! ## Documents -/

namespace Document

/-- In every mapping of the document the keys differ. -/
def KeysDiffer (doc : Document) : Prop :=
  ∀ n entries, doc.datum n = .mapping entries →
    entries.Pairwise fun e f => (doc.scalar e.1).key? ≠ (doc.scalar f.1).key?

/-- A document that was read shows what its nodes were made known as. -/
theorem exists_building_of_read {s : Source} {doc : Document} (h : read s = .ok doc) :
    ∃ b : Building, b.Sound ∧ ∀ n, doc.datum n = (b.datum? n).getD (.scalar .null) := by
  obtain ⟨t, -, h⟩ := bind_eq_ok_iff.1 h
  obtain ⟨begun, hroot, h⟩ := bind_eq_ok_iff.1 h
  obtain ⟨b, hall, hresult⟩ := bind_eq_ok_iff.1 h
  cases hresult
  exact ⟨b, Building.expandAll_sound ((Building.learns_construct hroot).sound (Building.sound_start _))
    hall, Building.datum_finished b t.root⟩

/-- **In a document that was read the keys of a mapping differ.** -/
theorem keysDiffer_of_read {s : Source} {doc : Document} (h : read s = .ok doc) : doc.KeysDiffer := by
  obtain ⟨b, hb, hdatum⟩ := exists_building_of_read h
  intro n entries hn
  have hmapping : b.datum? n = some (.mapping entries) := by
    rw [hdatum] at hn
    cases hd : b.datum? n with
    | none => rw [hd] at hn; cases hn
    | some d => rw [hd] at hn; exact congrArg some hn
  have hdistinct := hb.mappings hmapping
  have hkey : ∀ e ∈ entries,
      b.keyOf e.1 = (doc.scalar e.1).key? := by
    intro e he
    obtain ⟨v, hv⟩ := Option.isSome_iff_exists.1 (hdistinct.known e he)
    rw [Building.keyOf, hv, Document.scalar, hdatum, Building.scalar?_eq_some_iff.1 hv]
    rfl
  refine hdistinct.differ.imp_of_mem fun {e f} he hf hne => ?_
  rwa [← hkey e he, ← hkey f hf]

/-- In a document that was read a scalar can be a key. -/
theorem key?_of_read {s : Source} {doc : Document} (h : read s = .ok doc) {n : Nat} {v : Value}
    (hn : doc.datum n = .scalar v) : v.key?.isSome := by
  obtain ⟨b, hb, hdatum⟩ := exists_building_of_read h
  rw [hdatum] at hn
  cases hd : b.datum? n with
  | none =>
    rw [hd] at hn
    cases hn
    rfl
  | some d =>
    rw [hd] at hn
    exact hb.scalars (hd.trans (congrArg some hn))

end Document

end Almanac.Yaml
