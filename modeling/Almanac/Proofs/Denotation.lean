import Almanac.Yaml.Data
import Mathlib.Data.Finset.Card

/-!
# What plain nodes denote

A node is plain if it is a scalar that can be read, or a mapping of plain nodes whose keys are
texts that differ. From a plain root on, no step of the building is refused, and every node denotes
what it holds.

Between two steps some collections are waiting. What is known of the others is settled: their parts
are known too. A step takes one collection from those that wait, and every one that it adds was
unknown before; so the waiting ends.

* `Building.construct_plain`, `Building.expand_plain`: **what one step makes known**.
* `Building.expandAll_plain`: **the building ends with nothing left to fill**.
* `Document.ofTree_of_plain`: so every node within a plain root denotes what it holds.
-/

namespace Almanac.Yaml

theorem exists_of_mem {α β : Type} {R : α → β → Prop} {as : List α} {bs : List β}
    (h : List.Forall₂ R as bs) {a : α} (ha : a ∈ as) : ∃ b ∈ bs, R a b := by
  induction h with
  | nil => cases ha
  | @cons a' b' as bs hfirst _ ih =>
    rcases List.mem_cons.1 ha with rfl | hmem
    · exact ⟨b', by simp, hfirst⟩
    · obtain ⟨b, hb, hr⟩ := ih hmem
      exact ⟨b, by simp [hb], hr⟩

theorem forall₂_of_mem {α β : Type} {R S : α → β → Prop} {as : List α} {bs : List β}
    (h : List.Forall₂ R as bs) (himp : ∀ a ∈ as, ∀ b ∈ bs, R a b → S a b) : List.Forall₂ S as bs := by
  induction h with
  | nil => exact .nil
  | @cons a b as bs hfirst _ ih =>
    exact .cons (himp a (by simp) b (by simp) hfirst) (ih fun c hc d hd =>
      himp c (by simp [hc]) d (by simp [hd]))

namespace Graph

/-- A node that is read as a value. -/
structure IsScalar (g : Graph) (n : Nat) (v : Value) : Prop where
  lt : n < g.size
  read : ∃ t, (g.node n).content = .scalar t ∧ (g.node n).kind.read (n + 1) t = .ok v

/-- A mapping whose keys are texts that differ. -/
structure IsMapping (g : Graph) (n : Nat) (entries : List (Nat × Nat)) : Prop where
  lt : n < g.size
  node : g.node n = ⟨.mapping, .mapping entries⟩
  keys : ∃ names : List Text, names.Nodup ∧
    List.Forall₂ (fun e name => g.IsScalar e.1 (.text name)) entries names

/-- **A plain node**: a scalar that can be read, or a mapping of plain nodes. -/
inductive IsPlain (g : Graph) : Nat → Prop
  | scalar {n : Nat} {v : Value} (h : g.IsScalar n v) : IsPlain g n
  | mapping {n : Nat} {entries : List (Nat × Nat)} (h : g.IsMapping n entries)
      (hparts : ∀ e ∈ entries, g.IsPlain e.2) : IsPlain g n

/-- A node that is a root or a part within it. -/
inductive IsWithin (g : Graph) (root : Nat) : Nat → Prop
  | root : IsWithin g root root
  | key {n : Nat} {entries : List (Nat × Nat)} {e : Nat × Nat} (h : IsWithin g root n)
      (hn : g.IsMapping n entries) (he : e ∈ entries) : IsWithin g root e.1
  | value {n : Nat} {entries : List (Nat × Nat)} {e : Nat × Nat} (h : IsWithin g root n)
      (hn : g.IsMapping n entries) (he : e ∈ entries) : IsWithin g root e.2

variable {g : Graph} {n m : Nat} {v : Value} {entries : List (Nat × Nat)}

theorem IsScalar.unique {v' : Value} (h : g.IsScalar n v) (h' : g.IsScalar n v') : v = v' := by
  obtain ⟨t, hcontent, hread⟩ := h.read
  obtain ⟨t', hcontent', hread'⟩ := h'.read
  rw [hcontent, Content.scalar.injEq] at hcontent'
  subst hcontent'
  exact Except.ok.inj (hread.symm.trans hread')

theorem IsScalar.not_mapping (h : g.IsScalar n v) : ¬ g.IsMapping n entries := by
  intro h'
  obtain ⟨t, hcontent, -⟩ := h.read
  rw [h'.node] at hcontent
  cases hcontent

theorem IsMapping.unique {entries' : List (Nat × Nat)} (h : g.IsMapping n entries)
    (h' : g.IsMapping n entries') : entries = entries' := by
  have hsame := h.node.symm.trans h'.node
  injection hsame with _ hcontent
  injection hcontent

theorem IsMapping.entries_eq (h : g.IsMapping n entries) : g.entries n = entries := by
  rw [Graph.entries, h.node]

theorem IsPlain.lt (h : g.IsPlain n) : n < g.size := by
  cases h with
  | scalar h => exact h.lt
  | mapping h _ => exact h.lt

theorem IsMapping.key (h : g.IsMapping n entries) {e : Nat × Nat} (he : e ∈ entries) :
    ∃ name, g.IsScalar e.1 (.text name) := by
  obtain ⟨names, -, hkeys⟩ := h.keys
  obtain ⟨name, -, hname⟩ := exists_of_mem hkeys he
  exact ⟨name, hname⟩

end Graph

namespace Building

open Yaml.Graph

variable {b b' : Building} {g : Graph} {n m : Nat} {v : Value} {d : Datum}
  {entries : List (Nat × Nat)} {pending : List Nat}

/-! ## What is known -/

/-- What a node denotes is known. -/
def Knows (b : Building) (n : Nat) : Prop := (b.datum? n).isSome

/-- The nodes of which nothing is known yet. -/
def unknown (b : Building) : Finset Nat := (Finset.range b.data.size).filter fun n => b.datum? n = none

/-- How many steps may yet be needed: a collection has to be filled for each that is waiting, and
perhaps for each of which nothing is known yet. -/
def cost (b : Building) : Nat := b.unknown.card + b.waiting.length

theorem datum?_put (h : n < b.data.size) (d : Datum) (m : Nat) :
    (b.put n d).datum? m = if m = n then some d else b.datum? m := by
  by_cases hm : m = n
  · subst hm
    rw [if_pos rfl]
    exact datum_put h
  · rw [if_neg hm]
    simp [put, datum?, Ne.symm hm]

theorem size_put (b : Building) (n : Nat) (d : Datum) : (b.put n d).data.size = b.data.size :=
  Array.size_setIfInBounds ..

theorem unknown_put (h : n < b.data.size) (d : Datum) : (b.put n d).unknown = b.unknown.erase n := by
  ext m
  rw [Finset.mem_erase, unknown, unknown, Finset.mem_filter, Finset.mem_filter, size_put,
    datum?_put h]
  by_cases hm : m = n <;> simp [hm]

/-- What is known of the plain nodes agrees with what they hold, and of the collections that are not
pending the parts are known as well. -/
structure Agrees (b : Building) (g : Graph) (pending : List Nat) : Prop where
  graph : b.graph = g
  size : b.data.size = g.size
  scalar : ∀ {n v d}, g.IsScalar n v → b.datum? n = some d → d = .scalar v
  mapping : ∀ {n entries d}, g.IsMapping n entries → b.datum? n = some d → n ∈ pending ∨
    d = .mapping entries ∧ ∀ e ∈ entries, b.Knows e.1 ∧ b.Knows e.2
  pending : ∀ n ∈ pending, g.IsPlain n ∧ b.Knows n ∧ ∃ entries, g.IsMapping n entries

/-- What waits does not count for what is known. -/
theorem Agrees.of_waiting (h : b.Agrees g pending) (waiting : List Nat) :
    { b with waiting := waiting }.Agrees g pending :=
  ⟨h.graph, h.size, h.scalar, h.mapping, h.pending⟩

/-- More is known than before, and no more steps are needed. -/
structure Extends (b b' : Building) : Prop where
  knows : ∀ {n}, b.Knows n → b'.Knows n
  cost : b'.cost ≤ b.cost

theorem Extends.refl (b : Building) : Extends b b := ⟨id, le_rfl⟩

theorem Extends.trans {b'' : Building} (h : Extends b b') (h' : Extends b' b'') : Extends b b'' :=
  ⟨fun hn => h'.knows (h.knows hn), h'.cost.trans h.cost⟩

theorem Knows.put (h : b.Knows m) (hn : n < b.data.size) (d : Datum) : (b.put n d).Knows m := by
  rw [Knows, datum?_put hn]
  split
  · rfl
  · exact h

theorem knows_put (hn : n < b.data.size) (d : Datum) : (b.put n d).Knows n := by
  rw [Knows, datum?_put hn, if_pos rfl]
  rfl

/-- A node may be given a datum that suits it. Only by that may it cease to be pending. -/
theorem Agrees.put {pending' : List Nat} (h : b.Agrees g pending) (hlt : n < b.data.size)
    (hscalar : ∀ {v}, g.IsScalar n v → d = .scalar v)
    (hmapping : ∀ {entries}, g.IsMapping n entries → n ∈ pending' ∨
      d = .mapping entries ∧ ∀ e ∈ entries, b.Knows e.1 ∧ b.Knows e.2)
    (hstay : ∀ m ∈ pending, m ≠ n → m ∈ pending')
    (hnew : ∀ m ∈ pending', m ∈ pending ∨
      m = n ∧ g.IsPlain n ∧ ∃ entries, g.IsMapping n entries) :
    (b.put n d).Agrees g pending' := by
  refine ⟨h.graph, (size_put ..).trans h.size, fun {m w c} hm hc => ?_,
    fun {m entries c} hm hc => ?_, fun m hm => ?_⟩
  · rw [datum?_put hlt] at hc
    split at hc
    · rename_i heq
      subst heq
      rw [← Option.some.inj hc]
      exact hscalar hm
    · exact h.scalar hm hc
  · have hkept : (∀ e ∈ entries, b.Knows e.1 ∧ b.Knows e.2) →
        ∀ e ∈ entries, (b.put n d).Knows e.1 ∧ (b.put n d).Knows e.2 := fun hparts e he =>
      (hparts e he).imp (·.put hlt _) (·.put hlt _)
    rw [datum?_put hlt] at hc
    split at hc
    · rename_i heq
      subst heq
      rw [← Option.some.inj hc]
      exact (hmapping hm).imp_right (And.imp_right hkept)
    · rename_i hne
      exact (h.mapping hm hc).imp (hstay m · hne) (And.imp_right hkept)
  · rcases hnew m hm with hold | ⟨rfl, hplain, hentries⟩
    · obtain ⟨hplain, hknown, hentries⟩ := h.pending m hold
      exact ⟨hplain, hknown.put hlt _, hentries⟩
    · exact ⟨hplain, knows_put hlt _, hentries⟩

/-- To put what a node denotes in its place needs no more steps. -/
theorem extends_put (hn : n < b.data.size) (d : Datum) : Extends b (b.put n d) := by
  refine ⟨fun hm => hm.put hn d, ?_⟩
  have hcard := Finset.card_erase_le (s := b.unknown) (a := n)
  rw [cost, unknown_put hn, cost]
  exact Nat.add_le_add_right hcard _

/-- A collection that waits was unknown before. -/
theorem extends_await (hn : n < b.data.size) (hunknown : b.datum? n = none) (d : Datum) :
    Extends b (b.await n d) := by
  refine ⟨fun hm => hm.put hn d, ?_⟩
  have hmem : n ∈ b.unknown := Finset.mem_filter.2 ⟨Finset.mem_range.2 hn, hunknown⟩
  have hcard := Finset.card_erase_add_one hmem
  have hsame : (b.await n d).cost = (b.unknown.erase n).card + (b.waiting ++ [n]).length := by
    rw [← unknown_put hn d]
    rfl
  rw [hsame, List.length_append, List.length_singleton, cost]
  omega

/-! ## Single steps -/

theorem kind_of_read {kind : Kind} {payload : Nat} {t : Text} (h : kind.read payload t = .ok v) :
    kind ∉ [.merge, .standard, .sequence, .mapping, .set, .pairs, .unknown] := by
  intro hkind
  simp only [List.mem_cons, List.not_mem_nil, or_false] at hkind
  rcases hkind with rfl | rfl | rfl | rfl | rfl | rfl | rfl <;> cases h

/-- A scalar of which nothing is known is read at once. -/
theorem construct_scalar (hgraph : b.graph = g) (hn : g.IsScalar n v) (hunknown : b.datum? n = none) :
    b.construct n = .ok (b.put n (.scalar v)) := by
  obtain ⟨t, hcontent, hread⟩ := hn.read
  have hscalar : scalarOf g n = .ok v := by
    rw [scalarOf, textOf, hcontent]
    simp only [bind, Except.bind]
    split
    · rename_i hmapping
      cases hmapping
    · exact hread
  have hkind := kind_of_read hread
  rw [construct, hunknown, hgraph]
  simp only [List.mem_cons, List.not_mem_nil, or_false, not_or] at hkind
  obtain ⟨hmerge, hstandard, hsequence, hmapping, hset, hpairs, hunknownKind⟩ := hkind
  simp only [Option.isSome_none, Bool.false_eq_true, if_false]
  rw [hscalar]
  rfl

/-- **A plain node is made known**: at once, or as one that waits. -/
theorem construct_plain (outer : List Nat) (h : b.Agrees g (outer ++ b.waiting)) (hn : g.IsPlain n) :
    ∃ b', b.construct n = .ok b' ∧ b'.Agrees g (outer ++ b'.waiting) ∧ Extends b b' ∧ b'.Knows n := by
  have hlt : n < b.data.size := by rw [h.size]; exact hn.lt
  by_cases hknown : b.Knows n
  · exact ⟨b, if_pos hknown, h, .refl b, hknown⟩
  have hunknown : b.datum? n = none := by simpa [Knows] using hknown
  cases hn with
  | @scalar n v hscalar =>
    refine ⟨_, construct_scalar h.graph hscalar hunknown, ?_, extends_put hlt _, knows_put hlt _⟩
    exact h.put hlt (fun hv => by rw [hscalar.unique hv])
      (fun hentries => absurd hentries hscalar.not_mapping) (fun _ hm _ => hm) fun _ hm => .inl hm
  | @mapping n entries hmapping hparts =>
    have hconstruct : b.construct n = .ok (b.await n (.mapping [])) := by
      rw [construct, hunknown, h.graph, hmapping.node]
      rfl
    refine ⟨_, hconstruct, ?_, extends_await hlt hunknown _, knows_put hlt _⟩
    have hsame : outer ++ (b.await n (.mapping [])).waiting = outer ++ b.waiting ++ [n] :=
      (List.append_assoc ..).symm
    rw [hsame]
    refine Agrees.of_waiting (h.put hlt (fun hv => absurd hmapping hv.not_mapping) (fun _ => .inl (by simp))
      (fun m hm _ => List.mem_append_left _ hm) fun m hm => by
        rcases List.mem_append.1 hm with hold | hnew
        · exact .inl hold
        · exact .inr ⟨List.mem_singleton.1 hnew, .mapping hmapping hparts, entries, hmapping⟩) _

/-- The key of a known scalar is its value. -/
theorem Agrees.scalar? (h : b.Agrees g pending) (hn : g.IsScalar n v) (hknown : b.Knows n) :
    b.scalar? n = some v := by
  obtain ⟨d, hd⟩ := Option.isSome_iff_exists.1 hknown
  rw [Building.scalar?, hd, h.scalar hn hd]

/-- The entries of a mapping are made known one after the other. -/
theorem foldlM_constructEntry (outer : List Nat) (h : b.Agrees g (outer ++ b.waiting))
    (hkeys : ∀ e ∈ entries, ∃ name, g.IsScalar e.1 (.text name))
    (hparts : ∀ e ∈ entries, g.IsPlain e.2) :
    ∃ b', entries.foldlM constructEntry b = .ok b' ∧ b'.Agrees g (outer ++ b'.waiting) ∧
      Extends b b' ∧ ∀ e ∈ entries, b'.Knows e.1 ∧ b'.Knows e.2 := by
  induction entries generalizing b with
  | nil => exact ⟨b, rfl, h, .refl b, by simp⟩
  | cons e entries ih =>
    obtain ⟨name, hname⟩ := hkeys e (by simp)
    obtain ⟨b₁, hkey, h₁, hextends₁, hknown₁⟩ := construct_plain outer h (.scalar hname)
    obtain ⟨b₂, hvalue, h₂, hextends₂, hknown₂⟩ := construct_plain outer h₁ (hparts e (by simp))
    obtain ⟨b', hrest, h', hextends, hknown⟩ := ih h₂ (fun d hd => hkeys d (by simp [hd]))
      fun d hd => hparts d (by simp [hd])
    have hentry : b.constructEntry e = .ok b₂ := by
      rw [constructEntry, hkey]
      simp only [bind, Except.bind, h₁.scalar? hname hknown₁]
      exact hvalue
    refine ⟨b', ?_, h', (hextends₁.trans hextends₂).trans hextends, fun d hd => ?_⟩
    · rw [List.foldlM_cons, hentry]
      exact hrest
    · rcases List.mem_cons.1 hd with rfl | hmem
      · exact ⟨hextends.knows (hextends₂.knows hknown₁), hextends.knows hknown₂⟩
      · exact hknown d hmem

/-- An entry whose key is not among the others comes last. -/
theorem putEntry_fresh {done : List (Nat × Nat)} {names : List Text} {name : Text} (e : Nat × Nat)
    (h : List.Forall₂ (fun d name => b.scalar? d.1 = some (.text name)) done names)
    (hfresh : name ∉ names) : b.putEntry (some (.text name)) e done = done ++ [e] := by
  induction h with
  | nil => rfl
  | @cons d other done names hd _ ih =>
    have hne : other ≠ name := fun heq => hfresh (by simp [heq])
    have hkey : ((b.scalar? d.1).bind Value.key?) ≠ some (.text name) := by
      rw [hd]
      simpa [Value.key?] using hne
    rw [putEntry, if_neg hkey, ih fun hmem => hfresh (by simp [hmem])]
    rfl

/-- **Entries whose keys differ are collected as they are.** -/
theorem collect_of_nodup {names : List Text}
    (h : List.Forall₂ (fun d name => b.scalar? d.1 = some (.text name)) entries names)
    (hnodup : names.Nodup) : b.collect entries = entries := by
  have hfold : ∀ done before, List.Forall₂ (fun d name => b.scalar? d.1 = some (.text name)) done before →
      (before ++ names).Nodup →
      entries.foldl (fun done e => b.putEntry ((b.scalar? e.1).bind Value.key?) e done) done =
        done ++ entries := by
    clear hnodup
    induction h with
    | nil => intro done before _ _; simp
    | @cons e name entries names he hentries ih =>
      intro done before hdone hnodup
      have hfresh : name ∉ before := fun hmem =>
        (List.nodup_append.1 hnodup).2.2 name hmem name (by simp) rfl
      have hput : b.putEntry ((b.scalar? e.1).bind Value.key?) e done = done ++ [e] := by
        rw [he]
        exact putEntry_fresh e hdone hfresh
      rw [List.foldl_cons, hput, ih (done ++ [e]) (before ++ [name]) ?_ (by simpa using hnodup)]
      · simp
      · exact List.rel_append hdone (.cons he .nil)
  rw [collect]
  simpa using hfold [] [] .nil hnodup

/-- **A mapping is filled** whose turn it is, with the entries that it holds. -/
theorem expand_plain (h : b.Agrees g (n :: b.waiting)) :
    ∃ b', b.expand n = .ok b' ∧ b'.Agrees g b'.waiting ∧ Extends b b' := by
  obtain ⟨hplain, -, entries, hn⟩ := h.pending n (by simp)
  have hparts : ∀ e ∈ entries, g.IsPlain e.2 := by
    cases hplain with
    | scalar hscalar => exact absurd hn hscalar.not_mapping
    | mapping hmapping hparts => rwa [hn.unique hmapping]
  have hmerge : g.merge n = .ok g := by
    refine merge_of_plain fun e he => ?_
    rw [hn.entries_eq] at he
    obtain ⟨name, hname⟩ := hn.key he
    obtain ⟨t, -, hread⟩ := hname.read
    have hkind := kind_of_read hread
    constructor <;> intro heq <;> rw [heq] at hkind <;> exact hkind (by simp)
  obtain ⟨b', hentries, h', hextends, hknown⟩ := foldlM_constructEntry [n] h
    (fun e he => hn.key he) hparts
  obtain ⟨names, hnodup, hkeys⟩ := hn.keys
  have hcollect : b'.collect entries = entries :=
    collect_of_nodup (forall₂_of_mem hkeys fun e he _ _ hkey => h'.scalar? hkey (hknown e he).1) hnodup
  have hconstruct : b.constructEntries n = .ok (b', entries) := by
    have hsame : { b with graph := g } = b := by rw [← h.graph]
    rw [constructEntries, h.graph, hn.node]
    simp only [hmerge, bind, Except.bind, hn.entries_eq, hsame, hentries, hcollect]
    rfl
  have hexpand : b.expand n = .ok (b'.put n (.mapping entries)) := by
    rw [expand, h.graph, hn.node]
    simp only [hconstruct]
    rfl
  have hlt : n < b'.data.size := by rw [h'.size]; exact hn.lt
  refine ⟨_, hexpand, ?_, hextends.trans (extends_put hlt _)⟩
  exact h'.put hlt (fun hv => absurd hn hv.not_mapping)
    (fun hentries => by rw [← hn.unique hentries]; exact .inr ⟨rfl, hknown⟩)
    (fun m hm hne => (List.mem_cons.1 hm).resolve_left hne) fun m hm => .inl (List.mem_cons_of_mem n hm)

/-- **The building ends with nothing left to fill.** -/
theorem expandAll_plain {fuel : Nat} (h : b.Agrees g b.waiting) (hfuel : b.cost ≤ fuel) :
    ∃ b', b.expandAll fuel = .ok b' ∧ b'.Agrees g [] ∧ ∀ {n}, b.Knows n → b'.Knows n := by
  -- every round lowers the cost, and without any cost nothing waits
  induction fuel generalizing b with
  | zero =>
    have hnone : b.waiting = [] := List.eq_nil_of_length_eq_zero (by rw [cost] at hfuel; omega)
    rw [hnone] at h
    exact ⟨b, rfl, h, id⟩
  | succ fuel ih =>
    cases hwaiting : b.waiting with
    | nil =>
      rw [hwaiting] at h
      exact ⟨b, by rw [expandAll, hwaiting], h, id⟩
    | cons n rest =>
      set popped : Building := { b with waiting := rest } with hpopped
      have hagrees : popped.Agrees g (n :: popped.waiting) := by
        rw [hwaiting] at h
        exact h.of_waiting rest
      obtain ⟨b₁, hexpand, h₁, hextends⟩ := expand_plain hagrees
      have hcost : b.cost = popped.cost + 1 := by
        have hunknown : popped.unknown = b.unknown := rfl
        rw [cost, cost, hunknown, hwaiting, List.length_cons]
        rfl
      obtain ⟨b', hrest, h', hknown⟩ := ih h₁ (by have := hextends.cost; omega)
      refine ⟨b', ?_, h', fun hn => hknown (hextends.knows hn)⟩
      rw [expandAll, hwaiting]
      simp only [← hpopped, hexpand, bind, Except.bind]
      exact hrest

theorem datum?_start (g : Graph) (n : Nat) : (start g).datum? n = none := by
  rw [datum?, start]
  by_cases hn : n < g.size <;> simp [hn]

theorem agrees_start (g : Graph) : (start g).Agrees g [] := by
  refine ⟨rfl, Array.size_replicate, fun {n v d} _ hd => ?_, fun {n entries d} _ hd => ?_,
    fun n hn => absurd hn List.not_mem_nil⟩
  · rw [datum?_start] at hd; cases hd
  · rw [datum?_start] at hd; cases hd

theorem cost_start (g : Graph) : (start g).cost ≤ g.size := by
  have hcard := Finset.card_filter_le (Finset.range (start g).data.size) fun n => (start g).datum? n = none
  rw [Finset.card_range] at hcard
  have hsize : (start g).data.size = g.size := Array.size_replicate
  rw [hsize] at hcard
  rw [cost, unknown, hsize]
  exact hcard

/-- What is known of a node at the end is what it denotes; a node that nothing is known of denotes
nothing. -/
theorem datum_finished (b : Building) (root n : Nat) :
    Document.datum ⟨b.data.map fun d => d.getD (.scalar .null), root⟩ n =
      (b.datum? n).getD (.scalar .null) := by
  rw [Document.datum, Array.getD_eq_getD_getElem?, Array.getElem?_map, datum?]
  cases b.data[n]? with
  | none => rfl
  | some found => rfl

end Building

/-! ## Documents -/

namespace Document

open Yaml.Graph Building

/-- **From a plain root on, every node denotes what it holds.** -/
theorem ofTree_of_plain {t : Tree} (h : t.graph.IsPlain t.root) :
    ∃ doc, ofTree t = .ok doc ∧ doc.root = t.root ∧ ∀ n, t.graph.IsWithin t.root n →
      (∀ v, t.graph.IsScalar n v → doc.datum n = .scalar v) ∧
      ∀ entries, t.graph.IsMapping n entries → doc.datum n = .mapping entries := by
  obtain ⟨begun, hroot, hbegun, hextends, hknown⟩ := construct_plain []
    (agrees_start t.graph) h
  have hcost : begun.cost ≤ t.graph.size + 1 :=
    (hextends.cost.trans (cost_start t.graph)).trans (Nat.le_succ _)
  obtain ⟨b, hall, hb, hkept⟩ := expandAll_plain hbegun hcost
  -- nothing is pending at the end, so what is known is closed under parts
  have hwithin : ∀ n, t.graph.IsWithin t.root n → b.Knows n := by
    intro n hn
    have hparts : ∀ {n entries}, b.Knows n → t.graph.IsMapping n entries →
        ∀ e ∈ entries, b.Knows e.1 ∧ b.Knows e.2 := by
      intro n entries hn hentries
      obtain ⟨d, hd⟩ := Option.isSome_iff_exists.1 hn
      exact ((hb.mapping hentries hd).resolve_left List.not_mem_nil).2
    induction hn with
    | root => exact hkept hknown
    | key _ hentries he ih => exact (hparts ih hentries _ he).1
    | value _ hentries he ih => exact (hparts ih hentries _ he).2
  refine ⟨⟨b.data.map fun d => d.getD (.scalar .null), t.root⟩, ?_, rfl, fun n hn => ?_⟩
  · rw [ofTree, hroot]
    simp only [bind, Except.bind, hall]
    rfl
  · obtain ⟨d, hd⟩ := Option.isSome_iff_exists.1 (hwithin n hn)
    rw [datum_finished, hd]
    exact ⟨fun v hv => hb.scalar hv hd, fun entries hentries =>
      ((hb.mapping hentries hd).resolve_left List.not_mem_nil).1⟩

end Document

end Almanac.Yaml
