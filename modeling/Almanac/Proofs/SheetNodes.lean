import Almanac.Proofs.Denotation
import Almanac.Proofs.SheetTokens

/-!
# The nodes of a sheet

The nodes that are made of a sheet's tokens hold the sheet: the root has an entry for each
section, and a section's node one for each value. Nodes are only added while a sheet is read, and
a collection is filled when its last part has been added; so what a graph holds it still holds at
the end, as long as its nodes are newer than the collections that are open.

* `readEntries_values`, `readEntries_sections`: **the entries that are read hold what their tokens
  stand for**.
* `readDocument_text`: so the document of a sheet holds the sheet.
-/

namespace Almanac.Yaml

open Text

variable {g g' g'' : Graph} {least n : Nat} {node : Node} {content : Content}

/-! ## Graphs that grow -/

namespace Graph

/-- A graph with more nodes, in which the earlier ones are as they were. -/
structure Grows (g g' : Graph) : Prop where
  size : g.size ≤ g'.size
  node : ∀ n < g.size, g'.node n = g.node n

theorem Grows.refl (g : Graph) : Grows g g := ⟨le_rfl, fun _ _ => rfl⟩

theorem Grows.trans (h : Grows g g') (h' : Grows g' g'') : Grows g g'' :=
  ⟨h.size.trans h'.size, fun n hn => (h'.node n (hn.trans_le h.size)).trans (h.node n hn)⟩

theorem size_add (g : Graph) (node : Node) : (g.add node).size = g.size + 1 := Array.size_push ..

theorem size_fill (g : Graph) (n : Nat) (content : Content) : (g.fill n content).size = g.size :=
  Array.size_modify ..

theorem grows_add (g : Graph) (node : Node) : Grows g (g.add node) :=
  ⟨by rw [size_add]; omega, fun _ hn => node_add_of_lt hn⟩

/-- A node that is filled keeps its kind. -/
theorem node_fill (h : n < g.size) : (g.fill n content).node n = { g.node n with content := content } := by
  have hfill : n < (g.fill n content).size := by rwa [size_fill]
  simp only [Graph.node, Array.getD_eq_getD_getElem?, Array.getElem?_eq_getElem h,
    Array.getElem?_eq_getElem hfill, Option.getD_some]
  simp [fill, Array.getElem_modify]

/-- A graph has a node at a number that is not too low. -/
structure Has (g : Graph) (least n : Nat) (node : Node) : Prop where
  least : least ≤ n
  lt : n < g.size
  node : g.node n = node

theorem Has.mono (h : g.Has least n node) (hgrows : Grows g g') : g'.Has least n node :=
  ⟨h.least, h.lt.trans_le hgrows.size, (hgrows.node n h.lt).trans h.node⟩

theorem Has.weaken {least' : Nat} (h : g.Has least n node) (hle : least' ≤ least) :
    g.Has least' n node :=
  ⟨hle.trans h.least, h.lt, h.node⟩

theorem Has.fill_of_ne {m : Nat} (h : g.Has least n node) (hm : m ≠ n) (content : Content) :
    (g.fill m content).Has least n node :=
  ⟨h.least, by rw [size_fill]; exact h.lt, (node_fill_of_ne hm).trans h.node⟩

/-- A node that is filled is none of those that came later. -/
theorem Has.fill {m : Nat} (h : g.Has least n node) (hm : m < least) (content : Content) :
    (g.fill m content).Has least n node :=
  h.fill_of_ne (hm.trans_le h.least).ne content

theorem Has.filled (h : g.Has least n node) (content : Content) :
    (g.fill n content).Has least n { node with content := content } :=
  ⟨h.least, by rw [size_fill]; exact h.lt, by rw [node_fill h.lt, h.node]⟩

theorem has_add (g : Graph) (node : Node) : (g.add node).Has g.size g.size node :=
  ⟨le_rfl, by rw [size_add]; omega, node_add g node⟩

/-! ## Graphs that hold a sheet -/

/-- An entry holds a value and its name. -/
structure HoldsValue (g : Graph) (least : Nat) (e : Nat × Nat) (p : Text × Value) : Prop where
  name : g.Has least e.1 (lineNode (.text p.1))
  value : g.Has least e.2 (lineNode p.2)

/-- An entry holds a section and its name. -/
structure HoldsSection (g : Graph) (least : Nat) (e : Nat × Nat) (p : Text × Record) : Prop where
  name : g.Has least e.1 (lineNode (.text p.1))
  values : ∃ entries, g.Has least e.2 ⟨.mapping, .mapping entries⟩ ∧
    List.Forall₂ (g.HoldsValue least) entries p.2

variable {e : Nat × Nat} {p : Text × Value} {s : Text × Record}

theorem HoldsValue.mono {least' : Nat} (h : g.HoldsValue least e p) (hgrows : Grows g g')
    (hle : least' ≤ least) : g'.HoldsValue least' e p :=
  ⟨(h.name.mono hgrows).weaken hle, (h.value.mono hgrows).weaken hle⟩

theorem HoldsValue.fill {m : Nat} (h : g.HoldsValue least e p) (hm : m < least) (content : Content) :
    (g.fill m content).HoldsValue least e p :=
  ⟨h.name.fill hm content, h.value.fill hm content⟩

theorem HoldsSection.mono {least' : Nat} (h : g.HoldsSection least e s) (hgrows : Grows g g')
    (hle : least' ≤ least) : g'.HoldsSection least' e s := by
  obtain ⟨entries, hnode, hvalues⟩ := h.values
  exact ⟨(h.name.mono hgrows).weaken hle, entries, (hnode.mono hgrows).weaken hle,
    hvalues.imp fun _ _ hv => hv.mono hgrows hle⟩

theorem HoldsSection.fill {m : Nat} (h : g.HoldsSection least e s) (hm : m < least)
    (content : Content) : (g.fill m content).HoldsSection least e s := by
  obtain ⟨entries, hnode, hvalues⟩ := h.values
  exact ⟨h.name.fill hm content, entries, hnode.fill hm content,
    hvalues.imp fun _ _ hv => hv.fill hm content⟩

end Graph

/-! ## Reading single nodes -/

open Yaml.Graph

/-- What is left with other tokens and other nodes. -/
def Remaining.after (s : Remaining) (tokens : List Token) (g : Graph) : Remaining :=
  { s with tokens := tokens, graph := g }

variable {s s' : Remaining} {plain : Bool} {t name : Text} {token : Token} {rest : List Token}
  {done : List (Nat × Nat)} {fuel : Nat}

namespace Remaining

theorem head_of_cons (h : s.tokens = token :: rest) : s.head = token := by rw [head, h]; rfl

theorem next_of_cons (h : s.tokens = token :: rest) : s.next = s.after rest s.graph := by
  rw [next, h]; rfl

end Remaining

theorem readPart_scalar (h : s.tokens = .scalar plain t :: rest) (block items : Bool) (fuel : Nat) :
    readPart block items (fuel + 2) s = .ok (s.graph.size,
      s.after rest (s.graph.add ⟨Properties.scalarKind ⟨none, none⟩ plain t, .scalar t⟩)) := by
  have hproperties : s.properties = .ok (⟨none, none⟩, s) := by rw [Remaining.properties, h]
  rw [readPart, s.head_of_cons h, readNode, s.head_of_cons h]
  simp only [hproperties, bind, Except.bind, s.head_of_cons h, s.next_of_cons h]
  rfl

/-- A mapping has its number before its entries do, and is filled when these have been read. -/
theorem readNode_mapping (h : s.tokens = .blockMapping :: rest) (hdepth : s.depth < nestingLimit)
    (hread : readEntries [] fuel { s.after rest (s.graph.add ⟨.mapping, .mapping []⟩) with
      depth := s.depth + 1 } = .ok (content, s')) (items : Bool) :
    readNode true items (fuel + 1) s = .ok (s.graph.size, { s' with
      graph := s'.graph.fill s.graph.size content
      depth := s.depth }) := by
  have hproperties : s.properties = .ok (⟨none, none⟩, s) := by rw [Remaining.properties, h]
  have hopened : Remaining.next { s with
      graph := s.graph.add ⟨.mapping, .mapping []⟩
      depth := s.depth + 1 } =
      { s.after rest (s.graph.add ⟨.mapping, .mapping []⟩) with depth := s.depth + 1 } := by
    rw [Remaining.next, h]; rfl
  rw [readNode, s.head_of_cons h]
  simp only [hproperties, bind, Except.bind, s.head_of_cons h, Remaining.addMapping,
    Remaining.addCollection, if_neg (Nat.ne_of_lt hdepth), Remaining.addNamed, Remaining.add]
  simp only [Properties.collectionKind, hopened, hread]
  simp [pure, Except.pure]

/-- An entry with a name is its name's node and what is read behind the colon. -/
theorem readPair_name (h : s.tokens = .scalar true name :: .value :: rest) (hname : IsName name)
    (hread : readPart true true (fuel + 2) (s.after rest (s.graph.add (lineNode (.text name)))) =
      .ok (n, s')) : readPair true (fuel + 3) s = .ok ((s.graph.size, n), s') := by
  have hkey : lineNode (.text name) = ⟨Properties.scalarKind ⟨none, none⟩ true name, .scalar name⟩ := by
    rw [lineNode, lineScalar, hname.plain]
  have hhead : ∀ g, (s.after (.value :: rest) g).head = .value := fun _ => rfl
  have hnext : ∀ g, (s.after (.value :: rest) g).next = s.after rest g := fun _ => rfl
  rw [readPair, readPart_scalar h, ← hkey]
  simp only [bind, Except.bind, hhead, hnext, hread]
  rfl

theorem readEntries_key {e : Nat × Nat} (h : s.tokens = .key :: rest)
    (hread : readPair true fuel (s.after rest s.graph) = .ok (e, s')) :
    readEntries done (fuel + 1) s = readEntries (e :: done) fuel s' := by
  rw [readEntries, s.head_of_cons h]
  simp only [s.next_of_cons h, hread, bind, Except.bind]

theorem readEntries_end (h : s.tokens = .blockEnd :: rest) (fuel : Nat) :
    readEntries done (fuel + 1) s = .ok (.mapping done.reverse, s.after rest s.graph) := by
  rw [readEntries, s.head_of_cons h]
  simp only [s.next_of_cons h]

/-! ## Reading sheets -/

/-- **Parts are read as entries one after the other** if each by itself is read as an entry that
holds it, and what a graph holds is kept as it grows. -/
theorem readEntries_parts {α : Type} {tokensOf : α → List Token}
    {Holds : Graph → Nat → Nat × Nat → α → Prop} {need : Nat} {parts : List α}
    (done : List (Nat × Nat)) (hkey : ∀ p, ∃ tail, tokensOf p = .key :: tail)
    (hpart : ∀ p ∈ parts, ∀ (s' : Remaining) (rest : List Token) (fuel : Nat), s'.depth = s.depth →
      need ≤ fuel → .key :: s'.tokens = tokensOf p ++ rest →
      ∃ g e, readPair true fuel s' = .ok (e, s'.after rest g) ∧ Grows s'.graph g ∧
        Holds g s'.graph.size e p)
    (hkept : ∀ {g g' least least' e p}, Holds g least e p → Grows g g' → least' ≤ least →
      Holds g' least' e p)
    (h : s.tokens = parts.flatMap tokensOf ++ .blockEnd :: rest)
    (hfuel : parts.length + need + 1 ≤ fuel) :
    ∃ g entries, readEntries done fuel s = .ok (.mapping (done.reverse ++ entries), s.after rest g) ∧
      Grows s.graph g ∧ List.Forall₂ (Holds g s.graph.size) entries parts := by
  -- on the parts: those that come later only make the graph grow, so the earlier ones stay held
  obtain ⟨fuel, rfl⟩ : ∃ f, fuel = f + 1 := ⟨fuel - 1, by omega⟩
  induction parts generalizing s done fuel with
  | nil =>
    refine ⟨s.graph, [], ?_, .refl _, .nil⟩
    rw [readEntries_end h, List.append_nil]
  | cons p parts ih =>
    rw [List.length_cons] at hfuel
    obtain ⟨fuel, rfl⟩ : ∃ f, fuel = f + 1 := ⟨fuel - 1, by omega⟩
    set tokens := parts.flatMap tokensOf ++ .blockEnd :: rest with htokens
    have hsplit : s.tokens = tokensOf p ++ tokens := by rw [h, List.flatMap_cons, List.append_assoc]
    obtain ⟨tail, htail⟩ := hkey p
    have hcons : s.tokens = .key :: (tail ++ tokens) := by rw [hsplit, htail]; rfl
    obtain ⟨g₁, e, hpair, hgrows₁, hholds₁⟩ := hpart p (by simp) (s.after (tail ++ tokens) s.graph) tokens
      (fuel + 1) rfl (by omega) (hcons.symm.trans hsplit)
    obtain ⟨g, entries, hread, hgrows, hholds⟩ := ih (s := s.after tokens g₁) (e :: done)
      (fun q hq => hpart q (by simp [hq])) rfl fuel (by omega)
    refine ⟨g, e :: entries, ?_, hgrows₁.trans hgrows, .cons (hkept hholds₁ hgrows le_rfl) ?_⟩
    · rw [readEntries_key hcons hpair]
      change readEntries (e :: done) (fuel + 1) (s.after tokens g₁) = _
      rw [hread]
      simp [Remaining.after]
    · exact hholds.imp fun _ _ hq => hkept hq (.refl _) hgrows₁.size

/-- A value and its name are one more entry, which holds the value. -/
theorem readPair_value {p : Text × Value} (hname : IsName p.1) (hfuel : 3 ≤ fuel)
    (h : .key :: s.tokens = Sheet.valueTokens p ++ rest) :
    ∃ g e, readPair true fuel s = .ok (e, s.after rest g) ∧ Grows s.graph g ∧
      g.HoldsValue s.graph.size e p := by
  obtain ⟨fuel, rfl⟩ : ∃ f, fuel = f + 3 := ⟨fuel - 3, by omega⟩
  have htokens : s.tokens = .scalar true p.1 :: .value :: .scalar (lineScalar p.2).1 (lineScalar p.2).2 ::
      rest := (List.cons.inj h).2
  set named := s.graph.add (lineNode (.text p.1)) with hnamed
  have hsize : named.size = s.graph.size + 1 := size_add ..
  refine ⟨named.add (lineNode p.2), (s.graph.size, named.size), ?_, (grows_add ..).trans (grows_add ..),
    (has_add ..).mono (grows_add ..), (has_add ..).weaken (by omega)⟩
  refine readPair_name htokens hname ?_
  rw [readPart_scalar rfl]
  rfl

/-- **The entries that are read hold the values** whose tokens come next. -/
theorem readEntries_values {settings : Record}
    (h : s.tokens = settings.flatMap Sheet.valueTokens ++ .blockEnd :: rest)
    (hnames : ∀ p ∈ settings, IsName p.1) (hfuel : settings.length + 4 ≤ fuel) :
    ∃ g entries, readEntries [] fuel s = .ok (.mapping entries, s.after rest g) ∧
      Grows s.graph g ∧ List.Forall₂ (g.HoldsValue s.graph.size) entries settings := by
  refine readEntries_parts [] (fun _ => ⟨_, rfl⟩) ?_ HoldsValue.mono h hfuel
  intro p hp s' rest fuel _ hneed htokens
  exact readPair_value (hnames p hp) hneed htokens

/-- A section and its name are one more entry, which holds the section. -/
theorem readPair_section {p : Text × Record} (hname : IsName p.1) (hnames : ∀ q ∈ p.2, IsName q.1)
    (hdepth : s.depth < nestingLimit) (hfuel : p.2.length + 7 ≤ fuel)
    (h : .key :: s.tokens = Sheet.sectionTokens p ++ rest) :
    ∃ g e, readPair true fuel s = .ok (e, s.after rest g) ∧ Grows s.graph g ∧
      g.HoldsSection s.graph.size e p := by
  obtain ⟨fuel, rfl⟩ : ∃ f, fuel = f + 3 := ⟨fuel - 3, by omega⟩
  set tokens := p.2.flatMap Sheet.valueTokens ++ .blockEnd :: rest with htokens
  have hcons : s.tokens = .scalar true p.1 :: .value :: .blockMapping :: tokens := by
    have htail := (List.cons.inj h).2
    simpa [htokens] using htail
  set named := s.graph.add (lineNode (.text p.1)) with hnamed
  set opened := named.add ⟨.mapping, .mapping []⟩ with hopened
  have hsize : named.size = s.graph.size + 1 := size_add ..
  have hsize' : opened.size = named.size + 1 := size_add ..
  obtain ⟨g, entries, hread, hgrows, hholds⟩ := readEntries_values
    (s := { s.after tokens opened with depth := s.depth + 1 }) rfl hnames (by omega : _ ≤ fuel)
  have hgrows' : Grows named g := (grows_add ..).trans hgrows
  set filled := g.fill named.size (.mapping entries) with hfilled
  have hpart : readPart true true (fuel + 2) (s.after (.blockMapping :: tokens) named) =
      .ok (named.size, s.after rest filled) := by
    rw [readPart, Remaining.head_of_cons (s := s.after _ _) rfl]
    exact readNode_mapping (s := s.after (.blockMapping :: tokens) named) rfl hdepth hread true
  -- only the section's own node is filled, which is newer than its name and older than its values
  refine ⟨filled, (s.graph.size, named.size), readPair_name hcons hname hpart, ⟨?_, fun n hn => ?_⟩,
    ?_, entries, ?_, ?_⟩
  · rw [hfilled, size_fill]
    exact ((grows_add ..).trans hgrows').size
  · rw [hfilled, node_fill_of_ne (by omega)]
    exact ((grows_add ..).trans hgrows').node n hn
  · exact ((has_add ..).mono hgrows').fill_of_ne (by omega) _
  · exact (((has_add ..).mono hgrows).filled _).weaken (by omega)
  · refine hholds.imp fun _ _ hv => (hv.fill ?_ _).mono (.refl _) ?_
    · change named.size < opened.size
      omega
    · change s.graph.size ≤ opened.size
      omega

/-- **The entries that are read hold the sections** whose tokens come next. -/
theorem readEntries_sections {sheet : Sheet} {longest : Nat}
    (h : s.tokens = sheet.flatMap Sheet.sectionTokens ++ .blockEnd :: rest)
    (hnames : ∀ p ∈ sheet, IsName p.1 ∧ ∀ q ∈ p.2, IsName q.1) (hdepth : s.depth < nestingLimit)
    (hlongest : ∀ p ∈ sheet, p.2.length ≤ longest) (hfuel : sheet.length + longest + 8 ≤ fuel) :
    ∃ g entries, readEntries [] fuel s = .ok (.mapping entries, s.after rest g) ∧
      Grows s.graph g ∧ List.Forall₂ (g.HoldsSection s.graph.size) entries sheet := by
  have hfuel' : sheet.length + (longest + 7) + 1 ≤ fuel := by omega
  refine readEntries_parts [] (fun _ => ⟨_, rfl⟩) ?_ HoldsSection.mono h hfuel'
  intro p hp s' rest fuel hsame hneed htokens
  have hlength := hlongest p hp
  exact readPair_section (hnames p hp).1 (hnames p hp).2 (hsame ▸ hdepth) (by omega) htokens

namespace Sheet

theorem length_sectionTokens (p : Text × Record) :
    p.2.length + 5 ≤ (sectionTokens p).length := by
  have hvalues : ∀ settings : Record, settings.length ≤ (settings.flatMap valueTokens).length := by
    intro settings
    induction settings with
    | nil => exact le_rfl
    | cons q settings ih =>
      rw [List.flatMap_cons, List.length_append, List.length_cons, valueTokens]
      simp only [List.length_cons, List.length_nil]
      omega
  have := hvalues p.2
  simp only [sectionTokens, List.length_append, List.length_cons, List.length_nil]
  omega

/-- A sheet has more tokens than sections, and no section has more values. -/
theorem length_tokens (sheet : Sheet) : sheet.length ≤ (sheet.flatMap sectionTokens).length ∧
    ∀ p ∈ sheet, p.2.length ≤ (sheet.flatMap sectionTokens).length := by
  induction sheet with
  | nil => simp
  | cons q sheet ih =>
    have hq := length_sectionTokens q
    rw [List.flatMap_cons, List.length_append, List.length_cons]
    refine ⟨by omega, fun p hp => ?_⟩
    rcases List.mem_cons.1 hp with rfl | hp
    · omega
    · have := ih.2 p hp
      omega

end Sheet

/-- **The document of a sheet holds the sheet.** -/
theorem readDocument_text {sheet : Sheet} (h : sheet.Ok) :
    ∃ t entries, readDocument ⟨sheet.text, none⟩ = .ok t ∧
      t.graph.Has 0 t.root ⟨.mapping, .mapping entries⟩ ∧
      List.Forall₂ (t.graph.HoldsSection 0) entries sheet := by
  set inner := sheet.flatMap Sheet.sectionTokens ++ [.blockEnd, .finish] with hinner
  set begun : Remaining := ⟨.blockMapping :: inner, #[], [], [], 0⟩ with hbegun
  set opened : Graph := Graph.add #[] ⟨.mapping, .mapping []⟩ with hopened
  obtain ⟨hlength, hlongest⟩ := Sheet.length_tokens sheet
  have hfuel : sheet.length + (sheet.flatMap Sheet.sectionTokens).length + 8 ≤
      4 * begun.tokens.length + 3 := by
    rw [hbegun, hinner]
    simp only [List.length_cons, List.length_append, List.length_nil]
    omega
  obtain ⟨g, entries, hread, hgrows, hholds⟩ := readEntries_sections
    (s := { begun.after inner opened with depth := 1 }) rfl h.names (show 1 < nestingLimit by decide)
    hlongest hfuel
  have hroot := readNode_mapping (s := begun) rfl (show 0 < nestingLimit by decide) hread false
  have hsize : opened.size = 1 := rfl
  refine ⟨⟨g.fill 0 (.mapping entries), 0⟩, entries, ?_, ?_, ?_⟩
  · have hsame : readDocument ⟨sheet.text, none⟩ = readTokens (.blockMapping :: inner) := by
      rw [readDocument, Sheet.tokensOf_text h]
      rfl
    -- the tokens start with no directive, so the root is read at once
    rw [hsame]
    change readRoot begun >>= _ = _
    rw [readRoot, hroot]
    rfl
  · have hmapping : opened.Has 0 0 ⟨.mapping, .mapping []⟩ := has_add _ _
    exact (hmapping.mono hgrows).filled _
  · exact hholds.imp fun _ _ hs => (hs.fill Nat.one_pos _).mono (.refl _) (Nat.zero_le _)

/-! ## What the document denotes -/

theorem IsName.fitsLine (h : IsName name) : FitsLine (.text name) :=
  .text fun c hc => writable_of_letter (h.letters c hc)

namespace Graph

variable {v : Value}

theorem Has.isScalar (h : g.Has least n (lineNode v)) (hv : FitsLine v) : g.IsScalar n v :=
  ⟨h.lt, (lineScalar v).2, by rw [h.node]; rfl, by rw [h.node]; exact read_lineScalar hv (n + 1)⟩

/-- The nodes of named parts are the keys of a mapping if the names differ. -/
theorem Has.isMapping {α : Type} {entries : List (Nat × Nat)} {parts : List (Text × α)}
    (h : g.Has least n ⟨.mapping, .mapping entries⟩)
    (hnames : List.Forall₂ (fun e (p : Text × α) => g.IsScalar e.1 (.text p.1)) entries parts)
    (hnodup : (parts.map Prod.fst).Nodup) : g.IsMapping n entries :=
  ⟨h.lt, h.node, parts.map Prod.fst, hnodup, List.forall₂_map_right_iff.2 hnames⟩

/-- An entry keeps a section: what its nodes are read as is the section's name and its values. -/
structure KeepsSection (g : Graph) (e : Nat × Nat) (p : Text × Record) : Prop where
  name : g.IsScalar e.1 (.text p.1)
  values : ∃ entries, g.IsMapping e.2 entries ∧
    List.Forall₂ (fun d q => g.IsScalar d.1 (.text q.1) ∧ g.IsScalar d.2 q.2) entries p.2

/-- **What holds a section keeps it**, if its names are proper ones and its values fit on lines. -/
theorem HoldsSection.keeps {e : Nat × Nat} {p : Text × Record} (h : g.HoldsSection least e p)
    (hname : IsName p.1) (hnames : ∀ q ∈ p.2, IsName q.1) (hvalues : ∀ q ∈ p.2, FitsLine q.2)
    (hnodup : (Record.names p.2).Nodup) : g.KeepsSection e p := by
  obtain ⟨entries, hnode, hholds⟩ := h.values
  have hparts : List.Forall₂ (fun d q => g.IsScalar d.1 (.text q.1) ∧ g.IsScalar d.2 q.2) entries p.2 :=
    forall₂_of_mem hholds fun d _ q hq hd =>
      ⟨hd.name.isScalar (hnames q hq).fitsLine, hd.value.isScalar (hvalues q hq)⟩
  exact ⟨h.name.isScalar hname.fitsLine, entries,
    hnode.isMapping (hparts.imp fun _ _ hd => hd.1) hnodup, hparts⟩

end Graph

namespace Document

/-- An entry of a document shows a value and its name. -/
structure ShowsValue (doc : Document) (e : Nat × Nat) (p : Text × Value) : Prop where
  name : doc.scalar e.1 = .text p.1
  value : doc.value e.2 = p.2

/-- An entry of a document shows a section and its name. -/
structure ShowsSection (doc : Document) (e : Nat × Nat) (p : Text × Record) : Prop where
  name : doc.scalar e.1 = .text p.1
  values : ∃ entries, doc.datum e.2 = .mapping entries ∧ List.Forall₂ doc.ShowsValue entries p.2

end Document

/-- **What was written of a sheet shows the sheet when it is read.** -/
theorem Document.read_text {sheet : Sheet} (h : sheet.Ok) :
    ∃ doc entries, Document.read (.ofText sheet.text) = .ok doc ∧
      doc.datum doc.root = .mapping entries ∧ List.Forall₂ doc.ShowsSection entries sheet := by
  obtain ⟨t, entries, hread, hroot, hholds⟩ := readDocument_text h
  set g := t.graph with hg
  have hsections : List.Forall₂ g.KeepsSection entries sheet :=
    forall₂_of_mem hholds fun e _ p hp he =>
      he.keeps (h.names p hp).1 (h.names p hp).2 (h.values p hp) (h.nodup.2 p hp)
  have hmapping : g.IsMapping t.root entries :=
    hroot.isMapping (hsections.imp fun _ _ he => he.name) h.nodup.1
  have hplain : g.IsPlain t.root := by
    refine .mapping hmapping fun e he => ?_
    obtain ⟨p, -, hsection⟩ := exists_of_mem hsections he
    obtain ⟨inner, hinner, hvalues⟩ := hsection.values
    refine .mapping hinner fun d hd => ?_
    obtain ⟨q, -, -, hvalue⟩ := exists_of_mem hvalues hd
    exact .scalar hvalue
  obtain ⟨doc, hdoc, hdocRoot, hdenotes⟩ := ofTree_of_plain hplain
  have hwithin := hdenotes t.root .root
  have hscalar : ∀ {n v}, g.IsWithin t.root n → g.IsScalar n v → doc.datum n = .scalar v :=
    fun hn hv => (hdenotes _ hn).1 _ hv
  refine ⟨doc, entries, ?_, ?_, forall₂_of_mem hsections fun e he p _ hsection => ⟨?_, ?_⟩⟩
  · rw [Document.read, Sheet.ofText_text h, hread]
    exact hdoc
  · rw [hdocRoot]
    exact hwithin.2 entries hmapping
  · rw [Document.scalar, hscalar (.key .root hmapping he) hsection.name]
  · obtain ⟨inner, hinner, hvalues⟩ := hsection.values
    have hsectionWithin : g.IsWithin t.root e.2 := .value .root hmapping he
    refine ⟨inner, (hdenotes _ hsectionWithin).2 inner hinner, forall₂_of_mem hvalues
      fun d hd q _ hq => ⟨?_, ?_⟩⟩
    · rw [Document.scalar, hscalar (.key hsectionWithin hinner hd) hq.1]
    · exact Document.value_scalar (hscalar (.value hsectionWithin hinner hd) hq.2)

end Almanac.Yaml
