import Almanac.Proofs.KeySort
import Almanac.Proofs.Origins
import Almanac.Proofs.SheetNodes

/-!
# Saved configurations

A configuration whose settings are nothing, truth values, whole numbers and texts that fit on their
lines comes back from its file as it was, with the type of each value. What a text looks like does
not matter: it is the writer who has to tell it from other values.

* `outline_eq`: **the document of a configuration is a sheet**, whose sections and settings are in
  order.
* `ofDocument_sheet`: **a document that shows the sheet is read as the configuration**, if there is
  such a mode.
* `load_save`: so a file that was saved gives the configuration back.
-/

namespace Almanac.Config

open Yaml

/-! ## What is written -/

/-- **A plain configuration**: all its settings are there, in their order, and each fits on a line. -/
structure IsPlain (c : Config) : Prop where
  names : ∀ sec, (c.get sec).names = sec.defaults.names
  values : ∀ sec, ∀ p ∈ c.get sec, FitsLine p.2

/-- The order in which sections are written. -/
def order : List Section := sortByKey (fun sec => .text sec.name) Section.all

/-- Settings in the order in which they are written. -/
def sorted (settings : Record) : Record := sortByKey (fun p => .text p.1) settings

/-- A configuration as it is written. -/
def sheet (c : Config) : Sheet := order.map fun sec => (sec.name, sorted (c.get sec))

variable {c : Config} {o : Origins} {sec : Section}

theorem mem_order (sec : Section) : sec ∈ order :=
  (sortByKey_perm _ _).mem_iff.2 (by cases sec <;> decide)

theorem mem_sorted {p : Text × Value} {settings : Record} : p ∈ sorted settings ↔ p ∈ settings :=
  (sortByKey_perm _ _).mem_iff

theorem IsPlain.sheet_ok (h : c.IsPlain) : c.sheet.Ok where
  ne_nil hnil := by
    have hmem := mem_order .query
    rw [List.map_eq_nil_iff.1 hnil] at hmem
    cases hmem
  section_ne_nil p hp hnil := by
    obtain ⟨sec, -, rfl⟩ := List.mem_map.1 hp
    have hsettings : c.get sec = [] := by
      have hperm : (sorted (c.get sec)).Perm (c.get sec) := sortByKey_perm _ _
      have hsorted : sorted (c.get sec) = [] := hnil
      rw [hsorted] at hperm
      exact hperm.nil_eq.symm
    have hnames := h.names sec
    rw [hsettings] at hnames
    cases sec <;> cases hnames
  names p hp := by
    obtain ⟨sec, -, rfl⟩ := List.mem_map.1 hp
    have hname : IsName sec.name := by cases sec <;> decide
    refine ⟨hname, fun q hq => ?_⟩
    have hdefault : ∀ n ∈ sec.defaults.names, IsName n := by cases sec <;> decide
    refine hdefault q.1 ?_
    rw [← h.names sec]
    exact List.mem_map_of_mem (mem_sorted.1 hq)
  nodup := by
    refine ⟨?_, fun p hp => ?_⟩
    · have hnames : (c.sheet.map Prod.fst).Perm (Section.all.map Section.name) := by
        rw [sheet, List.map_map]
        exact (sortByKey_perm _ _).map _
      exact hnames.nodup_iff.2 (by decide)
    · obtain ⟨sec, -, rfl⟩ := List.mem_map.1 hp
      have hnames : (sorted (c.get sec)).names.Perm (c.get sec).names := (sortByKey_perm _ _).map _
      rw [hnames.nodup_iff, h.names sec]
      exact nodup_defaults sec
  values p hp q hq := by
    obtain ⟨sec, -, rfl⟩ := List.mem_map.1 hp
    exact h.values sec q (mem_sorted.1 hq)

/-- What a setting holds, with the node that it stems from. -/
def leaf (o : Origins) (sec : Section) (p : Text × Value) : Outline.Leaf :=
  match o.nodes.lookup (sec, p.1) with
  | some n => .node n
  | none => .value p.2

/-- Only a scalar has a value that fits on a line. -/
theorem datum_of_value {doc : Document} {n : Nat} {v : Value} (h : FitsLine v) (hn : doc.value n = v) :
    doc.datum n = .scalar v := by
  subst hn
  cases hdatum : doc.datum n with
  | scalar w => rw [Document.value_scalar hdatum]
  | list items | mapping entries | set members | pairs entries =>
    have hvalue : doc.value n = doc.valueInside (doc.data.size + 1) [] n := rfl
    rw [hvalue, Document.valueInside, hdatum] at h
    cases h

/-- A setting that fits on its line is written as its value, wherever it stems from. -/
theorem ofLeaf_leaf (h : c.IsPlain) (ho : o.Suits c) {p : Text × Value} (hp : p ∈ c.get sec) :
    Outline.ofLeaf o.document [] (leaf o sec p) = (.ofScalar p.2, []) := by
  have hline := h.values sec p hp
  unfold leaf
  cases hlookup : o.nodes.lookup (sec, p.1) with
  | none =>
    change (Outline.ofValue p.2, _) = _
    rw [Outline.ofValue_of_fitsLine hline]
  | some n =>
    obtain ⟨before, behind, hnodes, -⟩ := List.lookup_eq_some_iff.1 hlookup
    have hmem : ((sec, p.1), n) ∈ o.nodes := by rw [hnodes]; simp
    have hdatum := datum_of_value hline (ho sec p hp n hmem)
    change Outline.ofNode o.document (o.document.data.size + 1) [] n = _
    rw [Outline.ofNode, hdatum]
    generalize p.2 = v at hline
    cases hline <;> rfl

theorem ofSettings_leaf (h : c.IsPlain) (ho : o.Suits c) (sec : Section) :
    Outline.ofSettings o.document [] ((c.get sec).map fun p => (p.1, leaf o sec p)) =
      (Sheet.sectionOutline (sorted (c.get sec)), []) := by
  simp only [Outline.ofSettings, sortByKey_map]
  rw [Outline.each_of_nil (f := fun p => (Outline.ofScalar (.text p.1), Outline.ofScalar p.2))
    fun p hp => ?_]
  · rfl
  · simp only [ofLeaf_leaf h ho (mem_sorted.1 hp)]

/-- **The document of a configuration is a sheet**, whose sections and settings are in order. -/
theorem outline_eq (h : c.IsPlain) (ho : o.Suits c) : c.outline o = c.sheet.outline := by
  have hleaves : c.outline o = .ofSections o.document (Section.all.map fun sec =>
      (sec.name, (c.get sec).map fun p => (p.1, leaf o sec p))) := rfl
  rw [hleaves]
  simp only [Outline.ofSections, sortByKey_map]
  rw [Outline.each_of_nil (f := fun sec => (Outline.ofScalar (.text sec.name),
    Sheet.sectionOutline (sorted (c.get sec)))) fun sec _ => ?_]
  · rw [Sheet.outline, sheet, List.map_map]
    rfl
  · simp only [ofSettings_leaf h ho sec]

theorem IsPlain.showable (h : c.IsPlain) : c.toValue.Showable := by
  -- the sections, their settings and what these hold lie one inside the other
  have hplaces : showingLimit = showingLimit - 3 + 1 + 1 + 1 := rfl
  rw [Value.Showable, Value.unshowable?, hplaces, toValue, Value.obstacle?]
  refine Value.obstacleIn?_eq_none fun e he => ?_
  obtain ⟨sec, -, rfl⟩ := List.mem_map.1 he
  refine ⟨rfl, ?_⟩
  rw [Value.obstacle?]
  refine Value.obstacleIn?_eq_none fun d hd => ?_
  obtain ⟨p, hp, rfl⟩ := List.mem_map.1 hd
  exact ⟨rfl, (h.values sec p hp).obstacle?_eq_none _⟩

/-- **A plain configuration can always be written**, as the text of its sheet. -/
theorem saveWhole_eq (h : c.IsPlain) (ho : o.Suits c) (tree : FileTree) (path : Text) :
    c.saveWhole o tree path = tree.write (Path.ofText path) (.text c.sheet.text) := by
  have hdepth : (c.outline o).depth ≤ writingLimit := by
    rw [outline_eq h ho]
    exact c.sheet.depth_outline.trans (by decide)
  have hwritable : c.unwritable? o = none := by
    have hshowable : c.toValue.unshowable? = none := h.showable
    rw [unwritable?, hshowable, if_neg (by omega)]
  have hdocument : c.toDocument o = c.sheet.text := by
    rw [toDocument, outline_eq h ho, Sheet.document_outline h.sheet_ok]
  simp only [saveWhole, hwritable, hdocument]

/-! ## What is read -/

theorem map_eq_map_of_forall₂ {α β γ : Type} {f : α → γ} {g : β → γ} {as : List α} {bs : List β}
    (h : List.Forall₂ (fun a b => f a = g b) as bs) : as.map f = bs.map g := by
  have heq : List.Forall₂ (· = ·) (as.map f) (bs.map g) :=
    List.forall₂_map_left_iff.2 (List.forall₂_map_right_iff.2 h)
  rwa [List.forall₂_eq_eq_eq] at heq

/-- Settings as a mapping. -/
def mappingOf (settings : Record) : Value := .mapping (settings.map fun p => (.text p.1, p.2))

/-- **A section with all its settings is read as it is**, in whatever order they stand. -/
theorem readSection_of_perm {given settings : Record} (hnames : settings.names = sec.defaults.names)
    (hperm : given.Perm settings) : readSection sec (mappingOf given) = checkMode sec settings := by
  have hknown : given.names.find? (fun n => !sec.defaults.names.contains n) = none := by
    refine List.find?_eq_none.2 fun n hn => ?_
    have hmem : n ∈ sec.defaults.names := by
      rw [← hnames]
      exact (hperm.map _).mem_iff.1 hn
    simpa using hmem
  have hoverlay : overlay sec given = .ok settings := by
    rw [overlay, hknown]
    exact congrArg Except.ok
      (Record.putAll_of_perm hnames.symm (hnames ▸ nodup_defaults sec) hperm)
  rw [mappingOf, readSection, textPairs?_eq_some_iff.2 rfl]
  simp only [hoverlay, bind, Except.bind]

/-- What a configuration's sheet stands for. -/
def sectionValues (c : Config) : List (Value × Value) :=
  order.map fun sec => (.text sec.name, mappingOf (sorted (c.get sec)))

theorem member?_sectionValues (c : Config) (sec : Section) :
    member? c.sectionValues sec.name = some (mappingOf (sorted (c.get sec))) := by
  have hfind : order.find? (fun found => (Value.text found.name).key? = some (.text sec.name)) =
      some sec := by
    cases sec <;> decide
  rw [member?, sectionValues, List.find?_map]
  change ((order.find? fun found => (Value.text found.name).key? = some (.text sec.name)).map _).map _ = _
  rw [hfind]
  rfl

/-- The section of queries holds the mode and nothing else. -/
theorem IsPlain.query_eq (h : c.IsPlain) : c.query = [(modeKey, c.mode)] := by
  have hnames : c.query.names = [modeKey] := h.names .query
  obtain ⟨⟨name, v⟩, hquery, rfl⟩ := List.map_eq_singleton_iff.1 hnames
  rw [mode, setting, Record.get?, hquery]
  rfl

theorem IsPlain.get_mode (h : c.IsPlain) : c.query.get modeKey = c.mode := by
  rw [h.query_eq]
  rfl

/-- Its mode can be shown. -/
theorem IsPlain.raised_mode (h : c.IsPlain) :
    (Fault.config (.unknownMode c.mode)).raised = .config (.unknownMode c.mode) := by
  have hmem : (modeKey, c.mode) ∈ c.get .query := by
    change _ ∈ c.query
    rw [h.query_eq]
    exact List.mem_singleton_self _
  exact Fault.raised_of_showable
    (List.forall_mem_singleton.2 ((h.values .query _ hmem).obstacle?_eq_none _))

/-- **The sheet of a plain configuration is read as the configuration** if there is such a mode. -/
theorem ofValue_sectionValues (h : c.IsPlain) :
    ofValue (.mapping c.sectionValues) =
      if isMode c.mode then .ok c else .error (.config (.unknownMode c.mode)) := by
  have hsection : ∀ sec, readSection sec ((member? c.sectionValues sec.name).getD (.mapping [])) =
      checkMode sec (c.get sec) := by
    intro sec
    rw [member?_sectionValues]
    exact readSection_of_perm (h.names sec) (sortByKey_perm _ _)
  have hstorage : checkMode .storage (c.get .storage) = .ok c.storage := rfl
  have hlogging : checkMode .logging (c.get .logging) = .ok c.logging := rfl
  have hquery : checkMode .query (c.get .query) =
      if isMode c.mode then .ok c.query else .error (.config (.unknownMode c.mode)) := by
    have hmode : (c.get .query).get modeKey = c.mode := h.get_mode
    rw [checkMode, hmode, h.raised_mode]
    cases isMode c.mode <;> simp [get]
  simp only [ofValue, hsection, hstorage, hquery, hlogging, bind, Except.bind]
  cases isMode c.mode <;> rfl

variable {doc : Document} {entries : List (Nat × Nat)}

theorem sectionValue_of_shows {e : Nat × Nat} {p : Text × Record} (h : doc.ShowsSection e p) :
    sectionValue doc e.2 = mappingOf p.2 := by
  obtain ⟨inner, hinner, hvalues⟩ := h.values
  rw [sectionValue, hinner]
  refine congrArg Value.mapping (map_eq_map_of_forall₂ (hvalues.imp fun d q hd => ?_))
  rw [hd.name, hd.value]

/-- Every section that is shown is found by its name. -/
theorem sectionNodes_of_shows {secs : List Section} {settings : Section → Record}
    (h : List.Forall₂ (fun e sec => doc.ShowsSection e (sec.name, settings sec)) entries secs) :
    (sectionNodes doc entries).map (fun p => (Value.text p.1.name, sectionValue doc p.2)) =
      secs.map fun sec => (.text sec.name, mappingOf (settings sec)) := by
  induction h with
  | nil => rfl
  | @cons e sec entries secs he _ ih =>
    have hname : Section.ofName? sec.name = some sec := by cases sec <;> rfl
    have hnode : sectionNodes doc (e :: entries) = (sec, e.2) :: sectionNodes doc entries := by
      rw [sectionNodes, List.filterMap_cons, he.name]
      simp only [hname]
      rfl
    rw [hnode, List.map_cons, List.map_cons, sectionValue_of_shows he, ih]

/-- **A document that shows the sheet is read as the configuration** if there is such a mode. -/
theorem ofDocument_sheet (h : c.IsPlain) (hroot : doc.datum doc.root = .mapping entries)
    (hshows : List.Forall₂ doc.ShowsSection entries c.sheet) :
    (ofDocument doc).map (·.config) =
      if isMode c.mode then .ok c else .error (.config (.unknownMode c.mode)) := by
  have hsections : (sectionNodes doc entries).map (fun p => (.text p.1.name, sectionValue doc p.2)) =
      c.sectionValues := sectionNodes_of_shows (List.forall₂_map_right_iff.1 hshows)
  rw [ofDocument, hroot]
  simp only [hsections, ofValue_sectionValues h, bind, Except.bind]
  cases isMode c.mode <;> rfl

/-- **A plain configuration that was saved is what its file gives back**, with the type of each
value; only a mode that there is not is refused, and it is named. Nothing but the file's place can
keep it from being saved. That its settings have the values of the nodes they stem from holds at
every time of a session (`Workspace.session_suited`), and of settings that stem from none. -/
theorem load_save {tree : FileTree} {path : Text} {content : FileContent}
    (h : c.IsPlain) (ho : o.Suits c) (hpath : (tree.write (Path.ofText path) content).1 = .ok ()) :
    (c.saveWhole o tree path).1 = .ok () ∧
      load (c.saveWhole o tree path).2 path =
        if isMode c.mode then .ok c else .error (.config (.unknownMode c.mode)) := by
  have hsaved := FileTree.write_of_write hpath (.text c.sheet.text)
  have hplace := FileTree.place_write hsaved
  obtain ⟨doc, entries, hread, hroot, hshows⟩ := Document.read_text h.sheet_ok
  rw [saveWhole_eq h ho]
  refine ⟨hsaved, ?_⟩
  set saved := (tree.write (Path.ofText path) (.text c.sheet.text)).2
  have hcontent : ofContent (.text c.sheet.text) = ofDocument doc := by
    rw [ofContent, source, hread]
  have hload : loadWhole saved path = ofDocument doc := by
    rw [loadWhole, hplace]
    simp only [FileTree.content, hplace, bind, Except.bind]
    exact hcontent
  rw [load, hload]
  exact ofDocument_sheet h hroot hshows

/-- A configuration of texts that look like other values, with a mode of queries. -/
def lookalike (mode : Value) : Config where
  storage :=
    [("users_table".toList, .text "it's: #1".toList), ("weather_table".toList, .text []),
     ("seed_data".toList, .int (-12)), ("admin_username".toList, .text " 1:30 ".toList),
     ("admin_password".toList, .text "0x1F".toList)]
  query := [(modeKey, mode)]
  logging := [("level".toList, .text "null".toList), ("log_file".toList, .bool true)]

theorem lookalike_isPlain {mode : Value} (h : FitsLine mode) : (lookalike mode).IsPlain := by
  refine ⟨fun sec => by cases sec <;> rfl, fun sec p hp => ?_⟩
  cases sec with
  | storage =>
    simp only [lookalike, get, List.mem_cons, List.not_mem_nil, or_false] at hp
    rcases hp with rfl | rfl | rfl | rfl | rfl
    · exact .of_printable (by decide)
    · exact .of_printable (by decide)
    · exact .int (lt_tenTo (by decide))
    · exact .of_printable (by decide)
    · exact .of_printable (by decide)
  | query =>
    rw [List.mem_singleton.1 hp]
    exact h
  | logging =>
    simp only [lookalike, get, List.mem_cons, List.not_mem_nil, or_false] at hp
    rcases hp with rfl | rfl
    · exact .of_printable (by decide)
    · exact .bool true

theorem load_save_sample :
    (FileTree.empty.write (Path.ofText "conf/app.yaml".toList) (.text [])).1 = .ok () ∧
      (lookalike (.text Mode.strict.name)).IsPlain ∧ (lookalike .null).IsPlain ∧
      load ((lookalike (.text Mode.strict.name)).save .empty "conf/app.yaml".toList).2
        "conf/app.yaml".toList = .ok (lookalike (.text Mode.strict.name)) ∧
      ((lookalike .null).save .empty "conf/app.yaml".toList).1 = .ok () ∧
      load ((lookalike .null).save .empty "conf/app.yaml".toList).2 "conf/app.yaml".toList =
        .error (.config (.unknownMode .null)) := by
  have hpath : (FileTree.empty.write (Path.ofText "conf/app.yaml".toList) (.text [])).1 = .ok () := by
    decide
  have hstrict : (lookalike (.text Mode.strict.name)).IsPlain :=
    lookalike_isPlain (.of_printable (by decide))
  have hnull : (lookalike .null).IsPlain := lookalike_isPlain .null
  exact ⟨hpath, hstrict, hnull, (load_save hstrict (Origins.suits_none _) hpath).2,
    load_save hnull (Origins.suits_none _) hpath⟩

end Almanac.Config
