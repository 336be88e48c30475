import Almanac.Proofs.GivenSettings

/-!
# Which faults of a configuration are reported

Whoever asks for a configuration gets one, or an error that says what is wrong with it, as long as the
data are a mapping and the mode in them can be shown. Data of another shape are not looked at, and
fail as whatever is asked of the wrong thing does. A file gives what the value of its document gives,
except that a document that says nothing gives the defaults.

A document is read section by section and setting by setting, each by itself. That this is its value
read as a whole holds if no part of the value starts over.

* `Document.valueInside_eq`: **what a node stands for does not depend on what it is inside of**.
* `proper_of_read`: the names in a mapping that was read differ.
* `ofDocument_eq`: a document is read as its value is.
* `reported_iff`: which faults are reported, of data and of files.
* `shapeless_document_escapes`: those of a document that is no mapping are not.
* `Workspace.step_load`: this is what a session answers.
-/

namespace Almanac

/-- **A part of a value is a collection that the value is inside of**, so that it starts over. -/
inductive Value.StartsOver : Value → Prop
  | enclosing (isMapping : Bool) : StartsOver (.enclosing isMapping)
  | item {items : List Value} {v : Value} (hv : v ∈ items) (h : StartsOver v) :
      StartsOver (.list items)
  | member {items : List Value} {v : Value} (hv : v ∈ items) (h : StartsOver v) :
      StartsOver (.set items)
  | key {entries : List (Value × Value)} {e : Value × Value} (he : e ∈ entries)
      (h : StartsOver e.1) : StartsOver (.mapping entries)
  | value {entries : List (Value × Value)} {e : Value × Value} (he : e ∈ entries)
      (h : StartsOver e.2) : StartsOver (.mapping entries)
  | first {v w : Value} (h : StartsOver v) : StartsOver (.pair v w)
  | second {v w : Value} (h : StartsOver w) : StartsOver (.pair v w)

namespace Yaml.Document

variable {doc : Document} {fuel fuel' n : Nat} {outside outside' : List Nat}

/-- There is fuel enough for the nodes that a value can still go through. -/
structure Room (doc : Document) (fuel : Nat) (outside : List Nat) : Prop where
  nodup : outside.Nodup
  nodes : ∀ n ∈ outside, n < doc.data.size
  enough : doc.data.size < outside.length + fuel

theorem room_nil (doc : Document) : doc.Room (doc.data.size + 1) [] := ⟨List.nodup_nil, nofun, by simp⟩

theorem Room.pos (h : doc.Room fuel outside) : 0 < fuel := by
  have hsub : outside ⊆ List.range doc.data.size := fun n hn => List.mem_range.2 (h.nodes n hn)
  have hlength := (List.subperm_of_subset h.nodup hsub).length_le
  have henough := h.enough
  rw [List.length_range] at hlength
  omega

theorem Room.cons (h : doc.Room (fuel + 1) outside) (hn : n ∉ outside) (hsize : n < doc.data.size) :
    doc.Room fuel (n :: outside) where
  nodup := List.nodup_cons.2 ⟨hn, h.nodup⟩
  nodes m hm := by
    rcases List.mem_cons.1 hm with rfl | hm
    · exact hsize
    · exact h.nodes m hm
  enough := by
    have := h.enough
    rw [List.length_cons]
    omega

/-- Only a node of the document is a collection. -/
theorem lt_of_datum (h : ∀ v, doc.datum n ≠ .scalar v) : n < doc.data.size := by
  by_contra hn
  exact h .null (by simp [datum, Array.getD, hn])

theorem startsOver_again (doc : Document) (n : Nat) : (doc.again n).StartsOver := by
  rw [again]
  split <;> exact .enclosing _

/-- **What a node stands for does not depend on what it is inside of**, as long as no part of it
starts over. -/
theorem valueInside_eq (hroom : doc.Room fuel outside) (hroom' : doc.Room fuel' outside')
    (hsub : outside' ⊆ outside) (h : ¬ (doc.valueInside fuel outside n).StartsOver) :
    doc.valueInside fuel' outside' n = doc.valueInside fuel outside n := by
  induction fuel generalizing fuel' outside outside' n with
  | zero => exact absurd hroom.pos (by decide)
  | succ fuel ih =>
    obtain ⟨fuel', rfl⟩ := Nat.exists_eq_succ_of_ne_zero hroom'.pos.ne'
    by_cases hn : n ∈ outside
    · rw [valueInside, if_pos (by simpa using hn)] at h
      exact absurd (startsOver_again doc n) h
    have hn' : n ∉ outside' := fun hmem => hn (hsub hmem)
    -- a collection is a node of the document, and stands on the way to its parts only once
    have hpart : (∀ v, doc.datum n ≠ .scalar v) → ∀ m,
        ¬ (doc.valueInside fuel (n :: outside) m).StartsOver →
        doc.valueInside fuel' (n :: outside') m = doc.valueInside fuel (n :: outside) m :=
      fun hdatum m => ih (hroom.cons hn (lt_of_datum hdatum)) (hroom'.cons hn' (lt_of_datum hdatum))
        (List.cons_subset_cons n hsub)
    rw [valueInside, if_neg (by simpa using hn)] at h
    rw [valueInside, valueInside, if_neg (by simpa using hn'), if_neg (by simpa using hn)]
    cases hdatum : doc.datum n with
    | scalar v => rfl
    | set members => rfl
    | list items =>
      rw [hdatum] at hpart h
      refine congrArg Value.list (List.map_congr_left fun m hm => hpart (by simp) m fun hm' => h ?_)
      exact .item (List.mem_map_of_mem hm) hm'
    | mapping entries =>
      rw [hdatum] at hpart h
      refine congrArg Value.mapping (List.map_congr_left fun e he => ?_)
      rw [hpart (by simp) e.2 fun he' => h (.value (List.mem_map_of_mem he) he')]
    | pairs entries =>
      rw [hdatum] at hpart h
      refine congrArg Value.list (List.map_congr_left fun e he => ?_)
      rw [hpart (by simp) e.1 fun he' => h (.item (List.mem_map_of_mem he) (.first he')),
        hpart (by simp) e.2 fun he' => h (.item (List.mem_map_of_mem he) (.second he'))]

/-- Only a mapping of the document is a mapping as a value. -/
theorem nodes_of_value {s : Source} {entries : List (Value × Value)} (hread : read s = .ok doc)
    (h : doc.valueInside fuel outside n = .mapping entries) :
    ∃ nodes fuel' outside', doc.datum n = .mapping nodes ∧
      entries = nodes.map fun e => (doc.scalar e.1, doc.valueInside fuel' outside' e.2) := by
  cases fuel with
  | zero => cases h
  | succ fuel =>
    rw [valueInside] at h
    split at h
    · rw [again] at h
      split at h <;> cases h
    · cases hdatum : doc.datum n with
      | mapping nodes =>
        rw [hdatum] at h
        exact ⟨nodes, fuel, n :: outside, rfl, (Value.mapping.inj h).symm⟩
      | scalar v =>
        rw [hdatum] at h
        have hscalar : v = .mapping entries := h
        have hkey := key?_of_read hread hdatum
        rw [hscalar] at hkey
        cases hkey
      | list items | set members | pairs nodes =>
        rw [hdatum] at h
        cases h

/-- **In a mapping that a document denotes no name stands for two values.** -/
theorem namesDiffer_of_read {s : Source} {entries : List (Value × Value)} (hread : read s = .ok doc)
    (h : doc.valueInside fuel outside n = .mapping entries) : Value.NamesDiffer entries := by
  obtain ⟨nodes, fuel', outside', hdatum, rfl⟩ := nodes_of_value hread h
  rw [Value.NamesDiffer, List.pairwise_map]
  refine (keysDiffer_of_read hread n nodes hdatum).imp fun hne name hfirst hsecond => hne ?_
  exact congrArg Value.key? (hfirst.trans hsecond.symm)

end Yaml.Document

namespace Config

open Yaml

variable {doc : Document} {fuel n : Nat} {outside : List Nat} {sec : Section} {data : Value}
  {entries : List (Nat × Nat)} {tree : FileTree} {path : Text} {content : FileContent}

/-! ## Documents -/

/-- A section that is read setting by setting is its value read as a whole. -/
theorem sectionValue_eq (hroom : doc.Room fuel outside)
    (h : ¬ (doc.valueInside fuel outside n).StartsOver) :
    sectionValue doc n = doc.valueInside fuel outside n := by
  have hvalue : doc.value n = doc.valueInside fuel outside n :=
    Document.valueInside_eq hroom doc.room_nil (List.nil_subset _) h
  cases hdatum : doc.datum n with
  | mapping entries =>
    obtain ⟨fuel, rfl⟩ := Nat.exists_eq_succ_of_ne_zero hroom.pos.ne'
    have hn : n ∉ outside := by
      intro hn
      rw [Document.valueInside, if_pos (by simpa using hn)] at h
      exact h (Document.startsOver_again doc n)
    have hsize : n < doc.data.size := Document.lt_of_datum (by simp [hdatum])
    rw [Document.valueInside, if_neg (by simpa using hn), hdatum] at h ⊢
    rw [sectionValue, hdatum]
    refine congrArg Value.mapping (List.map_congr_left fun e he => ?_)
    have hpart : doc.value e.2 = doc.valueInside fuel (n :: outside) e.2 :=
      Document.valueInside_eq (hroom.cons hn hsize) doc.room_nil (List.nil_subset _)
        fun he' => h (.value (List.mem_map_of_mem he) he')
    rw [hpart]
  | scalar v | list items | set members | pairs entries =>
    rw [sectionValue, hdatum]
    exact hvalue

/-- The sections of a document hold what its entries hold under their names. -/
theorem member?_sections (doc : Document) (entries : List (Nat × Nat)) (sec : Section) :
    member? ((sectionNodes doc entries).map fun p => (.text p.1.name, sectionValue doc p.2)) sec.name =
      (entries.find? fun e => doc.scalar e.1 = .text sec.name).map fun e => sectionValue doc e.2 := by
  induction entries with
  | nil => rfl
  | cons e entries ih =>
    by_cases hname : doc.scalar e.1 = .text sec.name
    · have hnodes : sectionNodes doc (e :: entries) = (sec, e.2) :: sectionNodes doc entries := by
        have hof : Section.ofName? sec.name = some sec := by cases sec <;> rfl
        simp [sectionNodes, hname, hof]
      rw [hnodes, List.find?_cons_of_pos (by simpa using hname)]
      simp [member?]
    · rw [List.find?_cons_of_neg (by simpa using hname), ← ih]
      cases hscalar : doc.scalar e.1 with
      | text name =>
        cases hof : Section.ofName? name with
        | none => simp [sectionNodes, hscalar, hof]
        | some other =>
          have hother : other.name ≠ sec.name := by
            intro heq
            exact hname (by rw [hscalar, ← name_of_ofName? hof, heq])
          simp [sectionNodes, hscalar, hof, member?, hother]
      | _ => simp [sectionNodes, hscalar]

theorem member?_map (part : Nat → Value) (entries : List (Nat × Nat)) (name : Text) :
    member? (entries.map fun e => (doc.scalar e.1, part e.2)) name =
      (entries.find? fun e => doc.scalar e.1 = .text name).map fun e => part e.2 := by
  have hkey : (fun e : Nat × Nat => decide ((doc.scalar e.1).key? = some (.text name))) =
      fun e => decide (doc.scalar e.1 = .text name) := by
    funext e
    exact decide_eq_decide.2 Store.key?_eq_text_iff
  rw [member?, List.find?_map, Option.map_map]
  exact congrArg (fun test => (entries.find? test).map fun e => part e.2) hkey

theorem ofValue_congr {es fs : List (Value × Value)}
    (h : ∀ sec : Section, member? es sec.name = member? fs sec.name) :
    ofValue (.mapping es) = ofValue (.mapping fs) := by
  simp only [ofValue, h]

/-- A document whose root is no mapping says nothing, or is no configuration. -/
theorem ofDocument_of_not_mapping (hroot : ∀ entries, doc.datum doc.root ≠ .mapping entries)
    (hvalue : ∀ entries, doc.value doc.root ≠ .mapping entries) :
    (ofDocument doc).map (·.config) =
      if (doc.value doc.root).isTrue then ofValue (doc.value doc.root) else .ok default := by
  rw [ofValue_of_not_mapping hvalue, ofDocument]
  split
  · rename_i entries hdatum
    exact absurd hdatum (hroot entries)
  · split <;> rfl

/-- **A document is read as its value is**, unless it says nothing. -/
theorem ofDocument_eq {s : Source} (hread : Document.read s = .ok doc)
    (h : ¬ (doc.value doc.root).StartsOver) :
    (ofDocument doc).map (·.config) =
      if (doc.value doc.root).isTrue then ofValue (doc.value doc.root) else .ok default := by
  cases hroot : doc.datum doc.root with
  | mapping entries =>
    have hsize : doc.root < doc.data.size := Document.lt_of_datum (by simp [hroot])
    have hvalue : doc.value doc.root = .mapping (entries.map fun e =>
        (doc.scalar e.1, doc.valueInside doc.data.size [doc.root] e.2)) := by
      simp [Document.value, Document.valueInside, hroot]
    -- reading asks for nothing but what stands under the names of sections
    have hsame : ∀ sec : Section,
        member? ((sectionNodes doc entries).map fun p => (.text p.1.name, sectionValue doc p.2))
          sec.name = member? (entries.map fun e =>
            (doc.scalar e.1, doc.valueInside doc.data.size [doc.root] e.2)) sec.name := by
      intro sec
      rw [member?_sections, member?_map]
      refine Option.map_congr fun e he => sectionValue_eq (doc.room_nil.cons (by simp) hsize) ?_
      rw [hvalue] at h
      exact fun he' => h (.value (List.mem_map_of_mem (List.mem_of_find?_eq_some he)) he')
    have hsections : (ofDocument doc).map (·.config) = ofValue (.mapping
        ((sectionNodes doc entries).map fun p => (.text p.1.name, sectionValue doc p.2))) := by
      rw [ofDocument, hroot]
      dsimp only
      generalize ofValue (.mapping ((sectionNodes doc entries).map fun p =>
        (.text p.1.name, sectionValue doc p.2))) = made
      cases made <;> rfl
    rw [hsections, ofValue_congr hsame, ← hvalue]
    split
    · rfl
    · rename_i hfalse
      have hnil : entries = [] := by simpa [hvalue, Value.isTrue] using hfalse
      rw [hvalue, hnil]
      rfl
  | scalar v =>
    refine ofDocument_of_not_mapping (by simp [hroot]) fun entries heq => ?_
    rw [Document.value_scalar hroot] at heq
    have hkey := Document.key?_of_read hread hroot
    rw [heq] at hkey
    cases hkey
  | list items | set members | pairs entries =>
    refine ofDocument_of_not_mapping (by simp [hroot]) ?_
    simp [Document.value, Document.valueInside, hroot]

/-- A document denotes data in which no name stands for two values. -/
theorem proper_of_read {s : Source} {entries : List (Value × Value)}
    (hread : Document.read s = .ok doc) (h : doc.value doc.root = .mapping entries) :
    Proper entries where
  sections := Document.namesDiffer_of_read hread h
  settings sec given hgiven := by
    obtain ⟨nodes, fuel', outside', -, rfl⟩ := Document.nodes_of_value hread h
    obtain ⟨e, -, he⟩ := List.mem_map.1 hgiven
    exact Document.namesDiffer_of_read hread (Prod.mk.inj he).2

/-! ## What is reported -/

/-- **Someone who asks for a configuration gets it**, or an error that says what is wrong with it. -/
def Reported (r : Except Fault Config) : Prop :=
  (∃ c, r = .ok c) ∨ ∃ e : ConfigError, r = .error (.config e)

/-- The data are a mapping, and what is at fault in them can be shown. -/
def Reportable (data : Value) : Prop :=
  ∃ entries, data = .mapping entries ∧ ∀ e, Refused entries e → ¬ Hidden e

theorem load_of_file (h : tree.place (Path.ofText path) = .file content) :
    load tree path = (ofContent content).map (·.config) := by
  have hcontent : tree.content (Path.ofText path) = .ok content := by
    rw [FileTree.content, h]
  rw [load, loadWhole]
  simp only [h, hcontent, bind, Except.bind]

/-- **A file is read as the value of its document is**, unless that says nothing. -/
theorem load_eq (hfile : tree.place (Path.ofText path) = .file content)
    (hread : Document.read (source content) = .ok doc) (h : ¬ (doc.value doc.root).StartsOver) :
    load tree path =
      if (doc.value doc.root).isTrue then ofValue (doc.value doc.root) else .ok default := by
  rw [load_of_file hfile, ofContent, hread]
  exact ofDocument_eq hread h

/-- A file without a document that can be read fails as the reader does. -/
theorem load_of_unread {kind : ExternalFault}
    (hfile : tree.place (Path.ofText path) = .file content)
    (hread : Document.read (source content) = .error kind) :
    load tree path = .error (.external kind) := by
  rw [load_of_file hfile, ofContent, hread]
  rfl

theorem not_reported_external (kind : ExternalFault) : ¬ Reported (.error (.external kind)) := by
  rintro (⟨c, hc⟩ | ⟨e, he⟩)
  · cases hc
  · cases he

theorem reported_raised_iff (e : ConfigError) :
    Reported (.error (Fault.config e).raised) ↔ ¬ Hidden e := by
  refine ⟨?_, fun hshown => .inr ⟨e, ?_⟩⟩
  · rintro hreported ⟨k, hk⟩
    rw [(raised_config e).2 k hk] at hreported
    exact not_reported_external _ hreported
  · rw [(raised_config e).1 hshown]

/-- Of a mapping all faults are reported but a mode that cannot be shown. -/
theorem ofValue_mapping_reported {entries : List (Value × Value)} (h : Proper entries) :
    (Reported (ofValue (.mapping entries)) ↔ ∀ e, Refused entries e → ¬ Hidden e) ∧
      (¬ Reported (ofValue (.mapping entries)) →
        ofValue (.mapping entries) = .error (.external .unshowable) ∨
          ofValue (.mapping entries) = .error (.external .tooDeep)) := by
  rcases ofValue_cases h with ⟨hadmitted, hmade⟩ | ⟨e, hrefused, hraised⟩
  · exact ⟨⟨fun _ e he => absurd hadmitted (not_admitted_of_refused he), fun _ => .inl ⟨_, hmade⟩⟩,
      fun hnot => absurd (.inl ⟨_, hmade⟩) hnot⟩
  · -- whatever counts as refused in the data is what was raised
    refine ⟨⟨fun hreported e' he' => ?_, fun hall => ?_⟩, fun hnot => ?_⟩
    · rw [ofValue_of_refused h he'] at hreported
      exact (reported_raised_iff e').1 hreported
    · rw [hraised]
      exact (reported_raised_iff e).2 (hall e hrefused)
    · rw [hraised, reported_raised_iff, not_not] at hnot
      obtain ⟨k, hk⟩ := hnot
      rw [hraised, (raised_config e).2 k hk]
      obtain ⟨mode, -, hmode⟩ := hk
      rcases Value.unshowable?_eq_some hmode with rfl | rfl
      · exact .inl rfl
      · exact .inr rfl

/-- **Which faults of data are reported**, and what comes of the others. -/
theorem ofValue_reported (h : ∀ entries, data = .mapping entries → Proper entries) :
    (Reported (ofValue data) ↔ Reportable data) ∧
      (¬ Reportable data → ofValue data = .error (.external .wrongShape) ∨
        ofValue data = .error (.external .unshowable) ∨
          ofValue data = .error (.external .tooDeep)) := by
  by_cases hmapping : ∃ entries, data = .mapping entries
  · obtain ⟨entries, rfl⟩ := hmapping
    have hreportable : Reportable (.mapping entries) ↔ ∀ e, Refused entries e → ¬ Hidden e := by
      refine ⟨?_, fun hall => ⟨entries, rfl, hall⟩⟩
      rintro ⟨_, ⟨⟩, hall⟩
      exact hall
    obtain ⟨hiff, hfault⟩ := ofValue_mapping_reported (h entries rfl)
    rw [hreportable, ← hiff]
    exact ⟨Iff.rfl, fun hnot => .inr (hfault hnot)⟩
  · have hnot : ∀ entries, data ≠ .mapping entries := fun entries heq => hmapping ⟨entries, heq⟩
    have hunreportable : ¬ Reportable data := by
      rintro ⟨entries, heq, -⟩
      exact hnot entries heq
    rw [ofValue_of_not_mapping hnot]
    exact ⟨iff_of_false (not_reported_external _) hunreportable, fun _ => .inl rfl⟩

/-- **Which faults of a configuration are reported.** Of data, those that are reportable, and of a file
those of the value of its document, if the document can be read and says anything. What is not
reported is one of three failures: that of data that are no mapping, and that of a message that would
show a number with too many digits or values too deep inside each other; of a file it may also be the
reader's. -/
theorem reported_iff (data : Value) (tree : FileTree) (path : Text) :
    ((∀ entries, data = .mapping entries → Proper entries) →
      (Reported (ofValue data) ↔ Reportable data) ∧
        (¬ Reportable data → ofValue data = .error (.external .wrongShape) ∨
          ofValue data = .error (.external .unshowable) ∨
            ofValue data = .error (.external .tooDeep))) ∧
      ∀ content, tree.place (Path.ofText path) = .file content →
        (∀ doc, Document.read (source content) = .ok doc → ¬ (doc.value doc.root).StartsOver →
          (Reported (load tree path) ↔
            (doc.value doc.root).isTrue = false ∨ Reportable (doc.value doc.root)) ∧
          ((doc.value doc.root).isTrue = true → load tree path = ofValue (doc.value doc.root)) ∧
          ((doc.value doc.root).isTrue = false → load tree path = .ok default)) ∧
        ∀ kind, Document.read (source content) = .error kind →
          load tree path = .error (.external kind) := by
  refine ⟨fun h => ofValue_reported h, fun content hfile =>
    ⟨fun doc hread hover => ?_, fun kind hread => load_of_unread hfile hread⟩⟩
  have hreported := (ofValue_reported fun entries h => proper_of_read hread h).1
  rw [load_eq hfile hread hover, ← hreported]
  cases (doc.value doc.root).isTrue with
  | true => simp
  | false => simp [Reported]

/-- The text of a document that is a list. -/
def listedText : Text := "- storage\n".toList

/-- The value of that document. -/
def listedValue : Value := .list [.text Section.storage.name]

theorem exists_listed :
    ∃ doc, Document.read (source (.text listedText)) = .ok doc ∧ doc.value doc.root = listedValue := by
  have hvalue : (Document.read (source (.text listedText))).toOption.map
      (fun doc => doc.value doc.root) = some listedValue := by decide +kernel
  obtain ⟨doc, hdoc, hlisted⟩ := Option.map_eq_some_iff.1 hvalue
  cases hread : Document.read (source (.text listedText)) with
  | error kind =>
    rw [hread] at hdoc
    cases hdoc
  | ok found =>
    rw [hread] at hdoc
    cases hdoc
    exact ⟨doc, rfl, hlisted⟩

theorem not_startsOver_listedValue : ¬ listedValue.StartsOver := by
  rintro (_ | ⟨hv, h⟩)
  rw [List.mem_singleton.1 hv] at h
  cases h

/-- The files of a program with that document among them. -/
def listedFiles : FileTree := (FileTree.empty.write (Path.ofText "app.yaml".toList) (.text listedText)).2

theorem reported_iff_sample :
    (Proper faultyData ∧ Reported (ofValue (.mapping faultyData)) ∧ Reportable (.mapping faultyData)) ∧
      listedFiles.place (Path.ofText "app.yaml".toList) = .file (.text listedText) ∧
      ∃ doc, Document.read (source (.text listedText)) = .ok doc ∧ ¬ (doc.value doc.root).StartsOver ∧
        ¬ Reportable (doc.value doc.root) ∧
        load listedFiles "app.yaml".toList = .error (.external .wrongShape) := by
  have hproper : ∀ entries, Value.mapping faultyData = .mapping entries → Proper entries := by
    rintro _ ⟨⟩
    exact proper_faultyData
  have hreported : Reported (ofValue (.mapping faultyData)) := .inr ⟨_, rfl⟩
  have hplace : listedFiles.place (Path.ofText "app.yaml".toList) = .file (.text listedText) :=
    FileTree.place_write (by decide)
  obtain ⟨doc, hread, hvalue⟩ := exists_listed
  have hover : ¬ (doc.value doc.root).StartsOver := hvalue ▸ not_startsOver_listedValue
  have hnot : ¬ Reportable (doc.value doc.root) := by
    rintro ⟨entries, heq, -⟩
    rw [hvalue] at heq
    cases heq
  obtain ⟨hdata, hfile⟩ := reported_iff (.mapping faultyData) listedFiles "app.yaml".toList
  have hload := ((hfile _ hplace).1 doc hread hover).2.1 (by rw [hvalue]; rfl)
  refine ⟨⟨proper_faultyData, hreported, (hdata hproper).1.1 hreported⟩, hplace, doc, hread, hover,
    hnot, ?_⟩
  rw [hload, hvalue]
  rfl

/-- **A document that is no mapping escapes**: what is asked of its value fails, and nobody says that it
is the configuration that is wrong. -/
theorem shapeless_document_escapes :
    ¬ ∀ tree path content doc, tree.place (Path.ofText path) = .file content →
      Document.read (source content) = .ok doc → ¬ (doc.value doc.root).StartsOver →
      Reported (load tree path) := by
  intro h
  obtain ⟨doc, hread, hvalue⟩ := exists_listed
  have hplace : listedFiles.place (Path.ofText "app.yaml".toList) = .file (.text listedText) :=
    FileTree.place_write (by decide)
  have hover : ¬ (doc.value doc.root).StartsOver := hvalue ▸ not_startsOver_listedValue
  have hreported := h listedFiles "app.yaml".toList (.text listedText) doc hplace hread hover
  rw [load_eq hplace hread hover, hvalue] at hreported
  exact not_reported_external _ hreported

end Config

namespace Workspace

/-- A file that is read in a session is answered with the configuration that it holds. -/
theorem step_load (w : Workspace) (path : Text) :
    (w.step (.load path)).1 = shown ((Config.load w.files path).map .config) := by
  rw [Config.load]
  cases h : Config.loadWhole w.files path <;> simp [step, act, adopt, h, Except.map]

end Workspace

end Almanac
