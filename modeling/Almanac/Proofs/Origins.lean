import Almanac.Config.Session
import Almanac.Proofs.MappingKeys

/-!
# Where settings stem from

A setting that was read from a document stems from one of its nodes, and is written as that node is.
This only makes sense because it has that node's value. It has it when it is read, as no key of a
mapping is repeated in what a document denotes; and whoever gives it another value takes its origin
away.

* `ofDocument_suits`: **what is read from a document has the values of its nodes**.
* `Workspace.act_suited`, `Workspace.session_suited`: so it is at every time of a session.
-/

namespace Almanac

namespace Record

variable {r : Record} {n : Text} {v : Value} {p : Text × Value}

/-- What stands under other names is left where it is. -/
theorem mem_of_mem_put (h : p ∈ r.put n v) (hne : p.1 ≠ n) : p ∈ r := by
  induction r with
  | nil => exact absurd (congrArg Prod.fst (List.mem_singleton.1 h)) hne
  | cons q r ih =>
    obtain ⟨k, w⟩ := q
    rw [put] at h
    split at h <;> rename_i hk
    · rcases List.mem_cons.1 h with heq | hmem
      · exact absurd (by rw [heq, hk]) hne
      · exact List.mem_cons_of_mem _ hmem
    · rcases List.mem_cons.1 h with heq | hmem
      · rw [heq]; exact List.mem_cons_self
      · exact List.mem_cons_of_mem _ (ih hmem)

end Record

namespace Config

open Yaml

variable {c c' : Config} {o : Origins} {doc : Document} {sec : Section} {n : Nat} {key : Text}
  {entries : List (Nat × Nat)}

/-- A setting that stems from a node of a document has the node's value. -/
def Origins.Suits (o : Origins) (c : Config) : Prop :=
  ∀ sec, ∀ p ∈ c.get sec, ∀ n, ((sec, p.1), n) ∈ o.nodes → o.document.value n = p.2

/-- What stems from no document has no node to agree with. -/
theorem Origins.suits_none (c : Config) : Origins.none.Suits c := by
  intro sec p _ n hn
  cases hn

theorem nodup_defaults (sec : Section) : (sec.defaults.names).Nodup := by
  cases sec <;> decide

theorem textPairs?_eq_some_iff {pairs : List (Value × Value)} {settings : Record} :
    textPairs? pairs = some settings ↔ pairs = settings.map fun p => (.text p.1, p.2) := by
  constructor
  · intro h
    induction pairs generalizing settings with
    | nil => cases h; rfl
    | cons p pairs ih =>
      obtain ⟨k, v⟩ := p
      cases k with
      | text k =>
        obtain ⟨rest, hrest, rfl⟩ := Option.map_eq_some_iff.1 h
        rw [List.map_cons, ← ih hrest]
      | _ => cases h
  · rintro rfl
    induction settings with
    | nil => rfl
    | cons p settings ih => rw [List.map_cons, textPairs?, ih]; rfl

/-! ## Reading -/

/-- Checking the mode changes nothing. -/
theorem eq_of_checkMode {laid settings : Record} (h : checkMode sec laid = .ok settings) :
    settings = laid := by
  rw [checkMode] at h
  split at h <;> cases h
  rfl

theorem readSection_eq_ok {given : Value} {settings : Record} (h : readSection sec given = .ok settings) :
    ∃ laid : Record, given = .mapping (laid.map fun p => (.text p.1, p.2)) ∧
      settings = sec.defaults.putAll laid ∧ settings.names = sec.defaults.names := by
  cases given with
  | mapping pairs =>
    rw [readSection] at h
    split at h
    · cases h
    · rename_i laid hlaid
      obtain ⟨found, hoverlay, hmode⟩ := bind_eq_ok_iff.1 h
      have hsettings : settings = found := eq_of_checkMode hmode
      rw [overlay] at hoverlay
      split at hoverlay
      · cases hoverlay
      · rename_i hknown
        have hfound : sec.defaults.putAll laid = found := Except.ok.inj hoverlay
        have hnames : ∀ p ∈ laid, p.1 ∈ sec.defaults.names := by
          intro p hp
          have := List.find?_eq_none.1 hknown p.1 (List.mem_map_of_mem hp)
          simpa using this
        refine ⟨laid, by rw [textPairs?_eq_some_iff.1 hlaid], hsettings.trans hfound.symm, ?_⟩
        rw [hsettings, ← hfound, Record.names_putAll hnames]
  | _ => cases h

theorem get_of_ofValue {pairs : List (Value × Value)} (h : ofValue (.mapping pairs) = .ok c)
    (sec : Section) : readSection sec ((member? pairs sec.name).getD (.mapping [])) = .ok (c.get sec) := by
  obtain ⟨storage, hstorage, h⟩ := bind_eq_ok_iff.1 h
  obtain ⟨query, hquery, h⟩ := bind_eq_ok_iff.1 h
  obtain ⟨logging, hlogging, h⟩ := bind_eq_ok_iff.1 h
  cases h
  cases sec with
  | storage => exact hstorage
  | query => exact hquery
  | logging => exact hlogging

theorem sectionName_injective : Function.Injective Section.name := by
  intro a b h
  cases a <;> cases b <;> first | rfl | exact absurd h (by decide)

theorem name_of_ofName? {name : Text} (h : Section.ofName? name = some sec) : sec.name = name := by
  simpa using List.find?_some h

theorem scalar_of_mem_sectionNodes {p : Section × Nat} (h : p ∈ sectionNodes doc entries) :
    ∃ e ∈ entries, doc.scalar e.1 = .text p.1.name := by
  obtain ⟨e, he, hp⟩ := List.mem_filterMap.1 h
  refine ⟨e, he, ?_⟩
  split at hp
  · rename_i name hscalar
    obtain ⟨sec, hsec, rfl⟩ := Option.map_eq_some_iff.1 hp
    rw [hscalar, name_of_ofName? hsec]
  · cases hp

/-- **A section stands only once in a document.** -/
theorem nodup_sectionNodes (hdoc : doc.KeysDiffer) (h : doc.datum n = .mapping entries) :
    ((sectionNodes doc entries).map (·.1)).Nodup := by
  rw [List.Nodup, List.pairwise_map]
  refine (hdoc n entries h).filterMap _ fun e f hne p hp q hq heq => hne ?_
  have hname : ∀ {e : Nat × Nat} {p : Section × Nat}, p ∈ sectionNodes doc [e] →
      doc.scalar e.1 = .text p.1.name := by
    intro e p hmem
    obtain ⟨d, hd, hscalar⟩ := scalar_of_mem_sectionNodes hmem
    rwa [List.mem_singleton.1 hd] at hscalar
  have hfirst : p ∈ sectionNodes doc [e] := List.mem_filterMap.2 ⟨e, List.mem_singleton_self e, hp⟩
  have hsecond : q ∈ sectionNodes doc [f] := List.mem_filterMap.2 ⟨f, List.mem_singleton_self f, hq⟩
  rw [hname hfirst, hname hsecond, heq]

/-- What a section of a document holds under a name that stands in it. -/
theorem member?_sectionNodes {nodes : List (Section × Nat)} (hnodup : (nodes.map (·.1)).Nodup)
    (h : (sec, n) ∈ nodes) :
    member? (nodes.map fun p => (.text p.1.name, sectionValue doc p.2)) sec.name =
      some (sectionValue doc n) := by
  have hexists : (nodes.find? fun p => (Value.text p.1.name).key? = some (.text sec.name)).isSome :=
    List.find?_isSome.2 ⟨(sec, n), h, by simp⟩
  obtain ⟨q, hq⟩ := Option.isSome_iff_exists.1 hexists
  have hsec : q.1 = sec := sectionName_injective (by simpa using List.find?_some hq)
  have hfound : q = (sec, n) := List.inj_on_of_nodup_map hnodup (List.mem_of_find?_eq_some hq) h hsec
  rw [member?, List.find?_map]
  change ((nodes.find? fun p => (Value.text p.1.name).key? = some (.text sec.name)).map _).map _ = _
  rw [hq, hfound]
  rfl

section

variable {laid : Record} (hlaid : entries.map (fun e => (doc.scalar e.1, doc.value e.2)) =
  laid.map fun p => (.text p.1, p.2))

include hlaid

/-- Under a name, what is laid over a section is the value of the node there. -/
theorem mem_laid {e : Nat × Nat} (he : e ∈ entries) (hkey : doc.scalar e.1 = .text key) :
    (key, doc.value e.2) ∈ laid := by
  have hentry : (doc.scalar e.1, doc.value e.2) ∈ laid.map fun p => (Value.text p.1, p.2) := by
    rw [← hlaid]
    exact List.mem_map_of_mem he
  obtain ⟨q, hq, heq⟩ := List.mem_map.1 hentry
  rw [hkey] at heq
  obtain ⟨hname, hvalue⟩ := Prod.mk.inj heq
  have hfound : q = (key, doc.value e.2) := Prod.ext (Value.text.inj hname) hvalue
  rwa [← hfound]

/-- **A setting stands only once in its section.** -/
theorem nodup_laid (hdoc : doc.KeysDiffer) (h : doc.datum n = .mapping entries) : laid.names.Nodup := by
  have hdiffer : (laid.map fun p => (Value.text p.1, p.2)).Pairwise fun p q => p.1.key? ≠ q.1.key? := by
    rw [← hlaid, List.pairwise_map]
    exact hdoc n entries h
  rw [List.pairwise_map] at hdiffer
  rw [Record.names, List.Nodup, List.pairwise_map]
  exact hdiffer.imp fun hne heq => hne (by rw [heq])

end

/-- A setting that stems from a node stands under its name in the mapping of its section. -/
theorem mem_ofSection {p : (Section × Text) × Nat} {m : Nat} (h : p ∈ Origins.ofSection doc sec m) :
    p.1.1 = sec ∧ ∃ entries, doc.datum m = .mapping entries ∧
      ∃ e ∈ entries, doc.scalar e.1 = .text p.1.2 ∧ e.2 = p.2 := by
  rw [Origins.ofSection] at h
  split at h
  · rename_i entries hentries
    obtain ⟨e, he, hp⟩ := List.mem_filterMap.1 h
    split at hp
    · rename_i key hkey
      cases hp
      exact ⟨rfl, entries, hentries, e, he, hkey, rfl⟩
    · cases hp
  · cases h

/-- **What is read from a document has the values of its nodes.** -/
theorem ofDocument_suits (hdoc : doc.KeysDiffer) {l : Loaded} (h : ofDocument doc = .ok l) :
    l.origins.Suits l.config := by
  rw [ofDocument] at h
  split at h
  · rename_i entries hroot
    obtain ⟨c, hc, hl⟩ := bind_eq_ok_iff.1 h
    cases hl
    intro sec p hp n hn
    have hnodes := nodup_sectionNodes hdoc hroot
    obtain ⟨⟨sec', m⟩, hm, hsection⟩ := List.mem_flatMap.1 hn
    obtain ⟨hsec, inner, hinner, e, he, hkey, rfl⟩ := mem_ofSection hsection
    cases hsec
    have hread := get_of_ofValue hc sec
    rw [member?_sectionNodes hnodes hm, Option.getD_some, sectionValue, hinner] at hread
    obtain ⟨laid, hlaid, hsettings, hnames⟩ := readSection_eq_ok hread
    have hsame := Value.mapping.inj hlaid
    have hlast : (c.get sec).get? p.1 = some (doc.value e.2) := by
      rw [hsettings]
      exact Record.get?_putAll_of_mem (nodup_laid hsame hdoc hinner) (mem_laid hsame he hkey)
    have hfirst : (c.get sec).get? p.1 = some p.2 :=
      Record.get?_of_mem (by rw [hnames]; exact nodup_defaults sec) hp
    exact Option.some.inj (hlast.symm.trans hfirst)
  · split at h
    · cases h
    · cases h
      exact Origins.suits_none _

theorem loadWhole_suits {tree : FileTree} {path : Text} {l : Loaded} (h : loadWhole tree path = .ok l) :
    l.origins.Suits l.config := by
  rw [loadWhole] at h
  split at h
  · cases h
  · obtain ⟨content, -, h⟩ := bind_eq_ok_iff.1 h
    rw [ofContent] at h
    split at h
    · rename_i doc hdoc
      exact ofDocument_suits (Document.keysDiffer_of_read hdoc) h
    · cases h

/-! ## Giving values -/

theorem get_put (c : Config) (sec other : Section) (settings : Record) :
    (c.put sec settings).get other = if other = sec then settings else c.get other := by
  cases sec <;> cases other <;> rfl

/-- Only the settings of the section are others, and of these only one if it is given by name. -/
theorem assign_eq_ok {value : Value} (h : c.assign sec key value = .ok c') :
    ∃ settings, c' = c.put sec settings ∧
      (key ≠ wholeName → settings = (c.get sec).put key value) := by
  unfold Config.assign at h
  split at h
  · rename_i hwhole
    split at h
    · split at h
      · cases h
        exact ⟨_, rfl, fun hne => absurd hwhole hne⟩
      · cases h
    · cases h
  · split at h
    · cases h
    · split at h
      · cases h
      · cases h
        exact ⟨_, rfl, fun _ => rfl⟩

/-- **A setting that is given a value no longer stems from a node**, and the others are left. -/
theorem Origins.Suits.assign (h : o.Suits c) {value : Value}
    (hassign : c.assign sec key value = .ok c') : (o.erase sec key).Suits c' := by
  intro sec' p hp n hn
  obtain ⟨hmem, hkept⟩ := List.mem_filter.1 hn
  simp only [ne_eq, decide_eq_true_eq] at hkept
  refine h sec' p ?_ n hmem
  obtain ⟨settings, rfl, hsettings⟩ := assign_eq_ok hassign
  rw [get_put] at hp
  split at hp
  · rename_i hsec
    obtain ⟨hwhole, hne⟩ := hkept.resolve_left (not_not_intro hsec)
    rw [hsettings hwhole] at hp
    rw [hsec]
    exact Record.mem_of_mem_put hp hne
  · exact hp

end Config

/-! ## Sessions -/

namespace Workspace

variable {w : Workspace}

/-- The current configuration has the values of the nodes that its settings stem from. -/
def Suited (w : Workspace) : Prop := w.origins.Suits w.config

theorem adopt_suited (h : w.Suited) {r : Except Fault Config.Loaded}
    (hr : ∀ l, r = .ok l → l.origins.Suits l.config) : (w.adopt r).2.Suited := by
  cases r with
  | ok l => exact hr l rfl
  | error f => exact h

theorem adoptPlain_suited (h : w.Suited) (r : Except Fault Config) : (w.adoptPlain r).2.Suited := by
  refine adopt_suited h fun l hl => ?_
  obtain ⟨c, -, rfl⟩ := map_eq_ok_iff.1 hl
  exact Config.Origins.suits_none c

theorem origins_partFrom (w : Workspace) (sec : Section) : (w.partFrom sec).origins = w.origins := by
  rw [partFrom]
  split <;> rfl

theorem assign_suited (h : w.Suited) (sec : Section) (key : Text) (value : Value) :
    (w.assign sec key value).2.Suited := by
  rw [assign]
  split
  · exact h
  · rename_i c hc
    have horigins : (if key = Config.wholeName then w.partFrom sec else w).origins = w.origins := by
      split
      · exact origins_partFrom w sec
      · rfl
    change Config.Origins.Suits (Config.Origins.erase _ sec key) c
    rw [horigins]
    exact h.assign hc

/-- **A step leaves the current configuration with the values of its nodes.** -/
theorem act_suited (h : w.Suited) (st : ConfigStep) : (w.act st).2.Suited := by
  cases st with
  | default | read | environment => exact adoptPlain_suited h _
  | load => exact adopt_suited h fun l hl => Config.loadWhole_suits hl
  | set sec key value => exact assign_suited h sec key value
  | write | fileText | save | «show» | hold | held | openDatabase => exact h

/-- The session after some steps, whatever they answer. -/
def after (w : Workspace) (steps : List ConfigStep) : Workspace :=
  steps.foldl (fun w st => (w.step st).2) w

theorem after_suited (h : w.Suited) (steps : List ConfigStep) : (w.after steps).Suited := by
  induction steps generalizing w with
  | nil => exact h
  | cons st rest ih => exact ih (act_suited h st)

/-- **So it is at every time of a session.** -/
theorem session_suited (steps : List ConfigStep) : (initial.after steps).Suited :=
  after_suited (w := initial) (Config.Origins.suits_none _) steps

end Workspace

end Almanac
