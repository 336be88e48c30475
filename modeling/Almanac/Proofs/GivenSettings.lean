import Almanac.Fault.Kind
import Almanac.Proofs.SavedConfig

/-!
# Settings that are given

Data are read section by section. A section that is given must be a mapping of names of its
settings, and the mode that it gives must be one that there is; then what is given is laid over the
defaults. The first section that is anything else is reported, and what comes behind it is not
looked at.

* `readSection_cases`: **one section**, admitted or refused.
* `ofValue_cases`, `ofValue_of_refused`: **all of them**, in their order.
* `ofValue_outcome`: which data make a configuration, which one, and what is reported otherwise.
* `hidden_mode_escapes`: a mode that there is not is reported only if it can be shown.
* `Workspace.step_read`: this is what a session answers.
-/

namespace Almanac

/-- What a mapping holds under a name. -/
def Value.member? : Value → Text → Option Value
  | .mapping entries, name => Config.member? entries name
  | _, _ => none

/-- No two entries have one text as their keys. -/
def Value.NamesDiffer (entries : List (Value × Value)) : Prop :=
  entries.Pairwise fun e f => ∀ name, e.1 = .text name → f.1 ≠ .text name

namespace Section

/-- **What a section can be given**: a mapping whose keys are names of its settings, with no mode
but those that there are. -/
def Admits (sec : Section) (given : Value) : Prop :=
  ∃ entries, given = .mapping entries ∧
    (∀ e ∈ entries, ∃ name ∈ sec.defaults.names, e.1 = .text name) ∧
    (sec = .query → ∀ mode, (.text Config.modeKey, mode) ∈ entries →
      mode = .text Mode.naive.name ∨ mode = .text Mode.strict.name)

/-- **Why a section cannot be given a value.** Of several reasons the first one here counts, and of
several names that are not among its settings the first one in the mapping. -/
inductive Refuses (sec : Section) (given : Value) : ConfigError → Prop
  | notMapping (h : ∀ entries, given ≠ .mapping entries) : Refuses sec given (.notMapping sec given)
  | nameless {entries : List (Value × Value)} {e : Value × Value} (h : given = .mapping entries)
      (he : e ∈ entries) (hkey : ∀ name, e.1 ≠ .text name) : Refuses sec given (.namelessSetting sec)
  | unknown {before after : Record} {name : Text} {v : Value}
      (h : given = Config.mappingOf (before ++ (name, v) :: after))
      (hbefore : ∀ p ∈ before, p.1 ∈ sec.defaults.names) (hname : name ∉ sec.defaults.names) :
      Refuses sec given
        (if name = Config.ownName then .reservedSetting sec name else .unknownSetting sec name)
  | unknownMode {settings : Record} {mode : Value} (h : given = Config.mappingOf settings)
      (hsec : sec = .query) (hnames : ∀ p ∈ settings, p.1 ∈ sec.defaults.names)
      (hmem : (Config.modeKey, mode) ∈ settings)
      (hmode : mode ≠ .text Mode.naive.name ∧ mode ≠ .text Mode.strict.name) :
      Refuses sec given (.unknownMode mode)

end Section

namespace Config

variable {sec : Section} {given data v : Value} {entries : List (Value × Value)}
  {settings : Record} {name : Text} {e : ConfigError} {c : Config}

/-- What data give to a setting of a section. -/
def given? (data : Value) (sec : Section) (name : Text) : Option Value :=
  (data.member? sec.name).bind (·.member? name)

/-- The default settings of a section, with those replaced that data give. -/
def mergedSettings (data : Value) (sec : Section) : Record :=
  sec.defaults.map fun p => (p.1, (given? data sec p.1).getD p.2)

/-- **The default configuration with the given settings in place of its own.** -/
def merged (data : Value) : Config :=
  ⟨mergedSettings data .storage, mergedSettings data .query, mergedSettings data .logging⟩

/-- **What is at fault in data**: the first section that is given what it does not admit. -/
def Refused (entries : List (Value × Value)) (e : ConfigError) : Prop :=
  ∃ before sec after given, Section.all = before ++ sec :: after ∧
    (∀ earlier ∈ before, ∀ v, (.text earlier.name, v) ∈ entries → earlier.Admits v) ∧
    (.text sec.name, given) ∈ entries ∧ sec.Refuses given e

/-! ## Looking things up -/

theorem isMode_iff : isMode v = true ↔ v = .text Mode.naive.name ∨ v = .text Mode.strict.name := by
  simp [isMode]

theorem namesDiffer_of_nodup (h : (entries.map (·.1)).Nodup) : Value.NamesDiffer entries :=
  (List.pairwise_map.1 h).imp fun hne _ hkey hother => hne (hkey.trans hother.symm)

theorem mem_of_member? (h : member? entries name = some v) : (.text name, v) ∈ entries := by
  obtain ⟨e, hfind, rfl⟩ := Option.map_eq_some_iff.1 h
  have hkey : e.1.key? = some (.text name) := by simpa using List.find?_some hfind
  have hname : e.1 = .text name := Store.key?_eq_text_iff.1 hkey
  rw [← hname]
  exact List.mem_of_find?_eq_some hfind

theorem member?_eq_some_iff (h : Value.NamesDiffer entries) :
    member? entries name = some v ↔ (.text name, v) ∈ entries := by
  refine ⟨mem_of_member?, fun hmem => ?_⟩
  induction entries with
  | nil => cases hmem
  | cons e entries ih =>
    obtain ⟨hothers, hrest⟩ := List.pairwise_cons.1 h
    rcases List.mem_cons.1 hmem with rfl | hmem
    · simp [member?]
    · have hne : e.1.key? ≠ some (.text name) := fun hkey =>
        hothers _ hmem name (Store.key?_eq_text_iff.1 hkey) rfl
      have hskip : member? (e :: entries) name = member? entries name := by
        rw [member?, List.find?_cons_of_neg (by simpa using hne), member?]
      rw [hskip]
      exact ih hrest hmem

theorem member?_mappingOf (settings : Record) (name : Text) :
    (mappingOf settings).member? name = settings.get? name := by
  induction settings with
  | nil => rfl
  | cons p settings ih =>
    obtain ⟨n, v⟩ := p
    simp only [mappingOf, Value.member?, member?, Record.get?] at ih ⊢
    by_cases h : n = name
    · subst h
      simp
    · have hne : (name == n) = false := by simpa using Ne.symm h
      rw [List.map_cons, List.find?_cons_of_neg (by simpa using h), ih, List.lookup_cons, hne]

theorem names_nodup_of_mappingOf (h : ∀ entries, mappingOf settings = .mapping entries →
    Value.NamesDiffer entries) : settings.names.Nodup := by
  have hdiffer := h _ rfl
  rw [Value.NamesDiffer, List.pairwise_map] at hdiffer
  rw [Record.names, List.Nodup, List.pairwise_map]
  exact hdiffer.imp fun hne heq => hne _ rfl (by rw [heq])

/-! ## One section -/

/-- **What is laid over the defaults replaces them one by one.** -/
theorem putAll_eq_map (hnodup : settings.names.Nodup)
    (hnames : ∀ p ∈ settings, p.1 ∈ sec.defaults.names) :
    sec.defaults.putAll settings =
      sec.defaults.map fun p => (p.1, ((mappingOf settings).member? p.1).getD p.2) := by
  have hsame : Record.names (sec.defaults.map fun p =>
      (p.1, ((mappingOf settings).member? p.1).getD p.2)) = sec.defaults.names := by
    simp [Record.names, Function.comp_def]
  refine Record.eq_of_get? ((Record.names_putAll hnames).trans hsame.symm)
    (by rw [hsame]; exact nodup_defaults sec) fun q hq => ?_
  obtain ⟨p, hp, rfl⟩ := List.mem_map.1 hq
  dsimp only
  rw [member?_mappingOf]
  cases hget : settings.get? p.1 with
  | some v =>
    obtain ⟨before, after, hsplit, -⟩ := List.lookup_eq_some_iff.1 hget
    have hmem : (p.1, v) ∈ settings := by
      rw [hsplit]
      simp
    exact Record.get?_putAll_of_mem hnodup hmem
  | none =>
    have hnot : p.1 ∉ settings.names := by
      intro hmem
      obtain ⟨r, hr, hname⟩ := List.mem_map.1 hmem
      rw [← hname, Record.get?_of_mem hnodup hr] at hget
      cases hget
    rw [Record.get?_putAll_of_not_mem hnot]
    exact Record.get?_of_mem (nodup_defaults sec) hp

/-- The keys of a mapping are all texts, or one of them is none. -/
theorem exists_settings_or (entries : List (Value × Value)) :
    (∃ settings, Value.mapping entries = mappingOf settings) ∨
      textPairs? entries = none ∧ ∃ e ∈ entries, ∀ name, e.1 ≠ .text name := by
  induction entries with
  | nil => exact .inl ⟨[], rfl⟩
  | cons e entries ih =>
    obtain ⟨k, v⟩ := e
    by_cases htext : ∃ name, k = .text name
    · obtain ⟨name, rfl⟩ := htext
      rcases ih with ⟨settings, hsettings⟩ | ⟨hnone, e, he, hkey⟩
      · refine .inl ⟨(name, v) :: settings, ?_⟩
        rw [Value.mapping.inj hsettings]
        rfl
      · exact .inr ⟨by rw [textPairs?, hnone]; rfl, e, List.mem_cons_of_mem _ he, hkey⟩
    · have hkey : ∀ name, k ≠ .text name := fun name h => htext ⟨name, h⟩
      refine .inr ⟨?_, (k, v), List.mem_cons_self, hkey⟩
      cases k with
      | text name => exact absurd rfl (hkey name)
      | _ => rfl

theorem readSection_mappingOf (sec : Section) (settings : Record) :
    readSection sec (mappingOf settings) = (overlay sec settings).bind (checkMode sec) := by
  rw [mappingOf, readSection, textPairs?_eq_some_iff.2 rfl]
  rfl

theorem raised_of_unknown (sec : Section) (name : Text) :
    (Fault.config (if name = ownName then .reservedSetting sec name
      else .unknownSetting sec name)).raised =
        .config (if name = ownName then .reservedSetting sec name else .unknownSetting sec name) := by
  split <;> rfl

/-- Settings with a name that is not among those of the section are refused for the first one. -/
theorem readSection_of_unknown {n : Text}
    (h : settings.names.find? (fun n => !sec.defaults.names.contains n) = some n) :
    ∃ e, sec.Refuses (mappingOf settings) e ∧
      readSection sec (mappingOf settings) = .error (Fault.config e).raised := by
  obtain ⟨hname, before, after, hsplit, hbefore⟩ := List.find?_eq_some_iff_append.1 h
  obtain ⟨first, rest, rfl, hfirst, hrest⟩ := List.map_eq_append_iff.1 hsplit
  obtain ⟨q, last, rfl, rfl, -⟩ := List.map_eq_cons_iff.1 hrest
  refine ⟨_, .unknown rfl (fun p hp => ?_) (by simpa using hname), ?_⟩
  · have hknown := hbefore p.1 (by rw [← hfirst]; exact List.mem_map_of_mem hp)
    simpa using hknown
  · rw [readSection_mappingOf, overlay, h, raised_of_unknown]
    rfl

/-- Settings that are all among those of the section are refused for their mode only. -/
theorem readSection_of_known (hnodup : settings.names.Nodup)
    (hnames : ∀ p ∈ settings, p.1 ∈ sec.defaults.names) :
    readSection sec (mappingOf settings) = checkMode sec
      (sec.defaults.map fun p => (p.1, ((mappingOf settings).member? p.1).getD p.2)) := by
  have hknown : settings.names.find? (fun n => !sec.defaults.names.contains n) = none := by
    refine List.find?_eq_none.2 fun n hn => ?_
    obtain ⟨p, hp, rfl⟩ := List.mem_map.1 hn
    simpa using hnames p hp
  rw [readSection_mappingOf, overlay, hknown, ← putAll_eq_map hnodup hnames]
  rfl

theorem admits_mappingOf (hnames : ∀ p ∈ settings, p.1 ∈ sec.defaults.names)
    (hmode : sec = .query → ∀ mode, (modeKey, mode) ∈ settings →
      mode = .text Mode.naive.name ∨ mode = .text Mode.strict.name) :
    sec.Admits (mappingOf settings) := by
  refine ⟨_, rfl, fun e he => ?_, fun hsec mode hmem => ?_⟩
  · obtain ⟨p, hp, rfl⟩ := List.mem_map.1 he
    exact ⟨p.1, hnames p hp, rfl⟩
  · obtain ⟨p, hp, heq⟩ := List.mem_map.1 hmem
    obtain ⟨hkey, rfl⟩ := Prod.mk.inj heq
    exact hmode hsec p.2 (by rw [← Value.text.inj hkey]; exact hp)

/-- Only the mode is checked, as it is given or by default. -/
theorem checkMode_laid (sec : Section) (given : Value) :
    checkMode sec (sec.defaults.map fun p => (p.1, (given.member? p.1).getD p.2)) =
      if sec = .query ∧ isMode ((given.member? modeKey).getD (.text Mode.naive.name)) = false then
        .error (Fault.config
          (.unknownMode ((given.member? modeKey).getD (.text Mode.naive.name)))).raised
      else .ok (sec.defaults.map fun p => (p.1, (given.member? p.1).getD p.2)) := by
  cases sec with
  | query =>
    have hget : Record.get (Section.query.defaults.map fun p => (p.1, (given.member? p.1).getD p.2))
        modeKey = (given.member? modeKey).getD (.text Mode.naive.name) := rfl
    simp only [checkMode, hget, true_and, Bool.not_eq_true]
  | storage | logging => simp [checkMode]

/-- Settings that are all among those of the section are admitted, or refused for their mode. -/
theorem readSection_of_names (hnodup : settings.names.Nodup)
    (hnames : ∀ p ∈ settings, p.1 ∈ sec.defaults.names) :
    (sec.Admits (mappingOf settings) ∧ readSection sec (mappingOf settings) =
        .ok (sec.defaults.map fun p => (p.1, ((mappingOf settings).member? p.1).getD p.2))) ∨
      ∃ e, sec.Refuses (mappingOf settings) e ∧
        readSection sec (mappingOf settings) = .error (Fault.config e).raised := by
  rw [readSection_of_known hnodup hnames, checkMode_laid, member?_mappingOf]
  split
  · rename_i h
    obtain ⟨hsec, hmode⟩ := h
    -- a mode by default there always is, so it is one that was given
    cases hget : settings.get? modeKey with
    | none => rw [hget] at hmode; cases hmode
    | some mode =>
      rw [hget, Option.getD_some, Bool.eq_false_iff, Ne, isMode_iff, not_or] at hmode
      obtain ⟨before, after, hsplit, -⟩ := List.lookup_eq_some_iff.1 hget
      exact .inr ⟨_, .unknownMode rfl hsec hnames (by rw [hsplit]; simp) hmode, rfl⟩
  · rename_i h
    refine .inl ⟨admits_mappingOf hnames fun hsec mode hmem => ?_, rfl⟩
    have hget : settings.get? modeKey = some mode := Record.get?_of_mem hnodup hmem
    rw [hget, Option.getD_some] at h
    exact isMode_iff.1 (by simpa [hsec] using h)

/-- **One section**: it is given what it admits, and has its default settings with those replaced
that are given, or it is refused. -/
theorem readSection_cases (sec : Section)
    (h : ∀ entries, given = .mapping entries → Value.NamesDiffer entries) :
    (sec.Admits given ∧ readSection sec given =
        .ok (sec.defaults.map fun p => (p.1, (given.member? p.1).getD p.2))) ∨
      ∃ e, sec.Refuses given e ∧ readSection sec given = .error (Fault.config e).raised := by
  by_cases hmapping : ∃ entries, given = .mapping entries
  · obtain ⟨entries, rfl⟩ := hmapping
    rcases exists_settings_or entries with ⟨settings, hsettings⟩ | ⟨hnone, e, he, hkey⟩
    · rw [hsettings] at h ⊢
      have hnodup := names_nodup_of_mappingOf h
      cases hfind : settings.names.find? (fun n => !sec.defaults.names.contains n) with
      | some n => exact .inr (readSection_of_unknown hfind)
      | none =>
        have hnames : ∀ p ∈ settings, p.1 ∈ sec.defaults.names := by
          intro p hp
          have := List.find?_eq_none.1 hfind p.1 (List.mem_map_of_mem hp)
          simpa using this
        exact readSection_of_names hnodup hnames
    · refine .inr ⟨_, .nameless rfl he hkey, ?_⟩
      rw [readSection, hnone]
      rfl
  · have hnot : ∀ entries, given ≠ .mapping entries := fun entries h => hmapping ⟨entries, h⟩
    refine .inr ⟨_, .notMapping hnot, ?_⟩
    cases given with
    | mapping entries => exact absurd rfl (hnot entries)
    | _ => rfl

/-- What is refused is not admitted. -/
theorem not_admits_of_refuses (h : sec.Refuses given e) : ¬ sec.Admits given := by
  rintro ⟨entries, hentries, hnames, hmode⟩
  cases h with
  | notMapping h => exact h entries hentries
  | nameless h he hkey =>
    obtain ⟨name, -, hname⟩ := hnames _ (Value.mapping.inj (h.symm.trans hentries) ▸ he)
    exact hkey name hname
  | @unknown before after name v h hbefore hname =>
    have hmem : (Value.text name, v) ∈ entries := by
      rw [← Value.mapping.inj (h.symm.trans hentries)]
      simp
    obtain ⟨known, hknown, heq⟩ := hnames _ hmem
    exact hname (Value.text.inj heq ▸ hknown)
  | @unknownMode settings mode h hsec _ hmem hnot =>
    have hmem : (Value.text modeKey, mode) ∈ entries := by
      rw [← Value.mapping.inj (h.symm.trans hentries)]
      exact List.mem_map.2 ⟨_, hmem, rfl⟩
    exact (hmode hsec mode hmem).elim hnot.1 hnot.2

/-- **A section is refused for one reason only**, which is the one that is reported. -/
theorem readSection_of_refuses (hdiffer : ∀ entries, given = .mapping entries → Value.NamesDiffer entries)
    (h : sec.Refuses given e) : readSection sec given = .error (Fault.config e).raised := by
  cases h with
  | notMapping h =>
    cases given with
    | mapping entries => exact absurd rfl (h entries)
    | _ => rfl
  | @nameless entries d h hd hkey =>
    subst h
    rcases exists_settings_or entries with ⟨settings, hsettings⟩ | ⟨hnone, -⟩
    · rw [Value.mapping.inj hsettings] at hd
      obtain ⟨p, -, rfl⟩ := List.mem_map.1 hd
      exact absurd rfl (hkey p.1)
    · rw [readSection, hnone]
      rfl
  | @unknown before after name v h hbefore hname =>
    subst h
    have hfind : (Record.names (before ++ (name, v) :: after)).find?
        (fun n => !sec.defaults.names.contains n) = some name := by
      refine List.find?_eq_some_iff_append.2
        ⟨by simpa using hname, Record.names before, Record.names after, by simp [Record.names], ?_⟩
      intro n hn
      obtain ⟨p, hp, rfl⟩ := List.mem_map.1 hn
      simpa using hbefore p hp
    rw [readSection_mappingOf, overlay, hfind, raised_of_unknown]
    rfl
  | @unknownMode settings mode h hsec hnames hmem hmode =>
    subst h
    have hnodup := names_nodup_of_mappingOf hdiffer
    have hfalse : isMode mode = false := by
      rw [Bool.eq_false_iff, Ne, isMode_iff, not_or]
      exact hmode
    rw [readSection_of_known hnodup hnames, checkMode_laid, member?_mappingOf,
      show settings.get? modeKey = some mode from Record.get?_of_mem hnodup hmem]
    exact if_pos ⟨hsec, hfalse⟩

/-! ## All sections -/

/-- **Data as they come**: no name stands for two values, in the data or in a section. -/
structure Proper (entries : List (Value × Value)) : Prop where
  sections : Value.NamesDiffer entries
  settings : ∀ (sec : Section) given, (.text sec.name, .mapping given) ∈ entries →
    Value.NamesDiffer given

/-- The data admit a section: it is not given, or given what it can be given. -/
def AdmittedAt (entries : List (Value × Value)) (sec : Section) : Prop :=
  ∀ given, (.text sec.name, given) ∈ entries → sec.Admits given

theorem section_cases (h : Proper entries) (sec : Section) :
    (AdmittedAt entries sec ∧
        readSection sec ((member? entries sec.name).getD (.mapping [])) =
          .ok (mergedSettings (.mapping entries) sec)) ∨
      ∃ given e, (.text sec.name, given) ∈ entries ∧ sec.Refuses given e ∧
        readSection sec ((member? entries sec.name).getD (.mapping [])) =
          .error (Fault.config e).raised := by
  cases hmember : member? entries sec.name with
  | none =>
    refine .inl ⟨fun given hgiven => ?_, ?_⟩
    · rw [← member?_eq_some_iff h.sections, hmember] at hgiven
      cases hgiven
    · have hdefaults : mergedSettings (.mapping entries) sec = sec.defaults := by
        simp [mergedSettings, given?, Value.member?, hmember]
      rw [Option.getD_none, readSection_defaults, hdefaults]
  | some given =>
    have hgiven := mem_of_member? hmember
    have hmerged : mergedSettings (.mapping entries) sec =
        sec.defaults.map fun p => (p.1, (given.member? p.1).getD p.2) := by
      simp [mergedSettings, given?, Value.member?, hmember]
    rw [Option.getD_some, hmerged]
    have hdiffer : ∀ inner, given = .mapping inner → Value.NamesDiffer inner :=
      fun inner hinner => h.settings sec inner (hinner ▸ hgiven)
    rcases readSection_cases sec hdiffer with ⟨hadmits, hread⟩ | ⟨e, hrefuses, hread⟩
    · refine .inl ⟨fun v hv => ?_, hread⟩
      rw [← member?_eq_some_iff h.sections, hmember] at hv
      exact Option.some.inj hv ▸ hadmits
    · exact .inr ⟨given, e, hgiven, hrefuses, hread⟩

theorem readSection_of_admitted (h : Proper entries) (hadmitted : AdmittedAt entries sec) :
    readSection sec ((member? entries sec.name).getD (.mapping [])) =
      .ok (mergedSettings (.mapping entries) sec) := by
  rcases section_cases h sec with ⟨-, hread⟩ | ⟨given, e, hgiven, hrefuses, -⟩
  · exact hread
  · exact absurd (hadmitted given hgiven) (not_admits_of_refuses hrefuses)

/-- **What is at fault in data is what is raised.** -/
theorem ofValue_of_refused (h : Proper entries) (hrefused : Refused entries e) :
    ofValue (.mapping entries) = .error (Fault.config e).raised := by
  obtain ⟨before, sec, after, given, hall, hearlier, hgiven, hrefuses⟩ := hrefused
  have hfault : readSection sec ((member? entries sec.name).getD (.mapping [])) =
      .error (Fault.config e).raised := by
    rw [(member?_eq_some_iff h.sections).2 hgiven]
    exact readSection_of_refuses (fun inner hinner => h.settings sec inner (hinner ▸ hgiven)) hrefuses
  have hread : ∀ earlier ∈ before, readSection earlier
      ((member? entries earlier.name).getD (.mapping [])) =
        .ok (mergedSettings (.mapping entries) earlier) :=
    fun earlier hmem => readSection_of_admitted h (hearlier earlier hmem)
  -- there are three sections that can be the first one at fault
  rcases before with _ | ⟨first, _ | ⟨second, _ | ⟨third, before⟩⟩⟩
  · cases hall
    simp only [ofValue, hfault]
    rfl
  · cases hall
    simp only [ofValue, hread .storage (by simp), hfault]
    rfl
  · cases hall
    simp only [ofValue, hread .storage (by simp), hread .query (by simp), hfault]
    rfl
  · simp [Section.all] at hall

/-- If not all sections are given what they admit, there is a first one that is not. -/
theorem exists_refused (h : Proper entries) (hnot : ¬ ∀ sec, AdmittedAt entries sec) :
    ∃ e, Refused entries e := by
  classical
  obtain ⟨sec, hsec⟩ := not_forall.1 hnot
  have hsome : (Section.all.find? fun sec => ¬ AdmittedAt entries sec).isSome :=
    List.find?_isSome.2 ⟨sec, by cases sec <;> decide, by simpa using hsec⟩
  obtain ⟨first, hfind⟩ := Option.isSome_iff_exists.1 hsome
  -- those in front of the first one were passed over, since they are given what they admit
  obtain ⟨hfirst, before, after, hall, hearlier⟩ := List.find?_eq_some_iff_append.1 hfind
  have hadmitted : ∀ earlier ∈ before, AdmittedAt entries earlier :=
    fun earlier hmem => by simpa using hearlier earlier hmem
  rcases section_cases h first with ⟨hsame, -⟩ | ⟨given, e, hgiven, hrefuses, -⟩
  · exact absurd hsame (by simpa using hfirst)
  · exact ⟨e, before, first, after, given, hall, hadmitted, hgiven, hrefuses⟩

/-- **All sections**: they are given what they admit, and the configuration is the default one with
what is given in its place, or the first of them that is not is reported. -/
theorem ofValue_cases (h : Proper entries) :
    ((∀ sec, AdmittedAt entries sec) ∧
        ofValue (.mapping entries) = .ok (merged (.mapping entries))) ∨
      ∃ e, Refused entries e ∧ ofValue (.mapping entries) = .error (Fault.config e).raised := by
  by_cases hall : ∀ sec, AdmittedAt entries sec
  · refine .inl ⟨hall, ?_⟩
    simp only [ofValue, readSection_of_admitted h (hall _)]
    rfl
  · obtain ⟨e, hrefused⟩ := exists_refused h hall
    exact .inr ⟨e, hrefused, ofValue_of_refused h hrefused⟩

/-- What is at fault is not admitted. -/
theorem not_admitted_of_refused (h : Refused entries e) : ¬ ∀ sec, AdmittedAt entries sec := by
  obtain ⟨-, sec, -, given, -, -, hgiven, hrefuses⟩ := h
  exact fun hall => not_admits_of_refuses hrefuses (hall sec given hgiven)

theorem checkMode_of_readSection (h : readSection sec given = .ok settings) :
    checkMode sec settings = .ok settings := by
  cases given with
  | mapping pairs =>
    rw [readSection] at h
    split at h
    · cases h
    · obtain ⟨laid, -, hmode⟩ := bind_eq_ok_iff.1 h
      rwa [← eq_of_checkMode hmode] at hmode
  | _ => cases h

theorem member?_toValue (c : Config) (sec : Section) :
    c.toValue.member? sec.name = some (mappingOf (c.get sec)) := by
  cases sec <;> rfl

/-- A configuration that was read is read again from itself as a mapping. -/
theorem ofValue_toValue (h : ofValue (.mapping entries) = .ok c) : ofValue c.toValue = .ok c := by
  have hsection : ∀ sec, readSection sec ((c.toValue.member? sec.name).getD (.mapping [])) =
      .ok (c.get sec) := by
    intro sec
    have hread := get_of_ofValue h sec
    obtain ⟨-, -, -, hnames⟩ := readSection_eq_ok hread
    rw [member?_toValue, Option.getD_some, readSection_of_perm hnames (List.Perm.refl _)]
    exact checkMode_of_readSection hread
  have hparts : ∀ sec, readSection sec ((member? (Section.all.map fun sec =>
      (.text sec.name, mappingOf (c.get sec))) sec.name).getD (.mapping [])) = .ok (c.get sec) :=
    hsection
  have hmapping : c.toValue = .mapping (Section.all.map fun sec =>
      (.text sec.name, mappingOf (c.get sec))) := rfl
  rw [hmapping, ofValue]
  simp only [hparts]
  rfl

/-! ## What is reported -/

/-- The error is about a mode that cannot be shown, for this reason. -/
def HiddenBy (e : ConfigError) (k : ExternalFault) : Prop :=
  ∃ mode, e = .unknownMode mode ∧ mode.unshowable? = some k

/-- The error is about a mode that cannot be shown. -/
def Hidden (e : ConfigError) : Prop := ∃ k, HiddenBy e k

/-- Only a mode that cannot be shown keeps an error from being reported. -/
theorem raised_config (e : ConfigError) :
    (¬ Hidden e → (Fault.config e).raised = .config e) ∧
      ∀ k, HiddenBy e k → (Fault.config e).raised = .external k := by
  refine ⟨fun h => ?_, ?_⟩
  · cases e with
    | unknownMode mode =>
      refine Fault.raised_of_showable (List.forall_mem_singleton.2 ?_)
      by_contra hmode
      obtain ⟨k, hk⟩ := Value.not_showable_iff.1 hmode
      exact h ⟨k, mode, rfl, hk⟩
    | _ => rfl
  · rintro k ⟨mode, rfl, hk⟩
    rw [Fault.raised, Fault.shows, Value.withShown_singleton_of_some _ hk]

theorem kind_of_refuses (h : sec.Refuses given e) : e.kind = .config := by
  cases h with
  | unknown => split <;> rfl
  | _ => rfl

/-- **Which data make a configuration**: those whose sections are all given what they admit. It is
the default one with what is given in its place, and it is made again from itself as a mapping. Of
other data the first section at fault is reported, unless its mode is what is at fault and cannot be
shown. -/
theorem ofValue_outcome (h : Proper entries) :
    ((∃ c, ofValue (.mapping entries) = .ok c) ↔ ∀ sec, AdmittedAt entries sec) ∧
      (∀ c, ofValue (.mapping entries) = .ok c →
        c = merged (.mapping entries) ∧ ofValue c.toValue = .ok c) ∧
      ∀ f, ofValue (.mapping entries) = .error f → ∃ e, Refused entries e ∧ e.kind = .config ∧
        (¬ Hidden e → f = .config e) ∧ ∀ k, HiddenBy e k → f = .external k := by
  rcases ofValue_cases h with ⟨hadmitted, hmade⟩ | ⟨e, hrefused, hraised⟩
  · refine ⟨⟨fun _ => hadmitted, fun _ => ⟨_, hmade⟩⟩, fun c hc => ?_, fun f hf => ?_⟩
    · refine ⟨?_, ofValue_toValue hc⟩
      rw [hmade] at hc
      exact (Except.ok.inj hc).symm
    · rw [hmade] at hf
      cases hf
  · refine ⟨⟨?_, fun hall => absurd hall (not_admitted_of_refused hrefused)⟩,
      fun c hc => ?_, fun f hf => ?_⟩
    · rintro ⟨c, hc⟩
      rw [hraised] at hc
      cases hc
    · rw [hraised] at hc
      cases hc
    · obtain rfl : (Fault.config e).raised = f := Except.error.inj (hraised.symm.trans hf)
      obtain ⟨-, sec, -, given, -, -, -, hrefuses⟩ := id hrefused
      exact ⟨e, hrefused, kind_of_refuses hrefuses, raised_config e⟩

/-- Data with a name that is no section, and a setting of another type. -/
def mixedData : List (Value × Value) :=
  [(.text Section.query.name, .mapping [(.text modeKey, .text Mode.strict.name)]), (.int 3, .null),
   (.text Section.storage.name, .mapping [(.text "seed_data".toList, .list [.int 0])])]

/-- Data with two sections at fault. -/
def faultyData : List (Value × Value) :=
  [(.text Section.logging.name, .null),
   (.text Section.query.name, .mapping [(.text modeKey, .list [.text Mode.strict.name])])]

theorem proper_mixedData : Proper mixedData where
  sections := namesDiffer_of_nodup (by decide)
  settings sec given h := by
    simp only [mixedData, List.mem_cons, List.not_mem_nil, or_false, Prod.mk.injEq,
      Value.mapping.injEq] at h
    rcases h with ⟨-, rfl⟩ | ⟨h, -⟩ | ⟨-, rfl⟩
    · exact List.pairwise_singleton _ _
    · cases h
    · exact List.pairwise_singleton _ _

theorem proper_faultyData : Proper faultyData where
  sections := namesDiffer_of_nodup (by decide)
  settings sec given h := by
    simp only [faultyData, List.mem_cons, List.not_mem_nil, or_false, Prod.mk.injEq,
      Value.mapping.injEq] at h
    rcases h with ⟨-, h⟩ | ⟨-, rfl⟩
    · cases h
    · exact List.pairwise_singleton _ _

theorem ofValue_outcome_sample :
    (Proper mixedData ∧ Proper faultyData) ∧
      (ofValue (.mapping mixedData) = .ok (merged (.mapping mixedData)) ∧
        ofValue (merged (.mapping mixedData)).toValue = .ok (merged (.mapping mixedData))) ∧
      ∃ e, Refused faultyData e ∧ ofValue (.mapping faultyData) = .error (.config e) := by
  have hmixed : ofValue (.mapping mixedData) = .ok (merged (.mapping mixedData)) := rfl
  have hfaulty : ofValue (.mapping faultyData) =
      .error (.config (.unknownMode (.list [.text Mode.strict.name]))) := rfl
  refine ⟨⟨proper_mixedData, proper_faultyData⟩,
    ⟨hmixed, ((ofValue_outcome proper_mixedData).2.1 _ hmixed).2⟩, ?_⟩
  obtain ⟨e, hrefused, -, hshown, hhidden⟩ := (ofValue_outcome proper_faultyData).2.2 _ hfaulty
  refine ⟨e, hrefused, ?_⟩
  rw [hfaulty, hshown fun ⟨k, hk⟩ => nomatch hhidden k hk]

/-- Data that give such a mode, and nothing else. -/
def modeData (mode : Value) : List (Value × Value) :=
  [(.text Section.query.name, .mapping [(.text modeKey, mode)])]

theorem proper_modeData (mode : Value) : Proper (modeData mode) := by
  refine ⟨List.pairwise_singleton _ _, fun sec given hgiven => ?_⟩
  obtain ⟨-, heq⟩ := Prod.mk.inj (List.mem_singleton.1 hgiven)
  rw [Value.mapping.inj heq]
  exact List.pairwise_singleton _ _

/-- A mode that cannot be shown is raised as what stands in its way. -/
theorem ofValue_modeData {mode : Value} {k : ExternalFault} (h : mode.unshowable? = some k) :
    ofValue (.mapping (modeData mode)) = .error (.external k) := by
  have hnot : mode ≠ .text Mode.naive.name ∧ mode ≠ .text Mode.strict.name := by
    constructor <;> rintro rfl <;> cases h
  have hrefused : Refused (modeData mode) (.unknownMode mode) := by
    have hgiven : Value.mapping [(.text modeKey, mode)] = mappingOf [(modeKey, mode)] := rfl
    refine ⟨[.storage], .query, [.logging], _, rfl, ?_, List.mem_singleton_self _,
      .unknownMode hgiven rfl ?_ (List.mem_singleton_self _) hnot⟩
    · rintro earlier hearlier v hv
      rw [List.mem_singleton.1 hearlier] at hv
      cases (Prod.mk.inj (List.mem_singleton.1 hv)).1
    · intro p hp
      rw [List.mem_singleton.1 hp]
      exact List.mem_singleton_self _
  rw [ofValue_of_refused (proper_modeData mode) hrefused, (raised_config _).2 k ⟨mode, rfl, h⟩]

/-- **A section at fault is not always reported**: a mode that has one digit too many to be shown
ends in a failure of another kind. -/
theorem hidden_mode_escapes :
    ¬ ∀ entries, Proper entries → (∃ c, ofValue (.mapping entries) = .ok c) ∨
      ∃ e : ConfigError, ofValue (.mapping entries) = .error (.config e) := by
  intro h
  have hfault := ofValue_modeData Value.unshowable?_overlong
  rcases h _ (proper_modeData .overlong) with ⟨c, hc⟩ | ⟨e, he⟩
  · rw [hfault] at hc
    cases hc
  · rw [hfault] at he
    cases he

end Config

namespace Workspace

/-- Data that are read in a session are answered with the configuration that they make. -/
theorem step_read (w : Workspace) (data : Value) :
    (w.step (.read data)).1 = shown ((Config.ofValue data).map .config) := by
  cases h : Config.ofValue data <;> simp [step, act, adoptPlain, adopt, h, Except.map]

end Workspace

end Almanac
