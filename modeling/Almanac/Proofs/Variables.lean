import Almanac.Proofs.GivenSettings

/-!
# Variables of the environment

Each variable of the environment is for one setting. An environment asks for the same as the data
that give those settings: the variables are laid over a finished configuration and the data are read
section by section, but the two ways come to one configuration, or to one error.

* `ofEnvironment_eq`: **what an environment comes to**, setting by setting.
* `ofValue_of_heldBy`: data that hold what an environment asks for come to the same.
* `environment_as_data`: so the two agree; an empty variable is as good as none, no variable touches
  the setting of another, and a mode that there is not is refused either way.
* `Workspace.step_environment`: a session cannot tell them apart.
-/

namespace Almanac

/-! ## Records of what is there -/

namespace Record

/-- Settings that are laid over a record are found where they were asked for. -/
theorem get?_map_getD (r : Record) (f : Text → Option Value) (key : Text) :
    get? (r.map fun p => (p.1, (f p.1).getD p.2)) key =
      (r.get? key).map fun v => (f key).getD v := by
  induction r with
  | nil => rfl
  | cons p r ih =>
    obtain ⟨n, v⟩ := p
    by_cases h : key = n
    · subst h
      simp [get?]
    · have hne : (key == n) = false := by simpa using h
      simpa [get?, List.lookup_cons, hne] using ih

/-- Values that are there for some of the names are found under their names. -/
theorem get?_filterMap (names : List Text) (f : Text → Option Value) (key : Text) :
    get? (names.filterMap fun n => (f n).map fun v => (n, v)) key =
      if key ∈ names then f key else none := by
  induction names with
  | nil => rfl
  | cons n names ih =>
    by_cases h : key = n
    · subst h
      cases hf : f key with
      | none => simpa [hf] using ih
      | some v => simp [hf, get?]
    · have hne : (key == n) = false := by simpa using h
      cases hf : f n with
      | none => simpa [hf, h] using ih
      | some v => simpa [hf, h, hne, get?, List.lookup_cons] using ih

end Record

/-! ## What an environment asks for -/

/-- A variable: the setting that it is for, and the value that its text stands for there. -/
structure Variable where
  name : String
  sec : Section
  key : Text
  value : Text → Value

/-- **All variables.** -/
def Variable.all : List Variable :=
  [⟨"WCDB_SEED_DATA", .storage, "seed_data".toList, fun t => .bool (Config.saysTrue t)⟩,
   ⟨"WCDB_ADMIN_USERNAME", .storage, "admin_username".toList, .text⟩,
   ⟨"WCDB_ADMIN_PASSWORD", .storage, "admin_password".toList, .text⟩,
   ⟨"WCDB_PARSER_MODE", .query, Config.modeKey, .text⟩,
   ⟨"WCDB_LOG_LEVEL", .logging, "level".toList, fun t => .text t.upper⟩,
   ⟨"WCDB_LOG_FILE", .logging, "log_file".toList, .text⟩]

namespace Environment

/-- What an environment asks for as a setting: the value of its variable, if that is set to a text
that is not empty. -/
def asked? (env : Environment) (sec : Section) (key : Text) : Option Value :=
  (Variable.all.find? fun x => x.sec = sec ∧ x.key = key).bind fun x =>
    (env.get? x.name).map x.value

/-- The settings of a section with those replaced that an environment asks for. -/
def settings (env : Environment) (sec : Section) : Record :=
  sec.defaults.map fun p => (p.1, (env.asked? sec p.1).getD p.2)

/-- **Data hold what an environment asks for**: of each setting the value that is asked for, and
nothing else. -/
structure HeldBy (env : Environment) (entries : List (Value × Value)) : Prop where
  proper : Config.Proper entries
  sections : ∀ e ∈ entries, ∃ (sec : Section) (given : Record),
    e = (.text sec.name, Config.mappingOf given)
  given : ∀ sec key, Config.given? (.mapping entries) sec key = env.asked? sec key

/-- An environment asks for a mode that there is not. -/
def AsksUnknownMode (env : Environment) (mode : Text) : Prop :=
  env.get? "WCDB_PARSER_MODE" = some mode ∧ mode ≠ Mode.naive.name ∧ mode ≠ Mode.strict.name

/-- What an environment asks for in a section, and nothing else. -/
def askedOf (env : Environment) (sec : Section) : Record :=
  sec.defaults.names.filterMap fun key => (env.asked? sec key).map fun v => (key, v)

/-- **An environment as data.** -/
def data (env : Environment) : List (Value × Value) :=
  Section.all.map fun sec => (.text sec.name, Config.mappingOf (env.askedOf sec))

variable {env : Environment} {sec : Section} {key name t : Text}

/-! ## Variables that are set -/

theorem get?_cons (n : String) :
    Environment.get? ((name, t) :: env) n =
      if n.toList = name then (if t = [] then none else some t) else env.get? n := by
  by_cases h : n.toList = name
  · cases t <;> simp [Environment.get?, h]
  · have hne : (n.toList == name) = false := by simpa using h
    simp [Environment.get?, List.lookup_cons, hne, h]

/-- A variable that is taken out is not there, and the others are as they were. -/
theorem get?_filter (n : String) :
    Environment.get? (env.filter fun p => p.1 ≠ name) n =
      if n.toList = name then none else env.get? n := by
  induction env with
  | nil => simp [Environment.get?]
  | cons p env ih =>
    obtain ⟨m, t⟩ := p
    by_cases hm : m = name
    · subst hm
      rw [List.filter_cons_of_neg (by simp), ih, get?_cons]
      split <;> rfl
    · rw [List.filter_cons_of_pos (by simpa using hm), get?_cons, get?_cons, ih]
      by_cases hn : n.toList = m
      · rw [if_pos hn, if_pos hn, if_neg fun h => hm (hn.symm.trans h)]
      · rw [if_neg hn, if_neg hn]

theorem mem_of_asked? {v : Value} (h : env.asked? sec key = some v) :
    ∃ x ∈ Variable.all, x.sec = sec ∧ x.key = key := by
  obtain ⟨x, hfind, -⟩ := Option.bind_eq_some_iff.1 h
  exact ⟨x, List.mem_of_find?_eq_some hfind, by simpa using List.find?_some hfind⟩

/-- Only settings that there are can be asked for. -/
theorem mem_names_of_asked? {v : Value} (h : env.asked? sec key = some v) :
    key ∈ sec.defaults.names := by
  have hnames : ∀ x ∈ Variable.all, x.key ∈ x.sec.defaults.names := by decide
  obtain ⟨x, hx, rfl, rfl⟩ := mem_of_asked? h
  exact hnames x hx

/-- A setting that is not of a variable is asked for as before, whatever that variable is set to. -/
theorem asked?_cons (h : ∀ x ∈ Variable.all, x.name.toList = name → (x.sec, x.key) ≠ (sec, key)) :
    Environment.asked? ((name, t) :: env) sec key = env.asked? sec key := by
  unfold asked?
  cases hfind : Variable.all.find? fun x => x.sec = sec ∧ x.key = key with
  | none => rfl
  | some x =>
    have hx : x.sec = sec ∧ x.key = key := by simpa using List.find?_some hfind
    have hname : x.name.toList ≠ name := fun hname =>
      h x (List.mem_of_find?_eq_some hfind) hname (by rw [hx.1, hx.2])
    simp only [Option.bind_some, get?_cons, if_neg hname]

theorem get?_settings (key : Text) : (env.settings sec).get? key =
    (sec.defaults.get? key).map fun v => (env.asked? sec key).getD v :=
  Record.get?_map_getD _ _ _

theorem get?_askedOf : (env.askedOf sec).get? key = env.asked? sec key := by
  rw [askedOf, Record.get?_filterMap]
  split
  · rfl
  · rename_i hnot
    cases hasked : env.asked? sec key with
    | none => rfl
    | some v => exact absurd (mem_names_of_asked? hasked) hnot

/-! ## Environments as data -/

theorem nodup_askedOf : (env.askedOf sec).names.Nodup := by
  have hnames : (env.askedOf sec).names =
      sec.defaults.names.filterMap fun key => (env.asked? sec key).map fun _ => key := by
    simp [askedOf, Record.names, List.map_filterMap, Function.comp_def]
  rw [hnames]
  refine (Config.nodup_defaults sec).filterMap ?_
  intro n m k hn hm
  simp only [Option.mem_def, Option.map_eq_some_iff] at hn hm
  obtain ⟨-, -, rfl⟩ := hn
  obtain ⟨-, -, rfl⟩ := hm
  rfl

/-- **Every environment can be held by data.** -/
theorem heldBy_data (env : Environment) : env.HeldBy env.data where
  proper := by
    refine ⟨Config.namesDiffer_of_nodup ?_, fun sec given hmem => ?_⟩
    · have hkeys : env.data.map (·.1) = Section.all.map fun sec => .text sec.name := by
        simp [data, Function.comp_def]
      rw [hkeys]
      decide
    · obtain ⟨other, -, heq⟩ := List.mem_map.1 hmem
      rw [← Value.mapping.inj (Prod.mk.inj heq).2]
      refine Config.namesDiffer_of_nodup ?_
      have hkeys : ((env.askedOf other).map fun p => (Value.text p.1, p.2)).map (·.1) =
          (env.askedOf other).names.map .text := by
        simp [Record.names, Function.comp_def]
      rw [hkeys]
      exact nodup_askedOf.map fun _ _ => Value.text.inj
  sections e he := by
    obtain ⟨sec, -, rfl⟩ := List.mem_map.1 he
    exact ⟨sec, _, rfl⟩
  given sec key := by
    have hsection : Value.member? (.mapping env.data) sec.name =
        some (Config.mappingOf (env.askedOf sec)) := by
      cases sec <;> rfl
    rw [Config.given?, hsection, Option.bind_some, Config.member?_mappingOf, get?_askedOf]

end Environment

namespace Config

variable {env : Environment} {entries : List (Value × Value)} {c : Config} {mode : Text}

/-! ## The two ways -/

/-- The variables of a section are laid over its settings one after another. -/
theorem setIf_storage (env : Environment) :
    ((default.setIf .storage "seed_data" ((env.get? "WCDB_SEED_DATA").map (.bool ∘ saysTrue))).setIf
        .storage "admin_username" ((env.get? "WCDB_ADMIN_USERNAME").map .text)).setIf
        .storage "admin_password" ((env.get? "WCDB_ADMIN_PASSWORD").map .text) =
      default.put .storage (env.settings .storage) := by
  have hsettings : env.settings .storage =
      [("users_table".toList, .text "users".toList),
       ("weather_table".toList, .text "weather_data".toList),
       ("seed_data".toList, ((env.get? "WCDB_SEED_DATA").map (.bool ∘ saysTrue)).getD (.bool true)),
       ("admin_username".toList,
         ((env.get? "WCDB_ADMIN_USERNAME").map .text).getD (.text "admin".toList)),
       ("admin_password".toList,
         ((env.get? "WCDB_ADMIN_PASSWORD").map .text).getD (.text "admin123".toList))] := rfl
  rw [hsettings]
  cases env.get? "WCDB_SEED_DATA" <;> cases env.get? "WCDB_ADMIN_USERNAME" <;>
    cases env.get? "WCDB_ADMIN_PASSWORD" <;> rfl

/-- The mode is the one that is asked for, or else the default one. -/
theorem get_modeKey_settings (env : Environment) : Record.get (env.settings .query) modeKey =
    ((env.get? "WCDB_PARSER_MODE").map .text).getD (.text Mode.naive.name) := rfl

theorem setIf_query (env : Environment) (storage : Record) :
    ((default.put .storage storage).setIf .query "parser_mode"
        ((env.get? "WCDB_PARSER_MODE").map .text)).query = env.settings .query := by
  have hsettings : env.settings .query =
      [(modeKey, ((env.get? "WCDB_PARSER_MODE").map .text).getD (.text Mode.naive.name))] := rfl
  rw [hsettings]
  cases env.get? "WCDB_PARSER_MODE" <;> rfl

theorem setIf_logging (env : Environment) (storage query : Record) :
    ((⟨storage, query, default.logging⟩ : Config).setIf .logging "level"
        ((env.get? "WCDB_LOG_LEVEL").map (.text ∘ Text.upper))).setIf .logging "log_file"
        ((env.get? "WCDB_LOG_FILE").map .text) = ⟨storage, query, env.settings .logging⟩ := by
  have hsettings : env.settings .logging =
      [("level".toList,
         ((env.get? "WCDB_LOG_LEVEL").map (.text ∘ Text.upper)).getD (.text "INFO".toList)),
       ("log_file".toList, ((env.get? "WCDB_LOG_FILE").map .text).getD .null)] := rfl
  rw [hsettings]
  cases env.get? "WCDB_LOG_LEVEL" <;> cases env.get? "WCDB_LOG_FILE" <;> rfl

/-- **What an environment comes to**: its settings, if the mode is one that there is. -/
theorem ofEnvironment_eq (env : Environment) :
    ofEnvironment env = (checkMode .query (env.settings .query)).map fun query =>
      ⟨env.settings .storage, query, env.settings .logging⟩ := by
  rw [ofEnvironment, setIf_storage, setIf_query]
  cases hmode : checkMode .query (env.settings .query) with
  | error f => rfl
  | ok query => exact congrArg Except.ok (setIf_logging env (env.settings .storage) query)

theorem get_of_ofEnvironment (h : ofEnvironment env = .ok c) (sec : Section) :
    c.get sec = env.settings sec := by
  rw [ofEnvironment_eq, map_eq_ok_iff] at h
  obtain ⟨query, hquery, rfl⟩ := h
  cases sec with
  | query => exact eq_of_checkMode hquery
  | storage | logging => rfl

/-- **A mode that there is not is refused.** -/
theorem ofEnvironment_of_unknownMode (h : env.AsksUnknownMode mode) :
    ofEnvironment env = .error (.config (.unknownMode (.text mode))) := by
  obtain ⟨hasked, hunknown⟩ := h
  have hget : Record.get (env.settings .query) modeKey = .text mode := by
    rw [get_modeKey_settings, hasked]
    rfl
  have hfalse : isMode (.text mode) = false := by simp [isMode, hunknown]
  rw [ofEnvironment_eq, checkMode, hget, hfalse, if_pos ⟨rfl, Bool.false_ne_true⟩]
  rfl

/-- **Nothing else is refused.** -/
theorem ofEnvironment_of_knownMode (h : ∀ mode, ¬ env.AsksUnknownMode mode) :
    ∃ c, ofEnvironment env = .ok c := by
  have htrue : isMode (Record.get (env.settings .query) modeKey) = true := by
    rw [get_modeKey_settings]
    cases hasked : env.get? "WCDB_PARSER_MODE" with
    | none => rfl
    | some mode =>
      have hknown : mode = Mode.naive.name ∨ mode = Mode.strict.name := by
        by_contra hnot
        exact h mode ⟨hasked, not_or.1 hnot⟩
      rcases hknown with rfl | rfl <;> rfl
  rw [ofEnvironment_eq, checkMode, htrue, if_neg fun hnot => hnot.2 rfl]
  exact ⟨_, rfl⟩

/-- An environment comes to a configuration or asks for a mode that there is not. -/
theorem ofEnvironment_cases (env : Environment) :
    ((∀ mode, ¬ env.AsksUnknownMode mode) ∧ ∃ c, ofEnvironment env = .ok c) ∨
      ∃ mode, env.AsksUnknownMode mode ∧
        ofEnvironment env = .error (.config (.unknownMode (.text mode))) := by
  by_cases h : ∃ mode, env.AsksUnknownMode mode
  · obtain ⟨mode, hmode⟩ := h
    exact .inr ⟨mode, hmode, ofEnvironment_of_unknownMode hmode⟩
  · exact .inl ⟨not_exists.1 h, ofEnvironment_of_knownMode (not_exists.1 h)⟩

/-- A section is read from data that hold what is asked for as the environment has it. -/
theorem readSection_of_heldBy (h : env.HeldBy entries) (sec : Section) :
    readSection sec ((member? entries sec.name).getD (.mapping [])) =
      checkMode sec (env.settings sec) := by
  cases hmember : member? entries sec.name with
  | none =>
    -- the data may leave a section out only if nothing is asked for in it
    have hasked : ∀ key, env.asked? sec key = none := fun key => by
      rw [← h.given, given?, Value.member?, hmember]
      rfl
    have hsettings : env.settings sec = sec.defaults := by simp [Environment.settings, hasked]
    rw [hsettings, Option.getD_none, readSection_defaults]
    cases sec <;> rfl
  | some found =>
    -- what they hold there are settings, with the names of settings that there are
    have hfound := mem_of_member? hmember
    obtain ⟨other, given, heq⟩ := h.sections _ hfound
    obtain rfl : found = mappingOf given := (Prod.mk.inj heq).2
    have hnodup : given.names.Nodup := names_nodup_of_mappingOf fun inner hinner =>
      h.proper.settings sec inner (hinner ▸ hfound)
    have hasked : ∀ key, (mappingOf given).member? key = env.asked? sec key := fun key => by
      rw [← h.given, given?, Value.member?, hmember, Option.bind_some]
    have hnames : ∀ p ∈ given, p.1 ∈ sec.defaults.names := fun p hp => by
      have hvalue : env.asked? sec p.1 = some p.2 := by
        rw [← hasked, member?_mappingOf]
        exact Record.get?_of_mem hnodup hp
      exact Environment.mem_names_of_asked? hvalue
    simp only [Option.getD_some, readSection_of_known hnodup hnames, hasked]
    rfl

/-- **Data that hold what an environment asks for come to the same as the environment.** -/
theorem ofValue_of_heldBy (h : env.HeldBy entries) :
    ofValue (.mapping entries) = ofEnvironment env := by
  have hstorage : checkMode .storage (env.settings .storage) = .ok (env.settings .storage) := rfl
  have hlogging : checkMode .logging (env.settings .logging) = .ok (env.settings .logging) := rfl
  simp only [ofValue, readSection_of_heldBy h, hstorage, hlogging, ofEnvironment_eq]
  cases checkMode .query (env.settings .query) <;> rfl

/-! ## Agreement -/

/-- Both come to one configuration, or both report one error. -/
def Agree (x y : Except Fault Config) : Prop :=
  (∃ c, x = .ok c ∧ y = .ok c) ∨
    ∃ e : ConfigError, x = .error (.config e) ∧ y = .error (.config e) ∧ e.kind = .config

theorem agree_of_heldBy (h : env.HeldBy entries) :
    Agree (ofEnvironment env) (ofValue (.mapping entries)) := by
  rw [ofValue_of_heldBy h]
  rcases ofEnvironment_cases env with ⟨-, c, hc⟩ | ⟨mode, -, hrefused⟩
  · exact .inl ⟨c, hc, hc⟩
  · exact .inr ⟨_, hrefused, hrefused, rfl⟩

/-- Only what the variables are set to matters. -/
theorem ofEnvironment_congr {env' : Environment} (h : ∀ n, env.get? n = env'.get? n) :
    ofEnvironment env = ofEnvironment env' := by
  simp only [ofEnvironment, h]

/-- A variable that is empty is as good as none. -/
theorem ofEnvironment_cons_nil (name : Text) :
    ofEnvironment ((name, []) :: env) = ofEnvironment (env.filter fun p => p.1 ≠ name) := by
  refine ofEnvironment_congr fun n => ?_
  rw [Environment.get?_cons, Environment.get?_filter, if_pos rfl]

/-- A variable that is set touches no setting but its own. -/
theorem get?_ofEnvironment_cons {c' : Config} {sec : Section} {name t key : Text}
    (hc : ofEnvironment env = .ok c) (hc' : ofEnvironment ((name, t) :: env) = .ok c')
    (hkey : ∀ x ∈ Variable.all, x.name.toList = name → (x.sec, x.key) ≠ (sec, key)) :
    (c'.get sec).get? key = (c.get sec).get? key := by
  rw [get_of_ofEnvironment hc, get_of_ofEnvironment hc', Environment.get?_settings,
    Environment.get?_settings, Environment.asked?_cons hkey]

/-- A mode that there is not, beside a level in small letters and a name that is empty. -/
def paranoid : Environment :=
  [("WCDB_LOG_LEVEL".toList, "debug".toList), ("WCDB_ADMIN_USERNAME".toList, []),
   ("WCDB_PARSER_MODE".toList, "paranoid".toList)]

/-- The level is all that such an environment asks for beside the mode. -/
example : paranoid.data =
    [(.text "storage".toList, .mapping []),
     (.text "query".toList, .mapping [(.text modeKey, .text "paranoid".toList)]),
     (.text "logging".toList, .mapping [(.text "level".toList, .text "DEBUG".toList)])] := rfl

end Config

/-- **A session cannot tell an environment from data that hold what it asks for.** -/
theorem Workspace.step_environment {env : Environment} {entries : List (Value × Value)}
    (h : env.HeldBy entries) (w : Workspace) :
    w.step (.environment env) = w.step (.read (.mapping entries)) := by
  have hact : w.act (.environment env) = w.act (.read (.mapping entries)) := by
    rw [act, act, Config.ofValue_of_heldBy h]
  rw [step, step, hact]

end Almanac
