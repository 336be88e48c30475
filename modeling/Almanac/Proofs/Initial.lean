import Almanac.Proofs.Reach

/-!
# Making the initial tables

The initial tables are made in one go: both are created, and then filled. Only a name that is
taken, cannot serve as one or cannot be shown stops this, and nothing has been filled by then.

* `appendAll_eq`: rows that a table takes are all added.
* `initialise_of_created`: **once both tables are created nothing fails**, and each has
  its rows.
* `initialise_endings`: otherwise no row is added.
* `act_of_error`: **an operation that fails leaves every table as it was**, and what it creates
  has no rows.
-/

namespace Almanac

/-- The table with more rows. -/
def Table.pushAll (t : Table) (rows : List Record) : Table := rows.foldl Table.push t

/-- A table without rows takes the columns that it was created with. -/
theorem Table.refused?_fresh {name : Value} {columns : List Text} (h : idColumn ∉ columns) :
    (Table.fresh name columns).refused? columns = none := by
  rw [Table.refused?_eq_none_iff]
  intro c hc
  have hne : c ≠ idColumn := by rintro rfl; exact h hc
  exact ⟨hne, by simp [Table.fresh, hne, hc]⟩

namespace Store

variable {s s₁ s₂ : Store} {t u w : Table} {name : Value} {key : Value.Key}
  {settings : StorageSettings} {events events' : List Event}

theorem modify_modify {f g : Table → Table} (hname : ∀ t, (f t).name = t.name) :
    (s.modify key f).modify key g = s.modify key fun t => g (f t) := by
  unfold modify
  congr 1
  rw [List.map_map]
  apply List.map_congr_left
  intro t _
  simp only [Function.comp]
  by_cases h : t.name.key? = some key
  · simp [h, hname]
  · simp [h]

/-- A change under a key that is free changes nothing. -/
theorem modify_of_free {change : Table → Table} (h : s.find? key = none) : s.modify key change = s := by
  have hne := find?_eq_none_iff.1 h
  unfold modify
  have : s.tables.map (fun t => if t.name.key? = some key then change t else t) = s.tables := by
    conv_rhs => rw [← List.map_id s.tables]
    exact List.map_congr_left fun t ht => if_neg (hne t ht)
  rw [this]

/-- **A change under a key that one table has** is a change of that table. -/
theorem modify_at {before after : List Table} (hkey : t.name.key? = some key)
    (hbefore : find? ⟨before⟩ key = none) (hafter : find? ⟨after⟩ key = none)
    (change : Table → Table) :
    modify ⟨before ++ t :: after⟩ key change = ⟨before ++ change t :: after⟩ := by
  have hparts : modify ⟨before ++ t :: after⟩ key change =
      ⟨(modify ⟨before⟩ key change).tables ++ change t :: (modify ⟨after⟩ key change).tables⟩ := by
    simp only [modify, List.map_append, List.map_cons, if_pos hkey]
  rw [hparts, modify_of_free hbefore, modify_of_free hafter]

theorem modify_id : s.modify key (fun t => t) = s := by simp [modify]

/-- **Rows that a table takes are all added.** -/
theorem appendAll_eq (rows : List Record) (hkey : name.key? = some key) (hf : s.find? key = some t)
    (hrows : ∀ values ∈ rows, t.refused? values.names = none) :
    appendAll name rows s = ⟨.ok (), s.modify key (·.pushAll rows), []⟩ := by
  induction rows generalizing s t with
  | nil =>
    have : s.modify key (·.pushAll []) = s := modify_id
    rw [appendAll, this]
  | cons values rest ih =>
    have happend : s.append name values =
        .ok (t.nextRow values, s.modify key (·.push values)) := by
      simp only [append, keyOf, hkey, bind, Except.bind, hf, hrows values (by simp)]
    have hrest := ih (s := s.modify key (·.push values)) (t := t.push values)
      (find?_modify_self (fun _ => rfl) hf) fun v hv => hrows v (List.mem_cons_of_mem _ hv)
    simp only [appendAll, happend, Outcome.silent, Outcome.andThen, hrest]
    rw [modify_modify (f := (·.push values)) fun _ => rfl]
    rfl

/-- They are added to it where it is among the others. -/
theorem appendAll_at {before after : List Table} {rows : List Record}
    (hkey : t.name.key? = some key) (hbefore : find? ⟨before⟩ key = none)
    (hafter : find? ⟨after⟩ key = none)
    (hrows : ∀ values ∈ rows, t.refused? values.names = none) :
    appendAll t.name rows ⟨before ++ t :: after⟩ =
      ⟨.ok (), ⟨before ++ t.pushAll rows :: after⟩, []⟩ := by
  have hfirst : find? ⟨before ++ t :: after⟩ key = some t := by
    have hnone : before.find? (fun u => u.name.key? = some key) = none := hbefore
    rw [find?, List.find?_append, hnone, Option.none_or, List.find?_cons_of_pos (by simpa using hkey)]
  rw [appendAll_eq rows hkey hfirst hrows, modify_at hkey hbefore hafter]

/-- The rows that the weather readings start with. -/
def initialReadings (settings : StorageSettings) : List Record :=
  if settings.seedData.isTrue then seedReadings else []

theorem names_initialReadings {values : Record} (h : values ∈ initialReadings settings) :
    values.names = weatherColumns := by
  unfold initialReadings at h
  split at h
  · revert values; decide
  · cases h

/-! ## The endings -/

/-- Where the administrator's name cannot be shown, nothing is made. -/
theorem initialise_of_unshowable {k : ExternalFault}
    (h : settings.adminUsername.unshowable? = some k) (s : Store) :
    s.initialise settings = ⟨.error (.external k), s, []⟩ := by
  rw [initialise, Outcome.note_of_unshowable rfl h, Outcome.andThen_of_error rfl]

/-- Otherwise the first table is created before anything else. -/
theorem initialise_of_first_error {f : Fault} (hadmin : settings.adminUsername.Showable)
    (hu : (s.createLogged settings.usersTable usersColumns).result = .error f) :
    (s.initialise settings).result = .error f ∧
      (s.initialise settings).state = (s.createLogged settings.usersTable usersColumns).state := by
  rw [initialise, Outcome.note_of_showable rfl hadmin, Outcome.andThen_of_ok rfl,
    Outcome.andThen_of_error hu]
  exact ⟨rfl, rfl⟩

/-- If the second table cannot be created, the first one is left, without rows. -/
theorem initialise_of_second_error {f : Fault} (hadmin : settings.adminUsername.Showable)
    (hu : s.createLogged settings.usersTable usersColumns = ⟨.ok u, s₁, events⟩)
    (hw : (s₁.createLogged settings.weatherTable weatherColumns).result = .error f) :
    (s.initialise settings).result = .error f ∧
      (s.initialise settings).state =
        (s₁.createLogged settings.weatherTable weatherColumns).state := by
  rw [initialise, Outcome.note_of_showable rfl hadmin, Outcome.andThen_of_ok rfl, hu,
    Outcome.andThen_of_ok rfl, Outcome.andThen_of_error hw]
  exact ⟨rfl, rfl⟩

/-- **Once both tables are created nothing fails**, and each has its rows. -/
theorem initialise_of_created (hadmin : settings.adminUsername.Showable)
    (hlu : s.createLogged settings.usersTable usersColumns = ⟨.ok u, s₁, events⟩)
    (hlw : s₁.createLogged settings.weatherTable weatherColumns = ⟨.ok w, s₂, events'⟩) :
    (s.initialise settings).result = .ok () ∧ (s.initialise settings).state =
      ⟨s.tables ++ [u.push (adminRow settings), w.pushAll (initialReadings settings)]⟩ := by
  have hu : s.create settings.usersTable usersColumns = .ok (u, s₁) := by
    have := (create_of_createLogged_ok (congrArg Outcome.result hlu)).1
    rwa [hlu] at this
  have hw : s₁.create settings.weatherTable weatherColumns = .ok (w, s₂) := by
    have := (create_of_createLogged_ok (congrArg Outcome.result hlw)).1
    rwa [hlw] at this
  obtain ⟨rfl, rfl, ku, hku, hfu⟩ := create_eq_ok hu
  obtain ⟨rfl, rfl, kw, hkw, hfw⟩ := create_eq_ok hw
  have hothers := find?_eq_none_iff.1 hfw
  have hne : settings.usersTable.key? ≠ some kw :=
    hothers (Table.fresh settings.usersTable usersColumns) (by simp)
  set u := Table.fresh settings.usersTable usersColumns
  set w := Table.fresh settings.weatherTable weatherColumns
  -- the users are found in front of the readings, and take the administrator
  have hadministrator : appendAll settings.usersTable [adminRow settings]
      ⟨s.tables ++ [u] ++ [w]⟩ = ⟨.ok (), ⟨s.tables ++ u.push (adminRow settings) :: [w]⟩, []⟩ := by
    have hlast : find? ⟨[w]⟩ ku = none := find?_eq_none_iff.2 fun v hv hkey => by
      rw [List.mem_singleton.1 hv] at hkey
      exact hne (hku.trans (hkey.symm.trans hkw))
    rw [List.append_assoc]
    exact appendAll_at (t := u) hku hfu hlast fun values hv => by
      rw [List.mem_singleton.1 hv]; exact Table.refused?_fresh (by decide)
  -- the readings are found behind them, and take theirs
  have hreadings : appendAll settings.weatherTable (initialReadings settings)
      ⟨s.tables ++ u.push (adminRow settings) :: [w]⟩ = ⟨.ok (), ⟨s.tables ++
        [u.push (adminRow settings), w.pushAll (initialReadings settings)]⟩, []⟩ := by
    have hfirst : find? ⟨s.tables ++ [u.push (adminRow settings)]⟩ kw = none := by
      refine find?_eq_none_iff.2 fun v hv => ?_
      rcases List.mem_append.1 hv with hv | hv
      · exact hothers v (List.mem_append_left _ hv)
      · rw [List.mem_singleton.1 hv]; exact hne
    have htaken : ∀ values ∈ initialReadings settings, w.refused? values.names = none := by
      intro values hv
      rw [names_initialReadings hv]
      exact Table.refused?_fresh (by decide)
    have hlast : find? ⟨[]⟩ kw = none := rfl
    have hadded := appendAll_at (t := w) hkw hfirst hlast htaken
    rwa [List.append_assoc, List.append_assoc] at hadded
  have hinitial : (if settings.seedData.isTrue then seedReadings else []) =
    initialReadings settings := rfl
  rw [initialise, Outcome.note_of_showable rfl hadmin, Outcome.andThen_of_ok rfl, hlu,
    Outcome.andThen_of_ok rfl, hlw, Outcome.andThen_of_ok rfl, hadministrator,
    Outcome.andThen_of_ok rfl, hinitial, hreadings, Outcome.andThen_of_ok rfl,
    Outcome.note_of_nothing rfl]
  exact ⟨rfl, rfl⟩

theorem fresh_of_create {columns : List Text} (h : s.create name columns = .ok (t, s₁)) :
    s₁.tables = s.tables ++ [Table.fresh name columns] := by
  obtain ⟨rfl, rfl, -⟩ := create_eq_ok h
  rfl

/-- Creating a table adds it, without rows, or nothing; and it may be there although that failed. -/
theorem tables_createLogged (s : Store) (name : Value) (columns : List Text) :
    ∃ ts, (s.createLogged name columns).state.tables = s.tables ++ ts ∧
      ts <+: [Table.fresh name columns] := by
  cases hresult : (s.createLogged name columns).result with
  | ok t => exact ⟨_, fresh_of_create (create_of_createLogged_ok hresult).1, List.prefix_rfl⟩
  | error f =>
    rcases state_of_createLogged_error hresult with hs | ⟨⟨t, hcreate⟩, -⟩
    · exact ⟨[], by rw [hs, List.append_nil], List.nil_prefix⟩
    · exact ⟨_, fresh_of_create hcreate, List.prefix_rfl⟩

/-- **The endings.** Both tables are created and filled, or something fails and no row is added: what
is left then is the store and those of the two tables that were created by then. -/
theorem initialise_endings (settings : StorageSettings) (s : Store) :
    (∃ u s₁ w s₂, s.create settings.usersTable usersColumns = .ok (u, s₁) ∧
      s₁.create settings.weatherTable weatherColumns = .ok (w, s₂) ∧
      (s.initialise settings).result = .ok () ∧ (s.initialise settings).state =
        ⟨s.tables ++ [u.push (adminRow settings), w.pushAll (initialReadings settings)]⟩) ∨
    ∃ f ts, (s.initialise settings).result = .error f ∧
      (s.initialise settings).state.tables = s.tables ++ ts ∧
      ts <+: [Table.fresh settings.usersTable usersColumns,
        Table.fresh settings.weatherTable weatherColumns] := by
  cases hadmin : settings.adminUsername.unshowable? with
  | some k =>
    rw [initialise_of_unshowable hadmin]
    exact .inr ⟨_, [], rfl, (List.append_nil _).symm, List.nil_prefix⟩
  | none =>
    cases hu : s.createLogged settings.usersTable usersColumns with
    | mk result s₁ events => cases result with
      | error g =>
        have hresult := congrArg Outcome.result hu
        obtain ⟨hfails, hstate⟩ := initialise_of_first_error hadmin hresult
        rw [hfails, hstate]
        obtain ⟨ts, htables, hprefix⟩ := tables_createLogged s settings.usersTable usersColumns
        exact .inr ⟨g, ts, rfl, htables, hprefix.trans (by simp)⟩
      | ok u =>
        have hcreatedu := (create_of_createLogged_ok (congrArg Outcome.result hu)).1
        rw [hu] at hcreatedu
        cases hw : s₁.createLogged settings.weatherTable weatherColumns with
        | mk result s₂ events' => cases result with
          | ok w =>
            have hcreatedw := (create_of_createLogged_ok (congrArg Outcome.result hw)).1
            rw [hw] at hcreatedw
            exact .inl ⟨u, s₁, w, s₂, hcreatedu, hcreatedw, initialise_of_created hadmin hu hw⟩
          | error g =>
            have hresult := congrArg Outcome.result hw
            obtain ⟨hfails, hstate⟩ := initialise_of_second_error hadmin hu hresult
            rw [hfails, hstate]
            obtain ⟨ts, htables, hprefix⟩ :=
              tables_createLogged s₁ settings.weatherTable weatherColumns
            rw [fresh_of_create hcreatedu, List.append_assoc] at htables
            exact .inr ⟨g, _, rfl, htables, (List.prefix_cons_inj _).2 hprefix⟩

theorem tables_of_error {op : Operation} {f : Fault} (h : (s.act op).result = .error f) :
    ∃ ts, (s.act op).state.tables = s.tables ++ ts ∧ ∀ t ∈ ts, t.rows = [] := by
  cases op with
  | step mode st =>
    cases hst : st.createsUnshown with
    | false =>
      have hsame : (s.act (.step mode st)).state = s := step_of_error hst h
      exact ⟨[], by rw [hsame, List.append_nil], by simp⟩
    | true =>
      -- the table is there, and it is the log that failed
      obtain ⟨name, columns, rfl⟩ : ∃ name columns, st = .create name columns := by
        cases st with
        | create name columns => exact ⟨name, columns, rfl⟩
        | _ => cases hst
      have hcreate : (s.act (.step mode (.create name columns))).state =
          (s.createLogged name columns).state := Outcome.andThen_state fun _ => rfl
      obtain ⟨ts, htables, hprefix⟩ := tables_createLogged s name columns
      refine ⟨ts, by rw [hcreate, htables], fun t ht => ?_⟩
      rw [List.mem_singleton.1 (List.IsPrefix.subset hprefix ht)]
      rfl
  | initialise settings =>
    have herr : (s.initialise settings).result = .error f := map_eq_error_iff.1 h
    have hstate : (s.act (.initialise settings)).state = (s.initialise settings).state := rfl
    rw [hstate]
    obtain ⟨_, _, _, _, -, -, hdone, -⟩ | ⟨-, ts, -, htables, hprefix⟩ :=
      initialise_endings settings s
    · rw [herr] at hdone; cases hdone
    refine ⟨ts, htables, fun t ht => ?_⟩
    have hmem := hprefix.subset ht
    simp only [List.mem_cons, List.not_mem_nil, or_false] at hmem
    rcases hmem with rfl | rfl <;> rfl

/-- **An operation that fails leaves every table as it was**, and what it creates has no rows. -/
theorem act_of_error {op : Operation} {f : Fault} (h : (s.act op).result = .error f) :
    s.tables <+: (s.act op).state.tables ∧
      ∀ t ∈ (s.act op).state.tables, t ∈ s.tables ∨ t.rows = [] := by
  obtain ⟨ts, htables, hempty⟩ := tables_of_error h
  rw [htables]
  exact ⟨List.prefix_append _ _, fun t ht => (List.mem_append.1 ht).imp_right (hempty t)⟩

end Store

end Almanac
