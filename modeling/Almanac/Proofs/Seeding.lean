import Almanac.Proofs.Initial

/-!
# What making the initial tables comes to

The two tables are created before either is filled, so that there are three endings: both are
there and filled, the first is there without rows, or nothing is. What comes before all of this is
that the administrator's name is logged, and if it cannot be shown nothing is done.

* `Table.pushAll_fresh`: rows that are pushed on a new table are numbered from 1, in their order.
* `Store.initialise_outcome`: **the initial tables are made exactly if their names differ and are
  free** and the administrator's can be shown, and what is left otherwise. Made a second time, they
  change nothing.
* `Store.unshown_administrator`: names that differ and are free are not enough.
-/

namespace Almanac

/-- **The table of these columns and rows**, with the numbers from 1 in front of the rows. -/
def Table.numbered (name : Text) (columns : List Text) (rows : List Record) : Table where
  name := .text name
  columns := idColumn :: columns
  rows := (rows.zipIdx 1).map fun p => (idColumn, .int p.2) :: p.1
  nextId := rows.length + 1

variable {t : Table} {columns : List Text} {values : Record} {n : Text}

theorem eraseDups_of_nodup (h : columns.Nodup) : columns.eraseDups = columns := by
  induction columns with
  | nil => rfl
  | cons c cs ih =>
    obtain ⟨hc, hcs⟩ := List.nodup_cons.1 h
    have hothers : cs.filter (fun d => !d == c) = cs := by
      refine List.filter_eq_self.2 fun d hd => ?_
      have hne : d ≠ c := by rintro rfl; exact hc hd
      simpa using hne
    rw [List.eraseDups_cons, hothers, ih hcs]

/-- The row that a table makes of a value for each of its columns is those values behind the
number. -/
theorem Table.nextRow_of_names (hcolumns : t.columns = idColumn :: values.names)
    (hnodup : t.columns.Nodup) : t.nextRow values = (idColumn, .int t.nextId) :: values := by
  have hnames : Record.names ((idColumn, .int t.nextId) :: values) = t.columns := hcolumns.symm
  refine Record.eq_of_get? ?_ (by rw [hnames]; exact hnodup) fun p hp => ?_
  · rw [Table.nextRow_names, eraseDups_of_nodup hnodup, hnames]
  · have hmem : p.1 ∈ t.columns := hnames ▸ List.mem_map_of_mem hp
    rw [Table.get?_nextRow, if_pos hmem]
    rw [hcolumns] at hnodup
    obtain ⟨hid, hvalues⟩ := List.nodup_cons.1 hnodup
    rcases List.mem_cons.1 hp with rfl | hp
    · rw [if_pos rfl]
    · have hne : p.1 ≠ idColumn := fun heq => hid (heq ▸ List.mem_map_of_mem hp)
      rw [if_neg hne, Record.get, Record.get?_of_mem hvalues hp]
      rfl

/-- The rows that are pushed go on with the numbers where the table is. -/
theorem Table.pushAll_of_names (rows : List Record) (hcolumns : t.columns = idColumn :: columns)
    (hnodup : t.columns.Nodup) (hrows : ∀ values ∈ rows, values.names = columns) :
    t.pushAll rows =
      { t with rows := t.rows ++ (rows.zipIdx t.nextId).map fun p => (idColumn, .int p.2) :: p.1,
               nextId := t.nextId + rows.length } := by
  -- for any table, since the rest of the rows is pushed on a table with one row more
  induction rows generalizing t with
  | nil => simp [pushAll]
  | cons values rest ih =>
    have hrow : t.nextRow values = (idColumn, .int t.nextId) :: values :=
      nextRow_of_names (by rw [hcolumns, hrows values List.mem_cons_self]) hnodup
    have hrest := ih (t := t.push values) hcolumns hnodup fun v hv =>
      hrows v (List.mem_cons_of_mem _ hv)
    have hsplit : t.pushAll (values :: rest) = (t.push values).pushAll rest := rfl
    rw [hsplit, hrest, push, hrow]
    simp only [List.append_assoc, List.singleton_append, List.zipIdx_cons, List.map_cons,
      List.length_cons, Nat.add_assoc, Nat.add_comm 1]

/-- **Rows on a new table are numbered from 1**, in their order. -/
theorem Table.pushAll_fresh (rows : List Record) (hnodup : (idColumn :: columns).Nodup)
    (hrows : ∀ values ∈ rows, values.names = columns) :
    (fresh (.text n) columns).pushAll rows = numbered n columns rows := by
  have hothers : columns.filter (fun c => c ≠ idColumn) = columns := by
    refine List.filter_eq_self.2 fun c hc => ?_
    have hne : c ≠ idColumn := by rintro rfl; exact (List.nodup_cons.1 hnodup).1 hc
    simpa using hne
  have hfresh : fresh (.text n) columns = ⟨.text n, idColumn :: columns, [], 1⟩ := by
    rw [fresh, hothers]
  rw [hfresh, pushAll_of_names rows rfl hnodup hrows, numbered]
  simp [Nat.add_comm]

namespace Store

variable {s : Store} {settings : StorageSettings} {u w : Text}

theorem create_of_mem_names (h : Value.text n ∈ s.names) :
    s.create (.text n) columns = .error (.duplicateTable (.text n)) := by
  obtain ⟨t, ht⟩ := table_of_mem_names h
  simp only [create, keyOf_text, bind, Except.bind, table_text_eq_ok_iff.1 ht]

theorem create_of_not_mem_names (columns : List Text) (h : Value.text n ∉ s.names) :
    s.create (.text n) columns =
      .ok (Table.fresh (.text n) columns, ⟨s.tables ++ [Table.fresh (.text n) columns]⟩) :=
  create_eq_ok_iff.2 ⟨find?_text_eq_none_iff.2 h, rfl⟩

theorem fresh_usersColumns :
    Table.fresh (.text n) usersColumns = Table.numbered n usersColumns [] :=
  Table.pushAll_fresh [] (by decide) nofun

theorem createLogged_of_mem_names (columns : List Text) (h : Value.text n ∈ s.names) :
    (s.createLogged (.text n) columns).result = .error (.duplicateTable (.text n)) ∧
      (s.createLogged (.text n) columns).state = s := by
  have hcreate : s.create (.text n) columns = .error (.duplicateTable (.text n)) :=
    create_of_mem_names h
  obtain ⟨g, events, hlogged, -, hfault⟩ := createLogged_of_error hcreate
  rw [hlogged, hfault (Value.showable_text n)]
  exact ⟨rfl, rfl⟩

theorem createLogged_of_not_mem_names (columns : List Text) (h : Value.text n ∉ s.names) :
    s.createLogged (.text n) columns = ⟨.ok (Table.fresh (.text n) columns),
      ⟨s.tables ++ [Table.fresh (.text n) columns]⟩,
      [.tableCreated (.text n) (Table.fresh (.text n) columns).columns]⟩ :=
  createLogged_of_ok (create_of_not_mem_names columns h) (Value.showable_text n)

/-! ## The three endings -/

/-- If the name for the users is taken, nothing is changed. -/
theorem initialise_of_users_taken (hadmin : settings.adminUsername.Showable)
    (hu : settings.usersTable = .text u) (h : Value.text u ∈ s.names) :
    (s.initialise settings).result = .error (.duplicateTable (.text u)) ∧
      (s.initialise settings).state = s := by
  obtain ⟨hresult, hstate⟩ := createLogged_of_mem_names usersColumns h
  rw [← hu] at hresult hstate
  obtain ⟨hfails, hleft⟩ := initialise_of_first_error hadmin hresult
  exact ⟨by rw [hfails, hu], hleft.trans hstate⟩

/-- If only the name for the readings is taken, by the users or before, the users' table is left
without rows. -/
theorem initialise_of_weather_taken (hadmin : settings.adminUsername.Showable)
    (hu : settings.usersTable = .text u) (hw : settings.weatherTable = .text w)
    (hfree : Value.text u ∉ s.names) (htaken : w = u ∨ Value.text w ∈ s.names) :
    (s.initialise settings).result = .error (.duplicateTable (.text w)) ∧
      (s.initialise settings).state = ⟨s.tables ++ [Table.numbered u usersColumns []]⟩ := by
  have hcreated := createLogged_of_not_mem_names usersColumns hfree
  rw [fresh_usersColumns, ← hu] at hcreated
  -- the name is looked for in the store that has the first table already
  have hmem : Value.text w ∈ names ⟨s.tables ++ [Table.numbered u usersColumns []]⟩ := by
    rcases htaken with rfl | htaken
    · simp [names, Table.numbered]
    · obtain ⟨t, ht, hname⟩ := List.mem_map.1 htaken
      exact List.mem_map.2 ⟨t, List.mem_append_left _ ht, hname⟩
  obtain ⟨hresult, hstate⟩ := createLogged_of_mem_names weatherColumns hmem
  rw [← hw] at hresult hstate
  obtain ⟨hfails, hleft⟩ := initialise_of_second_error hadmin hcreated hresult
  exact ⟨by rw [hfails, hw], hleft.trans hstate⟩

/-- If both names are free and differ, both tables are made and filled. -/
theorem initialise_of_free (hadmin : settings.adminUsername.Showable)
    (hu : settings.usersTable = .text u) (hw : settings.weatherTable = .text w) (hne : u ≠ w)
    (hfreeu : Value.text u ∉ s.names) (hfreew : Value.text w ∉ s.names) :
    (s.initialise settings).result = .ok () ∧ (s.initialise settings).state =
      ⟨s.tables ++ [Table.numbered u usersColumns [adminRow settings],
        Table.numbered w weatherColumns (initialReadings settings)]⟩ := by
  have hcreatedu := createLogged_of_not_mem_names usersColumns hfreeu
  have hfree : Value.text w ∉ names ⟨s.tables ++ [Table.fresh (.text u) usersColumns]⟩ := by
    simpa [names, Table.fresh, hne.symm] using hfreew
  have hcreatedw := createLogged_of_not_mem_names weatherColumns hfree
  have hfilledu : (Table.fresh (.text u) usersColumns).push (adminRow settings) =
      Table.numbered u usersColumns [adminRow settings] :=
    Table.pushAll_fresh [adminRow settings] (by decide) fun values hv => by
      rw [List.mem_singleton.1 hv]; rfl
  have hfilledw : (Table.fresh (.text w) weatherColumns).pushAll (initialReadings settings) =
      Table.numbered w weatherColumns (initialReadings settings) :=
    Table.pushAll_fresh _ (by decide) fun values hv => names_initialReadings hv
  have hdone := initialise_of_created hadmin (by rw [hu]; exact hcreatedu)
    (by rw [hw]; exact hcreatedw)
  rwa [hfilledu, hfilledw] at hdone

/-- **The three endings**, each with the names that lead to it. -/
theorem initialise_cases (hadmin : settings.adminUsername.Showable)
    (hu : settings.usersTable = .text u) (hw : settings.weatherTable = .text w) (s : Store) :
    (Value.text u ∈ s.names ∧
      (s.initialise settings).result = .error (.duplicateTable (.text u)) ∧
      (s.initialise settings).state = s) ∨
    (Value.text u ∉ s.names ∧ (w = u ∨ Value.text w ∈ s.names) ∧
      (s.initialise settings).result = .error (.duplicateTable (.text w)) ∧
      (s.initialise settings).state = ⟨s.tables ++ [Table.numbered u usersColumns []]⟩) ∨
    ((u ≠ w ∧ Value.text u ∉ s.names ∧ Value.text w ∉ s.names) ∧
      (s.initialise settings).result = .ok () ∧
      (s.initialise settings).state =
        ⟨s.tables ++ [Table.numbered u usersColumns [adminRow settings],
          Table.numbered w weatherColumns (initialReadings settings)]⟩) := by
  by_cases hmem : Value.text u ∈ s.names
  · exact .inl ⟨hmem, initialise_of_users_taken hadmin hu hmem⟩
  · by_cases htaken : w = u ∨ Value.text w ∈ s.names
    · exact .inr (.inl ⟨hmem, htaken, initialise_of_weather_taken hadmin hu hw hmem htaken⟩)
    · obtain ⟨hne, hfree⟩ := not_or.1 htaken
      exact .inr (.inr ⟨⟨Ne.symm hne, hmem, hfree⟩,
        initialise_of_free hadmin hu hw (Ne.symm hne) hmem hfree⟩)

/-- However it ends, there is a table of the name for the users. -/
theorem mem_names_initialise (hadmin : settings.adminUsername.Showable)
    (hu : settings.usersTable = .text u) (hw : settings.weatherTable = .text w) (s : Store) :
    Value.text u ∈ (s.initialise settings).state.names := by
  obtain ⟨hmem, -, hstate⟩ | ⟨-, -, -, hstate⟩ | ⟨-, -, hstate⟩ := initialise_cases hadmin hu hw s
  · rw [hstate]; exact hmem
  · rw [hstate]; simp [names, Table.numbered]
  · rw [hstate]; simp [names, Table.numbered]

/-- **What making the initial tables comes to**, where the administrator's name can be shown. It
succeeds exactly if the two names differ and neither is there. Then the store has two tables more,
the users' with the administrator in it and the weather's with the readings, if they are wanted.
Otherwise a name is taken, and nothing else is the matter: if it is the users', nothing is changed,
and if it is the weather's, a users' table without rows is all that is added. Made a second time,
they change nothing. Where the administrator's name cannot be shown, this is what fails, and nothing
is changed. -/
theorem initialise_outcome (settings : StorageSettings) (hu : settings.usersTable = .text u)
    (hw : settings.weatherTable = .text w) (s : Store) :
    (settings.adminUsername.Showable →
      ((s.initialise settings).result = .ok () ↔
        u ≠ w ∧ Value.text u ∉ s.names ∧ Value.text w ∉ s.names) ∧
      ((s.initialise settings).result = .ok () → (s.initialise settings).state =
        ⟨s.tables ++ [Table.numbered u usersColumns [adminRow settings],
          Table.numbered w weatherColumns (initialReadings settings)]⟩) ∧
      (∀ f, (s.initialise settings).result = .error f →
        (Value.text u ∈ s.names → f = .duplicateTable (.text u) ∧
          (s.initialise settings).state = s) ∧
        (Value.text u ∉ s.names → f = .duplicateTable (.text w) ∧
          (s.initialise settings).state = ⟨s.tables ++ [Table.numbered u usersColumns []]⟩)) ∧
      ((s.initialise settings).state.initialise settings).result =
          .error (.duplicateTable (.text u)) ∧
        ((s.initialise settings).state.initialise settings).state =
          (s.initialise settings).state) ∧
    ∀ k, settings.adminUsername.unshowable? = some k →
      s.initialise settings = ⟨.error (.external k), s, []⟩ := by
  refine ⟨fun hadmin => and_assoc.1 (and_assoc.1 ⟨?_, ?_⟩), fun k hk => initialise_of_unshowable hk s⟩
  · obtain ⟨hmem, hresult, hstate⟩ | ⟨hmem, htaken, hresult, hstate⟩ | ⟨hfree, hresult, hstate⟩ :=
      initialise_cases hadmin hu hw s
    · rw [hresult, hstate]
      refine ⟨⟨⟨nofun, fun h => absurd hmem h.2.1⟩, nofun⟩, fun f hf => ?_⟩
      cases hf
      exact ⟨fun _ => ⟨rfl, rfl⟩, fun h => absurd hmem h⟩
    · rw [hresult, hstate]
      have hnot : ¬ (u ≠ w ∧ Value.text u ∉ s.names ∧ Value.text w ∉ s.names) := by
        rintro ⟨hne, -, hfree⟩
        exact htaken.elim (Ne.symm hne) hfree
      refine ⟨⟨⟨nofun, fun h => absurd h hnot⟩, nofun⟩, fun f hf => ?_⟩
      cases hf
      exact ⟨fun h => absurd h hmem, fun _ => ⟨rfl, rfl⟩⟩
    · rw [hresult, hstate]
      exact ⟨⟨⟨fun _ => hfree, fun _ => rfl⟩, fun _ => rfl⟩, nofun⟩
  · exact initialise_of_users_taken hadmin hu (mem_names_initialise hadmin hu hw s)

/-- Settings with these names for the tables, that ask for the readings. -/
def sampleSettings (users weather : String) : StorageSettings :=
  ⟨.text users.toList, .text weather.toList, .text "no".toList, .text "admin".toList, .int 7⟩

/-- Made once, made twice, and made under one name for both. -/
theorem initialise_outcome_sample :
    (sampleSettings "people" "days").usersTable = .text "people".toList ∧
      (sampleSettings "people" "days").weatherTable = .text "days".toList ∧
      (empty.initialise (sampleSettings "people" "days")).result = .ok () ∧
      (empty.initialise (sampleSettings "people" "days")).state.rows (.text "people".toList) =
        .ok [[(idColumn, .int 1), ("username".toList, .text "admin".toList),
          ("password".toList, .int 7)]] ∧
      (empty.initialise (sampleSettings "people" "days")).state.rows (.text "days".toList) =
        .ok ((seedReadings.zipIdx 1).map fun p => (idColumn, .int p.2) :: p.1) ∧
      ((empty.initialise (sampleSettings "people" "days")).state.initialise
          (sampleSettings "people" "days")).result =
        .error (.duplicateTable (.text "people".toList)) ∧
      (sampleSettings "days" "days").usersTable = .text "days".toList ∧
      (empty.initialise (sampleSettings "days" "days")).result =
        .error (.duplicateTable (.text "days".toList)) ∧
      (empty.initialise (sampleSettings "days" "days")).state =
        ⟨[Table.numbered "days".toList usersColumns []]⟩ := by
  obtain ⟨hiff, hok, -, hagain, -⟩ :=
    (initialise_outcome (sampleSettings "people" "days") rfl rfl empty).1 rfl
  have hdone := hiff.2 ⟨by decide, by decide, by decide⟩
  have hstate := hok hdone
  obtain ⟨hiff', -, herror, -⟩ :=
    (initialise_outcome (sampleSettings "days" "days") rfl rfl empty).1 rfl
  cases hresult : (empty.initialise (sampleSettings "days" "days")).result with
  | ok a => exact absurd rfl (hiff'.1 hresult).1
  | error f =>
    obtain ⟨rfl, hleft⟩ := (herror f hresult).2 (by decide)
    refine ⟨rfl, rfl, hdone, ?_, ?_, hagain, rfl, rfl, hleft⟩
    · rw [hstate]; rfl
    · rw [hstate]; rfl

/-- Such settings with an administrator whose name cannot be shown. -/
def unshownSettings : StorageSettings :=
  { sampleSettings "people" "days" with adminUsername := .overlong }

/-- **Names that differ and are free are not enough**: an administrator's name that has one digit
too many to be shown fails before any table is there, and not for a name that is taken. -/
theorem unshown_administrator :
    ¬ ∀ (s : Store) (settings : StorageSettings) (u w : Text), s.Reachable →
      settings.usersTable = .text u → settings.weatherTable = .text w →
      ((s.initialise settings).result = .ok () ↔
        u ≠ w ∧ Value.text u ∉ s.names ∧ Value.text w ∉ s.names) := by
  intro h
  have hadmin : unshownSettings.adminUsername.unshowable? = some .unshowable :=
    Value.unshowable?_overlong
  have hfails := initialise_of_unshowable hadmin empty
  have hdone := (h empty unshownSettings _ _ ⟨[], rfl⟩ rfl rfl).2
    ⟨by decide, by decide, by decide⟩
  rw [hfails] at hdone
  cases hdone

end Store

end Almanac
