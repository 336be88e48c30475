import Almanac.Proofs.Accounting
import Almanac.Proofs.Reading
import Almanac.Proofs.SideBySide

/-!
# What the log keeps to itself

The log tells which tables are made, how many rows a statement has, and why one is refused.
It does not tell values. Whatever two stores hold in their rows, as long as their tables have the
same names and columns, making initial tables and carrying out statements looks alike from
outside. So nobody can learn from the log what was inserted, what was searched for, or the
administrator's password, except through the number of rows.

* `initialise_looksLike`: **the password is not told** when the initial tables are made.
* `insert_matches`: **nor are the values of an added row**, as adding it succeeds or fails.
* `select_matches`: asking for rows is refused alike, though not answered alike.
* `values_never_logged`: so two sessions that differ in such values only log the same.
-/

namespace Almanac

open Outcome Statement

/-! ## Results that match -/

/-- Two results that are related, or the same fault. -/
inductive Matches {α β : Type} (P : α → β → Prop) : Except Fault α → Except Fault β → Prop
  | ok {a : α} {b : β} (h : P a b) : Matches P (.ok a) (.ok b)
  | error (f : Fault) : Matches P (.error f) (.error f)

/-- Related results are carried on to related results. -/
theorem Matches.bind {α β α' β' : Type} {P : α → β → Prop} {Q : α' → β' → Prop} {x : Except Fault α}
    {y : Except Fault β} {g : α → Except Fault α'} {g' : β → Except Fault β'} (h : Matches P x y)
    (hnext : ∀ a b, P a b → Matches Q (g a) (g' b)) : Matches Q (x >>= g) (y >>= g') := by
  cases h with
  | ok h => exact hnext _ _ h
  | error f => exact .error f

theorem Matches.refl {α : Type} (x : Except Fault α) : Matches Eq x x := by
  cases x with
  | ok a => exact .ok rfl
  | error f => exact .error f

/-- Two outcomes that look alike from outside: both succeed, or fail with the same fault, and
what they log is the same. The states are related. -/
structure Outcome.LooksLike {σ α β : Type} (R : σ → σ → Prop) (o : Outcome σ α) (o' : Outcome σ β) :
    Prop where
  result : Matches (fun _ _ => True) o.result o'.result
  state : R o.state o'.state
  events : o.events = o'.events

section

variable {σ α β α' β' : Type} {R : σ → σ → Prop} {s s' : σ}

theorem Outcome.LooksLike.andThen {o : Outcome σ α} {o' : Outcome σ α'}
    {next : α → σ → Outcome σ β} {next' : α' → σ → Outcome σ β'} (h : LooksLike R o o')
    (hnext : ∀ a a' s s', R s s' → LooksLike R (next a s) (next' a' s')) :
    LooksLike R (o.andThen next) (o'.andThen next') := by
  obtain ⟨result, s, events⟩ := o
  obtain ⟨result', s', events'⟩ := o'
  obtain ⟨hresult, hstate, hevents⟩ := h
  cases hresult with
  | error f =>
    rw [andThen_of_error rfl, andThen_of_error rfl]
    exact ⟨.error f, hstate, hevents⟩
  | @ok a a' _ =>
    rw [andThen_of_ok rfl, andThen_of_ok rfl]
    have hrest := hnext a a' s s' hstate
    refine ⟨hrest.result, hrest.state, ?_⟩
    dsimp only at hevents ⊢
    rw [hevents, hrest.events]

theorem Outcome.note_looksLike (h : R s s') (event : Event) :
    LooksLike R (note event s) (note event s') := by
  unfold note
  cases Value.withShown event.shows event with
  | ok e => exact ⟨.ok trivial, h, rfl⟩
  | error f => exact ⟨.error f, h, rfl⟩

theorem Outcome.silent_looksLike (h : R s s') {r : Except Fault (α × σ)} {r' : Except Fault (β × σ)}
    (hr : Matches (fun p q => R p.2 q.2) r r') : LooksLike R (silent s r) (silent s' r') := by
  cases hr with
  | error f => exact ⟨.error f, h, rfl⟩
  | ok hstate => exact ⟨.ok trivial, hstate, rfl⟩

end

/-! ## Tables without their rows -/

/-- What there is to a table besides its rows. -/
def Table.schema (t : Table) : Value × List Text := (t.name, t.columns)

namespace Store

/-- Two stores whose tables have the same names and columns. -/
def SameSchema (s s' : Store) : Prop := s.tables.map Table.schema = s'.tables.map Table.schema

variable {s s' : Store} {key : Value.Key} {name : Value}

/-- A table is found in both stores or in neither, with the same name and columns. -/
theorem SameSchema.find? (h : s.SameSchema s') (key : Value.Key) :
    (s.find? key = none ∧ s'.find? key = none) ∨
      ∃ t t', s.find? key = some t ∧ s'.find? key = some t' ∧ t.name = t'.name ∧
        t.columns = t'.columns := by
  have hfind : ∀ u : Store, (u.find? key).map Table.schema =
      (u.tables.map Table.schema).find? fun p => p.1.key? = some key := by
    intro u
    rw [List.find?_map]
    rfl
  have hsame : (s.find? key).map Table.schema = (s'.find? key).map Table.schema := by
    rw [hfind, hfind, h]
  cases hf : s.find? key with
  | none =>
    cases hf' : s'.find? key with
    | none => exact .inl ⟨rfl, rfl⟩
    | some t' => rw [hf, hf'] at hsame; cases hsame
  | some t =>
    cases hf' : s'.find? key with
    | none => rw [hf, hf'] at hsame; cases hsame
    | some t' =>
      rw [hf, hf', Option.map_some, Option.map_some, Option.some.injEq, Table.schema, Table.schema,
        Prod.mk.injEq] at hsame
      exact .inr ⟨t, t', rfl, rfl, hsame⟩

/-- Rows that are added change neither names nor columns. -/
theorem SameSchema.modify_push (h : s.SameSchema s') (key : Value.Key) (values values' : Record) :
    (s.modify key (·.push values)).SameSchema (s'.modify key (·.push values')) := by
  have hpush : ∀ (u : Store) (given : Record),
      (u.modify key (·.push given)).tables.map Table.schema = u.tables.map Table.schema := by
    intro u given
    rw [modify, List.map_map]
    refine List.map_congr_left fun t _ => ?_
    dsimp only [Function.comp]
    split
    · rfl
    · rfl
  rw [SameSchema, hpush, hpush]
  exact h

/-- A table is created in both or refused in both, and that is logged alike. -/
theorem createLogged_looksLike (h : s.SameSchema s') (name : Value) (columns : List Text) :
    LooksLike SameSchema (s.createLogged name columns) (s'.createLogged name columns) := by
  have hcreate : Matches (fun p q => p.1 = q.1 ∧ p.2.SameSchema q.2) (s.create name columns)
      (s'.create name columns) := by
    refine (Matches.refl (keyOf name)).bind ?_
    rintro key _ rfl
    rcases h.find? key with ⟨hf, hf'⟩ | ⟨t, t', hf, hf', -, -⟩
    · rw [hf, hf']
      refine .ok ⟨rfl, ?_⟩
      change (s.tables ++ _).map Table.schema = (s'.tables ++ _).map Table.schema
      rw [List.map_append, List.map_append, h]
    · rw [hf, hf']
      exact .error _
  unfold createLogged
  revert hcreate
  generalize s.create name columns = r
  generalize s'.create name columns = r'
  rintro (@⟨⟨t, u⟩, ⟨_, u'⟩, rfl, hstate⟩ | f)
  · exact (note_looksLike hstate _).andThen fun _ _ _ _ h => ⟨.ok trivial, h, rfl⟩
  · -- only that a name is taken is logged, and it is the same name
    cases f with
    | duplicateTable taken =>
      exact (note_looksLike h _).andThen fun _ _ _ _ h => ⟨.error _, h, rfl⟩
    | _ => exact ⟨.error _, h, rfl⟩

/-- **Adding a row succeeds or fails by the names of what is given**, not by the values. -/
theorem append_matches (h : s.SameSchema s') (name : Value) {values values' : Record}
    (hnames : values.names = values'.names) :
    Matches (fun p q => p.2.SameSchema q.2) (s.append name values) (s'.append name values') := by
  refine (Matches.refl (keyOf name)).bind ?_
  rintro key _ rfl
  rcases h.find? key with ⟨hf, hf'⟩ | ⟨t, t', hf, hf', -, hcolumns⟩
  · rw [hf, hf']
    exact .error _
  · have hrefused : t'.refused? values'.names = t.refused? values.names := by
      rw [Table.refused?, Table.refused?, hnames, hcolumns]
    rw [hf, hf']
    dsimp only
    rw [hrefused]
    cases t.refused? values.names with
    | some column => exact .error _
    | none => exact .ok (h.modify_push key values values')

/-- Asking for rows ends in one of two ways where the table is there. -/
def Answered (s : Store) (r : Except Fault (List Record × Store)) : Prop :=
  (∃ rows, r = .ok (rows, s)) ∨ ∃ k, r = .error (.external k)

theorem answered_select {t : Table} {table : Text} (ht : s.find? (.text table) = some t)
    (fields : List Text) (filter : Option Filter) :
    Answered s (s.execute (.select table fields filter)) := by
  have htable := table_text_eq_ok_iff.2 ht
  cases h : unfilterable? filter t.rows with
  | none => exact .inl ⟨_, execute_select_of_filterable htable h fields⟩
  | some k => exact .inr ⟨k, execute_select_of_unfilterable htable h fields⟩

/-- **Asking for rows fails alike for want of a table**, and is not refused otherwise. -/
theorem select_matches (h : s.SameSchema s') (table : Text) (fields fields' : List Text)
    (filter filter' : Option Filter) :
    (∃ e, s.execute (.select table fields filter) = .error (.query e) ∧
        s'.execute (.select table fields' filter') = .error (.query e)) ∨
      Answered s (s.execute (.select table fields filter)) ∧
        Answered s' (s'.execute (.select table fields' filter')) := by
  rcases h.find? (.text table) with ⟨hf, hf'⟩ | ⟨t, t', hf, hf', -, -⟩
  · exact .inl ⟨_, execute_select_of_not_mem (find?_text_eq_none_iff.1 hf) fields filter,
      execute_select_of_not_mem (find?_text_eq_none_iff.1 hf') fields' filter'⟩
  · -- each fails for its own values, and neither logs that
    exact .inr ⟨answered_select hf fields filter, answered_select hf' fields' filter'⟩

/-! ## The initial tables -/

theorem appendAll_looksLike (name : Value) {rows rows' : List Record}
    (hrows : List.Forall₂ (fun r r' => r.names = r'.names) rows rows') (h : s.SameSchema s') :
    LooksLike SameSchema (appendAll name rows s) (appendAll name rows' s') := by
  induction hrows generalizing s s' with
  | nil => exact ⟨.ok trivial, h, rfl⟩
  | cons hnames _ ih =>
    exact (silent_looksLike h (append_matches h name hnames)).andThen fun _ _ _ _ h => ih h

/-- **The administrator's password is not told** when the initial tables are made. -/
theorem initialise_looksLike (h : s.SameSchema s') (settings : StorageSettings) (password : Value) :
    LooksLike SameSchema (s.initialise settings)
      (s'.initialise { settings with adminPassword := password }) := by
  have hadmin : List.Forall₂ (fun r r' => Record.names r = Record.names r') [adminRow settings]
      [adminRow { settings with adminPassword := password }] := .cons rfl .nil
  unfold initialise
  refine (note_looksLike h _).andThen fun _ _ s s' h => ?_
  refine (createLogged_looksLike h _ _).andThen fun _ _ s s' h => ?_
  refine (createLogged_looksLike h _ _).andThen fun _ _ s s' h => ?_
  refine (appendAll_looksLike _ hadmin h).andThen fun _ _ s s' h => ?_
  refine (appendAll_looksLike _ (List.forall₂_same.2 fun _ _ => rfl) h).andThen fun _ _ s s' h => ?_
  exact note_looksLike h _

end Store

/-! ## Statements -/

/-- Two statements that are alike but for their values: both ask for rows of the same table, or
both add a row to it under the same columns. -/
inductive Statement.SameBesidesValues : Statement → Statement → Prop
  | select {table : Text} {fields fields' : List Text} {filter filter' : Option Filter} :
    SameBesidesValues (.select table fields filter) (.select table fields' filter')
  | insert {table : Text} {columns : List Text} {values values' : List Value} :
    SameBesidesValues (.insert table columns values) (.insert table columns values')

/-- What adds a row, once read, has distinct columns and as many values. -/
theorem Statement.readValue_insert {mode : Mode} {statement : Value} {table : Text}
    {columns : List Text} {values : List Value}
    (h : readValue mode statement = .ok (.insert table columns values)) :
    columns.Nodup ∧ columns.length = values.length := by
  obtain ⟨text, -, htext⟩ := readValue_eq_ok h
  rcases read_eq_ok htext with ⟨-, _, _, _, hst⟩ | ⟨hinsert, -⟩
  · cases hst
  · rw [read_of_insert hinsert] at htext
    obtain ⟨_, _, literals, _, hparts, hvalues, hst⟩ := readInsert_eq_ok htext
    cases hst
    obtain ⟨-, -, -, -, -, -, -, hnodup, hlen⟩ := hparts
    exact ⟨hnodup, hlen.trans (length_readValues hvalues).symm⟩

/-- **Adding a row that was read succeeds or fails whatever its values are**, and whatever is in
the rows of the store. -/
theorem Store.insert_matches {s s' : Store} (h : s.SameSchema s') {mode : Mode} {a a' : Value}
    {table : Text} {columns : List Text} {values values' : List Value}
    (hread : readValue mode a = .ok (.insert table columns values))
    (hread' : readValue mode a' = .ok (.insert table columns values')) :
    Matches (fun p q => p.1.length = q.1.length ∧ p.2.SameSchema q.2)
      (s.execute (.insert table columns values)) (s'.execute (.insert table columns values')) := by
  obtain ⟨hnodup, hlen⟩ := readValue_insert hread
  obtain ⟨-, hlen'⟩ := readValue_insert hread'
  obtain ⟨hpairs, hnames⟩ := insertValues_of_nodup hlen hnodup
  obtain ⟨hpairs', hnames'⟩ := insertValues_of_nodup hlen' hnodup
  have happend : Matches (fun p q => p.2.SameSchema q.2)
      (s.append (.text table) (insertValues columns values))
      (s'.append (.text table) (insertValues columns values')) := by
    refine append_matches h _ ?_
    rw [hpairs, hpairs', hnames, hnames']
  exact happend.bind fun _ _ hstate => .ok ⟨rfl, hstate⟩

/-! ## Configurations and databases -/

/-- Two configurations that agree on every setting but the administrator's password. -/
def Config.SameButPassword (c c' : Config) : Prop :=
  ∀ sec name, ¬ (sec = .storage ∧ name = "admin_password".toList) →
    (c.get sec).get? name = (c'.get sec).get? name

/-- They name the same mode, and differ for the initial tables in the password at most. -/
theorem Config.SameButPassword.settings {c c' : Config} (h : c.SameButPassword c') :
    c.mode = c'.mode ∧ storageSettings c'.storage =
      { storageSettings c.storage with adminPassword := (storageSettings c'.storage).adminPassword } := by
  have hsetting : ∀ sec name, ¬ (sec = .storage ∧ name = "admin_password".toList) →
      setting (c.get sec) sec name = setting (c'.get sec) sec name := by
    intro sec name hother
    rw [setting, setting, h sec name hother]
  have hstorage : ∀ name, name ≠ "admin_password".toList →
      setting c'.storage .storage name = setting c.storage .storage name :=
    fun name hname => (hsetting .storage name fun hboth => hname hboth.2).symm
  have hmode : c.mode = c'.mode := hsetting .query modeKey fun hboth => nomatch hboth.1
  refine ⟨hmode, ?_⟩
  simp only [storageSettings, StorageSettings.mk.injEq, and_true]
  exact ⟨hstorage _ (by decide), hstorage _ (by decide), hstorage _ (by decide),
    hstorage _ (by decide)⟩

namespace Database

/-- Two databases that differ at most in the rows of their tables, in the password for the
initial ones and in what they have counted. -/
structure SameBesidesValues (db db' : Database) : Prop where
  config : db.config.SameButPassword db'.config
  mode : db.mode = db'.mode
  store : db.store.SameSchema db'.store

variable {db db' : Database} {c c' : Config} {mode : Mode} {a a' : Value}

theorem onStore_looksLike {α β : Type} {o : Outcome Store α} {o' : Outcome Store β}
    (h : SameBesidesValues db db') (ho : LooksLike Store.SameSchema o o') :
    LooksLike SameBesidesValues (db.onStore o) (db'.onStore o') :=
  ⟨ho.result, ⟨h.config, h.mode, ho.state⟩, ho.events⟩

/-- **Opening a database does not tell its password.** -/
theorem opened_looksLike (h : c.SameButPassword c') :
    LooksLike SameBesidesValues (opened c) (opened c') := by
  have hmode : c.mode = c'.mode := h.settings.1
  have hparts : SameBesidesValues (prepared c) (prepared c') :=
    ⟨h, congrArg Config.modeOf hmode, rfl⟩
  have hready : LooksLike Store.SameSchema (Store.ready c.mode) (Store.ready c'.mode) := by
    rw [hmode]
    unfold Store.ready
    have hempty : Store.empty.SameSchema Store.empty := rfl
    refine (note_looksLike hempty _).andThen fun _ _ s s' h => ?_
    refine (note_looksLike h _).andThen fun _ _ s s' h => ?_
    exact (note_looksLike h _).andThen fun _ _ s s' h => ⟨.ok trivial, h, rfl⟩
  unfold opened
  refine (onStore_looksLike hparts hready).andThen fun _ _ db db' hdb => ?_
  refine (note_looksLike hdb _).andThen fun _ _ db db' hdb => ?_
  refine LooksLike.andThen ?_ fun _ _ db db' hdb => note_looksLike hdb _
  unfold initialise
  rw [hdb.config.settings.2]
  exact onStore_looksLike hdb (Store.initialise_looksLike hdb.store _ _)

/-! ## Sessions -/

/-- Two statements that are read as ones that are alike but for their values. -/
def ReadAlike (mode : Mode) (a a' : Value) : Prop :=
  ∃ st st', readValue mode a = .ok st ∧ readValue mode a' = .ok st' ∧ st.SameBesidesValues st'

/-- A session of statements that began with the opening of a database, each with what came of
it. -/
def told (c : Config) (statements : List Value) :
    List (DatabaseStep × Outcome Database DatabaseAnswer) :=
  session c (statements.map fun a => .shared (.execute a))

/-- The number of rows that were answered, if the statement asked for rows. -/
def selected? (mode : Mode) (p : DatabaseStep × Outcome Database DatabaseAnswer) : Option Nat :=
  match p.1 with
  | .shared (.execute a) =>
    match readValue mode a with
    | .ok (.select ..) => (answer? p).map List.length
    | _ => none
  | _ => none

theorem selected?_of_select {table : Text} {fields : List Text} {filter : Option Filter}
    (h : readValue mode a = .ok (.select table fields filter)) (o : Outcome Database (List Record)) :
    selected? mode (.shared (.execute a), o.map fun rows => .shared (.rows rows)) =
      o.result.toOption.map List.length := by
  simp only [selected?, h, answer?, Outcome.map]
  cases o.result <;> rfl

/-- Statements that come to the same leave databases alike and are logged the same. -/
theorem execute_looksLike (h : SameBesidesValues db db')
    (hquery : Matches (fun p q => p.1.length = q.1.length ∧ p.2.SameSchema q.2)
      (db.store.query db.mode a) (db'.store.query db'.mode a')) :
    LooksLike SameBesidesValues (db.execute a) (db'.execute a') := by
  unfold execute
  revert hquery
  generalize db.store.query db.mode a = r
  generalize db'.store.query db'.mode a' = r'
  rintro (@⟨⟨rows, s⟩, ⟨rows', s'⟩, hlength, hstate⟩ | f)
  · exact ⟨.ok trivial, ⟨h.config, h.mode, hstate⟩, by dsimp only at hlength ⊢; rw [hlength]⟩
  · cases f with
    | query e => exact ⟨.error _, h, rfl⟩
    | _ => exact ⟨.error _, h, rfl⟩

/-- What is asked of a table that is there is logged by the number of rows, if it is answered, and
leaves all but the count as it is. -/
theorem execute_of_answered {r : Except Fault (List Record × Store)}
    (hquery : db.store.query db.mode a = r) (hr : db.store.Answered r) :
    (db.execute a).events = (((db.execute a).result.toOption.map List.length).map
        Event.statementDone).toList ∧
      ∃ executed, (db.execute a).state = { db with executed := executed } := by
  rcases hr with ⟨rows, rfl⟩ | ⟨k, rfl⟩
  · rw [execute_of_ok_query hquery]
    exact ⟨rfl, _, rfl⟩
  · rw [execute_of_external hquery fun e he => by cases he]
    exact ⟨rfl, _, rfl⟩

/-- **A statement is logged the same whatever its values are**, except for the number of rows
that it is answered with. -/
theorem step_looksLike (h : SameBesidesValues db db') (hread : ReadAlike db.mode a a') :
    (selected? db.mode (.shared (.execute a), db.step (.shared (.execute a))) =
        selected? db.mode (.shared (.execute a'), db'.step (.shared (.execute a'))) →
      (db.step (.shared (.execute a))).lines = (db'.step (.shared (.execute a'))).lines) ∧
      SameBesidesValues (db.step (.shared (.execute a))).state
        (db'.step (.shared (.execute a'))).state := by
  obtain ⟨st, st', hst, hst', hsame⟩ := hread
  have hst'' : readValue db'.mode a' = .ok st' := by rw [← h.mode]; exact hst'
  have hquery : db.store.query db.mode a = db.store.execute st := Store.query_of_read hst
  have hquery' : db'.store.query db'.mode a' = db'.store.execute st' := Store.query_of_read hst''
  rw [step_execute, step_execute]
  cases hsame with
  | insert =>
    have hinsert := Store.insert_matches h.store hst hst'
    rw [← hquery, ← hquery'] at hinsert
    have hlike := execute_looksLike h hinsert
    exact ⟨fun _ => congrArg (List.map Event.line) hlike.events, hlike.state⟩
  | @select table fields fields' filter filter' =>
    rcases Store.select_matches h.store table fields fields' filter filter' with
      ⟨e, hrefused, hrefused'⟩ | ⟨hanswered, hanswered'⟩
    · rw [execute_of_query_error (hquery.trans hrefused),
        execute_of_query_error (hquery'.trans hrefused')]
      exact ⟨fun _ => rfl, h⟩
    · obtain ⟨hevents, _, hstate⟩ := execute_of_answered hquery hanswered
      obtain ⟨hevents', _, hstate'⟩ := execute_of_answered hquery' hanswered'
      refine ⟨fun hcount => ?_, ?_⟩
      · rw [selected?_of_select hst, selected?_of_select hst'] at hcount
        simp only [Outcome.lines, Outcome.map]
        rw [hevents, hevents', hcount]
      · simp only [Outcome.map]
        rw [hstate, hstate']
        exact ⟨h.config, h.mode, h.store⟩

/-- **Values never reach the log.** Take two databases that are configured alike but for the
administrator's password, and two sessions of statements that are read, one by one, as statements
of the same kind about the same table, with the same columns if they add a row; the values, the
wanted fields and the filters may differ. If what asks for rows is answered with equally many rows
in both, then the same lines are logged, at the opening and for every statement. -/
theorem values_never_logged (c c' : Config) (statements statements' : List Value)
    (hconfig : c.SameButPassword c')
    (hread : List.Forall₂ (ReadAlike (Config.modeOf c.mode)) statements statements')
    (hcount : (told c statements).map (selected? (Config.modeOf c.mode)) =
      (told c' statements').map (selected? (Config.modeOf c.mode))) :
    (opened c).lines = (opened c').lines ∧
      (told c statements).map (fun p => p.2.lines) =
        (told c' statements').map (fun p => p.2.lines) := by
  have hopened := opened_looksLike hconfig
  refine ⟨congrArg (List.map Event.line) hopened.events, ?_⟩
  have hmode : (opened c).state.mode = Config.modeOf c.mode := by
    obtain ⟨store, hstate⟩ := opened_state c
    rw [hstate]; rfl
  -- both sessions run beside each other, alike in all but values
  have hlines : List.Forall₂ (fun p p' =>
      selected? (Config.modeOf c.mode) p = selected? (Config.modeOf c.mode) p' →
        p.2.lines = p'.2.lines) (told c statements) (told c' statements') := by
    refine history_forall₂ (P := fun st st' => ∃ a a', st = .shared (.execute a) ∧
      st' = .shared (.execute a') ∧ ReadAlike (Config.modeOf c.mode) a a')
      (R := fun db db' => db.mode = Config.modeOf c.mode ∧ SameBesidesValues db db') ?_ ?_
      ⟨hmode, hopened.state⟩
    · rintro db db' _ _ ⟨hdb, hsame⟩ ⟨a, a', rfl, rfl, hread⟩
      rw [← hdb] at hread ⊢
      obtain ⟨hlines, hstate⟩ := step_looksLike hsame hread
      exact ⟨hlines, step_mode db _, hstate⟩
    · rw [List.forall₂_map_left_iff, List.forall₂_map_right_iff]
      exact hread.imp fun a a' h => ⟨a, a', rfl, rfl, h⟩
  have hcounts : List.Forall₂ (fun p p' =>
      selected? (Config.modeOf c.mode) p = selected? (Config.modeOf c.mode) p')
      (told c statements) (told c' statements') := by
    have h := List.forall₂_eq_eq_eq ▸ hcount
    rwa [List.forall₂_map_left_iff, List.forall₂_map_right_iff] at h
  have hsame := hlines.mp (fun _ _ h h' => h h') hcounts
  rw [← List.forall₂_eq_eq_eq, List.forall₂_map_left_iff, List.forall₂_map_right_iff]
  exact hsame

/-- The usual configuration with another password. -/
def sampleOther : Config := Config.default.set .storage "admin_password".toList (.text "x".toList)

/-- A row is added, the administrator is searched for, and two statements are refused: one for a
column that there is not, and one for a table that there is not. -/
def sampleOneSide : List Value :=
  [.text "INSERT INTO users (username, password) VALUES ('eve', 'abc')".toList,
   .text "SELECT password FROM users WHERE username = 'admin'".toList,
   .text "INSERT INTO users (rank) VALUES (7)".toList, .text "SELECT * FROM notes".toList]

/-- The same is done with other values, and by the password. -/
def sampleOtherSide : List Value :=
  [.text "INSERT INTO users (username, password) VALUES (12, NULL)".toList,
   .text "SELECT * FROM users WHERE password = 'x'".toList,
   .text "INSERT INTO users (rank) VALUES ('first')".toList,
   .text "SELECT mark FROM notes WHERE mark = 5".toList]

/-- Nobody can tell from the log which of the two it was. -/
theorem values_never_logged_sample :
    Config.default.SameButPassword sampleOther ∧
      List.Forall₂ (ReadAlike .naive) sampleOneSide sampleOtherSide ∧
      (told Config.default sampleOneSide).map (selected? .naive) = [none, some 1, none, none] ∧
      (told sampleOther sampleOtherSide).map (selected? .naive) = [none, some 1, none, none] ∧
      (opened Config.default).lines = (opened sampleOther).lines ∧
      (told Config.default sampleOneSide).map (fun p => p.2.lines) =
        (told sampleOther sampleOtherSide).map (fun p => p.2.lines) := by
  have hconfig : Config.default.SameButPassword sampleOther := by
    intro sec name hother
    cases sec with
    | query => rfl
    | logging => rfl
    | storage =>
      have hname : name ≠ "admin_password".toList := fun h => hother ⟨rfl, h⟩
      exact (Record.get?_put.trans (if_neg hname)).symm
  have hread : List.Forall₂ (ReadAlike .naive) sampleOneSide sampleOtherSide :=
    .cons ⟨_, _, rfl, rfl, .insert⟩ <| .cons ⟨_, _, rfl, rfl, .select⟩ <|
      .cons ⟨_, _, rfl, rfl, .insert⟩ <| .cons ⟨_, _, rfl, rfl, .select⟩ .nil
  have hcount : (told Config.default sampleOneSide).map (selected? .naive) =
      [none, some 1, none, none] := by decide +kernel
  have hcount' : (told sampleOther sampleOtherSide).map (selected? .naive) =
      [none, some 1, none, none] := by decide +kernel
  obtain ⟨hopened, hlines⟩ := values_never_logged Config.default sampleOther sampleOneSide
    sampleOtherSide hconfig hread (hcount.trans hcount'.symm)
  exact ⟨hconfig, hread, hcount, hcount', hopened, hlines⟩

end Database

end Almanac
